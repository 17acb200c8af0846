import Stencil.Template.Filter
import Stencil.Template.Gather

/-!
# Evaluation

`eval` gives the value of an expression and `exec` what a statement prints, with the names that are
set behind it. Both go down the tree of the template; only a call of one of its routines goes on to
another tree, and the number of calls inside one another is bounded (`machine`). A stream and a loop
with a condition go on when they are asked to (`answer`), which may happen anywhere in a part of the
template that has them at hand; requests inside one another are bounded as well (`resumeAt`).

A name stands for what was set last: in the blocks around, then at the top level, then what the
template is given, then the helpers and what every template has (`Scope.value`). A loop, a block of
text and a routine set names of their own, which are gone behind them; the branches of a condition
set those of the block around. A routine sees the names of the block in which it is defined, as they
are set when it is called, and those of the top level.
-/

namespace Stencil.Template

/-! ## Names -/

/-- What an evaluation has at hand besides the names that are set. -/
structure Machine where
  helpers : List Helper
  /-- The names that the template is given. -/
  given : Bindings
  /-- Calls a routine, with the names set at the top level. -/
  invoke : Bindings → Value → Args → Eval Value

/-- What every template has by a name. -/
def builtin? (name : Text) : Option Value :=
  if name = "range" then some (.builtin .range)
  else if name = "dict" then some (.builtin .dict)
  else none

/-- The value of a name that is not set. -/
def Machine.value (m : Machine) (name : Text) : Value :=
  ((m.given.lookup name).or
    (((m.helpers.find? fun h => helperName h = name).map .helper).or (builtin? name))).getD
      (.unset name)

namespace Scope

/-- The value of a name. -/
def value (m : Machine) (s : Scope) (name : Text) : Value :=
  (((s.own.getD []).lookup name).or (s.top.lookup name)).getD (m.value name)

/-- The scope with names set. The routines of the block see them as well. -/
def set (names : Bindings) (s : Scope) : Eval Scope := do
  match s.own, s.shared with
  | none, _ => return { s with top := names ++ s.top }
  | some own, none => return { s with own := some (names ++ own) }
  | some own, some p => do
    write p (.names (names ++ own))
    return { s with own := some (names ++ own) }

/-- The place of the names of the innermost block, for a routine in it, and the scope in which they
are there. -/
def share (s : Scope) : Eval (Option Place × Scope) := do
  match s.own, s.shared with
  | none, _ => return (none, s)
  | some _, some p => return (some p, s)
  | some own, none => do
    let p ← allocate (.names own)
    return (some p, { s with shared := some p })

/-- The scope of a block with names of its own, which begins with some. -/
def enter (names : Bindings) (s : Scope) : Scope :=
  { s with own := some (names ++ s.own.getD []), shared := none }

end Scope

/-! ## Assignments -/

mutual

/-- The names that a value gives to a target, the latest first. A tuple takes as many values as it
has parts. -/
def bind : Target → Value → Eval Bindings
  | .name n, v => return [(n, v)]
  | .tuple parts, v => do
    let vs ← (← Source.of v).take (parts.length + 1)
    if vs.length = parts.length then bindAll parts vs else crash .badValue

/-- The names that values give to targets, the latest first. -/
def bindAll : List Target → List Value → Eval Bindings
  | [], [] => return []
  | t :: ts, v :: vs => do
    let first ← bind t v
    return (← bindAll ts vs) ++ first
  | _, _ => crash .badValue

end

/-! ## Calls -/

/-- The names that a description gives to a template. -/
def contextOf (fields : Bindings) : Eval Bindings := do
  let field (name : Text) : Value := (Bindings.find? fields name).getD .none
  let methods ← shapeList .interfaceShape "methods" fields
  let own ← shapeList .structShape "fields" fields
  return [("description", .record .description fields), ("name", field "name"),
    ("package", field "package"), ("imports", field "imports"),
    ("is_interface", .bool (isShaped .interfaceShape fields)),
    ("is_struct", .bool (isShaped .structShape fields)), ("methods", methods), ("fields", own)]

/-- Calls a method of a value. -/
def callMethod (self : Value) (m : Method) (a : Args) : Eval Value := do
  match m, self with
  | .text m, .text s => callText m s a
  | .list m, .list p => callList m p a
  | .dict m, .dict p => callDict m p a
  | .context, .record _ fields =>
    noArguments a
    newDict ((← contextOf fields).map fun (n, v) => (.text n, v))
  | .cycle, .loop p =>
    let l ← loopAt p
    if a.named.isEmpty then require (a.positional[(l.index - 1) % a.positional.length]?)
    else crash .wrongType
  | .changed, .loop p =>
    if a.named.isEmpty then do
      let same ← (match (← loopAt p).noted with
        | some vs => equal (.tuple vs) (.tuple a.positional)
        | none => return false : Eval Bool)
      changeLoop p fun l => { l with noted := some a.positional }
      return .bool !same
    else crash .wrongType
  | .count, .tuple items => countIn items a
  | .index, .tuple items => indexIn items a
  | .count, .range start stop step => countInRange start stop step a
  | .index, .range start stop step => indexInRange start stop step a
  | _, _ => crash .wrongType

/-- Calls a value. -/
def call (m : Machine) (s : Scope) (f : Value) (a : Args) : Eval Value := do
  match f with
  | .method self meth => callMethod self meth a
  | .helper h => callHelper h a
  | .builtin .range => newRange a
  | .builtin .dict => newTable a
  | .routine _ _ _ _ => m.invoke s.top f a
  | .absent _ missing key => refuse missing key
  | _ => crash .wrongType

/-- Further arguments by name, from a table; a name comes once. -/
def addNamed (named : Bindings) : List (Value × Value) → Eval Bindings
  | [] => return named
  | (.text n, v) :: rest =>
    if (named.lookup n).isSome then crash .wrongType else addNamed (named ++ [(n, v)]) rest
  | _ :: _ => crash .wrongType

/-- Arguments by name with those of a further table. -/
def spread (named : Bindings) (others : Value) : Eval Bindings := do
  match others with
  | .dict p => addNamed named (← entriesAt p)
  | .absent _ missing key => refuse missing key
  | _ => crash .wrongType

/-- The arguments of a call: those by position, with the items of a further list, and behind them
those by name, with a further table. -/
def argumentsOf (args more : Eval (List Value)) (named : Eval Bindings)
    (others : Bindings → Eval Bindings) : Eval Args := do
  let first ← args
  let rest ← more
  let named ← named
  return ⟨first ++ rest, ← others named⟩

/-! ## Expressions -/

/-- The texts of values, one behind the other. -/
def shownAll (vs : List Value) : Eval Text := do
  return (← vs.mapM shown).flatten

/-- A new table of entries. -/
def tableOf (entries : List (Value × Value)) : Eval Value := do
  let p ← allocate (.dict [])
  entries.forM fun e => setEntry p e.1 e.2
  return .dict p

/-- What a choice without a second expression gives when its condition does not hold. -/
def notChosen (line : Nat) : Value :=
  .absent true ("the inline if-expression on line " ++ Text.ofNat line
    ++ " evaluated to false and no else section was defined.") none

mutual

/-- The value of an expression. -/
def eval (m : Machine) (s : Scope) : Expr → Eval Value
  | .none => return .none
  | .bool b => return .bool b
  | .int n => return .int n
  | .float d => return .float d.toFloat
  | .text t => return .text t
  | .name n => return s.value m n
  | .tuple items => return .tuple (← evalAll m s items)
  | .list items => do newList (← evalAll m s items)
  | .dict entries => do tableOf (← evalEntries m s entries)
  | .attr e name => do member (← eval m s e) name
  | .item e key => do
    let v ← eval m s e
    subscript v (← eval m s key)
  | .slice e start stop step => do
    let v ← eval m s e
    let start ← evalOption m s start
    let stop ← evalOption m s stop
    let step ← evalOption m s step
    slice v (start.getD .none) (stop.getD .none) (step.getD .none)
  | .call f args named more others => do
    let f ← eval m s f
    let a ← argumentsOf (evalAll m s args) (evalMore m s more) (evalNamed m s named)
      (evalOthers m s others)
    call m s f a
  | .filter e name args named more others => do
    let v ← eval m s e
    let a ← argumentsOf (evalAll m s args) (evalMore m s more) (evalNamed m s named)
      (evalOthers m s others)
    match Filter.named? m.helpers name with
    | some f => f.apply v a
    | none => fault (.unknownUsed "filter" name)
  | .test e name args named more others => do
    let v ← eval m s e
    let a ← argumentsOf (evalAll m s args) (evalMore m s more) (evalNamed m s named)
      (evalOthers m s others)
    match Test.named? name with
    | some t => return .bool (← t.run (fun n => (Filter.named? m.helpers n).isSome) v a)
    | none => fault (.unknownUsed "test" name)
  | .neg e => do negated (← eval m s e)
  | .pos e => do plus (← eval m s e)
  | .not e => do return .bool !(← truth (← eval m s e))
  | .and l r => do
    let v ← eval m s l
    if ← truth v then eval m s r else return v
  | .or l r => do
    let v ← eval m s l
    if ← truth v then return v else eval m s r
  | .binary op l r => do
    let v ← eval m s l
    binary op v (← eval m s r)
  | .concat items => do return .text (← shownAll (← evalAll m s items))
  | .compare e ops => do return .bool (← evalChain m s (← eval m s e) ops)
  | .choice condition yes no line => do
    if ← truth (← eval m s condition) then eval m s yes
    else return (← evalOption m s no).getD (notChosen line)
  | .collected => return .text s.collected

/-- The values of expressions. -/
def evalAll (m : Machine) (s : Scope) : List Expr → Eval (List Value)
  | [] => return []
  | e :: rest => do
    let v ← eval m s e
    return v :: (← evalAll m s rest)

/-- The value of an expression that may be left out. -/
def evalOption (m : Machine) (s : Scope) : Option Expr → Eval (Option Value)
  | none => return none
  | some e => return some (← eval m s e)

/-- The items of a list of further arguments. -/
def evalMore (m : Machine) (s : Scope) : Option Expr → Eval (List Value)
  | none => return []
  | some e => do iterate (← eval m s e)

/-- Arguments by name with those of a table of further ones. -/
def evalOthers (m : Machine) (s : Scope) (others : Option Expr) (named : Bindings) :
    Eval Bindings :=
  match others with
  | none => return named
  | some e => do spread named (← eval m s e)

/-- The values of named expressions. -/
def evalNamed (m : Machine) (s : Scope) : List (Text × Expr) → Eval Bindings
  | [] => return []
  | (n, e) :: rest => do
    let v ← eval m s e
    return (n, v) :: (← evalNamed m s rest)

/-- The values of the entries of a table. -/
def evalEntries (m : Machine) (s : Scope) : List (Expr × Expr) → Eval (List (Value × Value))
  | [] => return []
  | (k, e) :: rest => do
    let key ← eval m s k
    let v ← eval m s e
    return (key, v) :: (← evalEntries m s rest)

/-- Whether every comparison of a chain holds; the ones behind the first that does not are not
made. -/
def evalChain (m : Machine) (s : Scope) (v : Value) : List (Comparison × Expr) → Eval Bool
  | [] => return true
  | (op, e) :: rest => do
    let w ← eval m s e
    if ← Test.compareBy op v w then evalChain m s w rest else return false

end

section

variable (m : Machine) (s : Scope)

@[simp] theorem eval_text (t : Text) : eval m s (.text t) = pure (.text t) := by
  rw [eval]

@[simp] theorem evalAll_nil : evalAll m s [] = pure [] := by
  rw [evalAll]

@[simp] theorem evalMore_none : evalMore m s none = pure [] := by
  rw [evalMore]

@[simp] theorem evalOthers_none (named : Bindings) :
    evalOthers m s none named = pure named := by
  rw [evalOthers]

@[simp] theorem evalNamed_nil : evalNamed m s [] = pure [] := by
  rw [evalNamed]

@[simp] theorem evalChain_nil (v : Value) : evalChain m s v [] = pure true := by
  rw [evalChain]

end

/-! ## Loops -/

mutual

/-- The value that a target stands for when its names are set. -/
def targetValue (names : Bindings) : Target → Value
  | .name n => (names.lookup n).getD .none
  | .tuple parts => .tuple (targetValues names parts)

/-- The values that targets stand for. -/
def targetValues (names : Bindings) : List Target → List Value
  | [] => []
  | t :: rest => targetValue names t :: targetValues names rest

end

namespace Gate

/-- The value that a loop takes in place of one that it goes through, if the condition holds. -/
def admitted (m : Machine) (g : Gate) (v : Value) : Eval (Option Value) := do
  let names ← bind g.target v
  if ← truth (← eval m (g.around.enter names) g.test) then return some (targetValue names g.target)
  else return none

/-- The first of the values to come that the loop at a place takes. -/
def next (m : Machine) (g : Gate) (p : Place) : Nat → Eval (Option Value)
  | 0 => crash .noRoom
  | fuel + 1 => do
    match ← Loop.take p with
    | none => return none
    | some v =>
      match ← g.admitted m v with
      | some w => return some w
      | none => next m g p fuel

end Gate

/-- The next value for which the loop at a place has a round. -/
def takeNext (m : Machine) (p : Place) : Eval (Option Value) := do
  let l ← loopAt p
  match l.gate with
  | none => Loop.take p
  | some g =>
    if l.busy then crash .badValue
    else
      changeLoop p fun l => { l with busy := true }
      let next ← g.next m p (← l.source.steps)
      changeLoop p fun l => { l with busy := false }
      return next

/-- What a request gives. A loop whose condition fails has no more rounds. -/
def answer (m : Machine) : Request → Eval (Option Value)
  | .item p => nextItem m.helpers p
  | .round p => Loop.advance (takeNext m p) p
  | .value p => do
    match ← attempt (takeNext m p) with
    | .ok next => return next
    | .error stop =>
      changeLoop p fun l => { l with source := .done, busy := false }
      throw stop

/-- A loop that has not begun. -/
def Loop.start (items : Value) (source : Source) (gate : Option Gate) : Loop :=
  { items, source, gate, busy := false, index := 0, before := none, current := none, after := none,
    total := none, noted := none }

/-! ## Statements -/

/-- What statements print: a text, or nothing when a filter has made something else of a block. That
is found when the parts are put together. -/
abbrev Printed := Option Text

namespace Printed

/-- What is printed by one part after the other. -/
def all (parts : List Printed) : Printed := (parts.mapM id).map List.flatten

/-- The text of what is printed. -/
def text (t : Printed) : Eval Text := require t

/-- What a filter has made of a block. -/
def of : Value → Printed
  | .text t => some t
  | _ => none

end Printed

mutual

/-- What a statement prints, and the names that are set behind it. -/
def exec (m : Machine) : Node → Scope → Eval (Printed × Scope)
  | .data t, s => return (some t, s)
  | .print e, s => do return (some (← shown (← eval m s e)), s)
  | .forLoop target items test body otherwise, s => do
    let v ← eval m s items
    let source ← Source.of v
    let p ← allocate (.loop (.start v source (test.map (⟨target, ·, s⟩))))
    let parts ← Loop.each (Loop.advance (takeNext m p) p) (fun v => do
      let names ← bind target v
      let (t, _) ← execAll m body (s.enter (names ++ [(("loop" : Text), .loop p)]))
      return t) (← source.steps)
    if parts.isEmpty then
      let (t, _) ← execAll m otherwise (s.enter [])
      return (t, s)
    else return (.all parts, s)
  | .branch condition yes no, s => do
    if ← truth (← eval m s condition) then execAll m yes s else execAll m no s
  | .assign target e, s => do
    let v ← eval m s e
    let names ← bind target v
    return (some [], ← s.set names)
  | .capture target filter body, s => do
    let (t, inner) ← execAll m body (s.enter [])
    let v ← eval m { inner with collected := ← t.text } filter
    let names ← bind target v
    return (some [], ← s.set names)
  | .define name params body, s => do
    let (around, s) ← s.share
    return (some [], ← s.set [(name, .routine name params body around)])
  | .scope bindings body, s => do
    let names ← bindings.mapM fun (target, e) => do bind target (← eval m s e)
    let (t, _) ← execAll m body (s.enter names.reverse.flatten)
    return (t, s)
  | .filtered filter body, s => do
    let (t, inner) ← execAll m body (s.enter [])
    return (.of (← eval m { inner with collected := ← t.text } filter), s)
  | .forget names, s => do return (some [], ← s.set (names.map fun n => (n, .unset n)))

/-- What statements print, and the names that are set behind them. -/
def execAll (m : Machine) : List Node → Scope → Eval (Printed × Scope)
  | [], s => return (some [], s)
  | n :: rest, s => do
    let (t, s) ← exec m n s
    let (more, s) ← execAll m rest s
    return (.all [t, more], s)

end

@[simp] theorem exec_data (m : Machine) (t : Text) (s : Scope) :
    exec m (.data t) s = pure (some t, s) := by
  rw [exec]

@[simp] theorem execAll_nil (m : Machine) (s : Scope) : execAll m [] s = pure (some [], s) := by
  rw [execAll]

/-- What one round of the loop at a place prints. -/
def round (m : Machine) (s : Scope) (target : Target) (body : List Node) (p : Place)
    (v : Value) : Eval Printed := do
  let names ← bind target v
  let (t, _) ← execAll m body (s.enter (names ++ [(("loop" : Text), .loop p)]))
  return t

theorem exec_forLoop (m : Machine) (target : Target) (items : Expr) (test : Option Expr)
    (body otherwise : List Node) (s : Scope) :
    exec m (.forLoop target items test body otherwise) s = (do
      let v ← eval m s items
      let source ← Source.of v
      let p ← allocate (.loop (.start v source (test.map (⟨target, ·, s⟩))))
      let parts ← Loop.each (Loop.advance (takeNext m p) p) (round m s target body p)
        (← source.steps)
      if parts.isEmpty then
        let (t, _) ← execAll m otherwise (s.enter [])
        return (t, s)
      else return (.all parts, s)) := by
  rw [exec]
  rfl

/-! ## Routines -/

/-- What a routine reads as its caller, if it has no argument for that, and the arguments by name
that are left over; `later` are the parameters without an argument by position. -/
def callerGiven (params later : List Text) (body : List Node) (named : Bindings) :
    Eval (Bindings × Bindings) :=
  let given := (if later.isEmpty then params else later).contains "caller".toList
  if !Node.takes body "caller" || given then return ([], named)
  -- the parameter of that name would have two values
  else if params.contains "caller".toList then crash .wrongType
  else
    let v := match named.lookup "caller".toList with
      | none | some .none => .absent false "No caller defined" none
      | some v => v
    return ([("caller", v)], named.filter fun p => p.1 ≠ "caller".toList)

/-- The arguments that are left over, under a name that the routine reads. Without that there must
be none. -/
def spareGiven (params : List Text) (body : List Node) (name : Text) (nothing : Bool)
    (v : Eval Value) : Eval Bindings := do
  if readsSpare params body name then return [(name, ← v)]
  else if nothing then return []
  else crash .wrongType

/-- The names that the arguments of a call give to a routine: its parameters by position or by name,
and what it reads besides. -/
def givenTo (params : List Text) (body : List Node) (a : Args) : Eval Bindings := do
  let later := params.drop a.positional.length
  let (byName, rest) := a.named.partition fun p => later.contains p.1
  let extra := a.positional.drop params.length
  let (caller, rest) ← callerGiven params later body rest
  let named ← spareGiven params body "kwargs" rest.isEmpty
    (newDict (rest.map fun (n, v) => (.text n, v)))
  let positional ← spareGiven params body "varargs" extra.isEmpty (return .tuple extra)
  return params.zip a.positional ++ byName ++ caller ++ named ++ positional

/-- Gives each parameter without an argument its default, which may use those before it. One that
has none either is absent. -/
def fillDefaults (m : Machine) (arguments : Bindings) :
    List (Text × Option Expr) → Scope → Eval Scope
  | [], s => return s
  | (n, default) :: rest, s =>
    match arguments.lookup n, default with
    | some _, _ => fillDefaults m arguments rest s
    | none, some e => do
      let v ← eval m s e
      fillDefaults m arguments rest (s.enter [(n, v)])
    | none, none =>
      fillDefaults m arguments rest
        (s.enter [(n, .absent false ("parameter " ++ Display.text n ++ " was not provided") none)])

/-- The names of the block around a routine. -/
def namesAt : Option Place → Eval Bindings
  | none => return []
  | some p => look (·.names p)

/-- The text of a routine called with arguments, where `top` is set at the top level. -/
def callRoutine (m : Machine) (top : Bindings) (f : Value) (a : Args) : Eval Value := do
  match f with
  | .routine _ params body around =>
    let arguments ← givenTo (params.map Prod.fst) body a
    let around ← namesAt around
    let missing : Bindings := params.map fun p => (p.1, .unset p.1)
    let names := arguments ++ missing ++ around
    let s ← fillDefaults m arguments params ⟨top, some names, none, []⟩
    let (t, _) ← execAll m body s
    return .text (← t.text)
  | _ => crash .wrongType

/-- The machine of a template in which calls of routines go `depth` deep. -/
def machine (helpers : List Helper) (given : Bindings) : Nat → Machine
  | 0 => ⟨helpers, given, fun _ _ _ => crash .tooDeep⟩
  | depth + 1 => ⟨helpers, given, callRoutine (machine helpers given depth)⟩

@[simp] theorem machine_given (helpers : List Helper) (given : Bindings) (depth : Nat) :
    (machine helpers given depth).given = given := by
  cases depth <;> rfl

@[simp] theorem machine_helpers (helpers : List Helper) (given : Bindings) (depth : Nat) :
    (machine helpers given depth).helpers = helpers := by
  cases depth <;> rfl

/-- How deep calls of routines go. -/
def callDepth : Nat := 246

/-- What answers the requests of a template that is given names; `depth` bounds the requests inside
one another. -/
def resumeAt (helpers : List Helper) (given : Bindings) (depth : Nat) : Resume :=
  match depth with
  | 0 => fun _ => crash .tooDeep
  | depth + 1 => fun q =>
    answer (machine helpers given callDepth) q (resumeAt helpers given depth)

/-- The text of a template that is given names. Names that it sets before it reads them stand for
nothing until then. -/
def run (helpers : List Helper) (given : Bindings) (nodes : List Node) : Eval Text := do
  let unset : Bindings := (Node.unset nodes).map fun n => (n, .unset n)
  let (t, _) ← execAll (machine helpers given callDepth) nodes ⟨unset, none, none, []⟩
  t.text

end Stencil.Template
