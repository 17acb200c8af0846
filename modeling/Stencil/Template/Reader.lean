import Stencil.Template.Token
import Stencil.Template.Value

/-!
# Reading templates

`Template.parse` turns the text of a template into its statements, unless the template is malformed.
Expressions are read by levels of binding strength, from `or` down to a value with its attributes,
calls and filters; only what stands in brackets begins again at the top, and only that takes from
the fuel (`unary`). The statements are `for`, `if`, `set`, `macro`, `with`, `filter` and `print`; a
template with any other one is malformed.

How deep the parts of a template are nested is bounded: each level of brackets takes some of the
frames that the host has for calls inside one another (`deeper`), and reading crashes when none are
left.
-/

namespace Stencil.Template

/-- A reader of tokens, which may fail. It is given the number of frames that are left. -/
abbrev Reader := ReaderT Nat (StateT (List Located) (Except Stop))

namespace Reader

/-- Fails on a template that is malformed. -/
def reject {α : Type} : Reader α := fault .malformed

/-- Reads something inside of `n` more frames. -/
def deeper {α : Type} (n : Nat) (r : Reader α) : Reader α := fun left =>
  if left < n then crash .tooDeep else r (left - n)

/-- The next token, which stays. -/
def peek : Reader (Option Token) := do return (← get).head?.map (·.token)

/-- The token behind the next one. -/
def peekSecond : Reader (Option Token) := do return ((← get).drop 1).head?.map (·.token)

/-- The line of the next token. -/
def line : Reader Nat := do return ((← get).head?.map (·.line)).getD 1

/-- Takes the next token. -/
def next : Reader Token := do
  match ← get with
  | t :: rest => set rest; return t.token
  | [] => reject

/-- Takes the next token if it is `t`. -/
def accept (t : Token) : Reader Bool := do
  match ← get with
  | l :: rest => if l.token = t then do set rest; return true else return false
  | [] => return false

/-- Takes the token `t`. -/
def expect (t : Token) : Reader Unit := do
  if ← accept t then return () else reject

/-- Takes a name. -/
def name : Reader Text := do
  match ← next with
  | .name n => return n
  | _ => reject

/-- Runs `step` until it stops, at most as often as there are tokens and once more. -/
def loop {σ : Type} (step : σ → Reader (σ × Bool)) (start : σ) : Reader σ := do
  go ((← get).length + 1) start
where
  /-- Runs `step` until it stops or the count is used up. -/
  go : Nat → σ → Reader σ
    | 0, _ => reject
    | count + 1, s => do
      let (s, more) ← step s
      if more then go count s else return s

/-- Items that `item` reads with commas between them, up to the token `close`, which is taken. A
comma may stand behind the last item. -/
def listed {α : Type} (item : Reader α) (close : Token) : Reader (List α) := do
  let (items, _) ← loop (fun (items, first) => do
    if ← accept close then return ((items, first), false)
    else do
      if !first then expect (.op .comma)
      if ← accept close then return ((items, first), false)
      else return ((items ++ [← item], false), true)) (([] : List α), true)
  return items

/-- Operands with operators between them, from the left. -/
def chain (operand : Reader Expr) (operator : Token → Option (Expr → Expr → Expr)) :
    Reader Expr := do
  loop (fun left => do
    match (← peek).bind operator with
    | some join => do
      discard next
      return (join left (← operand), true)
    | none => return (left, false)) (← operand)

/-! ## Expressions -/

/-- A word that is an operator. -/
def word (s : String) : Token := .name s.toList

/-- The comparison that a token writes. -/
def comparison? : Token → Option Comparison
  | .op .eq => some .eq
  | .op .ne => some .ne
  | .op .lt => some .lt
  | .op .lteq => some .lteq
  | .op .gt => some .gt
  | .op .gteq => some .gteq
  | _ => none

/-- Powers, from the left. -/
def powers (unary : Reader Expr) : Reader Expr :=
  chain unary fun t => if t = .op .pow then some (.binary .pow) else none

/-- Products. -/
def products (unary : Reader Expr) : Reader Expr :=
  chain (powers unary) fun
    | .op .mul => some (.binary .mul)
    | .op .div => some (.binary .div)
    | .op .floordiv => some (.binary .floordiv)
    | .op .mod => some (.binary .mod)
    | _ => none

/-- Texts joined by tildes. -/
def concats (unary : Reader Expr) : Reader Expr := do
  let first ← products unary
  let items ← loop (fun items => do
    if ← accept (.op .tilde) then return (items ++ [← products unary], true)
    else return (items, false)) [first]
  match items with
  | [e] => return e
  | items => return .concat items

/-- Sums. -/
def sums (unary : Reader Expr) : Reader Expr :=
  chain (concats unary) fun
    | .op .add => some (.binary .add)
    | .op .sub => some (.binary .sub)
    | _ => none

/-- A chain of comparisons. -/
def comparisons (unary : Reader Expr) : Reader Expr := do
  let first ← sums unary
  let ops ← loop (fun ops => do
    match (← peek).bind comparison? with
    | some c => do
      discard next
      return (ops ++ [(c, ← sums unary)], true)
    | none =>
      if ← accept (word "in") then return (ops ++ [(.in, ← sums unary)], true)
      else if (← peek) = some (word "not") ∧ (← peekSecond) = some (word "in") then do
        discard next
        discard next
        return (ops ++ [(.notin, ← sums unary)], true)
      else return (ops, false)) ([] : List (Comparison × Expr))
  if ops.isEmpty then return first else return .compare first ops

/-- Negations. -/
def negations (unary : Reader Expr) : Reader Expr := do
  let count ← loop (fun n => do
    if ← accept (word "not") then return (n + 1, true) else return (n, false)) 0
  let e ← deeper count (comparisons unary)
  return count.repeat Expr.not e

/-- Conjunctions. -/
def conjunctions (unary : Reader Expr) : Reader Expr :=
  chain (negations unary) fun t => if t = word "and" then some .and else none

/-- Disjunctions: expressions without a choice at the top. -/
def disjunctions (unary : Reader Expr) : Reader Expr :=
  chain (conjunctions unary) fun t => if t = word "or" then some .or else none

/-- One expression, or a choice of two by a condition; the one behind `else` may be a choice
again. -/
def choices (unary : Reader Expr) : Nat → Reader Expr
  | 0 => reject
  | fuel + 1 => do
    let first ← line
    let e ← disjunctions unary
    let (e, _) ← loop (fun (e, l) => do
      if ← accept (word "if") then do
        let condition ← disjunctions unary
        let no ← if ← accept (word "else") then some <$> deeper 1 (choices unary fuel)
          else pure none
        let l' ← line
        return ((Expr.choice condition e no l, l'), true)
      else return ((e, l), false)) (e, first)
    return e

/-- An expression. -/
def expression (unary : Reader Expr) : Reader Expr := do choices unary ((← get).length + 1)

/-- Whether a tuple without brackets ends before the next token. -/
def atTupleEnd (ends : List Token) : Reader Bool := do
  match ← peek with
  | some t => return t ∈ [Token.printEnd, .blockEnd, .op .rparen] ∨ t ∈ ends
  | none => return false

/-- One expression or a tuple of those that `item` reads. A tuple may be empty only in brackets. -/
def tuple (item : Reader Expr) (ends : List Token) (bracketed : Bool) : Reader Expr := do
  let (items, isTuple) ← loop (fun (items, isTuple) => do
    if !items.isEmpty then expect (.op .comma)
    if ← atTupleEnd ends then return ((items, isTuple), false)
    else do
      let items := items ++ [← item]
      if (← peek) = some (.op .comma) then return ((items, true), true)
      else return ((items, isTuple), false)) (([] : List Expr), false)
  match isTuple, items with
  | false, [e] => return e
  | false, [] => if bracketed then return .tuple [] else reject
  | _, items => return .tuple items

/-- The arguments of a call. -/
structure Arguments where
  args : List Expr
  named : List (Text × Expr)
  more : Option Expr
  others : Option Expr

/-- One argument of a call, added to those before it. -/
def argument (unary : Reader Expr) (a : Arguments) : Reader Arguments := do
  if ← accept (.op .mul) then
    if a.more.isNone && a.others.isNone then
      return { a with more := some (← expression unary) }
    else reject
  else if ← accept (.op .pow) then
    if a.others.isNone then return { a with others := some (← expression unary) } else reject
  else
    match ← peek, ← peekSecond with
    | some (.name n), some (.op .assign) =>
      if a.others.isNone then do
        discard next
        discard next
        return { a with named := a.named ++ [(n, ← expression unary)] }
      else reject
    | _, _ =>
      if a.more.isNone && a.others.isNone && a.named.isEmpty then
        return { a with args := a.args ++ [← expression unary] }
      else reject

/-- The arguments of a call, with their brackets. -/
def arguments (unary : Reader Expr) : Reader Arguments := deeper 1 do
  expect (.op .lparen)
  let (a, _) ← loop (fun (a, first) => do
    if ← accept (.op .rparen) then return ((a, first), false)
    else do
      if !first then expect (.op .comma)
      if ← accept (.op .rparen) then return ((a, first), false)
      else return ((← argument unary a, false), true)) ((⟨[], [], none, none⟩ : Arguments), true)
  return a

/-- A part of a slice, which may be missing. -/
def slicePart (unary : Reader Expr) : Reader (Option Expr) := do
  match ← peek with
  | some (.op .colon) | some (.op .rbracket) | some (.op .comma) => return none
  | _ => some <$> expression unary

/-- What stands in the brackets of a subscript, with the closing one: keys with commas between
them, or one slice. -/
def subscript (unary : Reader Expr) (e : Expr) : Reader Expr := deeper 1 do
  let start ← slicePart unary
  if ← accept (.op .colon) then do
    let stop ← slicePart unary
    let step ← if ← accept (.op .colon) then slicePart unary else pure none
    expect (.op .rbracket)
    return .slice e start stop step
  else
    match start with
    | none => if ← accept (.op .rbracket) then return .item e (.tuple []) else reject
    | some key =>
      if ← accept (.op .rbracket) then return .item e key
      else do
        let keys ← loop (fun keys => do
          if ← accept (.op .rbracket) then return (keys, false)
          else do
            expect (.op .comma)
            return (keys ++ [← expression unary], true)) [key]
        return .item e (.tuple keys)

/-- An attribute behind its point; a number is a key. -/
def behindDot (e : Expr) : Reader Expr := do
  match ← next with
  | .name n => return .attr e n
  | .int n => return .item e (.int n)
  | _ => reject

/-- Attributes, subscripts and calls behind an expression. -/
def trailers (unary : Reader Expr) (e : Expr) : Reader Expr :=
  loop (fun e => do
    match ← peek with
    | some (.op .dot) => do
      discard next
      return (← behindDot e, true)
    | some (.op .lbracket) => do
      discard next
      return (← subscript unary e, true)
    | some (.op .lparen) => do
      let a ← arguments unary
      return (.call e a.args a.named a.more a.others, true)
    | _ => return (e, false)) e

/-- A name with points in it. -/
def dottedName : Reader Text := do
  let first ← name
  loop (fun n => do
    if ← accept (.op .dot) then return (n ++ '.' :: (← name), true) else return (n, false)) first

/-- A filter behind its bar. -/
def filter (unary : Reader Expr) (e : Expr) : Reader Expr := do
  let n ← dottedName
  if (← peek) = some (.op .lparen) then do
    let a ← arguments unary
    return .filter e n a.args a.named a.more a.others
  else return .filter e n [] [] none none

/-- The pairs of a table, with its closing brace. -/
def pairs (unary : Reader Expr) : Reader (List (Expr × Expr)) :=
  listed (do
    let key ← expression unary
    expect (.op .colon)
    return (key, ← expression unary)) (.op .rbrace)

/-- A value: a name, a literal, or something in brackets. Quoted texts in a row are one. -/
def primary (unary : Reader Expr) : Reader Expr := do
  match ← next with
  | .name n =>
    if n = "true" ∨ n = "True" then return .bool true
    else if n = "false" ∨ n = "False" then return .bool false
    else if n = "none" ∨ n = "None" then return .none
    else return .name n
  | .text s =>
    .text <$> loop (fun s => do
      match ← peek with
      | some (.text t) => do
        discard next
        return (s ++ t, true)
      | _ => return (s, false)) s
  | .int n => return .int n
  | .float d => return .float d
  | .op .lparen => do
    let e ← tuple (expression unary) [] true
    expect (.op .rparen)
    return e
  | .op .lbracket => .list <$> listed (expression unary) (.op .rbracket)
  | .op .lbrace => .dict <$> pairs unary
  | _ => reject

/-- Whether a token begins the argument of a test that has no brackets. -/
def beginsArgument : Token → Bool
  | .name n => !(n = "else".toList || n = "or".toList || n = "and".toList)
  | .text _ | .int _ | .float _ | .op .lbracket | .op .lbrace => true
  | _ => false

/-- A test behind `is`. -/
def test (unary : Reader Expr) (e : Expr) : Reader Expr := do
  let negated ← accept (word "not")
  let n ← dottedName
  let t ← (do
    match ← peek with
    | some (.op .lparen) => do
      let a ← arguments unary
      return Expr.test e n a.args a.named a.more a.others
    | some t =>
      if beginsArgument t then
        if t = word "is" then reject
        else do
          let arg ← trailers unary (← primary unary)
          return .test e n [arg] [] none none
      else return .test e n [] [] none none
    | none => return .test e n [] [] none none)
  return if negated then .not t else t

/-- Filters, tests and calls behind an expression. -/
def filters (unary : Reader Expr) (e : Expr) : Reader Expr :=
  loop (fun e => do
    match ← peek with
    | some (.op .pipe) => do
      discard next
      return (← filter unary e, true)
    | some (.op .lparen) => do
      let a ← arguments unary
      return (.call e a.args a.named a.more a.others, true)
    | some t =>
      if t = word "is" then do
        discard next
        return (← test unary e, true)
      else return (e, false)
    | none => return (e, false)) e

/-- A value with its signs, attributes, calls, filters and tests. A sign binds tighter than a
filter. What stands in brackets is read with less fuel, and a level of it takes thirteen frames. -/
def unary : Nat → Reader Expr
  | 0 => reject
  | fuel + 1 => deeper 13 do
    let signs ← loop (fun signs => do
      if ← accept (.op .sub) then return (Expr.neg :: signs, true)
      else if ← accept (.op .add) then return (Expr.pos :: signs, true)
      else return (signs, false)) ([] : List (Expr → Expr))
    let e ← deeper signs.length do trailers (unary fuel) (← primary (unary fuel))
    filters (unary fuel) (signs.foldl (fun e sign => sign e) e)

/-- A value with its signs and everything behind it. -/
def operand : Reader Expr := do unary ((← get).length + 1)

/-- An expression or a tuple without brackets. -/
def expressions (ends : List Token) : Reader Expr := tuple (expression operand) ends false

/-- The same without a choice at the top, where `if` begins something else. -/
def conditions (ends : List Token) : Reader Expr := tuple (disjunctions operand) ends false

/-! ## Statements -/

/-- The names that stand for values and cannot be set. -/
def isConstant (n : Text) : Bool :=
  (["true", "false", "none", "True", "False", "None"] : List Text).contains n

/-- An expression as the target of an assignment. -/
def target? : Nat → Expr → Option Target
  | 0, _ => none
  | _ + 1, .name n => some (.name n)
  | fuel + 1, .tuple items => .tuple <$> items.mapM (target? fuel)
  | _, _ => none

/-- The target of an assignment, up to one of the `ends`. -/
def target (ends : List Token) : Reader Target := do
  let fuel := (← get).length + 1
  let e ← tuple (primary operand) ends false
  match target? fuel e with
  | some t => return t
  | none => reject

/-- A name that can be set. -/
def ownName : Reader Text := do
  let n ← name
  if isConstant n then reject else return n

/-- The parameters of a routine, with their brackets. Those with defaults stand last. -/
def parameters : Reader (List (Text × Option Expr)) := do
  expect (.op .lparen)
  let (params, _) ← loop (fun (params, first) => do
    if ← accept (.op .rparen) then return ((params, first), false)
    else do
      if !first then expect (.op .comma)
      let n ← ownName
      if ← accept (.op .assign) then do
        let default ← expression operand
        return ((params ++ [(n, some default)], false), true)
      else if params.any (fun p => p.2.isSome) then reject
      else return ((params ++ [(n, none)], false), true)) (([] : List (Text × Option Expr)), true)
  return params

/-- The bindings of a block with names of its own. -/
def bindings : Reader (List (Target × Expr)) := do
  let (found, _) ← loop (fun (found, first) => do
    if (← peek) = some .blockEnd then return ((found, first), false)
    else do
      if !first then expect (.op .comma)
      let t ← target []
      expect (.op .assign)
      return ((found ++ [(t, ← expression operand)], false), true))
    (([] : List (Target × Expr)), true)
  return found

/-- Expressions to print, with commas between them. -/
def printed : Reader (List Node) := do
  let (found, _) ← loop (fun (found, first) => do
    if (← peek) = some .blockEnd then return ((found, first), false)
    else do
      if !first then expect (.op .comma)
      return ((found ++ [Node.print (← expression operand)], false), true))
    (([] : List Node), true)
  return found

/-- A filter on a block of text, with the filters behind it. -/
def blockFilters (first : Bool) : Reader Expr := do
  let (e, _) ← loop (fun (e, first) => do
    if first then return ((← filter operand e, false), true)
    else if ← accept (.op .pipe) then return ((← filter operand e, false), true)
    else return ((e, false), false)) (Expr.collected, first)
  return e

mutual

/-- Statements up to a tag that begins with one of the words `ends`, which is the next token
then. Without `ends` they go on to the end of the template. -/
def statements : Nat → List Token → Reader (List Node)
  | 0, _ => reject
  | fuel + 1, ends => do
    match ← peek with
    | none => if ends.isEmpty then return [] else reject
    | some (.data s) => do
      discard next
      return .data s :: (← statements fuel ends)
    | some .printBegin => do
      discard next
      let e ← expressions []
      expect .printEnd
      return .print e :: (← statements fuel ends)
    | some .blockBegin => do
      discard next
      match ← peek with
      | some t =>
        if t ∈ ends then return []
        else do
          let nodes ← statement fuel
          expect .blockEnd
          return nodes ++ (← statements fuel ends)
      | none => reject
    | some _ => reject

/-- The body of a statement from the end of its tag on, up to a tag that begins with one of the
words `ends`, which is taken. A colon may stand before the end of the tag. -/
def body : Nat → List Token → Reader (List Node × Token)
  | 0, _ => reject
  | fuel + 1, ends => do
    discard (accept (.op .colon))
    expect .blockEnd
    let nodes ← deeper 4 (statements fuel ends)
    return (nodes, ← next)

/-- A statement from its word on, up to the end of its last tag. -/
def statement : Nat → Reader (List Node)
  | 0 => reject
  | fuel + 1 => do
    let keyword ← name
    if keyword = "for" then do
      let t ← target [word "in"]
      expect (word "in")
      let items ← conditions [word "recursive"]
      let test ← if ← accept (word "if") then some <$> expression operand else pure none
      let (nodes, closing) ← body fuel [word "endfor", word "else"]
      if closing = word "endfor" then return [.forLoop t items test nodes []]
      else do
        let (otherwise, _) ← body fuel [word "endfor"]
        return [.forLoop t items test nodes otherwise]
    else if keyword = "if" then branches fuel
    else if keyword = "set" then do
      let t ← target []
      if ← accept (.op .assign) then return [.assign t (← expressions [])]
      else do
        let f ← blockFilters false
        let (nodes, _) ← body fuel [word "endset"]
        return [.capture t f nodes]
    else if keyword = "macro" then do
      let n ← ownName
      let params ← parameters
      let (nodes, _) ← body fuel [word "endmacro"]
      return [.define n params nodes]
    else if keyword = "with" then do
      let found ← bindings
      let (nodes, _) ← body fuel [word "endwith"]
      return [.scope found nodes]
    else if keyword = "filter" then do
      let f ← blockFilters true
      let (nodes, _) ← body fuel [word "endfilter"]
      return [.filtered f nodes]
    else if keyword = "print" then printed
    else reject

/-- The condition of a branch and what follows, up to the end of the last tag. -/
def branches : Nat → Reader (List Node)
  | 0 => reject
  | fuel + 1 => do
    let condition ← conditions []
    let (yes, closing) ← body fuel [word "elif", word "else", word "endif"]
    if closing = word "elif" then return [.branch condition yes (← branches fuel)]
    else if closing = word "else" then do
      let (no, _) ← body fuel [word "endif"]
      return [.branch condition yes no]
    else return [.branch condition yes []]

end

end Reader

/-- The statements of a template. -/
def parse (template : Text) : Except Stop (List Node) := do
  match Token.scan template with
  | none => fault .malformed
  | some tokens =>
    let (nodes, rest) ← Reader.statements (3 * tokens.length + 3) [] frames tokens
    if rest.isEmpty then return nodes else fault .malformed

end Stencil.Template
