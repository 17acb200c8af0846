import Stencil.Proofs.Template.Demand

/-!
# Accounts of evaluations

An account (`Account`) says which demands a computation comes to from a store, and with which store
it comes to them. It explains the computation (`Account.Explains`) when the computation crashes
exactly where it comes to a demand that crashes. Accounts compose as computations do
(`Explains.bind`, `Explains.mapM`).

`Account.ofExpr`, `Account.ofNode` and `Account.ofTemplate` account for an expression, a statement
and a whole template. They go down the tree as the evaluation does : the part that is evaluated
first is accounted for first, and what follows it only where it has a value. By induction on the tree they
explain the evaluation (`explains_expr`, `explains_node`), as long as the calls of routines are
explained; these go by the depth of the calls (`explains_calls`). A loop takes one value after the
other, and comes to what its condition and its body ask of each of them (`Account.rounds`).
-/

namespace Stencil.Template

variable {α β : Type}

/-- Which demands a computation comes to from a store, and with which store it comes to them, when
its requests are answered. -/
abbrev Account := Resume → Store → Demand → Store → Prop

namespace Account

/-- Nothing is asked. -/
def nothing : Account := fun _ _ _ _ => False

/-- One demand, at once. -/
def only (d : Demand) : Account := fun _ store e store' => e = d ∧ store' = store

/-- What a computation comes to, and then what follows its value. -/
def andThen (first : Account) (x : Eval α) (next : α → Account) : Account :=
  fun resume store d store' => first resume store d store' ∨
    ∃ a store₁, x resume store = (.ok a, store₁) ∧ next a resume store₁ d store'

/-- What follows the value of a computation that asks nothing. -/
def after (x : Eval α) (next : α → Account) : Account := nothing.andThen x next

/-- What a computation comes to that runs over items. -/
def each (acc : α → Account) (f : α → Eval β) : List α → Account
  | [] => nothing
  | a :: rest => (acc a).andThen (f a) fun _ => each acc f rest

/-- What a computation comes to that gives one value after the other, and what is made of them. -/
def rounds (ofNext : Account) (next : Eval (Option Value)) (acc : Value → Account)
    (f : Value → Eval α) : Nat → Account
  | 0 => only (.refused .noRoom)
  | fuel + 1 =>
    ofNext.andThen next fun
      | none => nothing
      | some v => (acc v).andThen (f v) fun _ => rounds ofNext next acc f fuel

/-- An account explains a computation that crashes exactly where it comes to a demand that
crashes. -/
def Explains (helpers : List Helper) (acc : Account) (x : Eval α) : Prop :=
  ∀ resume store c, Crashes x resume store c ↔
    ∃ d store', acc resume store d store' ∧ Crashes (d.run helpers) resume store' c

namespace Explains

variable {helpers : List Helper} {acc : Account} {x : Eval α}

theorem of_calm (hx : Calm x) : Explains helpers nothing x := fun resume store c =>
  iff_of_false (hx resume store c) fun ⟨_, _, h, _⟩ => h

theorem pure (a : α) : Explains helpers nothing (pure a : Eval α) := of_calm (calm_pure a)

theorem only {d : Demand} (h : d.run helpers = discard x) :
    Explains helpers (Account.only d) x := fun _ store c => by
  rw [← crashes_discard, ← h]
  refine ⟨fun hc => ⟨d, store, ⟨rfl, rfl⟩, hc⟩, ?_⟩
  rintro ⟨_, _, ⟨rfl, rfl⟩, hc⟩
  exact hc

theorem of_crash (c : Crash) : Explains helpers (Account.only (.refused c)) (crash c : Eval α) := by
  intro resume store c'
  constructor
  · rintro ⟨⟩
    exact ⟨.refused c, store, ⟨rfl, rfl⟩, rfl⟩
  · rintro ⟨_, _, ⟨rfl, rfl⟩, ⟨⟩⟩
    rfl

theorem bind {f : α → Eval β} {next : α → Account} (hx : Explains helpers acc x)
    (hf : ∀ a, Explains helpers (next a) (f a)) :
    Explains helpers (acc.andThen x next) (x >>= f) := fun resume store c => by
  rw [crashes_bind, hx]
  constructor
  · rintro (⟨d, store', hd, hc⟩ | ⟨a, store₁, ha, hc⟩)
    · exact ⟨d, store', .inl hd, hc⟩
    · obtain ⟨d, store', hd, hc⟩ := (hf a resume store₁ c).mp hc
      exact ⟨d, store', .inr ⟨a, store₁, ha, hd⟩, hc⟩
  · rintro ⟨d, store', hd | ⟨a, store₁, ha, hd⟩, hc⟩
    · exact .inl ⟨d, store', hd, hc⟩
    · exact .inr ⟨a, store₁, ha, (hf a resume store₁ c).mpr ⟨d, store', hd, hc⟩⟩

/-- What a calm computation makes of the value asks nothing more. -/
theorem bind_calm {f : α → Eval β} (hx : Explains helpers acc x) (hf : ∀ a, Calm (f a)) :
    Explains helpers acc (x >>= f) := fun resume store c => by
  rw [crashes_bind, hx]
  exact or_iff_left fun ⟨a, store₁, _, hc⟩ => hf a resume store₁ c hc

theorem after {f : α → Eval β} {next : α → Account} (hx : Calm x)
    (hf : ∀ a, Explains helpers (next a) (f a)) :
    Explains helpers (Account.after x next) (x >>= f) :=
  (of_calm hx).bind hf

theorem mapM {accs : α → Account} {f : α → Eval β}
    (hf : ∀ a, Explains helpers (accs a) (f a)) :
    ∀ items : List α, Explains helpers (each accs f items) (items.mapM f)
  | [] => pure []
  | a :: rest => by
    rw [List.mapM_cons]
    exact (hf a).bind fun b => (mapM hf rest).bind_calm fun bs => calm_pure (b :: bs)

theorem rounds {ofNext : Account} {next : Eval (Option Value)} {accs : Value → Account}
    {f : Value → Eval α} (hnext : Explains helpers ofNext next)
    (hf : ∀ v, Explains helpers (accs v) (f v)) :
    ∀ fuel, Explains helpers (Account.rounds ofNext next accs f fuel) (Loop.each next f fuel)
  | 0 => of_crash .noRoom
  | fuel + 1 => hnext.bind fun
    | none => pure []
    | some v =>
      (hf v).bind fun a => (rounds hnext hf fuel).bind_calm fun rest => calm_pure (a :: rest)

end Explains

/-! ## Expressions -/

/-- What the arguments of a call come to, from the accounts of their parts, and what follows. -/
def ofArguments (m : Machine) (s : Scope) (args : List Expr) (named : List (Text × Expr))
    (more others : Option Expr) (ofArgs ofMore ofNamed : Account) (ofOthers : Bindings → Account)
    (next : Args → Account) : Account :=
  (ofArgs.andThen (evalAll m s args) fun _ =>
    ofMore.andThen (evalMore m s more) fun _ =>
      ofNamed.andThen (evalNamed m s named) ofOthers).andThen
    (argumentsOf (evalAll m s args) (evalMore m s more) (evalNamed m s named)
      (evalOthers m s others)) next

/-- What a call of a value comes to; `calls` accounts for those of routines. -/
def ofCall (calls : Bindings → Value → Args → Account) (top : Bindings) (f : Value)
    (a : Args) : Account :=
  match f with
  | .routine _ _ _ _ => calls top f a
  | _ => only (.call f a)

section

variable (m : Machine) (calls : Bindings → Value → Args → Account) (s : Scope)

mutual

/-- What an expression comes to. -/
def ofExpr : Expr → Account
  -- a name that is not set has a value as well, so reading it asks nothing
  | .none | .bool _ | .int _ | .float _ | .text _ | .name _ | .collected => nothing
  | .tuple items | .list items => ofExprs items
  | .dict entries =>
    (ofEntries entries).andThen (evalEntries m s entries) fun entries => only (.table entries)
  | .attr e name => (ofExpr e).andThen (eval m s e) fun v => only (.member v name)
  | .item e key =>
    (ofExpr e).andThen (eval m s e) fun v =>
      (ofExpr key).andThen (eval m s key) fun key => only (.subscript v key)
  | .slice e start stop step =>
    (ofExpr e).andThen (eval m s e) fun v =>
      (ofOption start).andThen (evalOption m s start) fun start =>
        (ofOption stop).andThen (evalOption m s stop) fun stop =>
          (ofOption step).andThen (evalOption m s step) fun step =>
            only (.slice v (start.getD .none) (stop.getD .none) (step.getD .none))
  | .call f args named more others =>
    (ofExpr f).andThen (eval m s f) fun f =>
      ofArguments m s args named more others (ofExprs args) (ofMore more) (ofNamed named)
        (ofOthers others) fun a => ofCall calls s.top f a
  | .filter e name args named more others =>
    (ofExpr e).andThen (eval m s e) fun v =>
      ofArguments m s args named more others (ofExprs args) (ofMore more) (ofNamed named)
        (ofOthers others) fun a =>
          match Filter.named? m.helpers name with
          | some f => only (.filter f v a)
          | none => nothing
  | .test e name args named more others =>
    (ofExpr e).andThen (eval m s e) fun v =>
      ofArguments m s args named more others (ofExprs args) (ofMore more) (ofNamed named)
        (ofOthers others) fun a =>
          match Test.named? name with
          | some t => only (.test t v a)
          | none => nothing
  | .neg e => (ofExpr e).andThen (eval m s e) fun v => only (.signed true v)
  | .pos e => (ofExpr e).andThen (eval m s e) fun v => only (.signed false v)
  | .not e => (ofExpr e).andThen (eval m s e) fun v => only (.truth v)
  | .and l r =>
    (ofExpr l).andThen (eval m s l) fun v =>
      (only (.truth v)).andThen (truth v) fun holds => if holds then ofExpr r else nothing
  | .or l r =>
    (ofExpr l).andThen (eval m s l) fun v =>
      (only (.truth v)).andThen (truth v) fun holds => if holds then nothing else ofExpr r
  | .binary op l r =>
    (ofExpr l).andThen (eval m s l) fun v =>
      (ofExpr r).andThen (eval m s r) fun w => only (.binary op v w)
  | .concat items =>
    (ofExprs items).andThen (evalAll m s items) fun vs =>
      each (fun v => only (.shown v)) (fun v => (shown v : Eval Text)) vs
  | .compare e ops => (ofExpr e).andThen (eval m s e) fun v => ofChain v ops
  | .choice condition yes no _ =>
    (ofExpr condition).andThen (eval m s condition) fun v =>
      (only (.truth v)).andThen (truth v) fun holds => if holds then ofExpr yes else ofOption no

/-- What expressions come to. -/
def ofExprs : List Expr → Account
  | [] => nothing
  | e :: rest => (ofExpr e).andThen (eval m s e) fun _ => ofExprs rest

/-- What an expression comes to that may be left out. -/
def ofOption : Option Expr → Account
  | none => nothing
  | some e => ofExpr e

/-- What a list of further arguments comes to. -/
def ofMore : Option Expr → Account
  | none => nothing
  | some e => (ofExpr e).andThen (eval m s e) fun v => only (.iterate v)

/-- What a table of further arguments by name comes to. -/
def ofOthers : Option Expr → Bindings → Account
  | none, _ => nothing
  | some e, named => (ofExpr e).andThen (eval m s e) fun v => only (.spread named v)

/-- What named expressions come to. -/
def ofNamed : List (Text × Expr) → Account
  | [] => nothing
  | (_, e) :: rest => (ofExpr e).andThen (eval m s e) fun _ => ofNamed rest

/-- What the entries of a table come to. -/
def ofEntries : List (Expr × Expr) → Account
  | [] => nothing
  | (k, e) :: rest =>
    (ofExpr k).andThen (eval m s k) fun _ =>
      (ofExpr e).andThen (eval m s e) fun _ => ofEntries rest

/-- What the comparisons of a chain come to. -/
def ofChain (v : Value) : List (Comparison × Expr) → Account
  | [] => nothing
  | (op, e) :: rest =>
    (ofExpr e).andThen (eval m s e) fun w =>
      (only (.compare op v w)).andThen (Test.compareBy op v w) fun holds =>
        if holds then ofChain w rest else nothing

end

end

/-! ## Statements -/

/-- The names that one part of a block's head sets. -/
def headNames (m : Machine) (s : Scope) : Target × Expr → Eval Bindings
  | (target, e) => do bind target (← eval m s e)

section

variable (m : Machine) (calls : Bindings → Value → Args → Account)

/-- What the names of a target come to, and what follows. -/
def ofTarget (target : Target) (v : Value) (next : Bindings → Account) : Account :=
  (only (.unpack target v)).andThen (bind target v) next

/-- What the condition of a loop comes to for a value. -/
def ofAdmitted (g : Gate) (v : Value) : Account :=
  ofTarget g.target v fun names =>
    (ofExpr m calls (g.around.enter names) g.test).andThen
      (eval m (g.around.enter names) g.test) fun v => only (.truth v)

/-- What the search for the first value comes to for which the condition of a loop holds. -/
def ofGate (g : Gate) (p : Place) : Nat → Account
  | 0 => only (.refused .noRoom)
  | fuel + 1 =>
    (only (.take p)).andThen (Loop.take p) fun
      | none => nothing
      | some v =>
        (ofAdmitted m calls g v).andThen (g.admitted m v) fun
          | some _ => nothing
          | none => ofGate g p fuel

/-- What the loop at a place comes to until it has a value for its next round. -/
def ofTake (p : Place) : Account :=
  after (loopAt p) fun l =>
    match l.gate with
    | none => only (.take p)
    | some g =>
      if l.busy then only (.refused .badValue)
      else
        after (changeLoop p fun l => { l with busy := true }) fun _ =>
          after l.source.steps fun steps => ofGate m calls g p steps

/-- What the loop at a place comes to until its next round begins. -/
def ofAdvance (p : Place) : Account :=
  after (loopAt p) fun l =>
    match l.after with
    | some _ => nothing
    | none => ofTake m calls p

/-- What one part of a block's head comes to. -/
def ofHead (s : Scope) : Target × Expr → Account
  | (target, e) => (ofExpr m calls s e).andThen (eval m s e) fun v => only (.unpack target v)

/-- What a block comes to, from the account of its body, with the filter that takes its text, and
what follows. -/
def ofBlock (filter : Expr) (ofBody : Account) (body : Eval (Printed × Scope))
    (next : Value → Account) : Account :=
  ofBody.andThen body fun (t, inner) =>
    (only (.text t)).andThen t.text fun t =>
      (ofExpr m calls { inner with collected := t } filter).andThen
        (eval m { inner with collected := t } filter) next

mutual

/-- What a statement comes to. -/
def ofNode : Node → Scope → Account
  | .data _, _ | .define _ _ _, _ | .forget _, _ => nothing
  | .print e, s => (ofExpr m calls s e).andThen (eval m s e) fun v => only (.shown v)
  | .forLoop target items test body otherwise, s =>
    (ofExpr m calls s items).andThen (eval m s items) fun v =>
      (only (.start v)).andThen (Source.of v) fun source =>
        after (allocate (.loop (.start v source (test.map (⟨target, ·, s⟩))))) fun p =>
          after source.steps fun steps =>
            (rounds (ofAdvance m calls p) (Loop.advance (takeNext m p) p)
              (fun v => ofTarget target v fun names =>
                ofNodes body (s.enter (names ++ [(("loop" : Text), .loop p)])))
              (round m s target body p) steps).andThen
              (Loop.each (Loop.advance (takeNext m p) p) (round m s target body p) steps)
              fun parts => if parts.isEmpty then ofNodes otherwise (s.enter []) else nothing
  | .branch condition yes no, s =>
    (ofExpr m calls s condition).andThen (eval m s condition) fun v =>
      (only (.truth v)).andThen (truth v) fun holds => if holds then ofNodes yes s else ofNodes no s
  | .assign target e, s =>
    (ofExpr m calls s e).andThen (eval m s e) fun v => only (.unpack target v)
  | .capture target filter body, s =>
    ofBlock m calls filter (ofNodes body (s.enter [])) (execAll m body (s.enter []))
      fun v => only (.unpack target v)
  | .scope bindings body, s =>
    (each (ofHead m calls s) (headNames m s) bindings).andThen
      (bindings.mapM (headNames m s)) fun names => ofNodes body (s.enter names.reverse.flatten)
  | .filtered filter body, s =>
    ofBlock m calls filter (ofNodes body (s.enter [])) (execAll m body (s.enter []))
      fun _ => nothing

/-- What statements come to. -/
def ofNodes : List Node → Scope → Account
  | [], _ => nothing
  | n :: rest, s => (ofNode n s).andThen (exec m n s) fun (_, s) => ofNodes rest s

end

end

/-! ## Routines -/

/-- What the defaults of the parameters without an argument come to. -/
def ofDefaults (m : Machine) (calls : Bindings → Value → Args → Account)
    (arguments : Bindings) : List (Text × Option Expr) → Scope → Account
  | [], _ => nothing
  | (n, default) :: rest, s =>
    match arguments.lookup n, default with
    | some _, _ => ofDefaults m calls arguments rest s
    | none, some e =>
      (ofExpr m calls s e).andThen (eval m s e) fun v =>
        ofDefaults m calls arguments rest (s.enter [(n, v)])
    | none, none =>
      ofDefaults m calls arguments rest
        (s.enter [(n, .absent false ("parameter " ++ Display.text n ++ " was not provided") none)])

/-- The scope in which the defaults of a routine are evaluated. -/
def routineScope (top : Bindings) (params : List (Text × Option Expr))
    (arguments around : Bindings) : Scope :=
  let missing : Bindings := params.map fun p => (p.1, .unset p.1)
  ⟨top, some (arguments ++ missing ++ around), none, []⟩

/-- What a call of a routine comes to, with the calls inside of it accounted for. -/
def ofRoutine (m : Machine) (inner : Bindings → Value → Args → Account) (top : Bindings)
    (f : Value) (a : Args) : Account :=
  match f with
  | .routine _ params body around =>
    (only (.arguments (params.map Prod.fst) body a)).andThen
      (givenTo (params.map Prod.fst) body a) fun arguments =>
        after (namesAt around) fun around =>
          let s := routineScope top params arguments around
          (ofDefaults m inner arguments params s).andThen (fillDefaults m arguments params s)
            fun s => (ofNodes m inner body s).andThen (execAll m body s) fun (t, _) =>
              only (.text t)
  | _ => nothing

/-- What the calls of routines come to that go `depth` deep. -/
def ofCalls (helpers : List Helper) (given : Bindings) : Nat → Bindings → Value → Args → Account
  | 0 => fun _ _ _ => only (.refused .tooDeep)
  | depth + 1 => ofRoutine (machine helpers given depth) (ofCalls helpers given depth)

/-- What a template comes to that is given names. -/
def ofTemplate (helpers : List Helper) (given : Bindings) (nodes : List Node) : Account :=
  let unset : Bindings := (Node.unset nodes).map fun n => (n, .unset n)
  let m := machine helpers given callDepth
  (ofNodes m (ofCalls helpers given callDepth) nodes ⟨unset, none, none, []⟩).andThen
    (execAll m nodes ⟨unset, none, none, []⟩) fun (t, _) => only (.text t)

/-! ## Explanations -/

section

variable {m : Machine} {calls : Bindings → Value → Args → Account}

/-- The calls of routines are explained. -/
def ExplainsRoutines (m : Machine) (calls : Bindings → Value → Args → Account) : Prop :=
  ∀ top name params body around a, Explains m.helpers
    (calls top (.routine name params body around) a)
    (m.invoke top (.routine name params body around) a)

theorem explains_call (hr : ExplainsRoutines m calls) (s : Scope) (f : Value) (a : Args) :
    Explains m.helpers (ofCall calls s.top f a) (call m s f a) := by
  cases f with
  | routine n params body around => exact hr s.top n params body around a
  | builtin b => cases b <;> exact .only rfl
  | _ => exact .only rfl

theorem explains_shownAll (helpers : List Helper) (vs : List Value) :
    Explains helpers (each (fun v => only (.shown v)) (fun v => (shown v : Eval Text)) vs)
      (shownAll vs) :=
  ((Explains.mapM fun _ => .only rfl) vs).bind_calm fun _ => calm_pure _

theorem explains_arguments {s : Scope} {args : List Expr} {named : List (Text × Expr)}
    {more others : Option Expr} {ofArgs ofMore ofNamed : Account} {ofOthers : Bindings → Account}
    {next : Args → Account} {f : Args → Eval α}
    (hargs : Explains m.helpers ofArgs (evalAll m s args))
    (hmore : Explains m.helpers ofMore (evalMore m s more))
    (hnamed : Explains m.helpers ofNamed (evalNamed m s named))
    (hothers : ∀ named, Explains m.helpers (ofOthers named) (evalOthers m s others named))
    (hnext : ∀ a, Explains m.helpers (next a) (f a)) :
    Explains m.helpers
      (ofArguments m s args named more others ofArgs ofMore ofNamed ofOthers next)
      (argumentsOf (evalAll m s args) (evalMore m s more) (evalNamed m s named)
        (evalOthers m s others) >>= f) := by
  refine Explains.bind ?_ hnext
  exact hargs.bind fun _ => hmore.bind fun _ => hnamed.bind fun _ =>
    (hothers _).bind_calm fun _ => calm_pure _

mutual

theorem explains_expr (hr : ExplainsRoutines m calls) (s : Scope) :
    ∀ e : Expr, Explains m.helpers (ofExpr m calls s e) (eval m s e)
  | .none | .bool _ | .int _ | .float _ | .text _ | .name _ | .collected => .pure _
  | .tuple items => (explains_exprs hr s items).bind_calm fun _ => calm_pure _
  | .list items => (explains_exprs hr s items).bind_calm fun _ => (calm_allocate _).map _
  | .dict entries => (explains_entries hr s entries).bind fun _ => .only rfl
  | .attr e _ => (explains_expr hr s e).bind fun _ => .only rfl
  | .item e key =>
    (explains_expr hr s e).bind fun _ => (explains_expr hr s key).bind fun _ => .only rfl
  | .slice e start stop step =>
    (explains_expr hr s e).bind fun _ => (explains_option hr s start).bind fun _ =>
      (explains_option hr s stop).bind fun _ => (explains_option hr s step).bind fun _ => .only rfl
  | .call f args named more others =>
    (explains_expr hr s f).bind fun f =>
      explains_arguments (explains_exprs hr s args) (explains_more hr s more)
        (explains_named hr s named) (explains_others hr s others) fun a =>
          explains_call hr s f a
  | .filter e name args named more others =>
    (explains_expr hr s e).bind fun v =>
      explains_arguments (explains_exprs hr s args) (explains_more hr s more)
        (explains_named hr s named) (explains_others hr s others) fun a => by
          cases Filter.named? m.helpers name with
          | some f => exact .only rfl
          -- a name without a meaning in a part of a choice is found here, and is a fault
          | none => exact .of_calm (calm_fault _)
  | .test e name args named more others =>
    (explains_expr hr s e).bind fun v =>
      explains_arguments (explains_exprs hr s args) (explains_more hr s more)
        (explains_named hr s named) (explains_others hr s others) fun a => by
          cases Test.named? name with
          | some t => exact (Explains.only rfl).bind_calm fun _ => calm_pure _
          | none => exact .of_calm (calm_fault _)
  | .neg e => (explains_expr hr s e).bind fun _ => .only rfl
  | .pos e => (explains_expr hr s e).bind fun _ => .only rfl
  | .not e =>
    (explains_expr hr s e).bind fun _ => (Explains.only rfl).bind_calm fun _ => calm_pure _
  -- the second operand is accounted for only where it is evaluated
  | .and l r =>
    (explains_expr hr s l).bind fun v => (Explains.only rfl).bind fun holds => by
      cases holds with
      | true => exact explains_expr hr s r
      | false => exact .pure v
  | .or l r =>
    (explains_expr hr s l).bind fun v => (Explains.only rfl).bind fun holds => by
      cases holds with
      | true => exact .pure v
      | false => exact explains_expr hr s r
  | .binary op l r =>
    (explains_expr hr s l).bind fun _ => (explains_expr hr s r).bind fun _ => .only rfl
  | .concat items =>
    (explains_exprs hr s items).bind fun vs =>
      (explains_shownAll m.helpers vs).bind_calm fun _ => calm_pure _
  | .compare e ops =>
    (explains_expr hr s e).bind fun v => (explains_chain hr s v ops).bind_calm fun _ => calm_pure _
  | .choice condition yes no line =>
    (explains_expr hr s condition).bind fun v => (Explains.only rfl).bind fun holds => by
      cases holds with
      | true => exact explains_expr hr s yes
      | false => exact (explains_option hr s no).bind_calm fun _ => calm_pure _

theorem explains_exprs (hr : ExplainsRoutines m calls) (s : Scope) :
    ∀ es : List Expr, Explains m.helpers (ofExprs m calls s es) (evalAll m s es)
  | [] => .pure _
  | e :: rest =>
    (explains_expr hr s e).bind fun _ => (explains_exprs hr s rest).bind_calm fun _ => calm_pure _

theorem explains_option (hr : ExplainsRoutines m calls) (s : Scope) :
    ∀ e : Option Expr, Explains m.helpers (ofOption m calls s e) (evalOption m s e)
  | none => .pure _
  | some e => (explains_expr hr s e).bind_calm fun _ => calm_pure _

theorem explains_more (hr : ExplainsRoutines m calls) (s : Scope) :
    ∀ e : Option Expr, Explains m.helpers (ofMore m calls s e) (evalMore m s e)
  | none => .pure _
  | some e => (explains_expr hr s e).bind fun _ => .only rfl

theorem explains_others (hr : ExplainsRoutines m calls) (s : Scope) :
    ∀ (e : Option Expr) (named : Bindings),
      Explains m.helpers (ofOthers m calls s e named) (evalOthers m s e named)
  | none, _ => .pure _
  | some e, _ => (explains_expr hr s e).bind fun _ => .only rfl

theorem explains_named (hr : ExplainsRoutines m calls) (s : Scope) :
    ∀ es : List (Text × Expr), Explains m.helpers (ofNamed m calls s es) (evalNamed m s es)
  | [] => .pure _
  | (_, e) :: rest =>
    (explains_expr hr s e).bind fun _ => (explains_named hr s rest).bind_calm fun _ => calm_pure _

theorem explains_entries (hr : ExplainsRoutines m calls) (s : Scope) :
    ∀ es : List (Expr × Expr),
      Explains m.helpers (ofEntries m calls s es) (evalEntries m s es)
  | [] => .pure _
  | (k, e) :: rest =>
    (explains_expr hr s k).bind fun _ => (explains_expr hr s e).bind fun _ =>
      (explains_entries hr s rest).bind_calm fun _ => calm_pure _

theorem explains_chain (hr : ExplainsRoutines m calls) (s : Scope) (v : Value) :
    ∀ ops : List (Comparison × Expr),
      Explains m.helpers (ofChain m calls s v ops) (evalChain m s v ops)
  | [] => .pure _
  | (op, e) :: rest =>
    (explains_expr hr s e).bind fun w => (Explains.only rfl).bind fun holds => by
      cases holds with
      | true => exact explains_chain hr s w rest
      | false => exact .pure _

end

theorem explains_admitted (hr : ExplainsRoutines m calls) (g : Gate) (v : Value) :
    Explains m.helpers (ofAdmitted m calls g v) (g.admitted m v) :=
  (Explains.only rfl).bind fun names =>
    (explains_expr hr (g.around.enter names) g.test).bind fun _ =>
      (Explains.only rfl).bind_calm fun holds => by cases holds <;> exact calm_pure _

theorem explains_gate (hr : ExplainsRoutines m calls) (g : Gate) (p : Place) :
    ∀ fuel, Explains m.helpers (ofGate m calls g p fuel) (g.next m p fuel)
  | 0 => .of_crash .noRoom
  | fuel + 1 => (Explains.only rfl).bind fun
    | none => .pure _
    | some v => (explains_admitted hr g v).bind fun
      | some _ => .pure _
      | none => explains_gate hr g p fuel

theorem explains_take (hr : ExplainsRoutines m calls) (p : Place) :
    Explains m.helpers (ofTake m calls p) (takeNext m p) := by
  refine Explains.after (calm_look _) fun l => ?_
  cases l.gate with
  | none => exact .only rfl
  | some g =>
    dsimp only
    split
    -- the condition is being tested already
    · exact .of_crash .badValue
    · refine Explains.after (calm_changeLoop _ _) fun _ => Explains.after (calm_steps _) fun n => ?_
      exact (explains_gate hr g p n).bind_calm fun _ =>
        (calm_changeLoop _ _).bind fun _ => calm_pure _

theorem explains_advance (hr : ExplainsRoutines m calls) (p : Place) :
    Explains m.helpers (ofAdvance m calls p) (Loop.advance (takeNext m p) p) := by
  refine Explains.after (calm_look _) fun l => ?_
  have hbegin (next : Option Value) : Calm (do
      if next.isSome then
        changeLoop p fun l =>
          { l with index := l.index + 1, before := l.current, current := next, after := none }
      return next) := by
    cases next with
    | none => exact calm_pure _
    | some v => exact (calm_changeLoop _ _).bind fun _ => calm_pure _
  cases l.after with
  | some v => exact (Explains.pure (some v)).bind_calm hbegin
  | none => exact (explains_take hr p).bind_calm hbegin

theorem explains_head (hr : ExplainsRoutines m calls) (s : Scope) :
    ∀ part : Target × Expr, Explains m.helpers (ofHead m calls s part) (headNames m s part)
  | (_, e) => (explains_expr hr s e).bind fun _ => .only rfl

theorem explains_block (hr : ExplainsRoutines m calls) (filter : Expr) {ofBody : Account}
    {body : Eval (Printed × Scope)} {next : Value → Account} {f : Value → Eval α}
    (hbody : Explains m.helpers ofBody body) (hnext : ∀ v, Explains m.helpers (next v) (f v)) :
    Explains m.helpers (ofBlock m calls filter ofBody body next) (do
      let (t, inner) ← body
      let v ← eval m { inner with collected := ← t.text } filter
      f v) :=
  hbody.bind fun (_, inner) => (Explains.only rfl).bind fun t =>
    (explains_expr hr { inner with collected := t } filter).bind hnext

/-- What names are given to is set without a crash. -/
theorem explains_set (helpers : List Helper) (target : Target) (v : Value) (s : Scope) :
    Explains helpers (only (.unpack target v)) (do
      let names ← bind target v
      return (some [], ← s.set names) : Eval (Printed × Scope)) :=
  (Explains.only rfl).bind_calm fun names => (calm_set names s).bind fun _ => calm_pure _

mutual

theorem explains_node (hr : ExplainsRoutines m calls) :
    ∀ (n : Node) (s : Scope), Explains m.helpers (ofNode m calls n s) (exec m n s)
  | .data _, _ => .pure _
  | .define _ _ _, s =>
    .of_calm ((calm_share s).bind fun (_, s) => (calm_set _ s).bind fun _ => calm_pure _)
  | .forget _, s => .of_calm ((calm_set _ s).bind fun _ => calm_pure _)
  | .print e, s =>
    (explains_expr hr s e).bind fun _ => (Explains.only rfl).bind_calm fun _ => calm_pure _
  | .forLoop target items test body otherwise, s =>
    (explains_expr hr s items).bind fun _ => (Explains.only rfl).bind fun _ =>
      Explains.after (calm_allocate _) fun p => Explains.after (calm_steps _) fun n => by
        have hround (v : Value) : Explains m.helpers
            (ofTarget target v fun names =>
              ofNodes m calls body (s.enter (names ++ [(("loop" : Text), .loop p)])))
            (round m s target body p v) :=
          (Explains.only rfl).bind fun names =>
            (explains_nodes hr body _).bind_calm fun _ => calm_pure _
        refine (Explains.rounds (explains_advance hr p) hround n).bind fun parts => ?_
        split
        · exact (explains_nodes hr otherwise (s.enter [])).bind_calm fun _ => calm_pure _
        · exact .pure _
  | .branch condition yes no, s =>
    (explains_expr hr s condition).bind fun v => (Explains.only rfl).bind fun holds => by
      cases holds with
      | true => exact explains_nodes hr yes s
      | false => exact explains_nodes hr no s
  | .assign target e, s =>
    (explains_expr hr s e).bind fun v => explains_set m.helpers target v s
  | .capture target filter body, s =>
    explains_block hr filter (explains_nodes hr body (s.enter []))
      fun v => explains_set m.helpers target v s
  | .scope bindings body, s =>
    (Explains.mapM (explains_head hr s) bindings).bind fun names =>
      (explains_nodes hr body (s.enter names.reverse.flatten)).bind_calm fun _ => calm_pure _
  | .filtered filter body, s =>
    explains_block hr filter (explains_nodes hr body (s.enter [])) fun _ => .pure _

theorem explains_nodes (hr : ExplainsRoutines m calls) :
    ∀ (ns : List Node) (s : Scope), Explains m.helpers (ofNodes m calls ns s) (execAll m ns s)
  | [], _ => .pure _
  | n :: rest, s =>
    (explains_node hr n s).bind fun (_, s) =>
      (explains_nodes hr rest s).bind_calm fun _ => calm_pure _

end

theorem explains_defaults (hr : ExplainsRoutines m calls) (arguments : Bindings) :
    ∀ (params : List (Text × Option Expr)) (s : Scope),
      Explains m.helpers (ofDefaults m calls arguments params s)
        (fillDefaults m arguments params s)
  | [], _ => .pure _
  | (n, default) :: rest, s => by
    unfold ofDefaults fillDefaults
    cases arguments.lookup n with
    | some _ => exact explains_defaults hr arguments rest s
    | none =>
      cases default with
      | some e =>
        exact (explains_expr hr s e).bind fun v =>
          explains_defaults hr arguments rest (s.enter [(n, v)])
      | none => exact explains_defaults hr arguments rest _

end

theorem explains_routine {m : Machine} {inner : Bindings → Value → Args → Account}
    (hr : ExplainsRoutines m inner) (top : Bindings) (name : Text)
    (params : List (Text × Option Expr)) (body : List Node) (around : Option Place) (a : Args) :
    Explains m.helpers (ofRoutine m inner top (.routine name params body around) a)
      (callRoutine m top (.routine name params body around) a) := by
  refine (Explains.only rfl).bind fun arguments => ?_
  refine Explains.after (calm_namesAt around) fun _ => ?_
  refine (explains_defaults hr arguments params _).bind fun s => ?_
  refine (explains_nodes hr body s).bind fun (t, _) => ?_
  exact (Explains.only rfl).bind_calm fun _ => calm_pure _

theorem explains_calls (helpers : List Helper) (given : Bindings) :
    ∀ depth, ExplainsRoutines (machine helpers given depth) (ofCalls helpers given depth)
  | 0 => fun _ _ _ _ _ _ => .of_crash .tooDeep
  | depth + 1 => by
    have h := explains_routine (explains_calls helpers given depth)
    rw [machine_helpers] at h
    exact h

/-- The rendering of a template crashes exactly where it comes to a demand that crashes. -/
theorem explains_template (helpers : List Helper) (given : Bindings) (nodes : List Node) :
    Explains helpers (ofTemplate helpers given nodes) (run helpers given nodes) := by
  have h := explains_nodes (explains_calls helpers given callDepth) nodes
  rw [machine_helpers] at h
  exact (h _).bind fun (_, _) => .only rfl

end Account

end Stencil.Template
