import Stencil.Proofs.Template.Keeping
import Stencil.Template.Render

/-!
# How templates are evaluated

`Evaluates` : an expression has a value. `Makes` : statements make a text. Both are about templates
that keep the lists and tables and change nothing but their own loops (`Gives`); the names that are
set are the same behind. There is a rule for each form of expression and statement.
-/

namespace Stencil.Template

variable {α : Type} {m : Machine} {s : Scope} {store : Store}

/-! ## Names -/

theorem Scope.value_enter (m : Machine) (s : Scope) (names : Bindings) (n : Text) :
    (s.enter names).value m n = (names.lookup n).getD (s.value m n) := by
  rw [value, enter, value, Option.getD_some, List.lookup_append]
  cases names.lookup n <;> rfl

/-- A name that is not set stands for what it stands for without the template. -/
theorem Scope.value_of_lookup_eq_none {n : Text} (hown : (s.own.getD []).lookup n = none)
    (htop : s.top.lookup n = none) : s.value m n = m.value n := by
  rw [value, hown, htop]
  rfl

theorem Scope.value_given {helpers : List Helper} {given : Bindings} {depth : Nat} {n : Text}
    {v : Value} (hown : (s.own.getD []).lookup n = none) (htop : s.top.lookup n = none)
    (h : given.lookup n = some v) : s.value (machine helpers given depth) n = v := by
  rw [value_of_lookup_eq_none hown htop, Machine.value, machine_given, h]
  rfl

/-! ## Expressions -/

/-- An expression has a value. -/
def Evaluates (m : Machine) (s : Scope) (store : Store) (e : Expr) (v : Value) : Prop :=
  Gives store (eval m s e) v

/-- Expressions have values, one by one. -/
def EvaluatesAll (m : Machine) (s : Scope) (store : Store) (es : List Expr) (vs : List Value) :
    Prop :=
  Gives store (evalAll m s es) vs

variable {e f : Expr} {es : List Expr} {v w : Value} {vs : List Value} {n : Text}

theorem evaluates_name (h : s.value m n = v) : Evaluates m s store (.name n) v := by
  rw [Evaluates, eval, h]
  exact gives_pure v

theorem evaluates_text (t : Text) : Evaluates m s store (.text t) (.text t) := by
  rw [Evaluates, eval_text]
  exact gives_pure _

theorem evaluates_int (i : Nat) : Evaluates m s store (.int i) (.int i) := by
  rw [Evaluates, eval]
  exact gives_pure _

theorem evaluatesAll_nil : EvaluatesAll m s store [] [] := by
  rw [EvaluatesAll, evalAll_nil]
  exact gives_pure []

theorem EvaluatesAll.cons (he : Evaluates m s store e v) (hes : EvaluatesAll m s store es vs) :
    EvaluatesAll m s store (e :: es) (v :: vs) := by
  rw [EvaluatesAll, evalAll]
  exact he.bind (hes.bind (gives_pure (v :: vs)))

theorem Evaluates.attr (he : Evaluates m s store e v)
    (h : Gives store (attribute? v n) (some w)) : Evaluates m s store (.attr e n) w := by
  rw [Evaluates, eval]
  exact he.bind (h.bind (gives_pure w))

/-- The first item of a list. -/
theorem Evaluates.first {p : Place} (he : Evaluates m s store e (.list p))
    (h : store[p]? = some (.list (v :: vs))) : Evaluates m s store (.item e (.int 0)) v := by
  have hfirst : itemAt? (v :: vs) (.int 0) = some v := by
    simp [itemAt?, integer?, nth?, position?]
  have hitem : Gives store (item? (.list p) (.int 0)) (some v) := by
    rw [← hfirst]
    exact (gives_itemsAt h).bind (gives_pure _)
  rw [Evaluates, eval]
  exact he.bind ((evaluates_int 0).bind (hitem.bind (gives_pure v)))

/-- Arguments by position. -/
theorem EvaluatesAll.arguments (h : EvaluatesAll m s store es vs) :
    Gives store (argumentsOf (evalAll m s es) (evalMore m s none) (evalNamed m s [])
      (evalOthers m s none)) ⟨vs, []⟩ := by
  have hargs : Gives store (argumentsOf (evalAll m s es) (pure []) (pure []) pure) ⟨vs ++ [], []⟩ :=
    h.bind (gives_of_eq fun _ _ => rfl)
  rw [List.append_nil] at hargs
  rw [evalMore_none, evalNamed_nil, funext (evalOthers_none m s)]
  exact hargs

theorem Evaluates.call {g : Value} (hf : Evaluates m s store f g)
    (hargs : EvaluatesAll m s store es vs) (h : Gives store (call m s g ⟨vs, []⟩) v) :
    Evaluates m s store (.call f es [] none none) v := by
  rw [Evaluates, eval]
  exact hf.bind (hargs.arguments.bind h)

theorem Evaluates.filter {g : Filter} (he : Evaluates m s store e v)
    (hg : Filter.named? m.helpers n = some g) (h : Gives store (g.apply v ⟨[], []⟩) w) :
    Evaluates m s store (.filter e n [] [] none none) w := by
  rw [Evaluates, eval, hg]
  exact he.bind (evaluatesAll_nil.arguments.bind h)

theorem Evaluates.not {b : Bool} (he : Evaluates m s store e (.bool b)) :
    Evaluates m s store (.not e) (.bool !b) := by
  rw [Evaluates, eval]
  exact he.bind (gives_of_eq fun _ _ => rfl)

theorem Evaluates.compare {op : Comparison} {b : Bool} (hf : Evaluates m s store f w)
    (he : Evaluates m s store e v) (h : Gives store (Test.compareBy op v w) b) :
    Evaluates m s store (.compare e [(op, f)]) (.bool b) := by
  have hchain : Gives store (evalChain m s v [(op, f)]) b := by
    rw [evalChain]
    refine hf.bind (h.bind ?_)
    cases b with
    | false => exact gives_pure false
    | true =>
      rw [evalChain_nil]
      exact gives_pure true
  rw [Evaluates, eval]
  exact he.bind (hchain.bind (gives_pure _))

theorem gives_eq_int (i j : Int) : Gives store (Test.compareBy .eq (.int i) (.int j)) (i = j) := by
  have hequal (resume : Resume) (store : Store) : Test.compareBy .eq (.int i) (.int j) resume store =
      (.ok (some (Ord.compare i j) == some Ordering.eq), store) := rfl
  have hsame : (some (Ord.compare i j) == some Ordering.eq) = decide (i = j) := by
    rw [Bool.eq_iff_iff, beq_iff_eq, Option.some_inj, Std.LawfulEqOrd.compare_eq_iff_eq,
      decide_eq_true_iff]
  rw [← hsame]
  exact gives_of_eq hequal

theorem gives_ne_text (t u : Text) :
    Gives store (Test.compareBy .ne (.text t) (.text u)) (t != u) :=
  gives_of_eq fun _ _ => rfl

/-- A list counts as true unless it is empty. -/
theorem gives_truth_list {R : α → Value → Prop} {xs : List α} {p : Place}
    (h : store[p]? = some (.list vs)) (hvs : List.Forall₂ R xs vs) :
    Gives store (truth (.list p)) !xs.isEmpty := by
  have hempty : vs.isEmpty = xs.isEmpty := by cases hvs <;> rfl
  rw [← hempty]
  exact (gives_itemsAt h).bind (gives_pure _)

theorem gives_length_list {p : Place} (h : store[p]? = some (.list vs)) :
    Gives store (Filter.size.apply (.list p) ⟨[], []⟩) (.int vs.length) := by
  have hsize : Gives store (sizeWith? Loop.length (.list p)) (some vs.length) :=
    (gives_itemsAt h).bind (gives_pure _)
  have hlength : Gives store (length (.list p)) vs.length := hsize.bind (gives_pure _)
  exact (gives_of_eq fun _ _ => rfl : Gives store (noArguments ⟨[], []⟩) ()).bind
    (hlength.bind (gives_pure _))

theorem Evaluates.concat {t u : Text} (he : Evaluates m s store e (.text t))
    (hf : Evaluates m s store f (.text u)) :
    Evaluates m s store (.concat [e, f]) (.text (t ++ u)) := by
  have hparts : EvaluatesAll m s store [e, f] [.text t, .text u] :=
    .cons he (.cons hf evaluatesAll_nil)
  have hshown : Gives store (shownAll [.text t, .text u]) (t ++ (u ++ [])) := by
    rw [shownAll, List.mapM_cons, List.mapM_cons, List.mapM_nil]
    exact gives_of_eq fun _ _ => rfl
  rw [List.append_nil] at hshown
  rw [Evaluates, eval]
  exact hparts.bind (hshown.bind (gives_pure _))

/-- A number is shown by its digits, unless there are too many of them. -/
theorem gives_shown_nat {i : Nat} (hi : i < Decimal.pow10 4300) :
    Gives store (shown (.int i)) (Text.ofNat i) := by
  have hint : shownInt i = pure (Text.ofNat i) := by
    rw [shownInt, Int.natAbs_natCast, if_neg (Nat.not_le.mpr hi)]
    rfl
  simp only [shown, display, displayWith, hint]
  exact gives_pure _

/-! ## Statements -/

namespace Printed

@[simp] theorem all_pair (t u : Text) : all [some t, some u] = some (t ++ u) := by
  simp [all]

theorem all_map_some (ts : List Text) : all (ts.map some) = some ts.flatten := by
  have hparts : (ts.map some).mapM id = some ts := by
    rw [List.mapM_map]
    exact (List.mapM_pure (m := Option) (f := id)).trans (congrArg some (List.map_id ts))
  rw [all, hparts]
  rfl

@[simp] theorem all_nil_left (u : Printed) : all [some [], u] = u := by
  cases u <;> simp [all]

theorem all_assoc (t u w : Printed) : all [all [t, u], w] = all [t, all [u, w]] := by
  rcases t with _ | t <;> rcases u with _ | u <;> rcases w with _ | w <;> simp [all]

end Printed

/-- Statements make a text, and the names stay as they are. -/
def Makes (m : Machine) (s : Scope) (store : Store) (ns : List Node) (t : Text) : Prop :=
  Gives store (execAll m ns s) (some t, s)

variable {ns ns' body yes no : List Node} {node : Node} {t u : Text}

theorem Makes.of_eq (h : Makes m s store ns t) (ht : t = u) : Makes m s store ns u := by
  rwa [← ht]

theorem makes_nil : Makes m s store [] [] := by
  rw [Makes, execAll_nil]
  exact gives_pure _

theorem Makes.cons (h : Gives store (exec m node s) (some t, s)) (hns : Makes m s store ns u) :
    Makes m s store (node :: ns) (t ++ u) := by
  rw [Makes, execAll, ← Printed.all_pair]
  exact h.bind (hns.bind (gives_pure _))

theorem execAll_append (m : Machine) (ns ns' : List Node) (s : Scope) :
    execAll m (ns ++ ns') s = (do
      let (t, s) ← execAll m ns s
      let (u, s) ← execAll m ns' s
      return (.all [t, u], s)) := by
  induction ns generalizing s with
  | nil => simp
  | cons node ns ih =>
    simp only [List.cons_append, execAll, ih, bind_assoc, pure_bind, Printed.all_assoc]

theorem gives_execAll_append {s₁ s₂ : Scope} (hns : Gives store (execAll m ns s) (some t, s₁))
    (hns' : Gives store (execAll m ns' s₁) (some u, s₂)) :
    Gives store (execAll m (ns ++ ns') s) (some (t ++ u), s₂) := by
  rw [execAll_append, ← Printed.all_pair]
  exact hns.bind (hns'.bind (gives_pure _))

theorem Makes.data (t : Text) (h : Makes m s store ns u) :
    Makes m s store (.data t :: ns) (t ++ u) := by
  refine .cons ?_ h
  rw [exec_data]
  exact gives_pure _

theorem Makes.print_shown (he : Evaluates m s store e v) (hv : Gives store (shown v) t)
    (h : Makes m s store ns u) : Makes m s store (.print e :: ns) (t ++ u) := by
  refine .cons ?_ h
  rw [exec]
  exact he.bind (hv.bind (gives_pure _))

theorem Makes.print (he : Evaluates m s store e (.text t)) (h : Makes m s store ns u) :
    Makes m s store (.print e :: ns) (t ++ u) :=
  h.print_shown he (gives_of_eq fun _ _ => rfl)

theorem Makes.branch {b : Bool} (he : Evaluates m s store e v) (hv : Gives store (truth v) b)
    (hbody : Makes m s store (if b then yes else no) t) (h : Makes m s store ns u) :
    Makes m s store (.branch e yes no :: ns) (t ++ u) := by
  refine .cons ?_ h
  rw [exec]
  refine he.bind (hv.bind ?_)
  cases b <;> exact hbody

theorem gives_truth_bool (b : Bool) : Gives store (truth (.bool b)) b :=
  gives_of_eq fun _ _ => rfl

/-! ## Routines -/

theorem spareGiven_of_takes {name : Text} (h : Node.takes body name = false) (params : List Text)
    (x : Eval Value) : spareGiven params body name true x = pure [] := by
  rw [spareGiven, readsSpare, h]
  rfl

theorem callerGiven_of_takes (h : Node.takes body "caller" = false) (params later : List Text)
    (named : Bindings) : callerGiven params later body named = pure ([], named) := by
  rw [callerGiven, h]
  rfl

/-- One argument is what the only parameter stands for, where the body asks for nothing else. -/
theorem givenTo_one {p : Text} (hbody : Node.spareNames body = []) (v : Value) :
    givenTo [p] body ⟨[v], []⟩ = pure [(p, v)] := by
  have htakes (name : Text) (h : name ∈ (["caller", "kwargs", "varargs"] : List Text)) :
      Node.takes body name = false :=
    Bool.eq_false_iff.mpr (List.filter_eq_nil_iff.mp hbody name h)
  change callerGiven [p] [] body [] >>= _ = _
  rw [callerGiven_of_takes (htakes _ (by simp)), pure_bind]
  change spareGiven [p] body "kwargs" true _ >>= _ = _
  rw [spareGiven_of_takes (htakes _ (by simp)), pure_bind]
  change spareGiven [p] body "varargs" true _ >>= _ = _
  rw [spareGiven_of_takes (htakes _ (by simp)), pure_bind]
  rfl

/-- A call of a routine with one parameter, of whose names the text depends only on that one. -/
theorem Evaluates.routine {helpers : List Helper} {given : Bindings} {depth : Nat}
    {name p : Text} (hf : Evaluates (machine helpers given (depth + 1)) s store f
      (.routine name [(p, none)] body none)) (hspare : Node.spareNames body = [])
    (he : Evaluates (machine helpers given (depth + 1)) s store e v)
    (hbody : ∀ s' : Scope, s'.value (machine helpers given depth) p = v →
      Makes (machine helpers given depth) s' store body t) :
    Evaluates (machine helpers given (depth + 1)) s store (.call f [e] [] none none) (.text t) := by
  let routine : Value := .routine name [(p, none)] body none
  let inner : Scope := ⟨s.top, some [(p, v), (p, .unset p)], none, []⟩
  have hgiven : Gives store (givenTo [p] body ⟨[v], []⟩) [(p, v)] := by
    rw [givenTo_one hspare]
    exact gives_pure _
  have hfill : Gives store (fillDefaults (machine helpers given depth) [(p, v)] [(p, none)] inner)
      inner := by
    simp only [fillDefaults, List.lookup_cons_self]
    exact gives_pure _
  have hvalue : inner.value (machine helpers given depth) p = v := by
    simp [Scope.value, inner]
  have hinvoke : Gives store
      (callRoutine (machine helpers given depth) s.top routine ⟨[v], []⟩) (.text t) :=
    hgiven.bind ((gives_pure []).bind
      (hfill.bind ((hbody _ hvalue).bind ((gives_pure t).bind (gives_pure _)))))
  exact .call hf (.cons he evaluatesAll_nil) hinvoke

/-! ## Templates -/

theorem compile_of_parse {helpers : List Helper} {template : Text} {nodes : List Node}
    (hparse : parse template = .ok nodes) (hcheck : Check.nodes helpers false nodes = [])
    (hlimits : Limits.nodes 0 1 nodes = true) :
    compile helpers template = .ok (Node.settled nodes) := by
  rw [compile, hparse]
  refine bind_eq_ok_iff.mpr ⟨nodes, rfl, ?_⟩
  rw [hcheck, hlimits]
  rfl

/-- The text of a template is what its statements make, with what they are given. -/
theorem render_of_gives {helpers : List Helper} {template : Text} {nodes : List Node}
    {exposed : Exposed} {kind : RecordKind} {fields given : Bindings} {s : Scope}
    (hcompile : compile helpers template = .ok nodes)
    (hroot : exposed.root = .record kind fields)
    (hgiven : contextOf fields unanswered exposed.store = (.ok given, store))
    (h : Gives store (execAll (machine helpers given callDepth) nodes
      ⟨(Node.unset nodes).map fun n => (n, .unset n), none, none, []⟩) (some t, s)) :
    (render helpers template exposed).1 = .ok t := by
  obtain ⟨store', hexec, -⟩ := h (resumeAt helpers given frames) store (.refl store)
  have hrun : runOn helpers nodes exposed.root exposed.store = (.ok t, store') := by
    rw [hroot]
    exact (bind_apply_of_ok hgiven).trans (given_bind_apply_of_ok hexec)
  simp only [render, hcompile, hrun]

end Stencil.Template
