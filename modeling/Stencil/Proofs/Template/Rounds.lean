import Stencil.Proofs.Template.Evaluation

/-!
# Rounds of loops

A loop takes a value before each of its rounds, and the body may ask whether there is another one.
So the rounds go by an invariant of the store (`each_rounds`) : the loop has the rest of its list
before it (`Remaining`), or, if it has a condition, those of its values for which that holds
(`Admitting`). The rules for loops (`Makes.forLoop`, `Makes.forLoop_if`) take what the items of the
list stand for, one by one, and give the texts of the rounds one behind the other.
-/

namespace Stencil.Template

variable {α : Type} {m : Machine} {s : Scope} {store store' base : Store} {e : Expr} {vs : List Value}
  {n : Text} {ns body : List Node} {t u : Text} {resume : Resume} {p q : Place} {l : Loop}

/-! ## Loops -/

theorem Store.length_le_size {q : Nat} :
    ∀ {store : Store}, store[q]? = some (.list vs) → vs.length ≤ store.size
  | [], h => by cases h
  | o :: rest, h => by
    cases q with
    | zero =>
      obtain rfl : o = .list vs := Option.some.inj h
      exact Nat.le_add_right _ _
    | succ q =>
      have hrest : vs.length ≤ Store.size rest := length_le_size (q := q) h
      exact Nat.le_trans hrest (Nat.le_add_left _ _)

section

variable {next : Eval (Option Value)} {make : Value → Eval Printed} {f : Nat → α → Text}
  {I : Nat → List α → Store → Prop}

/-- The texts of the rounds of a loop, from an invariant of what is still to come. -/
theorem each_rounds
    (hdone : ∀ i store, I i [] store →
      ∃ store', next resume store = (.ok none, store') ∧ Keeps base store')
    (hround : ∀ i x xs store, I i (x :: xs) store → ∃ v store₁ store₂,
      next resume store = (.ok (some v), store₁) ∧ make v resume store₁ = (.ok (some (f i x)), store₂) ∧
        I (i + 1) xs store₂) :
    ∀ (fuel i : Nat) (xs : List α) (store : Store), I i xs store → xs.length < fuel →
      ∃ store', Loop.each next make fuel resume store =
        (.ok ((xs.mapIdx fun j x => f (i + j) x).map some), store') ∧ Keeps base store'
  | fuel + 1, i, [], store, h, _ => by
    obtain ⟨store', hnext, hk⟩ := hdone i store h
    exact ⟨store', given_bind_apply_of_ok hnext, hk⟩
  | fuel + 1, i, x :: xs, store, h, hlen => by
    obtain ⟨v, store₁, store₂, hnext, hmake, hrest⟩ := hround i x xs store h
    obtain ⟨store', heach, hk⟩ := each_rounds hdone hround fuel (i + 1) xs store₂ hrest
      (Nat.lt_of_succ_lt_succ hlen)
    refine ⟨store', (given_bind_apply_of_ok hnext).trans ((given_bind_apply_of_ok hmake).trans
      ((given_bind_apply_of_ok heach).trans ?_)), hk⟩
    rw [List.mapIdx_cons]
    simp only [Nat.add_right_comm, Nat.add_zero]
    rfl

end

theorem drop_eq_cons_iff {v : Value} {after : List Value} {i : Nat} :
    vs.drop i = v :: after ↔ ∃ hi : i < vs.length, vs[i] = v ∧ vs.drop (i + 1) = after := by
  constructor
  · intro h
    have hi : i < vs.length := by
      by_contra hend
      rw [List.drop_of_length_le (Nat.not_lt.mp hend)] at h
      cases h
    rw [List.drop_eq_getElem_cons hi] at h
    exact ⟨hi, List.cons.inj h⟩
  · rintro ⟨hi, rfl, rfl⟩
    exact List.drop_eq_getElem_cons hi

/-- What a loop over a list makes of its rounds, which begin with the loop in a new place. -/
theorem gives_forLoop {test : Option Expr} {texts : List Text}
    (he : Evaluates m s store e (.list q)) (hlist : store[q]? = some (.list vs))
    (hrounds : ∀ resume store₁ steps, Keeps store store₁ → vs.length < steps → ∃ store₂,
      Loop.each (Loop.advance (takeNext m store₁.length) store₁.length)
        (round m s (.name n) body store₁.length) steps resume
        (store₁ ++ [.loop (.start (.list q) (.list q 0) (test.map (⟨.name n, ·, s⟩)))]) =
          (.ok (texts.map some), store₂) ∧ Keeps store₁ store₂) :
    Gives store (exec m (.forLoop (.name n) e test body []) s) (some texts.flatten, s) := by
  intro resume store₀ hk₀
  obtain ⟨store₁, hv, hk₁⟩ := he resume store₀ hk₀
  let begun : Store :=
    store₁ ++ [.loop (.start (.list q) (.list q 0) (test.map (⟨.name n, ·, s⟩)))]
  have hsize : vs.length ≤ begun.size :=
    Store.length_le_size ((Keeps.append store₁ _).list ((hk₀.trans hk₁).list hlist))
  have hlen : vs.length < 0 + begun.size + room := by
    have hroom : 0 < room := by decide
    omega
  obtain ⟨store₂, heach, hk₂⟩ := hrounds resume store₁ _ (hk₀.trans hk₁) hlen
  have hsource : Source.of (.list q) resume store₁ = (.ok (.list q 0), store₁) := rfl
  have hnew (o : Object) : allocate o resume store₁ = (.ok store₁.length, store₁ ++ [o]) := rfl
  have hsteps : (Source.list q 0).steps resume begun = (.ok (0 + begun.size + room), begun) := rfl
  rw [exec_forLoop]
  refine ⟨store₂, (given_bind_apply_of_ok hv).trans ?_, hk₁.trans hk₂⟩
  refine (given_bind_apply_of_ok hsource).trans ((given_bind_apply_of_ok (hnew _)).trans ?_)
  refine (given_bind_apply_of_ok hsteps).trans ((given_bind_apply_of_ok heach).trans ?_)
  cases texts with
  | nil =>
    rw [List.map_nil, List.isEmpty_nil, if_pos rfl, execAll_nil]
    rfl
  | cons text texts =>
    rw [← Printed.all_map_some]
    rfl

theorem takeNext_apply (h : store[p]? = some (.loop l)) (hgate : l.gate = none) :
    takeNext m p resume store = Loop.take p resume store := by
  have hloop := loopAt_apply h resume
  refine (given_bind_apply_of_ok hloop).trans ?_
  rw [hgate]

theorem round_apply {v : Value} {store' : Store}
    (h : execAll m body (s.enter [(n, v), ("loop", .loop p)]) resume store =
      (.ok (some t, s.enter [(n, v), ("loop", .loop p)]), store')) :
    round m s (.name n) body p v resume store = (.ok (some t), store') := by
  rw [round, bind]
  exact given_bind_apply_of_ok h

/-! ## Loops over all values of a list -/

variable {R : α → Value → Prop} {x : α} {xs rest : List α} {i : Nat}

/-- A loop that is new since a store has the values of a list from a position on before it, which
stand for `rest`. -/
structure Remaining (R : α → Value → Prop) (base : Store) (p q : Place) (vs : List Value) (i : Nat)
    (rest : List α) (store : Store) : Prop where
  new : base[p]? = none
  list : base[q]? = some (.list vs)
  kept : Keeps base store
  loop : LoopAt store p q vs i
  items : List.Forall₂ R rest (vs.drop i)

namespace Remaining

theorem mono (h : Remaining R base p q vs i rest store) (hk : Keeps store store') :
    Remaining R base p q vs i rest store' :=
  ⟨h.new, h.list, h.kept.trans hk, hk.loop h.loop, h.items⟩

theorem advance_nil (h : Remaining R base p q vs i [] store) (m : Machine) (resume : Resume) :
    ∃ store', Loop.advance (takeNext m p) p resume store = (.ok none, store') ∧
      Keeps base store' := by
  obtain ⟨l, hl, hthrough⟩ := h.loop.loop
  have hend : vs.length ≤ i := List.drop_eq_nil_iff.mp (List.forall₂_nil_left_iff.mp h.items)
  obtain ⟨o, hadvance⟩ := h.loop.advance_of_le hend (takeNext_apply hl hthrough.gate)
  exact ⟨_, hadvance, h.kept.set h.new o⟩

theorem advance_cons (h : Remaining R base p q vs i (x :: rest) store) (m : Machine)
    (resume : Resume) :
    ∃ v store', Loop.advance (takeNext m p) p resume store = (.ok (some v), store') ∧ R x v ∧
      Remaining R base p q vs (i + 1) rest store' := by
  obtain ⟨v, after, hx, hrest, hdrop⟩ := List.forall₂_cons_left_iff.mp h.items
  obtain ⟨hi, rfl, rfl⟩ := drop_eq_cons_iff.mp hdrop
  obtain ⟨l, hl, hthrough⟩ := h.loop.loop
  obtain ⟨l', hadvance, hbegun⟩ := h.loop.advance_of_lt hi (takeNext_apply hl hthrough.gate)
  have hkept := h.kept.set h.new (.loop l')
  exact ⟨vs[i], _, hadvance, hx, h.new, h.list, hkept,
    ⟨hkept.list h.list, l', getElem?_set_loop hl _, hbegun⟩, hrest⟩

end Remaining

/-- A loop over a list. -/
theorem Makes.forLoop {f : Nat → α → Text} (he : Evaluates m s store e (.list q))
    (hlist : store[q]? = some (.list vs)) (hvs : List.Forall₂ R xs vs)
    (hbody : ∀ {store₁ p i x v}, Keeps store store₁ → LoopAt store₁ p q vs (i + 1) →
      i < xs.length → R x v →
      Makes m (s.enter [(n, v), ("loop", .loop p)]) store₁ body (f i x))
    (h : Makes m s store ns u) :
    Makes m s store (.forLoop (.name n) e none body [] :: ns) ((xs.mapIdx f).flatten ++ u) := by
  refine .cons (gives_forLoop he hlist fun resume store₁ steps hk hlen => ?_) h
  let I : Nat → List α → Store → Prop := Remaining R store₁ store₁.length q vs
  have hround (i : Nat) (x : α) (rest : List α) (store' : Store) (hI : I i (x :: rest) store') :
      ∃ v store₂ store₃, Loop.advance (takeNext m store₁.length) store₁.length resume store' =
          (.ok (some v), store₂) ∧
        round m s (.name n) body store₁.length v resume store₂ = (.ok (some (f i x)), store₃) ∧
        I (i + 1) rest store₃ := by
    obtain ⟨v, store₂, hadvance, hx, hrest⟩ := hI.advance_cons m resume
    have hi : i < xs.length := by
      have hlen := hI.items.length_eq
      rw [List.length_cons, List.length_drop, ← hvs.length_eq] at hlen
      omega
    obtain ⟨store₃, hmake, hk₃⟩ :=
      hbody (hk.trans hrest.kept) hrest.loop hi hx resume store₂ (.refl _)
    exact ⟨v, store₂, store₃, hadvance, round_apply hmake, hrest.mono hk₃⟩
  have hstart : I 0 xs (store₁ ++ [.loop (.start (.list q) (.list q 0) none)]) := by
    have hkept := Keeps.append store₁ [.loop (.start (.list q) (.list q 0) none)]
    refine ⟨List.getElem?_eq_none (Nat.le_refl _), hk.list hlist, hkept, ?_, hvs⟩
    exact ⟨hkept.list (hk.list hlist), _, List.getElem?_concat_length, rfl, rfl, .inl ⟨rfl, rfl⟩⟩
  have hrounds := each_rounds (fun _ _ hI => hI.advance_nil m resume) hround steps 0 xs _ hstart
    (hvs.length_eq ▸ hlen)
  simp only [Nat.zero_add] at hrounds
  exact hrounds

/-- What is made of each item may leave its number out. -/
theorem mapIdx_const {β : Type} (g : α → β) (xs : List α) : xs.mapIdx (fun _ => g) = xs.map g :=
  List.ext_getElem (by simp) (by simp)

/-! ## Loops with a condition -/

variable {holds : α → Bool} {g : Gate} {test : Expr} {v : Value}

theorem gives_admitted {b : Bool}
    (htest : Evaluates m (s.enter [(n, v)]) store test (.bool b)) :
    Gives store (Gate.admitted m ⟨.name n, test, s⟩ v) (if b then some v else none) := by
  have hnames : Gives store (bind (.name n) v) [(n, v)] := by
    rw [bind]
    exact gives_pure _
  have hvalue : targetValue [(n, v)] (.name n) = v := by simp [targetValue]
  refine hnames.bind (htest.bind ((gives_truth_bool b).bind ?_))
  cases b with
  | false => exact gives_pure none
  | true =>
    rw [hvalue]
    exact gives_pure (some v)

/-- What a loop with a condition finds in the rest of its list, of which it has the items `kept` to
give : the value of the first one, and where it goes on. -/
inductive Found (R : α → Value → Prop) (holds : α → Bool) (q : Place) (vs : List Value) :
    List α → Option Value → Source → Prop
  | nothing (source : Source) : Found R holds q vs [] none source
  | item {x : α} {v : Value} {xs : List α} {i : Nat} (hx : R x v)
      (hxs : List.Forall₂ R xs (vs.drop i)) :
    Found R holds q vs (x :: xs.filter holds) (some v) (.list q i)

/-- The search for the next value leaves out those for which the condition does not hold. -/
theorem Gate.next_apply {fuel : Nat} (hdecides : ∀ x v, R x v →
      Gives base (g.admitted m v) (if holds x then some v else none))
    (hnew : base[p]? = none) (hlist : base[q]? = some (.list vs)) (resume : Resume)
    (hk : Keeps base store) (hl : store[p]? = some (.loop l)) (hgate : l.gate = some g)
    (hsource : l.source = .list q i) (hxs : List.Forall₂ R xs (vs.drop i))
    (hlen : xs.length < fuel) :
    ∃ next source store', g.next m p fuel resume store = (.ok next, store') ∧
      Keeps base store' ∧ store'[p]? = some (.loop { l with source }) ∧
      Found R holds q vs (xs.filter holds) next source := by
  induction fuel generalizing xs i store l with
  | zero => exact absurd hlen (Nat.not_lt_zero _)
  | succ fuel ih =>
    have hgiven := next_list (hk.list hlist) i resume
    rw [← hsource] at hgiven
    have htake := Loop.take_apply hl hgiven
    cases xs with
    | nil =>
      have hend : vs.length ≤ i := List.drop_eq_nil_iff.mp (List.forall₂_nil_left_iff.mp hxs)
      rw [List.getElem?_eq_none hend] at htake
      exact ⟨none, .done, _, given_bind_apply_of_ok htake, hk.set hnew _,
        getElem?_set_loop hl _, .nothing _⟩
    | cons x xs =>
      obtain ⟨v, after, hx, hxs, hdrop⟩ := List.forall₂_cons_left_iff.mp hxs
      obtain ⟨hi, rfl, rfl⟩ := drop_eq_cons_iff.mp hdrop
      rw [List.getElem?_eq_getElem hi] at htake
      have hk₁ := hk.set hnew (.loop { l with source := .list q (i + 1) })
      obtain ⟨store₂, hadmitted, hk₂⟩ := hdecides x _ hx resume _ hk₁
      -- the test has left the loop alone
      have hl₂ := hk₂.gated (getElem?_set_loop hl _) (by simp [hgate])
      cases hholds : holds x with
      | true =>
        rw [hholds, if_pos rfl] at hadmitted
        rw [List.filter_cons_of_pos hholds]
        exact ⟨some vs[i], _, store₂, (given_bind_apply_of_ok htake).trans
          (given_bind_apply_of_ok hadmitted), hk₁.trans hk₂, hl₂, .item hx hxs⟩
      | false =>
        rw [hholds, if_neg Bool.false_ne_true] at hadmitted
        rw [List.filter_cons_of_neg (by simp [hholds])]
        obtain ⟨next, source, store', hnext, hk', hl', hfound⟩ :=
          ih (hk₁.trans hk₂) hl₂ hgate rfl hxs (Nat.lt_of_succ_lt_succ hlen)
        exact ⟨next, source, store', (given_bind_apply_of_ok htake).trans
          ((given_bind_apply_of_ok hadmitted).trans hnext), hk', hl', hfound⟩

/-- A loop with a condition that is new since a store has the items `kept` before it. -/
structure Admitting (R : α → Value → Prop) (holds : α → Bool) (g : Gate) (base : Store)
    (p q : Place) (vs : List Value) (kept : List α) (store : Store) : Prop where
  new : base[p]? = none
  list : base[q]? = some (.list vs)
  keeps : Keeps base store
  loop : ∃ l xs i, store[p]? = some (.loop l) ∧ l.gate = some g ∧ l.busy = false ∧
    l.after = none ∧ l.source = .list q i ∧ List.Forall₂ R xs (vs.drop i) ∧ xs.filter holds = kept

namespace Admitting

theorem mono (h : Admitting R holds g base p q vs xs store) (hk : Keeps store store') :
    Admitting R holds g base p q vs xs store' := by
  obtain ⟨l, xs, i, hl, hgate, hrest⟩ := h.loop
  exact ⟨h.new, h.list, h.keeps.trans hk, l, xs, i, hk.gated hl (by simp [hgate]), hgate, hrest⟩

/-- The next value for which the condition holds. -/
theorem takeNext_apply (h : Admitting R holds g base p q vs xs store)
    (hdecides : ∀ x v, R x v → Gives base (g.admitted m v) (if holds x then some v else none))
    (resume : Resume) :
    ∃ (next : Option Value) (l : Loop) (store' : Store),
      takeNext m p resume store = (.ok next, store') ∧ Keeps base store' ∧
      store'[p]? = some (.loop l) ∧ l.gate = some g ∧ l.busy = false ∧ l.after = none ∧
      Found R holds q vs xs next l.source := by
  obtain ⟨l, xs, i, hl, hgate, hbusy, hafter, hsource, hxs, rfl⟩ := h.loop
  have hloop := loopAt_apply hl resume
  let testing : Store := store.set p (.loop { l with busy := true })
  have hk₁ : Keeps base testing := h.keeps.set h.new _
  have hsteps : l.source.steps resume testing = (.ok (0 + testing.size + room), testing) := by
    rw [hsource]
    rfl
  have hlen : xs.length < 0 + testing.size + room := by
    have hdrop := hxs.length_eq
    have hsize : vs.length ≤ testing.size := Store.length_le_size (hk₁.list h.list)
    have hroom : 0 < room := by decide
    rw [List.length_drop] at hdrop
    omega
  obtain ⟨next, source, store₂, hnext, hk₂, hl₂, hfound⟩ := Gate.next_apply hdecides h.new h.list
    resume hk₁ (getElem?_set_loop hl (.loop { l with busy := true })) hgate hsource hxs hlen
  let found : Loop := { l with busy := false, source }
  refine ⟨next, found, store₂.set p (.loop found), (given_bind_apply_of_ok hloop).trans ?_,
    hk₂.set h.new _, getElem?_set_loop hl₂ _, hgate, rfl, hafter, hfound⟩
  rw [hgate]
  dsimp only
  rw [hbusy, if_neg Bool.false_ne_true]
  refine (given_bind_apply_of_ok (changeLoop_apply _ hl)).trans ?_
  refine (given_bind_apply_of_ok hsteps).trans ((given_bind_apply_of_ok hnext).trans ?_)
  exact given_bind_apply_of_ok (changeLoop_apply _ hl₂)

theorem advance_nil (h : Admitting R holds g base p q vs [] store)
    (hdecides : ∀ x v, R x v → Gives base (g.admitted m v) (if holds x then some v else none))
    (resume : Resume) :
    ∃ store', Loop.advance (takeNext m p) p resume store = (.ok none, store') ∧
      Keeps base store' := by
  obtain ⟨next, l, store', htake, hk, -, -, -, -, hfound⟩ := h.takeNext_apply hdecides resume
  cases hfound
  obtain ⟨l, xs, i, hl, -, -, hafter, -⟩ := h.loop
  rw [← Loop.upcoming_of_none (takeNext m p) hafter] at htake
  exact ⟨store', Loop.advance_none hl htake, hk⟩

theorem advance_cons (h : Admitting R holds g base p q vs (x :: rest) store)
    (hdecides : ∀ x v, R x v → Gives base (g.admitted m v) (if holds x then some v else none))
    (resume : Resume) :
    ∃ v store', Loop.advance (takeNext m p) p resume store = (.ok (some v), store') ∧ R x v ∧
      Admitting R holds g base p q vs rest store' := by
  obtain ⟨next, l', store', htake, hk, hl', hgate', hbusy', -, hfound⟩ :=
    h.takeNext_apply hdecides resume
  obtain ⟨l, xs, i, hl, -, -, hafter, -⟩ := h.loop
  rw [← Loop.upcoming_of_none (takeNext m p) hafter] at htake
  generalize hsource : l'.source = source at hfound
  cases hfound with
  | item hx hxs =>
    refine ⟨_, _, Loop.advance_some hl hl' htake, hx, h.new, h.list, hk.set h.new _, ?_⟩
    exact ⟨_, _, _, getElem?_set_loop hl' _, hgate', hbusy', rfl, hsource, hxs, rfl⟩

end Admitting

/-- A loop over the values of a list for which a condition holds. -/
theorem Makes.forLoop_if {f : α → Text} (he : Evaluates m s store e (.list q))
    (hlist : store[q]? = some (.list vs)) (hvs : List.Forall₂ R xs vs)
    (htest : ∀ x v, R x v → Evaluates m (s.enter [(n, v)]) store test (.bool (holds x)))
    (hbody : ∀ {store₁ p x v}, Keeps store store₁ → R x v →
      Makes m (s.enter [(n, v), ("loop", .loop p)]) store₁ body (f x))
    (h : Makes m s store ns u) :
    Makes m s store (.forLoop (.name n) e (some test) body [] :: ns)
      ((xs.filter holds).flatMap f ++ u) := by
  rw [List.flatMap_def, ← mapIdx_const]
  refine .cons (gives_forLoop he hlist fun resume store₁ steps hk hlen => ?_) h
  let g : Gate := ⟨.name n, test, s⟩
  have hdecides (x : α) (v : Value) (hx : R x v) :
      Gives store₁ (g.admitted m v) (if holds x then some v else none) :=
    gives_admitted ((htest x v hx).mono hk)
  let I : Nat → List α → Store → Prop :=
    fun _ => Admitting R holds g store₁ store₁.length q vs
  have hround (i : Nat) (x : α) (rest : List α) (store' : Store) (hI : I i (x :: rest) store') :
      ∃ v store₂ store₃, Loop.advance (takeNext m store₁.length) store₁.length resume store' =
          (.ok (some v), store₂) ∧
        round m s (.name n) body store₁.length v resume store₂ = (.ok (some (f x)), store₃) ∧
        I (i + 1) rest store₃ := by
    obtain ⟨v, store₂, hadvance, hx, hrest⟩ := hI.advance_cons hdecides resume
    obtain ⟨store₃, hmake, hk₃⟩ := hbody (hk.trans hrest.keeps) hx resume store₂ (.refl _)
    exact ⟨v, store₂, store₃, hadvance, round_apply hmake, hrest.mono hk₃⟩
  have hstart : I 0 (xs.filter holds)
      (store₁ ++ [.loop (.start (.list q) (.list q 0) (some g))]) :=
    ⟨List.getElem?_eq_none (Nat.le_refl _), hk.list hlist, .append store₁ _, _, xs, 0,
      List.getElem?_concat_length, rfl, rfl, rfl, rfl, hvs, rfl⟩
  have hkept : (xs.filter holds).length < steps :=
    Nat.lt_of_le_of_lt (List.length_filter_le _ _) (hvs.length_eq ▸ hlen)
  exact each_rounds (fun _ _ hI => hI.advance_nil hdecides resume) hround steps 0 _ _ hstart hkept
/-! ## What a body asks of its loop -/

/-- The number of the current round. -/
theorem LoopAt.gives_index0 (h : LoopAt store p q vs (i + 1)) :
    Gives store (attribute? (.loop p) "index0") (some (.int i)) := by
  intro resume store₁ hk
  obtain ⟨l, hl, hthrough⟩ := (hk.loop h).loop
  refine ⟨store₁, ?_, .refl store₁⟩
  have hindex : attribute? (.loop p) "index0" resume store₁ =
      (.ok (some (.int ((store₁.loop p).index - 1))), store₁) := rfl
  have hround : ((i + 1 : Nat) : Int) - 1 = i := by omega
  rw [hindex, Store.loop_of_getElem? hl, hthrough.index, hround]

/-- Whether the current round is the last one, for which the next value is taken. -/
theorem LoopAt.gives_last (h : LoopAt store p q vs (i + 1)) (hi : i < vs.length) :
    Gives store (attribute? (.loop p) "last") (some (.bool (i + 1 = vs.length))) := by
  intro resume store₁ hk
  obtain ⟨store₂, hpeek, hk₂⟩ := h.gives_peek resume store₁ hk
  have hlast : vs[i + 1]?.isNone = decide (i + 1 = vs.length) := by
    rw [Bool.eq_iff_iff, Option.isNone_iff_eq_none, List.getElem?_eq_none_iff, decide_eq_true_iff]
    omega
  have hasks : attribute? (.loop p) "last" resume store₁ =
      (do return some (.bool (← Loop.peek p).isNone) : Eval (Option Value)) resume store₁ := rfl
  refine ⟨store₂, ?_, hk₂⟩
  rw [hasks, given_bind_apply_of_ok hpeek, ← hlast]
  rfl

/-- A comma, but not in the last round of a loop. -/
def comma : Node := .branch (.not (.attr (.name "loop") "last")) [.data ", "] []

theorem makes_comma (h : s.value m "loop" = .loop p) (hat : LoopAt store p q vs (i + 1))
    (hi : i < vs.length) : Makes m s store [comma] (if i + 1 = vs.length then [] else ", ") := by
  have hlast : Evaluates m s store (.attr (.name "loop") "last") (.bool (i + 1 = vs.length)) :=
    (evaluates_name h).attr (hat.gives_last hi)
  have hbody : Makes m s store (if !decide (i + 1 = vs.length) then [.data ", "] else [])
      (if i + 1 = vs.length then [] else ", ") := by
    by_cases hend : i + 1 = vs.length
    · simpa [hend] using makes_nil
    · simpa [hend] using makes_nil.data ", "
  have hbranch := Makes.branch hlast.not (gives_truth_bool _) hbody makes_nil
  rwa [List.append_nil] at hbranch

/-! ## Lists with commas -/

/-- Texts with a separator behind all but the last one are the joined texts. -/
theorem flatten_mapIdx_separated (sep : Text) (g : Nat → α → Text) (xs : List α) :
    (xs.mapIdx fun i x => g i x ++ if i + 1 = xs.length then [] else sep).flatten =
      Text.joined sep (xs.mapIdx g) := by
  induction xs generalizing g with
  | nil => rfl
  | cons x xs ih =>
    have hrest := ih fun i => g (i + 1)
    simp only [List.mapIdx_cons, List.flatten_cons, List.length_cons, Nat.add_right_cancel_iff,
      hrest]
    cases xs with
    | nil => simp [Text.joined]
    | cons y xs => simp [Text.joined, List.mapIdx_cons]

/-- A loop that makes a text of each item makes the texts with commas between them. -/
theorem Makes.listed {f : Nat → α → Text} (he : Evaluates m s store e (.list q))
    (hlist : store[q]? = some (.list vs)) (hvs : List.Forall₂ R xs vs) (hloop : n ≠ "loop".toList)
    (hbody : ∀ {store₁ p i x v}, Keeps store store₁ → LoopAt store₁ p q vs (i + 1) →
      i < xs.length → R x v →
      Makes m (s.enter [(n, v), ("loop", .loop p)]) store₁ body (f i x))
    (h : Makes m s store ns u) :
    Makes m s store (.forLoop (.name n) e none (body ++ [comma]) [] :: ns)
      (Text.joined ", " (xs.mapIdx f) ++ u) := by
  rw [← flatten_mapIdx_separated]
  refine .forLoop he hlist hvs (fun {store₁ p i x v} hk hat hi hx => ?_) h
  have hround : (s.enter [(n, v), ("loop", .loop p)]).value m "loop" = .loop p := by
    rw [Scope.value_enter, List.lookup_cons, beq_false_of_ne hloop.symm, List.lookup_cons_self]
    rfl
  have hcomma := makes_comma hround hat (hvs.length_eq ▸ hi)
  rw [← hvs.length_eq] at hcomma
  exact gives_execAll_append (hbody hk hat hi hx) hcomma

end Stencil.Template
