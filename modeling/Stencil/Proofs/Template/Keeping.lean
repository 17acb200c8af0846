import Stencil.Proofs.Outcome
import Stencil.Template.Loop

/-!
# What computations keep

Rendering puts loops into the store, and a loop has come further behind each of its rounds. `Keeps` :
what the lists and tables of a store hold is still there, and each of its loops is in the round in
which it was; only the value of the next round may have been taken already (`Loop.Through`).

`Gives` : a computation gives a value, whatever has been put into the store besides, and keeps what
is there. So what one computation gives holds behind another one as well (`Gives.bind`).
-/

namespace Stencil.Template

variable {α β : Type} {resume : Resume} {store store' base : Store} {p q : Place}
  {vs : List Value} {n : Nat}

/-! ## Loops through lists -/

/-- A loop goes through the values of the list at a place, and `n` rounds have begun. The value of
the next round may have been taken already. -/
structure Loop.Through (q : Place) (vs : List Value) (n : Nat) (l : Loop) : Prop where
  gate : l.gate = none
  index : l.index = n
  next : (l.after = none ∧ l.source = .list q n) ∨
    (l.after = vs[n]? ∧ l.source = if n < vs.length then .list q (n + 1) else .done)

/-- Where nothing has been taken in advance, there is the rest of the list, or nothing. -/
theorem Loop.Through.source_cases {l : Loop} (h : l.Through q vs n) (hafter : l.after = none) :
    l.source = .list q n ∨ vs.length ≤ n ∧ l.source = .done := by
  obtain ⟨-, -, ⟨-, hsource⟩ | ⟨htaken, hsource⟩⟩ := h
  · exact .inl hsource
  · rw [hafter, eq_comm, List.getElem?_eq_none_iff] at htaken
    rw [if_neg (Nat.not_lt.mpr htaken)] at hsource
    exact .inr ⟨htaken, hsource⟩

/-- The loop at a place goes through the values of a list, and `n` rounds have begun. -/
structure LoopAt (store : Store) (p q : Place) (vs : List Value) (n : Nat) : Prop where
  list : store[q]? = some (.list vs)
  loop : ∃ l, store[p]? = some (.loop l) ∧ l.Through q vs n

/-- What the lists and tables of a store hold is in another one as well, and the loops are in the
same rounds. -/
structure Keeps (store store' : Store) : Prop where
  list : ∀ {p : Place} {vs}, store[p]? = some (.list vs) → store'[p]? = some (.list vs)
  dict : ∀ {p : Place} {slots}, store[p]? = some (.dict slots) → store'[p]? = some (.dict slots)
  /-- Nothing of a loop with a condition is taken in advance. -/
  gated : ∀ {p : Place} {l}, store[p]? = some (.loop l) → l.gate.isSome → store'[p]? = some (.loop l)
  loop : ∀ {p q vs n}, LoopAt store p q vs n → LoopAt store' p q vs n

theorem Store.items_of_getElem? (h : store[p]? = some (.list vs)) : store.items p = vs := by
  rw [items, object, h]
  rfl

theorem Store.entries_of_getElem? {es : List (Value × Value)}
    (h : store[p]? = some (.dict (es.map some))) : store.entries p = es := by
  have hslots : store.slots p = es.map some := by
    rw [slots, object, h]
    rfl
  rw [entries, hslots]
  exact List.filterMap_map.trans List.filterMap_some

theorem Store.loop_of_getElem? {l : Loop} (h : store[p]? = some (.loop l)) : store.loop p = l := by
  rw [loop, object, h]
  rfl

namespace Keeps

theorem refl (store : Store) : Keeps store store :=
  ⟨id, id, fun h _ => h, id⟩

theorem trans (h : Keeps base store) (h' : Keeps store store') : Keeps base store' :=
  ⟨fun hp => h'.list (h.list hp), fun hp => h'.dict (h.dict hp),
    fun hp hgate => h'.gated (h.gated hp hgate) hgate, fun hp => h'.loop (h.loop hp)⟩

/-- What agrees with a store wherever that holds something keeps it. -/
theorem of_getElem? (h : ∀ {p : Place} {o}, store[p]? = some o → store'[p]? = some o) :
    Keeps store store' where
  list := h
  dict := h
  gated hp _ := h hp
  loop hp := by
    obtain ⟨l, hl, hthrough⟩ := hp.loop
    exact ⟨h hp.list, l, h hl, hthrough⟩

theorem append (store more : Store) : Keeps store (store ++ more) :=
  of_getElem? fun h => by rw [List.getElem?_append_left (List.getElem?_eq_some_iff.mp h).1, h]

/-- A place that was empty may change. -/
theorem set (h : Keeps base store) (hp : base[p]? = none) (o : Object) :
    Keeps base (store.set p o) := by
  have hother {p' : Place} {o' : Object} (hp' : base[p']? = some o') :
      (store.set p o)[p']? = store[p']? := by
    refine List.getElem?_set_ne fun heq => ?_
    rw [← heq, hp] at hp'
    cases hp'
  constructor
  · intro p' vs hp'
    rw [hother hp', h.list hp']
  · intro p' slots hp'
    rw [hother hp', h.dict hp']
  · intro p' l hp' hgate
    rw [hother hp', h.gated hp' hgate]
  · intro p' q vs n hp'
    obtain ⟨l, hl, -⟩ := hp'.loop
    obtain ⟨hlist, hloop⟩ := h.loop hp'
    refine ⟨?_, ?_⟩
    · rwa [hother hp'.list]
    · rwa [hother hl]

end Keeps

/-! ## Computations -/

/-- A computation gives a value from every store that keeps what a store says, and keeps it. -/
def Gives (store : Store) (x : Eval α) (a : α) : Prop :=
  ∀ resume store₁, Keeps store store₁ →
    ∃ store₂, x resume store₁ = (.ok a, store₂) ∧ Keeps store₁ store₂

theorem gives_of_eq {x : Eval α} {a : α} (h : ∀ resume store, x resume store = (.ok a, store)) :
    Gives store x a :=
  fun resume store₁ _ => ⟨store₁, h resume store₁, .refl store₁⟩

theorem gives_pure (a : α) : Gives store (pure a) a :=
  gives_of_eq fun _ _ => rfl

theorem gives_look {f : Store → α} {a : α} (h : ∀ store₁, Keeps store store₁ → f store₁ = a) :
    Gives store (look f) a :=
  fun _ store₁ hk => ⟨store₁, by rw [look, h store₁ hk], .refl store₁⟩

theorem gives_itemsAt (h : store[p]? = some (.list vs)) : Gives store (itemsAt p) vs :=
  gives_look fun _ hk => Store.items_of_getElem? (hk.list h)

theorem gives_entriesAt {es : List (Value × Value)} (h : store[p]? = some (.dict (es.map some))) :
    Gives store (entriesAt p) es :=
  gives_look fun _ hk => Store.entries_of_getElem? (hk.dict h)

section

variable {x : Eval α} {f : α → Eval β} {a : α} {b : β}

theorem Gives.mono (h : Gives store x a) (hk : Keeps store store') : Gives store' x a :=
  fun resume store₁ hk' => h resume store₁ (hk.trans hk')

/-- What follows a computation may rely on the store in front of it. -/
theorem Gives.bind (hx : Gives store x a) (hf : Gives store (f a) b) : Gives store (x >>= f) b := by
  intro resume store₁ hk₁
  obtain ⟨store₂, hx₂, hk₂⟩ := hx resume store₁ hk₁
  obtain ⟨store₃, hf₃, hk₃⟩ := hf resume store₂ (hk₁.trans hk₂)
  exact ⟨store₃, (given_bind_apply_of_ok hx₂).trans hf₃, hk₂.trans hk₃⟩

end

/-! ## Steps of loops -/

section

variable {l l₁ : Loop}

theorem loopAt_apply (h : store[p]? = some (.loop l)) (resume : Resume) :
    loopAt p resume store = (.ok l, store) :=
  Prod.ext (congrArg Except.ok (Store.loop_of_getElem? h)) rfl

theorem changeLoop_apply (f : Loop → Loop) (h : store[p]? = some (.loop l)) :
    changeLoop p f resume store = (.ok (), store.set p (.loop (f l))) :=
  given_bind_apply_of_ok (loopAt_apply h resume)

theorem getElem?_set_loop (h : store[p]? = some (.loop l)) (o : Object) :
    (store.set p o)[p]? = some o :=
  List.getElem?_set_self (List.getElem?_eq_some_iff.mp h).1

theorem next_list (h : store[q]? = some (.list vs)) (i : Nat) (resume : Resume) :
    (Source.list q i).next resume store = (.ok (vs[i]?.map (·, .list q (i + 1))), store) := by
  have hitems : itemsAt q resume store = (.ok vs, store) :=
    Prod.ext (congrArg Except.ok (Store.items_of_getElem? h)) rfl
  exact given_bind_apply_of_ok hitems

/-- A loop takes what its source gives. -/
theorem Loop.take_apply {next : Option (Value × Source)} (h : store[p]? = some (.loop l))
    (hnext : l.source.next resume store = (.ok next, store)) :
    Loop.take p resume store = (.ok (next.map Prod.fst),
      store.set p (.loop { l with source := (next.map Prod.snd).getD .done })) := by
  have hloop := loopAt_apply h resume
  refine (given_bind_apply_of_ok hloop).trans ((given_bind_apply_of_ok hnext).trans ?_)
  rcases next with _ | ⟨v, source⟩ <;> exact given_bind_apply_of_ok (changeLoop_apply _ h)

/-- A loop without a condition takes its values from the source. -/
theorem Loop.pull_apply (h : store[p]? = some (.loop l)) (hgate : l.gate = none) :
    Loop.pull p resume store = Loop.take p resume store := by
  have hloop := loopAt_apply h resume
  refine (given_bind_apply_of_ok hloop).trans ?_
  rw [hgate]
  rfl

/-- A loop through a list takes the next value of it. -/
theorem LoopAt.take_apply (h : LoopAt store p q vs n) (hl : store[p]? = some (.loop l))
    (hafter : l.after = none) (resume : Resume) :
    Loop.take p resume store = (.ok vs[n]?,
      store.set p (.loop { l with source := if n < vs.length then .list q (n + 1) else .done })) := by
  obtain ⟨hlist, l', hl', hthrough⟩ := h
  obtain rfl : l = l' := Object.loop.inj (Option.some.inj (hl.symm.trans hl'))
  rcases hthrough.source_cases hafter with hsource | ⟨hn, hsource⟩
  · have hgiven := next_list hlist n resume
    rw [← hsource] at hgiven
    rw [Loop.take_apply hl hgiven]
    by_cases hn : n < vs.length
    · simp [hn]
    · simp [hn]
  · have hgiven : l.source.next resume store = (.ok none, store) := by
      rw [hsource]
      rfl
    rw [Loop.take_apply hl hgiven, List.getElem?_eq_none hn, if_neg (Nat.not_lt.mpr hn)]
    rfl

/-- A loop whose next round has begun with a value. -/
def Loop.begun (l : Loop) (v : Value) : Loop :=
  { l with index := l.index + 1, before := l.current, current := some v, after := none }

/-- The value of the next round : it has been taken in advance, or else it is taken. -/
def Loop.upcoming (pull : Eval (Option Value)) (l : Loop) : Eval (Option Value) :=
  match l.after with
  | some v => return some v
  | none => pull

section

variable {pull : Eval (Option Value)} {v : Value} {store₁ : Store}

theorem Loop.upcoming_of_some (pull : Eval (Option Value)) (h : l.after = some v) :
    l.upcoming pull = pure (some v) := by
  rw [upcoming, h]

theorem Loop.upcoming_of_none (pull : Eval (Option Value)) (h : l.after = none) :
    l.upcoming pull = pull := by
  rw [upcoming, h]

theorem Loop.advance_some (h : store[p]? = some (.loop l)) (h₁ : store₁[p]? = some (.loop l₁))
    (hnext : l.upcoming pull resume store = (.ok (some v), store₁)) :
    Loop.advance pull p resume store = (.ok (some v), store₁.set p (.loop (l₁.begun v))) := by
  have hloop := loopAt_apply h resume
  refine (given_bind_apply_of_ok hloop).trans ((given_bind_apply_of_ok hnext).trans ?_)
  exact given_bind_apply_of_ok (changeLoop_apply _ h₁)

theorem Loop.advance_none (h : store[p]? = some (.loop l))
    (hnext : l.upcoming pull resume store = (.ok none, store₁)) :
    Loop.advance pull p resume store = (.ok none, store₁) := by
  have hloop := loopAt_apply h resume
  exact (given_bind_apply_of_ok hloop).trans (given_bind_apply_of_ok hnext)

/-- A loop through a list begins with its next value. -/
theorem LoopAt.advance_of_lt (h : LoopAt store p q vs n) (hn : n < vs.length)
    (hpull : pull resume store = Loop.take p resume store) :
    ∃ l, Loop.advance pull p resume store = (.ok (some vs[n]), store.set p (.loop l)) ∧
      l.Through q vs (n + 1) := by
  obtain ⟨l, hl, hgate, hindex, hnext⟩ := h.loop
  have hindex' : l.index + 1 = n + 1 := congrArg (· + 1) hindex
  cases hafter : l.after with
  | some v =>
    obtain ⟨htaken, hsource⟩ := hnext.resolve_left (by simp [hafter])
    rw [hafter, List.getElem?_eq_getElem hn] at htaken
    obtain rfl := Option.some.inj htaken
    have hupcoming : l.upcoming pull resume store = (.ok (some vs[n]), store) := by
      rw [Loop.upcoming_of_some pull hafter]
      rfl
    rw [if_pos hn] at hsource
    exact ⟨_, Loop.advance_some hl hl hupcoming, hgate, hindex', .inl ⟨rfl, hsource⟩⟩
  | none =>
    have htake := h.take_apply hl hafter resume
    rw [if_pos hn, List.getElem?_eq_getElem hn, ← hpull, ← Loop.upcoming_of_none pull hafter] at htake
    have hstep := Loop.advance_some hl (getElem?_set_loop hl _) htake
    rw [List.set_set] at hstep
    exact ⟨_, hstep, hgate, hindex', .inl ⟨rfl, rfl⟩⟩

/-- A loop through a list ends behind its last value. -/
theorem LoopAt.advance_of_le (h : LoopAt store p q vs n) (hn : vs.length ≤ n)
    (hpull : pull resume store = Loop.take p resume store) :
    ∃ o, Loop.advance pull p resume store = (.ok none, store.set p o) := by
  obtain ⟨l, hl, -, -, hnext⟩ := h.loop
  have hafter : l.after = none := by
    rcases hnext with ⟨hafter, -⟩ | ⟨htaken, -⟩
    · exact hafter
    · rw [htaken, List.getElem?_eq_none hn]
  have htake := h.take_apply hl hafter resume
  rw [List.getElem?_eq_none hn, ← hpull, ← Loop.upcoming_of_none pull hafter] at htake
  exact ⟨_, Loop.advance_none hl htake⟩

end

/-- A value that is taken in advance is still the one of the next round. -/
theorem LoopAt.keeps_taken (h : LoopAt store p q vs n) (hl : store[p]? = some (.loop l))
    (hafter : l.after = none) :
    Keeps store (store.set p (.loop { l with
      after := vs[n]?, source := if n < vs.length then .list q (n + 1) else .done })) := by
  obtain ⟨hlist, l', hl', hthrough⟩ := h
  obtain rfl : l = l' := Object.loop.inj (Option.some.inj (hl.symm.trans hl'))
  have hother {p' : Place} {o o' : Object} (hp' : store[p']? = some o') (ho' : o' ≠ .loop l) :
      (store.set p o)[p']? = store[p']? := by
    refine List.getElem?_set_ne fun heq => ho' ?_
    rw [← heq, hl] at hp'
    exact (Option.some.inj hp').symm
  constructor
  · intro p' vs' hp'
    rw [hother hp' nofun, hp']
  · intro p' slots hp'
    rw [hother hp' nofun, hp']
  · intro p' l' hp' hgate'
    rw [hother hp' ?_, hp']
    rintro ⟨⟩
    simp [hthrough.gate] at hgate'
  · rintro p' q' vs' n' ⟨hlist', l₂, hl₂, hthrough'⟩
    have hkept : (store.set p (.loop { l with
        after := vs[n]?, source := if n < vs.length then .list q (n + 1) else .done }))[q']? =
        some (.list vs') := by
      rw [hother hlist' nofun, hlist']
    by_cases hp' : p' = p
    · subst hp'
      obtain rfl : l = l₂ := Object.loop.inj (Option.some.inj (hl.symm.trans hl₂))
      obtain rfl : n = n' := hthrough.index.symm.trans hthrough'.index
      refine ⟨hkept, _, getElem?_set_loop hl _, hthrough.gate, hthrough.index, .inr ?_⟩
      -- the source names the list, unless nothing is left of it
      rcases hthrough.source_cases hafter, hthrough'.source_cases hafter with
        ⟨hsource | ⟨hn, hsource⟩, hsource' | ⟨hn', hsource'⟩⟩
      · obtain ⟨rfl, -⟩ := Source.list.inj (hsource.symm.trans hsource')
        obtain rfl := Object.list.inj (Option.some.inj (hlist.symm.trans hlist'))
        exact ⟨rfl, rfl⟩
      · cases hsource.symm.trans hsource'
      · cases hsource.symm.trans hsource'
      · rw [List.getElem?_eq_none hn, List.getElem?_eq_none hn', if_neg (Nat.not_lt.mpr hn),
          if_neg (Nat.not_lt.mpr hn')]
        exact ⟨rfl, rfl⟩
    · refine ⟨hkept, l₂, ?_, hthrough'⟩
      rw [List.getElem?_set_ne (Ne.symm hp'), hl₂]

/-- The value of the next round can be taken in advance. -/
theorem LoopAt.gives_peek (h : LoopAt store p q vs n) : Gives store (Loop.peek p) vs[n]? := by
  intro resume store₁ hk
  have h₁ := hk.loop h
  obtain ⟨l, hl, hgate, hindex, hnext⟩ := h₁.loop
  have hloop := loopAt_apply hl resume
  cases hafter : l.after with
  | some v =>
    obtain ⟨htaken, -⟩ := hnext.resolve_left (by simp [hafter])
    refine ⟨store₁, (given_bind_apply_of_ok hloop).trans ?_, .refl store₁⟩
    rw [← htaken, hafter]
    rfl
  | none =>
    have htake := h₁.take_apply hl hafter resume
    rw [← Loop.pull_apply hl hgate] at htake
    refine ⟨_, (given_bind_apply_of_ok hloop).trans ?_, h₁.keeps_taken hl hafter⟩
    rw [hafter]
    refine (given_bind_apply_of_ok htake).trans ?_
    refine (given_bind_apply_of_ok (changeLoop_apply _ (getElem?_set_loop hl _))).trans ?_
    rw [List.set_set]
    rfl

end

end Stencil.Template
