import Mathlib.Data.List.Forall2

/-!
# Outcomes

Steps that can fail follow one another or run over a list. `bind_eq_ok_iff`, `mapM_eq_ok_iff` : what
a success is, step by step and item by item. `FailsOnly` bounds the failures of a step, and
`failsOnly_bind` those of two steps by those of each. `bind_apply` is about steps on a state, and
`given_bind_apply` about those that are given something besides.
-/

namespace Stencil

variable {ε α β γ : Type}

theorem bind_eq_ok_iff {x : Except ε α} {f : α → Except ε β} {b : β} :
    x >>= f = .ok b ↔ ∃ a, x = .ok a ∧ f a = .ok b := by
  cases x <;> simp [bind, Except.bind]

@[simp] theorem pure_eq_ok_iff {a b : α} : (pure a : Except ε α) = .ok b ↔ a = b := by
  simp [pure, Except.pure]

theorem map_eq_ok_iff {x : Except ε α} {f : α → β} {b : β} :
    f <$> x = .ok b ↔ ∃ a, x = .ok a ∧ f a = b := by
  cases x <;> simp [Functor.map, Except.map]

theorem mapError_eq_ok_iff {ε' : Type} {x : Except ε α} {f : ε → ε'} {a : α} :
    x.mapError f = .ok a ↔ x = .ok a := by
  cases x <;> simp [Except.mapError]

theorem mapM_eq_ok_iff {f : α → Except ε β} :
    ∀ {xs : List α} {ys : List β}, xs.mapM f = .ok ys ↔ List.Forall₂ (fun x y => f x = .ok y) xs ys
  | [], ys => by
    rw [List.mapM_nil, pure_eq_ok_iff, List.forall₂_nil_left_iff, eq_comm]
  | x :: xs, ys => by
    rw [List.mapM_cons, List.forall₂_cons_left_iff, bind_eq_ok_iff]
    refine exists_congr fun y => ?_
    simp only [bind_eq_ok_iff, pure_eq_ok_iff, mapM_eq_ok_iff, exists_and_left, eq_comm (b := ys)]

/-- Steps over a list succeed when every one of them does. -/
theorem exists_mapM_eq_ok_iff {f : α → Except ε β} :
    ∀ {xs : List α}, (∃ ys, xs.mapM f = .ok ys) ↔ ∀ x ∈ xs, ∃ y, f x = .ok y
  | [] => by simp
  | x :: xs => by
    have ih : (∃ ys, xs.mapM f = .ok ys) ↔ ∀ x ∈ xs, ∃ y, f x = .ok y := exists_mapM_eq_ok_iff
    simp only [List.mapM_cons, List.forall_mem_cons, ← ih, bind_eq_ok_iff, pure_eq_ok_iff]
    constructor
    · rintro ⟨_, y, hy, ys, hys, rfl⟩
      exact ⟨⟨y, hy⟩, ys, hys⟩
    · rintro ⟨⟨y, hy⟩, ys, hys⟩
      exact ⟨y :: ys, y, hy, ys, hys, rfl⟩

theorem bind_eq_error_iff {x : Except ε α} {f : α → Except ε β} {e : ε} :
    x >>= f = .error e ↔ x = .error e ∨ ∃ a, x = .ok a ∧ f a = .error e := by
  cases x <;> simp [bind, Except.bind]

theorem mapError_eq_error_iff {ε' : Type} {x : Except ε α} {f : ε → ε'} {e : ε'} :
    x.mapError f = .error e ↔ ∃ e', x = .error e' ∧ f e' = e := by
  cases x <;> simp [Except.mapError]

theorem map_eq_error_iff {x : Except ε α} {f : α → β} {e : ε} :
    f <$> x = .error e ↔ x = .error e := by
  cases x <;> simp [Functor.map, Except.map]

theorem exists_map_eq_ok_iff {x : Except ε α} {f : α → β} :
    (∃ b, f <$> x = .ok b) ↔ ∃ a, x = .ok a := by
  cases x <;> simp [Functor.map, Except.map]

/-- Steps over a list fail with the first one that fails. -/
theorem mapM_eq_error_iff {f : α → Except ε β} {e : ε} :
    ∀ {xs : List α}, xs.mapM f = .error e ↔
      ∃ before x after, xs = before ++ x :: after ∧ (∀ a ∈ before, ∃ b, f a = .ok b) ∧
        f x = .error e
  | [] => by simp [pure, Except.pure]
  | x :: xs => by
    rw [List.mapM_cons, bind_eq_error_iff]
    simp only [bind_eq_error_iff, reduceCtorEq, pure, Except.pure, and_false, exists_false,
      or_false]
    constructor
    · rintro (h | ⟨y, hy, h⟩)
      · exact ⟨[], x, xs, rfl, by simp, h⟩
      · obtain ⟨before, a, after, rfl, hbefore, ha⟩ := mapM_eq_error_iff.mp h
        exact ⟨x :: before, a, after, rfl, List.forall_mem_cons.mpr ⟨⟨y, hy⟩, hbefore⟩, ha⟩
    · rintro ⟨_ | ⟨b, before⟩, a, after, hxs, hbefore, ha⟩
      · obtain ⟨rfl, rfl⟩ := List.cons.inj hxs
        exact .inl ha
      · obtain ⟨rfl, rfl⟩ := List.cons.inj hxs
        obtain ⟨hx, hbefore⟩ := List.forall_mem_cons.mp hbefore
        obtain ⟨y, hy⟩ := hx
        exact .inr ⟨y, hy, mapM_eq_error_iff.mpr ⟨before, a, after, rfl, hbefore, ha⟩⟩

/-- When steps over a list succeed, the outcome for one item depends on the others in nothing. -/
theorem mapM_append_cons {f : α → Except ε β} {before after : List α} {x : α} {ys : List β}
    (h : (before ++ x :: after).mapM f = .ok ys) :
    ∃ y, f x = .ok y ∧ ∀ x', (before ++ x' :: after).mapM f = .ok ys ↔ f x' = .ok y := by
  simp only [List.mapM_append, List.mapM_cons, bind_eq_ok_iff, pure_eq_ok_iff] at h ⊢
  obtain ⟨first, hfirst, rest, ⟨y, hy, last, hlast, rfl⟩, rfl⟩ := h
  refine ⟨y, hy, fun x' => ⟨?_, fun hx' => ?_⟩⟩
  · rintro ⟨first', hfirst', rest', ⟨y', hy', last', -, rfl⟩, heq⟩
    obtain rfl : first = first' := Except.ok.inj (hfirst.symm.trans hfirst')
    obtain rfl : y' = y := (List.cons.inj (List.append_cancel_left heq)).1
    exact hy'
  · exact ⟨first, hfirst, y :: last, ⟨y, hx', last, hlast, rfl⟩, rfl⟩

/-- An item may be replaced by any other one for which the step succeeds. -/
theorem exists_mapM_append_cons {f : α → Except ε β} {before after : List α} {x x' : α}
    (h : ∃ ys, (before ++ x :: after).mapM f = .ok ys) (hx' : ∃ y, f x' = .ok y) :
    ∃ ys, (before ++ x' :: after).mapM f = .ok ys := by
  rw [exists_mapM_eq_ok_iff, List.forall_mem_append, List.forall_mem_cons] at h ⊢
  exact ⟨h.1, hx', h.2.2⟩

/-- What relates the items of two lists to those of a third one relates the two lists. -/
theorem forall₂_trans {R : α → β → Prop} {S : β → γ → Prop} {T : α → γ → Prop}
    (h : ∀ a b c, R a b → S b c → T a c) :
    ∀ {xs : List α} {ys : List β} {zs : List γ},
      List.Forall₂ R xs ys → List.Forall₂ S ys zs → List.Forall₂ T xs zs
  | [], _, _, .nil, .nil => .nil
  | _ :: _, _, _, .cons hR hRs, .cons hS hSs => .cons (h _ _ _ hR hS) (forall₂_trans h hRs hSs)

/-! ## Bounds on failures -/

/-- Every failure satisfies `P`. -/
def FailsOnly (P : ε → Prop) : Except ε α → Prop
  | .ok _ => True
  | .error e => P e

variable {P : ε → Prop}

@[simp] theorem failsOnly_ok {a : α} : FailsOnly P (.ok a : Except ε α) := trivial

@[simp] theorem failsOnly_error {e : ε} : FailsOnly P (.error e : Except ε α) ↔ P e := Iff.rfl

theorem failsOnly_iff {x : Except ε α} :
    FailsOnly P x ↔ (∃ a, x = .ok a) ∨ ∃ e, x = .error e ∧ P e := by
  cases x <;> simp

theorem failsOnly_bind {x : Except ε α} {f : α → Except ε β} :
    FailsOnly P (x >>= f) ↔ FailsOnly P x ∧ ∀ a, x = .ok a → FailsOnly P (f a) := by
  cases x <;> simp [bind, Except.bind]

theorem failsOnly_map {x : Except ε α} {f : α → β} : FailsOnly P (f <$> x) ↔ FailsOnly P x := by
  cases x <;> exact Iff.rfl

theorem failsOnly_mapError {ε' : Type} {x : Except ε α} {f : ε → ε'} {Q : ε' → Prop} :
    FailsOnly Q (x.mapError f) ↔ FailsOnly (fun e => Q (f e)) x := by
  cases x <;> exact Iff.rfl

theorem failsOnly_mapM {f : α → Except ε β} (h : ∀ a, FailsOnly P (f a)) :
    ∀ xs : List α, FailsOnly P (xs.mapM f)
  | [] => trivial
  | x :: xs => by
    rw [List.mapM_cons]
    refine failsOnly_bind.mpr ⟨h x, fun y _ => failsOnly_bind.mpr ⟨failsOnly_mapM h xs, ?_⟩⟩
    exact fun ys _ => trivial

/-! ## Steps on a state -/

variable {σ : Type}

/-- A step that follows another one starts in the state that this one leaves, and is left out when
it fails. -/
theorem bind_apply (r : ExceptT ε (StateM σ) α) (f : α → ExceptT ε (StateM σ) β) (s : σ) :
    (r >>= f) s =
      match r s with
      | (.ok a, s') => f a s'
      | (.error e, s') => (.error e, s') := by
  simp only [bind, ExceptT.bind, ExceptT.mk, ExceptT.bindCont, StateT.bind]
  rcases r s with ⟨_ | _, _⟩ <;> rfl

theorem bind_apply_of_ok {r : ExceptT ε (StateM σ) α} {f : α → ExceptT ε (StateM σ) β} {s s' : σ}
    {a : α} (h : r s = (.ok a, s')) : (r >>= f) s = f a s' := by
  rw [bind_apply, h]

/-- How two steps end is decided by how each of them ends. -/
theorem fst_bind (r : ExceptT ε (StateM σ) α) (f : α → ExceptT ε (StateM σ) β) (s : σ) :
    ((r >>= f) s).1 = (r s).1 >>= fun a => (f a (r s).2).1 := by
  rw [bind_apply]
  rcases r s with ⟨_ | _, _⟩ <;> rfl

theorem get_bind_apply (f : σ → ExceptT ε (StateM σ) β) (s : σ) : (get >>= f) s = f s s :=
  rfl

section

variable {ρ : Type} {x : ReaderT ρ (ExceptT ε (StateM σ)) α}
  {f : α → ReaderT ρ (ExceptT ε (StateM σ)) β} {r : ρ} {s s' : σ} {a : α}

/-- Steps that are given something are given it one as the other. -/
theorem given_bind_apply : (x >>= f) r s = (x r >>= fun a => f a r) s :=
  rfl

theorem given_bind_apply_of_ok (h : x r s = (.ok a, s')) : (x >>= f) r s = f a r s' :=
  bind_apply_of_ok (f := fun a => f a r) h

end

end Stencil
