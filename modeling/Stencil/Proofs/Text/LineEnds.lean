import Stencil.Text.Blank

/-!
# Line ends

`Text.unifyLineEnds` makes one line feed of every line end. Only a carriage return and a line feed
behind one another are read together, so at any other place a text can be cut before its line ends
are unified (`unifyLineEnds_append_cons`). All characters but these two stay.
-/

namespace Stencil.Text

theorem unifyLineEnds_cons {c : Char} (hc : c ≠ '\r') (s : Text) :
    unifyLineEnds (c :: s) = c :: unifyLineEnds s := by
  simp [unifyLineEnds, hc]

theorem unifyLineEnds_cr (s : Text) : ∃ t, unifyLineEnds ('\r' :: s) = '\n' :: t := by
  unfold unifyLineEnds
  split
  · next h => cases h
  · exact ⟨_, rfl⟩
  · next h =>
    obtain ⟨rfl, rfl⟩ := List.cons.inj h
    exact ⟨_, rfl⟩

theorem unifyLineEnds_append {p : Text} (hp : '\r' ∉ p) (s : Text) :
    unifyLineEnds (p ++ s) = p ++ unifyLineEnds s := by
  induction p with
  | nil => rfl
  | cons c p ih =>
    simp only [List.mem_cons, not_or] at hp
    rw [List.cons_append, unifyLineEnds_cons (Ne.symm hp.1), ih hp.2, List.cons_append]

/-- A text may be cut before any character but a line feed. -/
theorem unifyLineEnds_append_cons {c : Char} (hc : c ≠ '\n') (s rest : Text) :
    unifyLineEnds (s ++ c :: rest) = unifyLineEnds s ++ unifyLineEnds (c :: rest) := by
  fun_induction unifyLineEnds s with
  | case1 => rfl
  | case2 s ih => rw [List.cons_append, List.cons_append, unifyLineEnds, ih, List.cons_append]
  | case3 d s hcrlf ih =>
    have hcut : ∀ t, d = '\r' → s ++ c :: rest = '\n' :: t → False := by
      rintro t rfl ht
      cases s with
      | nil => exact hc (List.cons.inj ht).1
      | cons a s =>
        obtain ⟨rfl, -⟩ := List.cons.inj ht
        exact hcrlf s rfl rfl
    rw [List.cons_append, unifyLineEnds, ih, List.cons_append]
    exact hcut

theorem mem_unifyLineEnds {c : Char} (hr : c ≠ '\r') (hn : c ≠ '\n') (s : Text) :
    c ∈ unifyLineEnds s ↔ c ∈ s := by
  fun_induction unifyLineEnds s with
  | case1 => rfl
  | case2 s ih => simp [ih, hr, hn]
  | case3 d s _ ih =>
    by_cases hd : d = '\r'
    · simp [hd, ih, hr, hn]
    · simp [hd, ih]

/-- What a text begins with stays, unless it is a line end. -/
theorem head?_unifyLineEnds {c : Char} (hn : c ≠ '\n') {s : Text}
    (h : c ∈ (unifyLineEnds s).head?) : c ∈ s.head? := by
  fun_cases unifyLineEnds s with
  | case1 => cases h
  | case2 s => exact absurd (Option.some.inj h).symm hn
  | case3 d s hcrlf =>
    rw [unifyLineEnds, List.head?_cons, Option.mem_some_iff] at h
    · split at h
      · exact absurd h.symm hn
      · simp [h]
    · exact hcrlf

end Stencil.Text
