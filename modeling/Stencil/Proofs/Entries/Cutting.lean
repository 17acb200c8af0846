import Stencil.Proofs.Entries.Encoding

/-!
# Cutting the symbols of a text

A cut of a text cuts its symbols, unless it stands between a backslash and a quote
(`Apart`). `ofText_append` : the symbols of a concatenation are those of its parts.
`exists_cut` : wherever the symbols are cut, there is such a cut of the text. So what is
known of the symbols of a text can be said of its characters and their positions
(`widths_ofText`, `getLast?_ofText`, `exists_ofText_cons`).
-/

namespace Stencil.Symbol

/-- No backslash at the end of `s` meets a quote at the beginning of `t`. -/
def Apart (s t : Text) : Prop :=
  s.getLast? = some '\\' → t.head? ≠ some '\x27'

theorem apart_nil (t : Text) : Apart [] t := by
  simp [Apart]

theorem apart_of_head? {t : Text} (h : t.head? ≠ some '\x27') (s : Text) : Apart s t :=
  fun _ => h

theorem apart_of_getLast? {s : Text} (h : s.getLast? ≠ some '\\') (t : Text) : Apart s t :=
  fun hlast => absurd hlast h

theorem Apart.tail {c : Char} {s t : Text} (h : Apart (c :: s) t) : Apart s t := by
  cases s with
  | nil => exact apart_nil t
  | cons d s => simpa [Apart] using h

theorem Apart.cons {c : Char} {s t : Text} (h : Apart s t) (hc : s = [] → Apart [c] t) :
    Apart (c :: s) t := by
  cases s with
  | nil => exact hc rfl
  | cons d s => simpa [Apart] using h

theorem getLast?_append_cons {c : Char} (hc : c ≠ '\\') (s t : Text) :
    (s ++ c :: t).getLast? = some '\\' ↔ t.getLast? = some '\\' := by
  rw [List.getLast?_append, List.getLast?_cons]
  cases t.getLast? <;> simp [hc]

/-- The symbols of a concatenation are those of its parts. -/
theorem ofText_append {s t : Text} (h : Apart s t) : ofText (s ++ t) = ofText s ++ ofText t := by
  fun_induction ofText s with
  | case1 => rfl
  | case2 s ih =>
    rw [List.cons_append, List.cons_append, ofText, ih h.tail.tail, List.cons_append]
  | case3 c s hne ih =>
    rw [List.cons_append, List.cons_append, ← ih h.tail]
    by_cases hc : c = '\\'
    · subst hc
      refine ofText_backslash ?_
      cases s with
      -- The cut stands behind this backslash.
      | nil => exact h rfl
      | cons d s =>
        intro hd
        obtain rfl : d = '\x27' := by simpa using hd
        exact hne s rfl rfl
    · exact ofText_cons hc _

/-- Where the symbols of a text are cut, the text is cut. -/
theorem exists_cut {s : Text} {ys zs : List Symbol} (h : ofText s = ys ++ zs) :
    ∃ t u, s = t ++ u ∧ Apart t u ∧ ofText t = ys ∧ ofText u = zs := by
  fun_induction ofText s generalizing ys with
  | case1 =>
    obtain ⟨rfl, rfl⟩ := List.append_eq_nil_iff.mp h.symm
    exact ⟨[], [], rfl, apart_nil [], rfl, rfl⟩
  | case2 s ih =>
    rcases ys with _ | ⟨y, ys⟩
    · exact ⟨[], _, rfl, apart_nil _, rfl, by rw [ofText, h, List.nil_append]⟩
    obtain ⟨rfl, hs⟩ := List.cons.inj h
    obtain ⟨t, u, rfl, hapart, rfl, hu⟩ := ih hs
    exact ⟨'\\' :: '\x27' :: t, u, rfl, (hapart.cons fun _ => apart_of_getLast? (by decide) u).cons
      (by simp), by rw [ofText], hu⟩
  | case3 c s hne ih =>
    rcases ys with _ | ⟨y, ys⟩
    · exact ⟨[], _, rfl, apart_nil _, rfl, by rw [ofText, h, List.nil_append]; exact hne⟩
    obtain ⟨rfl, hs⟩ := List.cons.inj h
    obtain ⟨t, u, rfl, hapart, rfl, hu⟩ := ih hs
    refine ⟨c :: t, u, rfl, hapart.cons ?_, ?_, hu⟩
    -- A quote behind the cut would have been taken together with the backslash.
    · rintro rfl hc hquote
      obtain ⟨u, rfl⟩ := List.head?_eq_some_iff.mp hquote
      exact hne u (by simpa using hc) rfl
    · rw [ofText]
      rintro v rfl rfl
      exact hne _ rfl rfl

/-! ## Characters and positions -/

theorem widths_ofText (s : Text) : widths (ofText s) = s.length := by
  fun_induction ofText s with
  | case1 => rfl
  | case2 s ih => simp [ih, width]; omega
  | case3 c s _ ih => simp [ih]; omega

/-- Only quotes are taken from behind a backslash. -/
theorem eq_plain_of_mem_ofText {s : Text} {y : Symbol} (hy : y ∈ ofText s)
    (hquote : y.char ≠ '\x27') : y = plain y.char := by
  fun_induction ofText s with
  | case1 => simp at hy
  | case2 s ih =>
    rcases List.mem_cons.mp hy with rfl | hy
    · exact absurd rfl hquote
    · exact ih hy
  | case3 c s _ ih =>
    rcases List.mem_cons.mp hy with rfl | hy
    · rfl
    · exact ih hy

theorem getLast?_ofText (s : Text) : (ofText s).getLast?.map char = s.getLast? := by
  fun_induction ofText s with
  | case1 => rfl
  | case2 s ih =>
    rw [List.getLast?_cons_cons, List.getLast?_cons, List.getLast?_cons, ← ih]
    cases (ofText s).getLast? <;> rfl
  | case3 c s _ ih =>
    rw [List.getLast?_cons, List.getLast?_cons, ← ih]
    cases (ofText s).getLast? <;> rfl

/-- The first symbol of a text begins with its first character. -/
theorem exists_ofText_cons (c : Char) (s : Text) :
    ∃ y ys, ofText (c :: s) = y :: ys ∧ y.first = c := by
  by_cases hescape : c = '\\' ∧ s.head? = some '\x27'
  · obtain ⟨rfl, hs⟩ := hescape
    obtain ⟨s, rfl⟩ := List.head?_eq_some_iff.mp hs
    exact ⟨_, _, by rw [ofText], rfl⟩
  · refine ⟨plain c, ofText s, ?_, rfl⟩
    rw [ofText]
    rintro s rfl rfl
    exact hescape ⟨rfl, rfl⟩

theorem exists_of_ofText_eq_cons {s : Text} {y : Symbol} {ys : List Symbol}
    (h : ofText s = y :: ys) : ∃ t, s = y.first :: t := by
  rcases s with _ | ⟨c, t⟩
  · cases h
  obtain ⟨z, zs, hcons, hfirst⟩ := exists_ofText_cons c t
  obtain ⟨rfl, -⟩ := List.cons.inj (h.symm.trans hcons)
  exact ⟨t, by rw [hfirst]⟩

/-- A backslash before a quote is no symbol of its own. -/
theorem ofText_ne_backslash_quote (s : Text) (ys zs : List Symbol) :
    ofText s ≠ ys ++ plain '\\' :: plain '\x27' :: zs := by
  intro h
  rw [← List.singleton_append, ← List.append_assoc] at h
  obtain ⟨t, u, -, hapart, ht, hu⟩ := exists_cut h
  obtain ⟨u, rfl⟩ := exists_of_ofText_eq_cons hu
  exact hapart (by rw [← getLast?_ofText, ht]; simp) rfl

end Stencil.Symbol
