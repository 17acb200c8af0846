import Stencil.Text.Utf8

/-!
# ASCII bytes

A byte below 0x80 neither starts a longer character nor continues one. So reading begins afresh at
such a byte, whatever stands before it, also a character that was cut off (`scalars_append`), and
an ASCII character is read only where its byte stands (`mem_of_mem_scalars`).
-/

namespace Stencil.Bytes

/-- The bytes that start a character, and the bytes that may come next. -/
theorem of_lead? {a : UInt8} {more low high : Nat} (h : lead? a = some (more, low, high)) :
    (0x80 ≤ low ∧ high ≤ 0xbf) ∧
      (more = 1 ∧ 0xc2 ≤ a.toNat ∧ a.toNat < 0xe0 ∨
        more = 2 ∧ 0xe0 ≤ a.toNat ∧ a.toNat < 0xf0 ∧ (a.toNat = 0xe0 → low = 0xa0) ∨
        more = 3 ∧ 0xf0 ≤ a.toNat ∧ a.toNat < 0xf5 ∧ (a.toNat = 0xf0 → low = 0x90)) := by
  simp only [lead?] at h
  repeat' split at h
  all_goals first | (obtain ⟨rfl, rfl, rfl⟩ := Option.some.inj h; omega) | cases h

theorem not_within {low high : Nat} {b : UInt8} (hlow : 0x80 ≤ low) (hb : b.toNat < 0x80) :
    within low high b = false := by
  simp only [within, Bool.and_eq_false_iff, decide_eq_false_iff_not]
  omega

/-- Reading begins afresh at an ASCII byte. -/
theorem scalars_append {b : UInt8} (hb : b.toNat < 0x80) (ys xs : Bytes) :
    scalars (xs ++ b :: ys) = scalars xs ++ scalars (b :: ys) := by
  have hcut : ∀ low high, 0x80 ≤ low → within low high b = false := fun _ _ h => not_within h hb
  -- Where `xs` ends inside a character (cases 4, 6 and 8), `b` is not taken for a part of it.
  fun_induction scalars xs with
  | case1 => rfl
  | case2 a as ha ih =>
    rw [List.cons_append, scalars]
    simp [ha, ih]
  | case3 a as ha hlead ih =>
    rw [List.cons_append, scalars]
    simp [ha, hlead, ih]
  | case4 a ha more low high hlead =>
    rw [List.cons_append, scalars]
    simp [ha, hlead, hcut low high (of_lead? hlead).1.1]
  | case5 a ha low high c cs hc hlead ih =>
    rw [List.cons_append, scalars]
    simp [ha, hlead, hc, ih]
  | case6 a ha more low high hlead c hc hmore =>
    rw [List.cons_append, scalars]
    simp [ha, hlead, hc, hmore, hcut 0x80 0xbf]
  | case7 a ha low high c hc d ds hd hlead hmore ih =>
    rw [List.cons_append, scalars]
    simp [ha, hlead, hc, hd, ih]
  | case8 a ha more low high hlead c hc hmore d hd hmore' =>
    rw [List.cons_append, scalars]
    simp [ha, hlead, hc, hmore, hd, hmore', hcut 0x80 0xbf]
  | case9 a ha more low high hlead c hc hmore d hd hmore' e es he ih =>
    rw [List.cons_append, scalars]
    simp [ha, hlead, hc, hmore, hd, hmore', he, ih]
  | case10 a ha more low high hlead c hc hmore d hd hmore' e es he ih =>
    rw [List.cons_append, scalars]
    simpa [ha, hlead, hc, hmore, hd, hmore', he] using ih
  | case11 a ha more low high hlead c hc hmore d ds hd ih =>
    rw [List.cons_append, scalars]
    simpa [ha, hlead, hc, hmore, hd] using ih
  | case12 a ha more low high hlead c cs hc ih =>
    rw [List.cons_append, scalars]
    simpa [ha, hlead, hc] using ih

section Sizes

variable {a b c d : UInt8} {low high : Nat}

theorem le_two_bytes (h : lead? a = some (1, low, high)) :
    0x80 ≤ a.toNat % 32 * 64 + payload b := by
  have := (of_lead? h).2
  omega

theorem le_three_bytes (h : lead? a = some (2, low, high)) (hb : within low high b) :
    0x80 ≤ (a.toNat % 16 * 64 + payload b) * 64 + payload c := by
  have := of_lead? h
  simp only [within, Bool.and_eq_true, decide_eq_true_eq] at hb
  unfold payload
  omega

theorem le_four_bytes {more : Nat} (h : lead? a = some (more, low, high)) (h1 : more ≠ 1)
    (h2 : more ≠ 2) (hb : within low high b) :
    0x80 ≤ ((a.toNat % 8 * 64 + payload b) * 64 + payload c) * 64 + payload d := by
  have := of_lead? h
  simp only [within, Bool.and_eq_true, decide_eq_true_eq] at hb
  unfold payload
  omega

end Sizes

/-- A character from a number other than its own is the null character. -/
theorem ofNat_ne {c : Char} {n : Nat} (hc : c ≠ '\x00') (hn : c.toNat ≠ n) : Char.ofNat n ≠ c := by
  rintro rfl
  by_cases hvalid : n.isValidChar
  · have hnat : Char.ofNat n = Char.ofNatAux n hvalid := dif_pos hvalid
    exact hn (congrArg Char.toNat hnat)
  · exact hc (dif_neg hvalid)

/-- An ASCII character is read from its byte. -/
theorem mem_of_mem_scalars {bytes : Bytes} {c : Char} (hc : c.toNat < 0x80) (hne : c ≠ '\x00')
    (h : some c ∈ scalars bytes) : c.toNat ∈ bytes.map UInt8.toNat := by
  have hlong : ∀ n, 0x80 ≤ n → c ≠ Char.ofNat n := fun n hn =>
    (ofNat_ne hne (by omega)).symm
  have hskip : ∀ p s : Bytes, c.toNat ∈ s.map UInt8.toNat → c.toNat ∈ (p ++ s).map UInt8.toNat :=
    fun p s hs => by
      rw [List.map_append]
      exact List.mem_append_right _ hs
  fun_induction scalars bytes with
  | case1 => cases h
  | case4 | case6 | case8 => simp at h
  | case2 a as ha ih =>
    rw [List.mem_cons, Option.some.injEq] at h
    rw [List.map_cons, List.mem_cons]
    refine h.imp (fun h => ?_) ih
    exact Decidable.by_contra fun hn => ofNat_ne hne hn h.symm
  | case3 a as ha hlead ih => exact hskip [a] _ (ih (by simpa using h))
  | case5 a ha low high b bs hb hlead ih =>
    exact hskip [a, b] _ (ih (by simpa [hlong _ (le_two_bytes hlead)] using h))
  | case7 a ha low high b hb d ds hd hlead hmore ih =>
    exact hskip [a, b, d] _ (ih (by simpa [hlong _ (le_three_bytes hlead hb)] using h))
  | case9 a ha more low high hlead b hb hmore d hd hmore' e es he ih =>
    exact hskip [a, b, d, e] _
      (ih (by simpa [hlong _ (le_four_bytes hlead hmore hmore' hb)] using h))
  | case10 a ha more low high hlead b hb hmore d hd hmore' e es he ih =>
    exact hskip [a, b, d] _ (ih (by simpa using h))
  | case11 a ha more low high hlead b hb hmore d ds hd ih =>
    exact hskip [a, b] _ (ih (by simpa using h))
  | case12 a ha more low high hlead b bs hb ih => exact hskip [a] _ (ih (by simpa using h))

/-! ## Lenient reading -/

/-- Lenient reading begins afresh at an ASCII byte. -/
theorem decodeLossy_append {b : UInt8} (hb : b.toNat < 0x80) (ys xs : Bytes) :
    decodeLossy (xs ++ b :: ys) = decodeLossy xs ++ Char.ofNat b.toNat :: decodeLossy ys := by
  rw [decodeLossy, scalars_append hb, List.map_append, scalars, if_pos hb]
  rfl

theorem mem_of_mem_decodeLossy {bytes : Bytes} {c : Char} (hc : c.toNat < 0x80) (hne : c ≠ '\x00')
    (h : c ∈ decodeLossy bytes) : c.toNat ∈ bytes.map UInt8.toNat := by
  obtain ⟨u, hu, rfl⟩ := List.mem_map.mp h
  cases u with
  | none => exact absurd hc (by decide)
  | some c => exact mem_of_mem_scalars hc hne hu

end Stencil.Bytes
