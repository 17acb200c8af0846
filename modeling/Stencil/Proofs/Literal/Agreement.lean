import Stencil.Proofs.Literal.Escape
import Stencil.Proofs.Literal.GoString
import Stencil.Proofs.Text.LineEnds

/-!
# Two readings of a literal

`GoString.unquote?` and `Escape.literal?` read the body of a double-quoted literal by the
rules of two languages. `literal?_of_reads` : what the first accepts is given the same
text by the second, unless it has a null character or a carriage return.
-/

namespace Stencil

namespace Escape

theorem breaksLine_cons {c : Char} (hb : c ≠ '\\') (s : Text) :
    breaksLine (c :: s) = (decide (c = '\n') || breaksLine s) := by
  rw [breaksLine]
  rintro d t rfl
  exact absurd rfl hb

theorem breaksLine_append {p : Text} (hp : ∀ c ∈ p, c ≠ '\\' ∧ c ≠ '\n') (s : Text) :
    breaksLine (p ++ s) = breaksLine s := by
  induction p with
  | nil => rfl
  | cons c p ih =>
    obtain ⟨hc, hp⟩ := List.forall_mem_cons.mp hp
    rw [List.cons_append, breaksLine_cons hc.1, decide_eq_false hc.2, Bool.false_or, ih hp]

/-- No line end is a null character, so the body has one if it is refused for it. -/
theorem literal?_eq (body : Text) :
    literal? body =
      if '\x00' ∈ body ∨ breaksLine (Text.unifyLineEnds body) then none
      else decode? (Text.unifyLineEnds body) := by
  have hnull : (Text.unifyLineEnds body).contains '\x00' ↔ '\x00' ∈ body := by
    rw [List.contains_iff_mem, Text.mem_unifyLineEnds (by decide) (by decide)]
  simp only [literal?, hnull]

end Escape

namespace GoString

/-! ## Escapes -/

theorem letter?_of_ne {l : Char} (h : l ≠ '\x27') : Escape.letter? l = ofShortEscape? l := by
  unfold Escape.letter?
  split <;> first | rfl | exact absurd rfl h | simp_all [ofShortEscape?]

theorem one?_of_escaped {p : Text} {c : Char} (h : Escaped p c) (s : Text) :
    Escape.one? (p ++ s) = some ([c], s) := by
  cases h with
  | @letter l c h =>
    have hne : l ≠ '\x27' := by
      rintro rfl
      cases h
    simp [Escape.one?, (ofShortEscape?_ne h).2.2.2, letter?_of_ne hne, h]
  | @number l c digits n hl hn hc =>
    have hw : Escape.width? l = some digits.length := by
      simp only [List.mem_cons, Prod.mk.injEq, List.not_mem_nil, or_false] at hl
      rcases hl with ⟨rfl, hlen⟩ | ⟨rfl, hlen⟩ | ⟨rfl, hlen⟩ <;> rw [hlen] <;> rfl
    obtain ⟨hlt, hs, rfl⟩ := rune?_eq_some_iff.mp hc
    have hs : ¬(0xd800 ≤ n ∧ n ≤ 0xdfff) := by simpa [isSurrogate] using hs
    rw [List.cons_append, Escape.one?_of_width? hw, Escape.hex?_append hn hlt, if_neg hs]
    rfl
  | @octal a b d c x y z ha hb hd hlt hc =>
    obtain ⟨-, -, rfl⟩ := rune?_eq_some_iff.mp hc
    have hne : a ≠ '\n' ∧ a ≠ '\x27' := by
      refine ⟨?_, ?_⟩ <;> rintro rfl <;> simp [octalDigit?] at ha
    have hletter : Escape.letter? a = none := by
      rw [letter?_of_ne hne.2, ofShortEscape?_of_octal ha]
    have ha : Escape.octal? a = some x := ha
    have hb : Escape.octal? b = some y := hb
    have hd : Escape.octal? d = some z := hd
    have hn : 8 * (8 * x + y) + z = 64 * x + 8 * y + z := by omega
    simp [Escape.one?, hne.1, hletter, ha, hb, hd, Escape.octals, hn]

/-! ## Literals -/

theorem decode?_of_reads {body v : Text} (h : Reads body v) : Escape.decode? body = some v := by
  induction h with
  | nil => rfl
  | char _ hb _ _ ih => rw [Escape.decode?_cons hb, ih, Option.map_some]
  | escape hp _ ih =>
    rw [Escape.decode?_backslash (one?_of_escaped hp _), ih]
    rfl

theorem Reads.eq_nil {body : Text} (h : Reads body []) : body = [] := by
  cases h
  rfl

/-- A literal that is read has no line feed, so each of its lines ends in a carriage
return. -/
theorem breaksLine_of_reads {body v : Text} (h : Reads body v) :
    Escape.breaksLine (Text.unifyLineEnds body) ↔ '\r' ∈ body := by
  induction h with
  | nil => simp [Text.unifyLineEnds, Escape.breaksLine]
  | @char c s v hq hb hn _ ih =>
    by_cases hr : c = '\r'
    · subst hr
      obtain ⟨t, ht⟩ := Text.unifyLineEnds_cr s
      simp [ht, Escape.breaksLine_cons]
    · rw [Text.unifyLineEnds_cons hr, Escape.breaksLine_cons hb, decide_eq_false hn,
        Bool.false_or, ih, List.mem_cons, or_iff_right (Ne.symm hr)]
  | @escape p c s v hp _ ih =>
    obtain ⟨l, digits, rfl, hl, hdigits⟩ := exists_of_escaped hp
    have hr : '\r' ∉ l :: digits := fun hr => absurd (lt_of_mem_escaped hp _ hr) (by decide)
    have hplain : ∀ d ∈ digits, d ≠ '\\' ∧ d ≠ '\n' := by
      intro d hd
      constructor <;> rintro rfl <;> exact absurd (hdigits _ hd) (by decide)
    rw [Text.unifyLineEnds_cons (by decide), Text.unifyLineEnds_append hr, List.cons_append,
      Escape.breaksLine, Escape.breaksLine_append hplain, ih, List.mem_cons, List.mem_append,
      or_iff_right (by decide), or_iff_right hr]

/-- A literal that is read stands for the same text by both rules, unless it has a null
character or a carriage return. -/
theorem literal?_of_reads {body v : Text} (h : Reads body v) :
    Escape.literal? body = if '\x00' ∈ body ∨ '\r' ∈ body then none else some v := by
  simp only [Escape.literal?_eq, breaksLine_of_reads h]
  split
  · rfl
  · next hnone =>
    have hunify : Text.unifyLineEnds body = body := by
      simpa [Text.unifyLineEnds] using
        Text.unifyLineEnds_append (fun hr => hnone (.inr hr)) []
    rw [hunify, decode?_of_reads h]

end GoString

end Stencil
