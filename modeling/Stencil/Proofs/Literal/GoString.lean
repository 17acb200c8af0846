import Stencil.Literal.GoString
import Stencil.Proofs.Text.Hexadecimal

/-!
# The language of interpreted string literals

`Reads body v` says in the words of the language what a literal stands for : its body is
a row of characters and of the escapes of `Escaped`. `unquote?_eq_some_iff` :
`unquote?` reads these literals and refuses all others.
-/

namespace Stencil.GoString

/-- What may stand behind a backslash, and the character that it stands for : a letter,
hexadecimal digits behind `x`, `u` or `U`, or three octal digits up to `377`. -/
inductive Escaped : Text → Char → Prop
  | letter {l c : Char} (h : ofShortEscape? l = some c) : Escaped [l] c
  | number {l c : Char} {digits : Text} {n : Nat}
    (hl : (l, digits.length) ∈ [('x', 2), ('u', 4), ('U', 8)])
    (hn : Text.hexValue? digits = some n) (hc : rune? n = some c) : Escaped (l :: digits) c
  | octal {a b d c : Char} {x y z : Nat} (ha : octalDigit? a = some x)
    (hb : octalDigit? b = some y) (hd : octalDigit? d = some z)
    (hlt : 64 * x + 8 * y + z < 256) (hc : rune? (64 * x + 8 * y + z) = some c) :
    Escaped [a, b, d] c

/-- The body of a literal, and the text that it stands for. -/
inductive Reads : Text → Text → Prop
  | nil : Reads [] []
  | char {c : Char} {s v : Text} (hq : c ≠ '"') (hb : c ≠ '\\') (hn : c ≠ '\n')
    (h : Reads s v) : Reads (c :: s) (c :: v)
  | escape {p : Text} {c : Char} {s v : Text} (hp : Escaped p c) (h : Reads s v) :
    Reads ('\\' :: (p ++ s)) (c :: v)

theorem rune?_eq_some_iff {n : Nat} {c : Char} :
    rune? n = some c ↔ n < 0x110000 ∧ isSurrogate n = false ∧ c = Char.ofNat n := by
  unfold rune?
  split
  · next h =>
    have h : n < 0x110000 ∧ isSurrogate n = false := by simpa using h
    simp [h, eq_comm]
  · next h =>
    have h : n < 0x110000 → isSurrogate n = true := by simpa using h
    simp only [reduceCtorEq, false_iff]
    rintro ⟨hlt, hs, -⟩
    simp [h hlt] at hs

/-- A letter with a meaning of its own begins no number. -/
theorem ofShortEscape?_ne {l c : Char} (h : ofShortEscape? l = some c) :
    l ≠ 'x' ∧ l ≠ 'u' ∧ l ≠ 'U' ∧ l ≠ '\n' := by
  refine ⟨?_, ?_, ?_, ?_⟩ <;> rintro rfl <;> simp [ofShortEscape?] at h

theorem octalDigit?_eq_some_iff {c : Char} {x : Nat} :
    octalDigit? c = some x ↔ '0' ≤ c ∧ c ≤ '7' ∧ x = c.toNat - 48 := by
  unfold octalDigit?
  split
  · next h => simp [h, eq_comm]
  · next h => simp only [reduceCtorEq, false_iff]; rintro ⟨h0, h7, -⟩; exact h ⟨h0, h7⟩

theorem isSome_hexDigit?_of_octal {c : Char} {x : Nat} (h : octalDigit? c = some x) :
    (Text.hexDigit? c).isSome := by
  obtain ⟨h0, h7, -⟩ := octalDigit?_eq_some_iff.mp h
  have h9 : c ≤ '9' := Std.le_trans h7 (by decide)
  simp [Text.hexDigit?, h0, h9]

/-- An escape is a visible character and hexadecimal digits behind it. -/
theorem exists_of_escaped {p : Text} {c : Char} (h : Escaped p c) :
    ∃ l digits, p = l :: digits ∧ ' ' < l ∧ ∀ d ∈ digits, (Text.hexDigit? d).isSome := by
  cases h with
  | @letter l c h =>
    refine ⟨l, [], rfl, ?_, by simp⟩
    unfold ofShortEscape? at h
    split at h <;> first | decide | cases h
  | @number l c digits n hl hn hc =>
    refine ⟨l, digits, rfl, ?_, Text.isSome_hexDigit?_of_hexValue? hn⟩
    simp only [List.mem_cons, Prod.mk.injEq, List.not_mem_nil, or_false] at hl
    rcases hl with ⟨rfl, -⟩ | ⟨rfl, -⟩ | ⟨rfl, -⟩ <;> decide
  | @octal a b d c x y z ha hb hd hlt hc =>
    refine ⟨a, [b, d], rfl, Text.lt_of_isSome_hexDigit? (isSome_hexDigit?_of_octal ha), ?_⟩
    simp [isSome_hexDigit?_of_octal hb, isSome_hexDigit?_of_octal hd]

theorem lt_of_mem_escaped {p : Text} {c : Char} (h : Escaped p c) : ∀ d ∈ p, ' ' < d := by
  obtain ⟨l, digits, rfl, hl, hdigits⟩ := exists_of_escaped h
  exact List.forall_mem_cons.mpr ⟨hl, fun d hd => Text.lt_of_isSome_hexDigit? (hdigits d hd)⟩

theorem ofShortEscape?_of_octal {c : Char} {x : Nat} (h : octalDigit? c = some x) :
    ofShortEscape? c = none := by
  cases hs : ofShortEscape? c with
  | none => rfl
  | some e =>
    unfold ofShortEscape? at hs
    split at hs <;> first | cases hs; done | simp [octalDigit?] at h

theorem unquoteBody?_number {l : Char} {digits : Text}
    (hl : (l, digits.length) ∈ [('x', 2), ('u', 4), ('U', 8)]) (s : Text) :
    unquoteBody? ('\\' :: l :: (digits ++ s)) = (do
      return (← rune? (← Text.hexValue? digits)) :: (← unquoteBody? s)) := by
  simp only [List.mem_cons, Prod.mk.injEq, List.not_mem_nil, or_false] at hl
  rcases hl with ⟨rfl, hlen⟩ | ⟨rfl, hlen⟩ | ⟨rfl, hlen⟩
  · match digits, hlen with
    | [a, b], _ => rfl
  · match digits, hlen with
    | [a, b, d, e], _ => rfl
  · match digits, hlen with
    | [a, b, d, e, f, g, i, j], _ => rfl

theorem unquoteBody?_escape {p : Text} {c : Char} (hp : Escaped p c) (s : Text) :
    unquoteBody? ('\\' :: (p ++ s)) = (unquoteBody? s).map (c :: ·) := by
  cases hp with
  | @letter l c h =>
    obtain ⟨hx, hu, hU, -⟩ := ofShortEscape?_ne h
    rcases s with _ | ⟨a, _ | ⟨b, s⟩⟩ <;> simp [unquoteBody?, h, hx, hu, hU]
  | @number l c digits n hl hn hc =>
    rw [List.cons_append, unquoteBody?_number hl, hn]
    simp only [Option.bind_eq_bind, Option.bind_some, hc]
    cases unquoteBody? s <;> rfl
  | @octal a b d c x y z ha hb hd hlt hc =>
    have hletter := ofShortEscape?_of_octal ha
    have hne : a ≠ 'x' ∧ a ≠ 'u' ∧ a ≠ 'U' := by
      refine ⟨?_, ?_, ?_⟩ <;> rintro rfl <;> simp [octalDigit?] at ha
    cases hs : unquoteBody? s <;>
      simp [unquoteBody?, hletter, hne, ha, hb, hd, hlt, hc, hs]

/-- The step of `of_unquoteBody?` behind a numeric escape. -/
theorem exists_reads_number {l : Char} (digits : Text) {s v : Text}
    (hl : (l, digits.length) ∈ [('x', 2), ('u', 4), ('U', 8)])
    (h : (do return (← rune? (← Text.hexValue? digits)) :: (← unquoteBody? s)) = some v)
    (ih : ∀ {w}, unquoteBody? s = some w → ∃ body, s = body ++ ['"'] ∧ Reads body w) :
    ∃ body, '\\' :: l :: (digits ++ s) = body ++ ['"'] ∧ Reads body v := by
  simp only [Option.bind_eq_bind, Option.bind_eq_some_iff, Option.pure_def,
    Option.some.injEq] at h
  obtain ⟨n, hn, c, hc, w, hw, rfl⟩ := h
  obtain ⟨body, rfl, hbody⟩ := ih hw
  exact ⟨'\\' :: (l :: digits ++ body), by simp, .escape (.number hl hn hc) hbody⟩

theorem of_unquoteBody? {t v : Text} (h : unquoteBody? t = some v) :
    ∃ body, t = body ++ ['"'] ∧ Reads body v := by
  fun_induction unquoteBody? t generalizing v with
  | case1 =>
    obtain rfl := Option.some.inj h
    exact ⟨[], rfl, .nil⟩
  | case2 a b s ih => exact exists_reads_number [a, b] (by simp) h ih
  | case3 a b d e s ih => exact exists_reads_number [a, b, d, e] (by simp) h ih
  | case4 a b d e f g i j s ih =>
    exact exists_reads_number [a, b, d, e, f, g, i, j] (by simp) h ih
  | case5 l s _ _ _ c hc ih =>
    obtain ⟨w, hw, rfl⟩ := Option.map_eq_some_iff.mp h
    obtain ⟨body, rfl, hbody⟩ := ih hw
    exact ⟨'\\' :: ([l] ++ body), rfl, .escape (.letter hc) hbody⟩
  | case6 a _ b d s _ _ _ ih =>
    simp only [Option.bind_eq_bind, Option.bind_eq_some_iff, Option.pure_def] at h
    obtain ⟨x, ha, y, hb, z, hd, h⟩ := h
    split at h
    · next hlt =>
      simp only [Option.bind_eq_some_iff, Option.some.injEq] at h
      obtain ⟨c, hc, w, hw, rfl⟩ := h
      obtain ⟨body, rfl, hbody⟩ := ih hw
      exact ⟨'\\' :: ([a, b, d] ++ body), rfl, .escape (.octal ha hb hd hlt hc) hbody⟩
    · cases h
  | case9 c s _ _ _ _ _ hc ih =>
    obtain ⟨w, hw, rfl⟩ := Option.map_eq_some_iff.mp h
    obtain ⟨body, rfl, hbody⟩ := ih hw
    simp only [not_or] at hc
    exact ⟨c :: body, rfl, .char hc.1 hc.2.1 hc.2.2 hbody⟩
  | _ => cases h

theorem unquoteBody?_of_reads {body v : Text} (h : Reads body v) :
    unquoteBody? (body ++ ['"']) = some v := by
  induction h with
  | nil => rfl
  | @char c s v hq hb hn _ ih =>
    simp [unquoteBody?, hq, hb, hn, ih]
  | escape hp _ ih =>
    rw [List.cons_append, List.append_assoc, unquoteBody?_escape hp, ih, Option.map_some]

/-- A literal is read when its body is in the language, and refused otherwise. -/
theorem unquote?_eq_some_iff {body v : Text} :
    unquote? ('"' :: (body ++ ['"'])) = some v ↔ Reads body v := by
  refine ⟨fun h => ?_, unquoteBody?_of_reads⟩
  obtain ⟨inner, he, hinner⟩ := of_unquoteBody? h
  exact (List.append_inj' he rfl).1 ▸ hinner

end Stencil.GoString
