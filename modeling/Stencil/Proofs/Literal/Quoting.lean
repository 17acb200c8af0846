import Stencil.Proofs.Literal.GoString
import Stencil.Proofs.Text.Printable

/-!
# Literals that were quoted

`Spells p c` : inside of a literal the printable text `p` stands for the character `c`. The literal
that `quote` writes spells one character for each code point, which is U+FFFD for half of a
surrogate pair (`spells_quoteRune`). So it is in the language and stands for what was quoted
(`reads_flatMap_quoteRune`). A text has no such half, so its literal stands for the text
(`reads_body`).
-/

namespace Stencil.GoString

/-! ## Spellings -/

/-- How a character is spelled in printable characters : by itself, by a short escape, or by its
number in hexadecimal digits, two for a character of ASCII, four or eight. -/
inductive Spells : Text → Char → Prop
  | itself {c : Char} (hp : Text.isPrintable c.toNat) (hq : c ≠ '"') (hb : c ≠ '\\') : Spells [c] c
  | letter {l c : Char} (h : ofShortEscape? l = some c) : Spells ['\\', l] c
  | number {l c : Char} {digits : Text}
    (hl : (l, digits.length) ∈ [('x', 2), ('u', 4), ('U', 8)])
    (hn : Text.hexValue? digits = some c.toNat) (hx : l = 'x' → c.toNat < 0x80) :
    Spells ('\\' :: l :: digits) c

theorem isPrintable_of_isSome_hexDigit? {c : Char} (h : (Text.hexDigit? c).isSome) :
    Text.isPrintable c.toNat = true := by
  unfold Text.hexDigit? at h
  split at h
  · next hc => exact Text.isPrintable_of_between hc.1 hc.2 (by decide) (by decide)
  split at h
  · next hc => exact Text.isPrintable_of_between hc.1 hc.2 (by decide) (by decide)
  split at h
  · next hc => exact Text.isPrintable_of_between hc.1 hc.2 (by decide) (by decide)
  · cases h

theorem isPrintable_of_ofShortEscape? {l c : Char} (h : ofShortEscape? l = some c) :
    Text.isPrintable l.toNat = true := by
  unfold ofShortEscape? at h
  split at h <;> first | decide | cases h

theorem Spells.isPrintable {p : Text} {c : Char} (h : Spells p c) :
    ∀ d ∈ p, Text.isPrintable d.toNat = true := by
  have hbackslash : Text.isPrintable '\\'.toNat = true := by decide
  cases h with
  | itself hp => simpa using hp
  | letter h => simpa using ⟨hbackslash, isPrintable_of_ofShortEscape? h⟩
  | @number l c digits hl hn hx =>
    have hletter : Text.isPrintable l.toNat = true := by
      simp only [List.mem_cons, Prod.mk.injEq, List.not_mem_nil, or_false] at hl
      rcases hl with ⟨rfl, -⟩ | ⟨rfl, -⟩ | ⟨rfl, -⟩ <;> decide
    refine List.forall_mem_cons.mpr ⟨hbackslash, List.forall_mem_cons.mpr ⟨hletter, ?_⟩⟩
    exact fun d hd => isPrintable_of_isSome_hexDigit? (Text.isSome_hexDigit?_of_hexValue? hn d hd)

theorem rune?_toNat (c : Char) : rune? c.toNat = some c := by
  have hvalid : c.toNat < 0xd800 ∨ 0xdfff < c.toNat ∧ c.toNat < 0x110000 := c.valid
  have hs : isSurrogate c.toNat = false := by
    simp only [isSurrogate, Bool.and_eq_false_iff, decide_eq_false_iff_not]
    omega
  exact rune?_eq_some_iff.mpr ⟨by omega, hs, (Char.ofNat_toNat c).symm⟩

/-- What spells a character may go on with the body of a literal. -/
theorem Spells.reads {p : Text} {c : Char} (hp : Spells p c) {s v : Text} (h : Reads s v) :
    Reads (p ++ s) (c :: v) := by
  cases hp with
  | itself hp hq hb =>
    have hn : c ≠ '\n' := by
      rintro rfl
      exact absurd hp (by decide)
    exact .char hq hb hn h
  | letter hl => exact .escape (.letter hl) h
  | number hl hn hx => exact .escape (.number hl hn (rune?_toNat c)) h

/-! ## Code points that were quoted -/

/-- The character that a code point is written as. -/
def runeOf (c : CodePoint) : Char :=
  if isSurrogate c.val then '\ufffd' else Char.ofNat c.val

theorem isSurrogate_iff {n : Nat} : isSurrogate n = true ↔ 0xd800 ≤ n ∧ n ≤ 0xdfff := by
  simp [isSurrogate]

theorem toNat_of_rune? {n : Nat} {c : Char} (h : rune? n = some c) : c.toNat = n := by
  obtain ⟨hlt, hs, rfl⟩ := rune?_eq_some_iff.mp h
  have hvalid : n.isValidChar := by
    have : ¬(0xd800 ≤ n ∧ n ≤ 0xdfff) := fun hn => by simp [isSurrogate_iff.mpr hn] at hs
    unfold Nat.isValidChar
    omega
  rw [Char.ofNat, dif_pos hvalid]
  rfl

theorem rune?_val {c : CodePoint} (hs : isSurrogate c.val = false) :
    rune? c.val = some (runeOf c) :=
  rune?_eq_some_iff.mpr ⟨c.isLt, hs, by simp [runeOf, hs]⟩

theorem ofShortEscape?_of_shortEscape? {n : Nat} {l : Char} (h : shortEscape? n = some l) :
    ofShortEscape? l = some (Char.ofNat n) ∧ isSurrogate n = false := by
  unfold shortEscape? at h
  split at h <;> first | (obtain rfl := Option.some.inj h; decide) | cases h

/-- Any character whose number has that many digits is spelled by them. -/
theorem spells_hex {l c : Char} {width n : Nat} (hc : c.toNat = n)
    (hl : (l, width) ∈ [('x', 2), ('u', 4), ('U', 8)]) (hn : n < 16 ^ width)
    (hx : l = 'x' → n < 0x80) : Spells ('\\' :: l :: Text.hex width n) c := by
  subst hc
  have hw : 0 < width := by
    simp only [List.mem_cons, Prod.mk.injEq, List.not_mem_nil, or_false] at hl
    omega
  refine .number ?_ (Text.hexValue?_hex width c.toNat) hx
  rwa [Text.length_hex hw hn]

/-- A code point is written so as to spell its character. -/
theorem spells_quoteRune (c : CodePoint) : Spells (quoteRune c) (runeOf c) := by
  have hmax := c.isLt
  simp only [quoteRune]
  split
  · next l hl =>
    obtain ⟨hread, hs⟩ := ofShortEscape?_of_shortEscape? hl
    exact .letter (by simpa [runeOf, hs] using hread)
  next hshort =>
  by_cases hs : isSurrogate c.val = true
  · obtain ⟨low, high⟩ := isSurrogate_iff.mp hs
    have hrune : runeOf c = '\ufffd' := by simp [runeOf, hs]
    rw [if_neg (by simp [Text.isPrintable_of_surrogate low high]), if_neg (by omega), if_pos hs,
      hrune]
    have hspells : Spells ['\\', 'u', 'f', 'f', 'f', 'd'] '\ufffd' :=
      .number (by decide) (by decide) (by decide)
    exact hspells
  have hno : isSurrogate c.val = false := by simpa using hs
  have hval : (runeOf c).toNat = c.val := toNat_of_rune? (rune?_val hno)
  have hne : ∀ d : Char, (shortEscape? d.toNat).isSome → runeOf c ≠ d := by
    rintro d hd rfl
    rw [hval, hshort] at hd
    cases hd
  split
  · next hprint =>
    have hitself : Char.ofNat c.val = runeOf c := by simp [runeOf, hno]
    rw [hitself]
    exact .itself (hval ▸ hprint) (hne '"' (by decide)) (hne '\\' (by decide))
  split
  · next hlow => exact spells_hex (l := 'x') hval (by decide) (by omega) fun _ => hlow
  split
  · next hlow => exact spells_hex (l := 'u') hval (by decide) (by omega) (by simp)
  · exact spells_hex (l := 'U') hval (by decide) (by omega) (by simp)

theorem reads_flatMap_quoteRune : ∀ s : List CodePoint, Reads (s.flatMap quoteRune) (s.map runeOf)
  | [] => .nil
  | c :: s => by
    rw [List.flatMap_cons, List.map_cons]
    exact (spells_quoteRune c).reads (reads_flatMap_quoteRune s)

/-- The body of the literal of a text. -/
def body (s : Text) : Text := (s.map CodePoint.ofChar).flatMap quoteRune

theorem ofText_eq (s : Text) : ofText s = '"' :: (body s ++ ['"']) :=
  rfl

theorem runeOf_ofChar (c : Char) : runeOf (CodePoint.ofChar c) = c := by
  obtain ⟨hlt, hs, hc⟩ := rune?_eq_some_iff.mp (rune?_toNat c)
  have hval : (CodePoint.ofChar c).val = c.toNat := Nat.mod_eq_of_lt hlt
  rw [runeOf, hval, hs, if_neg (by decide), ← hc]

/-- The literal of a text stands for the text. -/
theorem reads_body (s : Text) : Reads (body s) s := by
  have h := reads_flatMap_quoteRune (s.map CodePoint.ofChar)
  have hid : runeOf ∘ CodePoint.ofChar = id := funext runeOf_ofChar
  rwa [List.map_map, hid, List.map_id] at h

/-- A literal has printable characters only, so no null character and no carriage return. -/
theorem not_mem_body {d : Char} (hd : d = '\x00' ∨ d = '\r') (s : Text) : d ∉ body s := by
  intro hmem
  obtain ⟨c, -, hc⟩ := List.mem_flatMap.mp hmem
  have hprint := (spells_quoteRune c).isPrintable d hc
  rcases hd with rfl | rfl <;> exact absurd hprint (by decide)

end Stencil.GoString
