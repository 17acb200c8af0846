import Stencil.Literal.Escape
import Stencil.Proofs.Text.Hexadecimal

/-!
# Reading backslash escapes

`Escape.decode?` reads one escape after the other with fuel for every character. Its
equations without fuel are `decode?_cons` and `decode?_backslash`, and `Decodes` is the induction
that goes with them. An escape is refused
only if the digits or the name that it announces are missing : `Complete` says that none
is, and `decode?_isSome_iff` that this is all it takes. `decode?_eq_nil_iff` : only
escaped line feeds stand for nothing.
-/

namespace Stencil

namespace Text

theorem cut?_singleton {c : Char} :
    ∀ {s before after : Text},
      cut? [c] s = some (before, after) ↔ s = before ++ c :: after ∧ c ∉ before
  | [], before, after => by simp [cut?]
  | d :: s, before, after => by
    by_cases hd : d = c
    · subst hd
      cases before with
      | nil => simp [cut?, List.isPrefixOf]
      | cons b before => simp [cut?, List.isPrefixOf]; grind
    · have hp : List.isPrefixOf [c] (d :: s) = false := by
        simp [List.isPrefixOf, Ne.symm hd]
      simp only [cut?, hp, Bool.false_eq_true, if_false, Option.map_eq_some_iff, Prod.exists,
        cut?_singleton]
      constructor
      · rintro ⟨before, after, ⟨rfl, hc⟩, he⟩
        obtain ⟨rfl, rfl⟩ := Prod.mk.inj he
        exact ⟨rfl, by simp [Ne.symm hd, hc]⟩
      · rintro ⟨hs, hc⟩
        cases before with
        | nil => exact absurd (List.cons.inj hs).1 hd
        | cons b before =>
          obtain ⟨rfl, rfl⟩ := List.cons.inj hs
          exact ⟨before, after, ⟨rfl, fun h => hc (List.mem_cons_of_mem _ h)⟩, rfl⟩

end Text

namespace Escape

/-! ## One escape -/

theorem hex?_append {digits : Text} {n : Nat} (hn : Text.hexValue? digits = some n)
    (hlt : n < 0x110000) (s : Text) :
    hex? digits.length (digits ++ s) =
      some (if 0xd800 ≤ n ∧ n ≤ 0xdfff then '\ufffd' else Char.ofNat n, s) := by
  simp [hex?, hn, hlt]

theorem of_hex? {count : Nat} {s rest : Text} {c : Char} (h : hex? count s = some (c, rest)) :
    ∃ digits n, s = digits ++ rest ∧ digits.length = count ∧
      Text.hexValue? digits = some n ∧ n < 0x110000 := by
  unfold hex? at h
  split at h
  · cases h
  · next hlen =>
    simp only [Option.bind_eq_bind, Option.bind_eq_some_iff] at h
    obtain ⟨n, hn, h⟩ := h
    split at h
    · next hlt =>
      obtain ⟨-, rfl⟩ := Prod.mk.inj (Option.some.inj h)
      have := List.length_take_le count s
      exact ⟨s.take count, n, (List.take_append_drop count s).symm, by omega, hn, hlt⟩
    · cases h

/-- Octal digits are taken from the front of a text. -/
theorem octals_eq_append :
    ∀ (more n : Nat) (s : Text),
      ∃ digits, s = digits ++ (octals more n s).2 ∧ ∀ d ∈ digits, d ≠ '\\'
  | 0, n, s => ⟨[], rfl, by simp⟩
  | more + 1, n, [] => ⟨[], rfl, by simp⟩
  | more + 1, n, c :: s => by
    cases hc : octal? c with
    | none => exact ⟨[], by simp [octals, hc], by simp⟩
    | some d =>
      obtain ⟨digits, hs, hdigits⟩ := octals_eq_append more (8 * n + d) s
      have hne : c ≠ '\\' := by
        rintro rfl
        simp [octal?] at hc
      refine ⟨c :: digits, by simpa [octals, hc] using hs, ?_⟩
      simpa [hne] using hdigits

theorem named?_eq_some_iff {s rest : Text} {c : Char} :
    named? s = some (c, rest) ↔
      ∃ name, s = '\x7b' :: (name ++ '\x7d' :: rest) ∧ '\x7d' ∉ name ∧
        CharacterName.find? name = some c := by
  constructor
  · intro h
    unfold named? at h
    split at h
    · next s =>
      simp only [Option.bind_eq_bind, Option.bind_eq_some_iff, Prod.exists, Option.pure_def,
        Option.some.injEq, Prod.mk.injEq] at h
      obtain ⟨name, rest, hcut, c, hfind, rfl, rfl⟩ := h
      obtain ⟨rfl, hname⟩ := Text.cut?_singleton.mp hcut
      exact ⟨name, rfl, hname, hfind⟩
    · cases h
  · rintro ⟨name, rfl, hname, hfind⟩
    simp [named?, Text.cut?_singleton.mpr ⟨rfl, hname⟩, hfind]

theorem one?_of_width? {l : Char} {count : Nat} (h : width? l = some count) (s : Text) :
    one? (l :: s) = (hex? count s).map fun (e, rest) => ([e], rest) := by
  unfold width? at h
  split at h <;> first | (obtain rfl := Option.some.inj h; rfl) | cases h

theorem one?_N (s : Text) :
    one? ('N' :: s) = (named? s).map fun (e, rest) => ([e], rest) :=
  rfl

/-- Behind any other character an escape is complete, and takes octal digits at most. -/
theorem one?_of_other {c : Char} (hw : width? c = none) (hN : c ≠ 'N') (s : Text) :
    ∃ e digits rest, one? (c :: s) = some (e, rest) ∧ s = digits ++ rest ∧
      ∀ d ∈ digits, d ≠ '\\' := by
  by_cases hn : c = '\n'
  · exact ⟨[], [], s, by simp [one?, hn], rfl, by simp⟩
  cases hl : letter? c with
  | some e => exact ⟨[e], [], s, by simp [one?, hn, hl], rfl, by simp⟩
  | none =>
    cases ho : octal? c with
    | some d =>
      obtain ⟨digits, hs, hdigits⟩ := octals_eq_append 2 d s
      exact ⟨[Char.ofNat (octals 2 d s).1], digits, (octals 2 d s).2, by simp [one?, hn, hl, ho],
        hs, hdigits⟩
    | none => exact ⟨['\\', c], [], s, by simp [one?, hn, hl, ho, hw, hN], rfl, by simp⟩

/-- What was read as an escape has all its digits or its name, or needs none. -/
theorem of_one? {s e rest : Text} (h : one? s = some (e, rest)) :
    (∃ l digits n, s = l :: (digits ++ rest) ∧ width? l = some digits.length ∧
      Text.hexValue? digits = some n ∧ n < 0x110000) ∨
    (∃ name c, s = 'N' :: '\x7b' :: (name ++ '\x7d' :: rest) ∧ '\x7d' ∉ name ∧
      CharacterName.find? name = some c) ∨
    ∃ c digits, s = c :: (digits ++ rest) ∧ width? c = none ∧ c ≠ 'N' ∧
      ∀ d ∈ digits, d ≠ '\\' := by
  cases s with
  | nil => cases h
  | cons l s =>
    cases hw : width? l with
    | some count =>
      rw [one?_of_width? hw] at h
      obtain ⟨⟨x, r⟩, hx, he⟩ := Option.map_eq_some_iff.mp h
      obtain ⟨-, rfl⟩ := Prod.mk.inj he
      obtain ⟨digits, n, rfl, hcount, hn, hlt⟩ := of_hex? hx
      exact .inl ⟨l, digits, n, rfl, hcount ▸ hw, hn, hlt⟩
    | none =>
      by_cases hN : l = 'N'
      · subst hN
        rw [one?_N] at h
        obtain ⟨⟨x, r⟩, hx, he⟩ := Option.map_eq_some_iff.mp h
        obtain ⟨-, rfl⟩ := Prod.mk.inj he
        obtain ⟨name, rfl, hname, hfind⟩ := named?_eq_some_iff.mp hx
        exact .inr (.inl ⟨name, x, rfl, hname, hfind⟩)
      · obtain ⟨e', digits, r, hone, rfl, hdigits⟩ := one?_of_other hw hN s
        obtain ⟨-, rfl⟩ := Prod.mk.inj (Option.some.inj (hone.symm.trans h))
        exact .inr (.inr ⟨l, digits, rfl, hw, hN, hdigits⟩)

/-- An escape takes at least one character behind its backslash. -/
theorem length_lt_of_one? {s e rest : Text} (h : one? s = some (e, rest)) :
    rest.length < s.length := by
  rcases of_one? h with ⟨l, digits, n, rfl, -⟩ | ⟨name, c, rfl, -⟩ | ⟨c, digits, rfl, -⟩ <;>
    simp only [List.length_cons, List.length_append] <;> omega

/-- Only an escaped line feed stands for nothing. -/
theorem one?_eq_nil_iff {s rest : Text} : one? s = some ([], rest) ↔ s = '\n' :: rest := by
  constructor
  · intro h
    fun_cases one? s <;> simp_all [one?]
  · rintro rfl
    rfl

/-! ## All escapes -/

theorem decodeFrom_nil : ∀ fuel, decodeFrom fuel [] = some []
  | 0 => rfl
  | _ + 1 => rfl

/-- Fuel for every character of a text is enough. -/
theorem decodeFrom_congr :
    ∀ (n m : Nat) (s : Text), s.length ≤ n → s.length ≤ m → decodeFrom n s = decodeFrom m s
  | _, _, [], _, _ => by rw [decodeFrom_nil, decodeFrom_nil]
  | n + 1, m + 1, c :: s, hn, hm => by
    simp only [List.length_cons] at hn hm
    by_cases hc : c = '\\'
    · subst hc
      simp only [decodeFrom]
      cases hone : one? s with
      | none => rfl
      | some found =>
        obtain ⟨e, rest⟩ := found
        have := length_lt_of_one? hone
        simp only [Option.bind_eq_bind, Option.bind_some]
        rw [decodeFrom_congr n m rest (by omega) (by omega)]
    · simp only [decodeFrom]
      rw [decodeFrom_congr n m s (by omega) (by omega)]

theorem decode?_cons {c : Char} (hc : c ≠ '\\') (s : Text) :
    decode? (c :: s) = (decode? s).map (c :: ·) := by
  simp [decode?, decodeFrom]

theorem decode?_backslash {s e rest : Text} (h : one? s = some (e, rest)) :
    decode? ('\\' :: s) = (decode? rest).map (e ++ ·) := by
  have hrest := length_lt_of_one? h
  simp only [decode?, List.length_cons, decodeFrom, h, Option.bind_eq_bind, Option.bind_some]
  rw [decodeFrom_congr s.length rest.length rest (by omega) (Nat.le_refl _)]
  cases decodeFrom rest.length rest <;> rfl

theorem one?_of_decode? {s v : Text} (h : decode? ('\\' :: s) = some v) :
    ∃ e rest, one? s = some (e, rest) := by
  cases hone : one? s with
  | none => simp [decode?, decodeFrom, hone] at h
  | some found => exact ⟨found.1, found.2, rfl⟩

theorem decode?_append {plain : Text} (h : ∀ c ∈ plain, c ≠ '\\') (s : Text) :
    decode? (plain ++ s) = (decode? s).map (plain ++ ·) := by
  induction plain with
  | nil => simp
  | cons c plain ih =>
    obtain ⟨hc, hplain⟩ := List.forall_mem_cons.mp h
    rw [List.cons_append, decode?_cons hc, ih hplain, Option.map_map]
    rfl

/-- No escape of a text lacks the digits or the name that it announces : hexadecimal
digits behind `x`, `u` and `U`, the name of a character in braces behind `N`. -/
inductive Complete : Text → Prop
  | nil : Complete []
  | char {c : Char} {s : Text} (hc : c ≠ '\\') (h : Complete s) : Complete (c :: s)
  | number {l : Char} {digits s : Text} {n : Nat} (hl : width? l = some digits.length)
    (hn : Text.hexValue? digits = some n) (hlt : n < 0x110000) (h : Complete s) :
    Complete ('\\' :: l :: (digits ++ s))
  | named {name s : Text} {c : Char} (hname : '\x7d' ∉ name)
    (hc : CharacterName.find? name = some c) (h : Complete s) :
    Complete ('\\' :: 'N' :: '\x7b' :: (name ++ '\x7d' :: s))
  | other {c : Char} {s : Text} (hw : width? c = none) (hN : c ≠ 'N') (h : Complete s) :
    Complete ('\\' :: c :: s)

theorem Complete.append {plain s : Text} (h : ∀ c ∈ plain, c ≠ '\\') (hs : Complete s) :
    Complete (plain ++ s) := by
  induction plain with
  | nil => exact hs
  | cons c plain ih =>
    obtain ⟨hc, hplain⟩ := List.forall_mem_cons.mp h
    exact .char hc (ih hplain)

theorem isSome_decode?_of_complete {s : Text} (h : Complete s) : (decode? s).isSome := by
  induction h with
  | nil => rfl
  | char hc _ ih => simpa [decode?_cons hc] using ih
  | @number l digits s n hl hn hlt _ ih =>
    have hone := one?_of_width? hl (digits ++ s)
    rw [hex?_append hn hlt, Option.map_some] at hone
    simpa [decode?_backslash hone] using ih
  | @named name s c hname hc _ ih =>
    have hone : one? ('N' :: '\x7b' :: (name ++ '\x7d' :: s)) = some ([c], s) := by
      rw [one?_N, named?_eq_some_iff.mpr ⟨name, rfl, hname, hc⟩]
      rfl
    simpa [decode?_backslash hone] using ih
  | @other c s hw hN _ ih =>
    obtain ⟨e, digits, rest, hone, rfl, hdigits⟩ := one?_of_other hw hN s
    rw [decode?_append hdigits] at ih
    simpa [decode?_backslash hone] using ih

/-- How a text is decoded : character by character, and escape by escape. -/
inductive Decodes : Text → Text → Prop
  | nil : Decodes [] []
  | char {c : Char} {s v : Text} (hc : c ≠ '\\') (h : Decodes s v) : Decodes (c :: s) (c :: v)
  | escape {s e rest v : Text} (hone : one? s = some (e, rest)) (h : Decodes rest v) :
    Decodes ('\\' :: s) (e ++ v)

theorem decodes_of_decode? : ∀ {s v : Text}, decode? s = some v → Decodes s v
  | [], _, h => by
    obtain rfl := Option.some.inj h
    exact .nil
  | c :: s, v, h => by
    by_cases hc : c = '\\'
    · subst hc
      obtain ⟨e, rest, hone⟩ := one?_of_decode? h
      have hlen := length_lt_of_one? hone
      rw [decode?_backslash hone] at h
      obtain ⟨w, hw, rfl⟩ := Option.map_eq_some_iff.mp h
      exact .escape hone (decodes_of_decode? hw)
    · rw [decode?_cons hc] at h
      obtain ⟨w, hw, rfl⟩ := Option.map_eq_some_iff.mp h
      exact .char hc (decodes_of_decode? hw)
termination_by s => s.length

theorem Decodes.complete {s v : Text} (h : Decodes s v) : Complete s := by
  induction h with
  | nil => exact .nil
  | char hc _ ih => exact .char hc ih
  | escape hone _ ih =>
    rcases of_one? hone with ⟨l, digits, n, rfl, hl, hn, hlt⟩ | ⟨name, x, rfl, hname, hfind⟩ |
      ⟨l, digits, rfl, hl, hN, hdigits⟩
    · exact .number hl hn hlt ih
    · exact .named hname hfind ih
    · exact .other hl hN (ih.append hdigits)

/-- A text is decoded when its escapes are complete, and refused otherwise. -/
theorem decode?_isSome_iff {s : Text} : (decode? s).isSome ↔ Complete s := by
  refine ⟨fun h => ?_, isSome_decode?_of_complete⟩
  obtain ⟨v, hv⟩ := Option.isSome_iff_exists.mp h
  exact (decodes_of_decode? hv).complete

/-- Line feeds, each behind a backslash. -/
def lineFeeds : Nat → Text
  | 0 => []
  | n + 1 => '\\' :: '\n' :: lineFeeds n

theorem decode?_lineFeeds : ∀ n, decode? (lineFeeds n) = some []
  | 0 => rfl
  | n + 1 => by
    rw [lineFeeds, decode?_backslash (one?_eq_nil_iff.mpr rfl), decode?_lineFeeds n]
    rfl

theorem Decodes.exists_lineFeeds {s v : Text} (h : Decodes s v) (hv : v = []) :
    ∃ n, s = lineFeeds n := by
  induction h with
  | nil => exact ⟨0, rfl⟩
  | char => cases hv
  | escape hone _ ih =>
    obtain ⟨rfl, hv⟩ := List.append_eq_nil_iff.mp hv
    obtain rfl := one?_eq_nil_iff.mp hone
    obtain ⟨n, rfl⟩ := ih hv
    exact ⟨n + 1, rfl⟩

/-- Escaped line feeds stand for nothing, and no other text does. -/
theorem decode?_eq_nil_iff {s : Text} :
    decode? s = some [] ↔ ∃ n, s = lineFeeds n := by
  refine ⟨fun h => (decodes_of_decode? h).exists_lineFeeds rfl, ?_⟩
  rintro ⟨n, rfl⟩
  exact decode?_lineFeeds n

end Escape

end Stencil
