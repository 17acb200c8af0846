import Stencil.Proofs.Span
import Stencil.Tag.StructTag

/-!
# The pairs of a struct tag

A well-formed pair is a name (`IsName`), a colon and a literal whose body (`IsBody`) has
a character behind each backslash and no other quote. One step of the scan takes spaces and such a
pair from the front of a tag (`next?_append`), and nothing else (`of_next?`).
`Reaches key tag body` says that the first pair named `key` behind well-formed pairs
only has the literal of `body`; `lookup_pairs_iff` : the scan finds exactly that one.
-/

namespace Stencil.StructTag

/-- A name : one or more characters, each of which may stand in a name. -/
def IsName (name : Text) : Prop :=
  name ≠ [] ∧ ∀ c ∈ name, isNameChar c

instance (name : Text) : Decidable (IsName name) :=
  decidable_of_iff (name ≠ [] ∧ name.all isNameChar = true) (by simp [IsName])

/-- What may stand between the quotes of a literal : a backslash takes the character
behind it, and no other character is a quote. -/
inductive IsBody : Text → Prop
  | nil : IsBody []
  | char {c : Char} {s : Text} (hq : c ≠ '"') (hb : c ≠ '\\') (hs : IsBody s) : IsBody (c :: s)
  | escape (c : Char) {s : Text} (hs : IsBody s) : IsBody ('\\' :: c :: s)

theorem IsBody.append {s t : Text} (hs : IsBody s) (ht : IsBody t) : IsBody (s ++ t) := by
  induction hs with
  | nil => exact ht
  | char hq hb _ ih => exact .char hq hb ih
  | escape c _ ih => exact .escape c ih

/-- Spaces and a pair behind them. -/
def pairText (spaces : Nat) (name body : Text) : Text :=
  List.replicate spaces ' ' ++ (name ++ ':' :: '"' :: (body ++ ['"']))

/-! ## One pair -/

theorem literal?_cons {c : Char} (hq : c ≠ '"') (hb : c ≠ '\\') (s : Text) :
    literal? (c :: s) = (literal? s).map fun (body, rest) => (c :: body, rest) := by
  rw [literal?, if_neg hq]
  rintro d t rfl
  exact absurd rfl hb

theorem literal?_append {body : Text} (h : IsBody body) (rest : Text) :
    literal? (body ++ '"' :: rest) = some (body, rest) := by
  induction h with
  | nil => simp [literal?]
  | char hq hb _ ih => rw [List.cons_append, literal?_cons hq hb, ih, Option.map_some]
  | escape c _ ih => rw [List.cons_append, List.cons_append, literal?, ih, Option.map_some]

theorem of_literal? {s body rest : Text} (h : literal? s = some (body, rest)) :
    IsBody body ∧ s = body ++ '"' :: rest := by
  fun_induction literal? s generalizing body with
  | case1 => simp at h
  | case2 c s ih =>
    obtain ⟨⟨inner, r⟩, hlit, he⟩ := Option.map_eq_some_iff.mp h
    obtain ⟨rfl, rfl⟩ := Prod.mk.inj he
    obtain ⟨hbody, rfl⟩ := ih hlit
    exact ⟨.escape c hbody, rfl⟩
  | case3 s _ =>
    obtain ⟨rfl, rfl⟩ := Prod.mk.inj (Option.some.inj h)
    exact ⟨.nil, rfl⟩
  | case4 c s hescape hq ih =>
    obtain ⟨⟨inner, r⟩, hlit, he⟩ := Option.map_eq_some_iff.mp h
    obtain ⟨rfl, rfl⟩ := Prod.mk.inj he
    obtain ⟨hbody, rfl⟩ := ih hlit
    refine ⟨.char hq ?_ hbody, rfl⟩
    -- A backslash with nothing behind it leaves no closing quote.
    rintro rfl
    cases inner with
    | nil => exact hescape _ _ rfl rfl
    | cons d t => exact hescape _ _ rfl rfl

theorem stops_spaces {name : Text} (hname : IsName name) (rest : Text) :
    Stops (· = ' ') (name ++ rest) := by
  obtain ⟨c, name, rfl⟩ := List.exists_cons_of_ne_nil hname.1
  have hc := hname.2 c (by simp)
  have : c ≠ ' ' := by
    rintro rfl
    exact absurd hc (by decide)
  simpa using this

theorem next?_append {name body : Text} (hname : IsName name) (hbody : IsBody body)
    (spaces : Nat) (rest : Text) :
    next? (pairText spaces name body ++ rest) = some ((name, body), rest) := by
  have hcolon : Stops isNameChar (':' :: '"' :: (body ++ '"' :: rest)) :=
    stops_cons.mpr (by decide)
  have hspaces : ∀ c ∈ List.replicate spaces ' ', decide (c = ' ') = true := by simp
  obtain ⟨c, s, rfl⟩ := List.exists_cons_of_ne_nil hname.1
  simp only [next?, pairText, List.append_assoc, List.cons_append, List.nil_append]
  rw [← List.cons_append, dropWhile_span hspaces (stops_spaces hname _),
    takeWhile_span hname.2 hcolon, dropWhile_span hname.2 hcolon]
  simp [literal?_append hbody]

theorem of_next? {tag name body rest : Text} (h : next? tag = some ((name, body), rest)) :
    IsName name ∧ IsBody body ∧ ∃ spaces, tag = pairText spaces name body ++ rest := by
  obtain ⟨blank, r, rfl, hblank, hr⟩ := exists_span (· = ' ') tag
  obtain ⟨start, r, rfl, hstart, hr'⟩ := exists_span isNameChar r
  simp only [next?] at h
  rw [dropWhile_span hblank hr, takeWhile_span hstart hr', dropWhile_span hstart hr'] at h
  split at h
  · next c s t =>
    obtain ⟨⟨inner, u⟩, hlit, he⟩ := Option.map_eq_some_iff.mp h
    simp only [Prod.mk.injEq] at he
    obtain ⟨⟨rfl, rfl⟩, rfl⟩ := he
    obtain ⟨hbody, rfl⟩ := of_literal? hlit
    refine ⟨⟨by simp, hstart⟩, hbody, blank.length, ?_⟩
    have hspaces : blank = List.replicate blank.length ' ' :=
      List.eq_replicate_of_mem fun c hc => by simpa using hblank c hc
    simp [pairText, ← hspaces]
  · cases h

/-! ## All pairs -/

theorem length_lt_of_next? {tag rest : Text} {pair : Text × Text}
    (h : next? tag = some (pair, rest)) : rest.length < tag.length := by
  obtain ⟨name, body⟩ := pair
  obtain ⟨-, -, spaces, rfl⟩ := of_next? h
  simp [pairText]
  omega

theorem pairsFrom_nil : ∀ fuel, pairsFrom fuel [] = []
  | 0 => rfl
  | _ + 1 => rfl

/-- Fuel for every character of a tag is enough. -/
theorem pairsFrom_congr :
    ∀ (n m : Nat) (tag : Text), tag.length ≤ n → tag.length ≤ m →
      pairsFrom n tag = pairsFrom m tag
  | 0, m, tag, hn, _ => by
    obtain rfl := List.eq_nil_of_length_eq_zero (Nat.le_zero.mp hn)
    rw [pairsFrom_nil, pairsFrom_nil]
  | n, 0, tag, _, hm => by
    obtain rfl := List.eq_nil_of_length_eq_zero (Nat.le_zero.mp hm)
    rw [pairsFrom_nil, pairsFrom_nil]
  | n + 1, m + 1, tag, hn, hm => by
    cases hnext : next? tag with
    | none => simp [pairsFrom, hnext]
    | some found =>
      obtain ⟨pair, rest⟩ := found
      have hrest := length_lt_of_next? hnext
      simp only [pairsFrom, hnext]
      rw [pairsFrom_congr n m rest (by omega) (by omega)]

theorem pairs_of_next?_eq_some {tag rest : Text} {pair : Text × Text}
    (h : next? tag = some (pair, rest)) : pairs tag = pair :: pairs rest := by
  have hrest := length_lt_of_next? h
  obtain ⟨n, hn⟩ : ∃ n, tag.length = n + 1 := ⟨tag.length - 1, by omega⟩
  unfold pairs
  simp only [hn, pairsFrom, h]
  rw [pairsFrom_congr n rest.length rest (by omega) (Nat.le_refl _)]

theorem pairs_of_next?_eq_none {tag : Text} (h : next? tag = none) : pairs tag = [] := by
  unfold pairs
  cases tag.length <;> simp [pairsFrom, h]

theorem pairs_append {name body : Text} (hname : IsName name) (hbody : IsBody body)
    (spaces : Nat) (rest : Text) :
    pairs (pairText spaces name body ++ rest) = (name, body) :: pairs rest :=
  pairs_of_next?_eq_some (next?_append hname hbody spaces rest)

/-- The first pair of a tag with the name `key`, reached through well-formed pairs only,
has a literal with the given body. -/
inductive Reaches (key : Text) : Text → Text → Prop
  | here (spaces : Nat) {body : Text} (rest : Text) (hname : IsName key) (hbody : IsBody body) :
    Reaches key (pairText spaces key body ++ rest) body
  | behind (spaces : Nat) {name other tag body : Text} (hname : IsName name) (hne : name ≠ key)
    (hother : IsBody other) (h : Reaches key tag body) :
    Reaches key (pairText spaces name other ++ tag) body

theorem lookup_pairs_of_reaches {key tag body : Text} (h : Reaches key tag body) :
    (pairs tag).lookup key = some body := by
  induction h with
  | here spaces rest hname hbody => rw [pairs_append hname hbody, List.lookup_cons_self]
  | behind spaces hname hne hother _ ih =>
    rw [pairs_append hname hother, List.lookup_cons, beq_false_of_ne (Ne.symm hne), ih]

theorem reaches_of_lookup_pairs {key body : Text} (tag : Text)
    (h : (pairs tag).lookup key = some body) : Reaches key tag body := by
  cases hnext : next? tag with
  | none => simp [pairs_of_next?_eq_none hnext] at h
  | some found =>
    obtain ⟨⟨name, other⟩, rest⟩ := found
    rw [pairs_of_next?_eq_some hnext, List.lookup_cons] at h
    have hrest := length_lt_of_next? hnext
    obtain ⟨hname, hother, spaces, rfl⟩ := of_next? hnext
    by_cases hkey : key = name
    · subst hkey
      obtain rfl : other = body := by simpa using h
      exact .here spaces rest hname hother
    · rw [beq_false_of_ne hkey] at h
      exact .behind spaces hname (Ne.symm hkey) hother (reaches_of_lookup_pairs rest h)
termination_by tag.length

/-- The scan finds the first literal with a name, and finds none if there is none. -/
theorem lookup_pairs_iff {key tag body : Text} :
    (pairs tag).lookup key = some body ↔ Reaches key tag body :=
  ⟨reaches_of_lookup_pairs tag, lookup_pairs_of_reaches⟩

/-- A name reaches one literal at most. -/
theorem Reaches.unique {key tag body other : Text} (h : Reaches key tag body)
    (h' : Reaches key tag other) : body = other :=
  Option.some.inj ((lookup_pairs_of_reaches h).symm.trans (lookup_pairs_of_reaches h'))

end Stencil.StructTag
