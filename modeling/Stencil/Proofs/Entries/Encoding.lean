import Stencil.Proofs.Entries.Grammar

/-!
# Reading what was encoded

`Entries.encode` puts a backslash before each quote, and quotes around a value with a
comma. Its symbols are those of one entry for each pair (`ofText_encode`) : an escaped
text is read back symbol by symbol up to what follows it, unless its last backslash
meets a quote (`ofText_escape_append`). `parse_encode` : reading gives each key its
values back.
-/

namespace Stencil

namespace Symbol

theorem ofText_cons {c : Char} (hc : c ≠ '\\') (s : Text) :
    ofText (c :: s) = plain c :: ofText s := by
  rw [ofText]
  simp [hc]

theorem ofText_backslash {s : Text} (hs : s.head? ≠ some '\x27') :
    ofText ('\\' :: s) = plain '\\' :: ofText s := by
  rw [ofText]
  rintro t - rfl
  exact hs rfl

/-- The symbols of a text whose quotes are all escaped. -/
def masked (s : Text) : List Symbol :=
  s.map fun c => if c = '\x27' then ⟨c, true⟩ else plain c

@[simp] theorem chars_masked : ∀ s : Text, chars (masked s) = s
  | [] => rfl
  | c :: s => by
    have ih := chars_masked s
    by_cases hc : c = '\x27'
    · simpa [masked, hc] using ih
    · simpa [masked, hc] using ih

/-- No quote of an escaped text is read as one, and its other characters are kept. -/
theorem of_mem_masked {y : Symbol} {s : Text} (h : y ∈ masked s) :
    y ≠ plain '\x27' ∧ ∀ c, c ∉ s → y ≠ plain c := by
  obtain ⟨a, ha, rfl⟩ := List.mem_map.mp h
  by_cases hq : a = '\x27'
  · simp [hq, plain]
  · refine ⟨by simp [hq, plain], fun c hc he => hc ?_⟩
    obtain rfl : a = c := by simpa [hq, plain] using he
    exact ha

end Symbol

namespace Entries

open Stencil.Symbol

/-! ## Escaped texts -/

theorem head?_escape_append (c : Char) (s t : Text) :
    (escape (c :: s) ++ t).head? ≠ some '\x27' := by
  by_cases hc : c = '\x27'
  · simp [escape, hc]
  · simp [escape, hc]

/-- An escaped text is read symbol by symbol, unless its last backslash meets a quote. -/
theorem ofText_escape_append (t : Text) :
    ∀ s : Text, (s.getLast? = some '\\' → t.head? ≠ some '\x27') →
      ofText (escape s ++ t) = masked s ++ ofText t
  | [], _ => rfl
  | c :: s, h => by
    have hs : s.getLast? = some '\\' → t.head? ≠ some '\x27' := fun hlast =>
      h (by rw [List.getLast?_cons, hlast]; rfl)
    have ih := ofText_escape_append t s hs
    by_cases hq : c = '\x27'
    · subst hq
      simpa [escape, masked, ofText] using ih
    have hcons : escape (c :: s) ++ t = c :: (escape s ++ t) := by simp [escape, hq]
    have hmap : masked (c :: s) = plain c :: masked s := by simp [masked, hq]
    rw [hcons, hmap, List.cons_append, ← ih]
    by_cases hb : c = '\\'
    · subst hb
      refine ofText_backslash ?_
      cases s with
      | nil => exact h rfl
      | cons d s => exact head?_escape_append d s t
    · exact ofText_cons hb _

/-! ## The entries that are encoded -/

/-- A value as it is encoded. -/
def Value.ofText (v : Text) : Value :=
  if v.contains ',' then .quoted [] (masked v) else .bare (masked v)

/-- The entry of a pair as it is encoded. -/
def Entry.ofPair (p : Text × Text) : Entry :=
  .assigned (masked p.1) (Value.ofText p.2)

@[simp] theorem Value.text_ofText (v : Text) : (Value.ofText v).text = v := by
  unfold Value.ofText
  split <;> simp [Value.text]

@[simp] theorem Entry.pair_ofPair (p : Text × Text) : (Entry.ofPair p).pair = p := by
  simp [Entry.ofPair, Entry.pair]

theorem Value.valid_ofText (v : Text) : (Value.ofText v).Valid := by
  unfold Value.ofText
  split
  · refine ⟨by simp, fun y hy => ?_⟩
    simpa [inQuotes] using (of_mem_masked hy).1
  · next hcomma =>
    intro y hy
    have hy := of_mem_masked hy
    simpa [inValue] using And.intro (hy.2 ',' (by simpa using hcomma)) hy.1

theorem Entry.valid_ofPair {p : Text × Text} (h : ',' ∉ p.1 ∧ '=' ∉ p.1) :
    (Entry.ofPair p).Valid := by
  refine ⟨fun y hy => ?_, Value.valid_ofText p.2⟩
  have hy := of_mem_masked hy
  simpa [inKey] using And.intro (hy.2 ',' h.1) (hy.2 '=' h.2)

theorem ofText_encodeValue_append {v t : Text} (hv : ¬(',' ∈ v ∧ v.getLast? = some '\\'))
    (ht : t.head? ≠ some '\x27') :
    Symbol.ofText (encodeValue v ++ t) = (Value.ofText v).symbols ++ Symbol.ofText t := by
  unfold encodeValue Value.ofText
  split
  · next hcomma =>
    have hlast : v.getLast? ≠ some '\\' := fun h => hv ⟨by simpa using hcomma, h⟩
    simp only [List.cons_append, List.append_assoc, List.nil_append]
    rw [ofText_cons (by decide), ofText_escape_append _ v fun h => absurd h hlast,
      ofText_cons (by decide)]
    simp [Value.symbols]
  · exact ofText_escape_append t v fun _ => ht

theorem ofText_encodePair_append {p : Text × Text} {t : Text}
    (hv : ¬(',' ∈ p.2 ∧ p.2.getLast? = some '\\')) (ht : t.head? ≠ some '\x27') :
    Symbol.ofText (escape p.1 ++ '=' :: encodeValue p.2 ++ t) =
      (Entry.ofPair p).symbols ++ Symbol.ofText t := by
  rw [List.append_assoc, List.cons_append, ofText_escape_append _ _ fun _ => by simp,
    ofText_cons (by decide), ofText_encodeValue_append hv ht]
  simp [Entry.ofPair, Entry.symbols]

/-- The symbols of what is encoded are those of one entry for each pair. -/
theorem ofText_encode :
    ∀ ps : List (Text × Text), (∀ p ∈ ps, ¬(',' ∈ p.2 ∧ p.2.getLast? = some '\\')) →
      Symbol.ofText (encode ps) =
        [plain ','].intercalate ((ps.map Entry.ofPair).map Entry.symbols)
  | [], _ => rfl
  | [p], h => by
    have hp := ofText_encodePair_append (h p (by simp)) (t := []) (by simp)
    simpa [encode, Text.joined, Symbol.ofText] using hp
  | p :: q :: ps, h => by
    have ih := ofText_encode (q :: ps) fun x hx => h x (List.mem_cons_of_mem p hx)
    have hjoin : encode (p :: q :: ps) =
        escape p.1 ++ '=' :: encodeValue p.2 ++ ',' :: encode (q :: ps) := by
      simp [encode, Text.joined]
    rw [hjoin, ofText_encodePair_append (h p (by simp)) (by simp), ofText_cons (by decide), ih]
    simp

/-- Reading gives back what was encoded : every key once, in the order of the first
occurrences, with all its values in order. -/
theorem parse_encode (ps : List (Text × Text)) (hne : ps ≠ [])
    (hkeys : ∀ p ∈ ps, ',' ∉ p.1 ∧ '=' ∉ p.1)
    (hvalues : ∀ p ∈ ps, ¬(',' ∈ p.2 ∧ p.2.getLast? = some '\\')) :
    parse (encode ps) = .ok (Pairs.byKey ps) := by
  have written : Written (encode ps) (ps.map Entry.ofPair) := by
    refine ⟨by simpa using hne, fun e he => ?_, ofText_encode ps hvalues⟩
    obtain ⟨p, hp, rfl⟩ := List.mem_map.mp he
    exact Entry.valid_ofPair (hkeys p hp)
  rw [written.parse, List.map_map]
  simp [Function.comp_def]

/-- A key with a quote behind a backslash occurs twice, once with a comma in its value. -/
theorem parse_encode_repeated_key :
    parse (encode [(['\\', '\x27'], ['a', ',', '\x27']), ([], ['\\']), (['\\', '\x27'], ['='])]) =
      .ok [(['\\', '\x27'], [['a', ',', '\x27'], ['=']]), ([], [['\\']])] :=
  parse_encode [(['\\', '\x27'], ['a', ',', '\x27']), ([], ['\\']), (['\\', '\x27'], ['='])]
    (by decide) (by decide) (by decide)

end Entries

end Stencil
