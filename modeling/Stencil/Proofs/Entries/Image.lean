import Stencil.Proofs.Entries.Joining

/-!
# What reading entries can give

`Readable items` says what the values of keys look like when they are read from some text.
No comma and no `=` can get into a key. A comma gets into a value between quotes only, and
there the last character is no backslash, which would take away the meaning of the closing
quote. `parse_image` : reading gives the readable items and no others, and encoding them is
one way to write them.
-/

namespace Stencil

namespace Symbol

theorem notMem_chars {s : Text} {ys : List Symbol} (hys : ∀ y ∈ ys, y ∈ ofText s) {c : Char}
    (hquote : c ≠ '\x27') (hc : plain c ∉ ys) : c ∉ chars ys := by
  intro hmem
  obtain ⟨y, hy, rfl⟩ := List.mem_map.mp hmem
  exact hc (eq_plain_of_mem_ofText (hys y hy) hquote ▸ hy)

end Symbol

namespace Entries

open Stencil.Symbol

/-- Keys with their values as they can be read : one key at least, each once, with no comma and no
`=` in it and one value at least. A value with a comma does not end with a backslash. -/
structure Readable (items : List (Text × List Text)) : Prop where
  nonempty : items ≠ []
  nodup : (items.map Prod.fst).Nodup
  keys : ∀ item ∈ items, ',' ∉ item.1 ∧ '=' ∉ item.1
  values : ∀ item ∈ items, item.2 ≠ []
  value : ∀ item ∈ items, ∀ v ∈ item.2, ¬(',' ∈ v ∧ v.getLast? = some '\\')

/-! ## Entries in a text -/

variable {s : Text} {before behind : List Symbol}

theorem Value.text_of_symbols {v : Value} (hv : v.Valid)
    (h : Symbol.ofText s = before ++ (v.symbols ++ behind)) :
    ¬(',' ∈ v.text ∧ v.text.getLast? = some '\\') := by
  rintro ⟨hcomma, hlast⟩
  have hsymbols : ∀ y ∈ v.symbols, y ∈ Symbol.ofText s := fun y hy => by rw [h]; simp [hy]
  cases v with
  | bare outer =>
    have hnone : plain ',' ∉ outer := fun hmem => absurd (hv _ hmem) (by decide)
    exact notMem_chars hsymbols (by decide) hnone hcomma
  | quoted outer inner =>
    have hnone : plain ',' ∉ outer := fun hmem => absurd (hv.1 _ hmem) (by decide)
    have houter : ',' ∉ chars outer := notMem_chars
      (fun y hy => hsymbols y (by simp [Value.symbols, hy])) (by decide) hnone
    -- The comma stands between the quotes, so the value ends there.
    rcases List.eq_nil_or_concat inner with rfl | ⟨inner, y, rfl⟩
    · simp [Value.text, houter] at hcomma
    have hy : y.char = '\\' := by simpa [Value.text] using hlast
    have hmem : y ∈ Symbol.ofText s := hsymbols y (by simp [Value.symbols])
    have hplain : y = plain '\\' := hy ▸ eq_plain_of_mem_ofText hmem (by simp [hy])
    refine ofText_ne_backslash_quote s (before ++ (outer ++ plain '\x27' :: inner)) behind ?_
    simpa [Value.symbols, hplain] using h

theorem notMem_chars_key {key : List Symbol} (hkey : ∀ y ∈ key, inKey y)
    (hmem : ∀ y ∈ key, y ∈ Symbol.ofText s) : ',' ∉ chars key ∧ '=' ∉ chars key := by
  have hcomma : plain ',' ∉ key := fun hc => absurd (hkey _ hc) (by decide)
  have hequals : plain '=' ∉ key := fun hc => absurd (hkey _ hc) (by decide)
  exact ⟨notMem_chars hmem (by decide) hcomma, notMem_chars hmem (by decide) hequals⟩

theorem Entry.pair_of_symbols {e : Entry} (he : e.Valid)
    (h : Symbol.ofText s = before ++ (e.symbols ++ behind)) :
    (',' ∉ e.pair.1 ∧ '=' ∉ e.pair.1) ∧ ¬(',' ∈ e.pair.2 ∧ e.pair.2.getLast? = some '\\') := by
  have hsymbols : ∀ y ∈ e.symbols, y ∈ Symbol.ofText s := fun y hy => by rw [h]; simp [hy]
  cases e with
  | flag key => exact ⟨notMem_chars_key he hsymbols, by simp [Entry.pair]⟩
  | assigned key value =>
    have hkey : ∀ y ∈ key, y ∈ Symbol.ofText s := fun y hy =>
      hsymbols y (by simp [Entry.symbols, hy])
    have hvalue : Symbol.ofText s =
        before ++ (key ++ [plain '=']) ++ (value.symbols ++ behind) := by
      simpa [Entry.symbols] using h
    exact ⟨notMem_chars_key he.1 hkey, Value.text_of_symbols he.2 hvalue⟩

/-- The symbols of entries stand in the text with one more comma. -/
theorem Written.exists_symbols {raw : Text} {es : List Entry} (h : Written raw es) {e : Entry}
    (he : e ∈ es) :
    ∃ before behind, Symbol.ofText (raw ++ [',']) = before ++ (e.symbols ++ behind) := by
  obtain ⟨es₁, es₂, rfl⟩ := List.append_of_mem he
  refine ⟨closed es₁, plain ',' :: closed es₂, ?_⟩
  rw [ofText_append (apart_of_head? (by simp) raw)]
  simpa [closed_append, Symbol.ofText] using h.closed_eq.symm

/-! ## Items -/

theorem Written.readable {raw : Text} {es : List Entry} (h : Written raw es) :
    Readable (Pairs.byKey (es.map Entry.pair)) := by
  have hpair : ∀ p ∈ es.map Entry.pair,
      (',' ∉ p.1 ∧ '=' ∉ p.1) ∧ ¬(',' ∈ p.2 ∧ p.2.getLast? = some '\\') := by
    intro p hp
    obtain ⟨e, he, rfl⟩ := List.mem_map.mp hp
    obtain ⟨before, behind, hsymbols⟩ := h.exists_symbols he
    exact Entry.pair_of_symbols (h.valid e he) hsymbols
  constructor
  case nonempty =>
    obtain ⟨e, es, rfl⟩ := List.exists_cons_of_ne_nil h.nonempty
    exact List.ne_nil_of_mem (Pairs.mem_byKey.mpr ⟨by simp, rfl⟩ : (e.pair.1, _) ∈ _)
  case nodup =>
    rw [Pairs.keys_byKey]
    exact Pairs.nodup_eraseDups _
  case keys =>
    intro item hitem
    obtain ⟨p, hp, hfst⟩ := List.mem_map.mp (Pairs.mem_byKey.mp hitem).1
    exact hfst ▸ (hpair p hp).1
  case values => exact fun item hitem => Pairs.ne_nil_of_mem_byKey hitem
  case value =>
    intro item hitem v hv
    obtain ⟨-, hvalues⟩ := Pairs.mem_byKey.mp hitem
    exact (hpair _ (Pairs.mem_values.mp (hvalues ▸ hv))).2

/-- Readable items are encoded as one entry for each of their values. -/
theorem Readable.written {items : List (Text × List Text)} (h : Readable items) :
    Written (encode (Pairs.ungroup items)) ((Pairs.ungroup items).map Entry.ofPair) := by
  constructor
  case nonempty =>
    obtain ⟨item, hitem⟩ := List.exists_mem_of_ne_nil items h.nonempty
    obtain ⟨v, hv⟩ := List.exists_mem_of_ne_nil item.2 (h.values item hitem)
    have hp : (item.1, v) ∈ Pairs.ungroup items := Pairs.mem_ungroup.mpr ⟨item.2, hitem, hv⟩
    exact List.ne_nil_of_mem (List.mem_map_of_mem hp)
  case valid =>
    intro e he
    obtain ⟨p, hp, rfl⟩ := List.mem_map.mp he
    obtain ⟨vs, hitem, -⟩ := Pairs.mem_ungroup.mp hp
    exact Entry.valid_ofPair (h.keys _ hitem)
  case symbols =>
    refine ofText_encode _ fun p hp => ?_
    obtain ⟨vs, hitem, hv⟩ := Pairs.mem_ungroup.mp hp
    exact h.value _ hitem p.2 hv

theorem Readable.parse_ungroup {items : List (Text × List Text)} (h : Readable items) :
    parse (encode (Pairs.ungroup items)) = .ok items := by
  have hpairs : ((Pairs.ungroup items).map Entry.ofPair).map Entry.pair = Pairs.ungroup items := by
    simp [Function.comp_def]
  rw [h.written.parse, hpairs, Pairs.byKey_ungroup h.nodup h.values]

/-- Reading a text gives readable items, and gives them again when they are encoded; and all
readable items are read from some text. -/
theorem parse_image (items : List (Text × List Text)) :
    (∀ raw, parse raw = .ok items →
      Readable items ∧ parse (encode (Pairs.ungroup items)) = .ok items) ∧
    (Readable items → ∃ raw, parse raw = .ok items) := by
  refine ⟨fun raw h => ?_, fun h => ⟨_, h.parse_ungroup⟩⟩
  obtain ⟨es, hes⟩ := exists_written h
  obtain rfl := Except.ok.inj (h.symm.trans hes.parse)
  exact ⟨hes.readable, hes.readable.parse_ungroup⟩

/-- A value with a comma between its quotes, the key once more with no value, and a key with a
quote behind a backslash. -/
theorem parse_image_repeated_key :
    parse ['k', '=', '\x27', 'a', ',', '\x27', ',', '\\', '\x27', '=', '\\', ',', 'k'] =
        .ok [(['k'], [['a', ','], []]), (['\x27'], [['\\']])] ∧
      (Readable [(['k'], [['a', ','], []]), (['\x27'], [['\\']])] ∧
        parse (encode (Pairs.ungroup [(['k'], [['a', ','], []]), (['\x27'], [['\\']])])) =
          .ok [(['k'], [['a', ','], []]), (['\x27'], [['\\']])]) ∧
      ∃ raw, parse raw = .ok [(['k'], [['a', ','], []]), (['\x27'], [['\\']])] := by
  have hraw : parse
      ['k', '=', '\x27', 'a', ',', '\x27', ',', '\\', '\x27', '=', '\\', ',', 'k'] =
      .ok [(['k'], [['a', ','], []]), (['\x27'], [['\\']])] := by decide
  have himage := parse_image [(['k'], [['a', ','], []]), (['\x27'], [['\\']])]
  have hreadable := himage.1 _ hraw
  exact ⟨hraw, hreadable, himage.2 hreadable.1⟩

/-! ## The first value of a key -/

/-- What the first entry of a key says; one without a value says `true`. -/
def said (pairs : List (Text × Text)) (key : Text) : Option Text :=
  (pairs.lookup key).map fun v => if v.isEmpty then "true" else v

/-- Flattening keeps of each key what its first entry says. -/
theorem lookup_flatten (pairs : List (Text × Text)) (key : Text) :
    (flatten (Pairs.group pairs)).lookup key = said pairs key := by
  have hflatten : flatten (Pairs.group pairs) = (Pairs.byKey pairs).map fun g =>
      (g.1, (g.2.head?.filter fun v => !v.isEmpty).getD "true") := by
    rw [Pairs.group_eq_byKey, flatten]
    refine List.map_congr_left fun g _ => ?_
    obtain ⟨k, values⟩ := g
    rcases values with _ | ⟨_ | ⟨c, v⟩, values⟩ <;> rfl
  rw [hflatten, Pairs.lookup_map_byKey fun values : List Text =>
    (values.head?.filter fun v => !v.isEmpty).getD "true", Pairs.head?_values, said]
  rcases pairs.lookup key with _ | _ | ⟨c, v⟩ <;> rfl

theorem said_eq_true_iff {pairs : List (Text × Text)} {key : Text} :
    said pairs key = some "true".toList ↔
      pairs.lookup key = some [] ∨ pairs.lookup key = some "true".toList := by
  rw [said]
  rcases pairs.lookup key with _ | _ | ⟨c, v⟩ <;> simp

end Entries

end Stencil
