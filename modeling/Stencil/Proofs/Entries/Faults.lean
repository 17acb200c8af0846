import Stencil.Proofs.Entries.Cutting
import Stencil.Proofs.Outcome

/-!
# Where the fault of entries is

`Faulty raw fault` says where a text stops being entries : behind a closing quote stands
something other than a comma, or a quote opens that nothing closes. What stands before the
fault is entries (`Closes`, `Opens`). `parse_eq_error_iff` : reading fails with the fault
that is there. `fault_located` : so the fault stays when the text goes on, or is cut short
behind an open quote, and an open quote can be closed.
-/

namespace Stencil.Entries

open Stencil.Symbol

/-- Every quote of the text has a backslash before it. -/
def Unquoted (s : Text) : Prop :=
  ∀ y ∈ Symbol.ofText s, inQuotes y

instance (s : Text) : Decidable (Unquoted s) :=
  inferInstanceAs (Decidable (∀ y ∈ Symbol.ofText s, inQuotes y = true))

/-- The text ends with the quote that closes a value. -/
def Closes (head : Text) : Prop :=
  ∃ es key outer inner, Written head (es ++ [.assigned key (.quoted outer inner)])

/-- The text ends in a value that has no quotes yet, where a quote opens. -/
def Opens (head : Text) : Prop :=
  head.getLast? ≠ some '\\' ∧ ∃ es key outer, Written head (es ++ [.assigned key (.bare outer)])

/-- The fault of a text and where it is. -/
inductive Faulty : Text → Fault → Prop
  | unexpected {head : Text} {c : Char} (rest : Text) (hhead : Closes head) (hc : c ≠ ',') :
    Faulty (head ++ c :: rest) (.unexpected c head.length)
  | unclosed {head rest : Text} (hhead : Opens head) (hrest : Unquoted rest) :
    Faulty (head ++ '\x27' :: rest) (.unclosed head.length)

/-! ## Texts with no open end -/

theorem Unquoted.append {s t : Text} (hs : Unquoted s) (ht : Unquoted t) (h : Apart s t) :
    Unquoted (s ++ t) := by
  intro y hy
  rw [ofText_append h] at hy
  exact (List.mem_append.mp hy).elim (hs y) (ht y)

/-- A cut may leave a backslash without its quote. -/
theorem Unquoted.of_append {s t : Text} (h : Unquoted (s ++ t)) : Unquoted s := by
  by_cases hlast : s.getLast? = some '\\'
  · obtain ⟨u, rfl⟩ := List.getLast?_eq_some_iff.mp hlast
    have hu : Apart u ['\\'] := apart_of_head? (by decide) u
    have hut : Apart u ('\\' :: t) := apart_of_head? (by simp) u
    rw [List.append_assoc, List.singleton_append] at h
    refine Unquoted.append (fun y hy => h y ?_) (by decide) hu
    exact ofText_append hut ▸ List.mem_append_left _ hy
  · intro y hy
    exact h y (ofText_append (apart_of_getLast? hlast t) ▸ List.mem_append_left _ hy)

/-- A quote behind a backslash is one more escaped quote. -/
theorem Unquoted.escape {s : Text} (h : Unquoted s) (hlast : s.getLast? = some '\\') :
    Unquoted (s ++ ['\x27']) := by
  obtain ⟨u, rfl⟩ := List.getLast?_eq_some_iff.mp hlast
  rw [List.append_assoc]
  exact h.of_append.append (by decide) (apart_of_head? (by decide) u)

/-! ## Texts with a quote at their end, or behind it -/

theorem Closes.getLast? {head : Text} (h : Closes head) : head.getLast? = some '\x27' := by
  obtain ⟨es, key, outer, inner, hwritten⟩ := h
  obtain ⟨-, -, hhead⟩ := written_concat_iff.mp hwritten
  rw [← getLast?_ofText, hhead]
  simp [Entry.symbols, Value.symbols, List.getLast?_cons]

theorem Closes.exists_parse {head : Text} (h : Closes head) : ∃ items, parse head = .ok items := by
  obtain ⟨es, key, outer, inner, hwritten⟩ := h
  exact ⟨_, hwritten.parse⟩

theorem Opens.exists_parse {head : Text} (h : Opens head) : ∃ items, parse head = .ok items := by
  obtain ⟨-, es, key, outer, hwritten⟩ := h
  exact ⟨_, hwritten.parse⟩

theorem Opens.ofText_append {head : Text} (h : Opens head) (rest : Text) :
    Symbol.ofText (head ++ '\x27' :: rest) =
      Symbol.ofText head ++ plain '\x27' :: Symbol.ofText rest := by
  rw [Symbol.ofText_append (apart_of_getLast? h.1 _), ofText_cons (by decide)]

/-- A quote that opens is closed by the next one. -/
theorem Opens.closes {head inner : Text} (h : Opens head) (hinner : Unquoted inner)
    (hlast : inner.getLast? ≠ some '\\') : Closes (head ++ '\x27' :: (inner ++ ['\x27'])) := by
  have happend := h.ofText_append (inner ++ ['\x27'])
  obtain ⟨-, es, key, outer, hwritten⟩ := h
  obtain ⟨hes, he, hhead⟩ := written_concat_iff.mp hwritten
  refine ⟨es, key, outer, Symbol.ofText inner,
    written_concat_iff.mpr ⟨hes, ⟨he.1, he.2, hinner⟩, ?_⟩⟩
  rw [happend, hhead, Symbol.ofText_append (apart_of_getLast? hlast _)]
  simp [Entry.symbols, Value.symbols, Symbol.ofText, plain]

/-! ## The fault that reading finds -/

theorem Faulty.parse {raw : Text} {fault : Fault} (h : Faulty raw fault) :
    parse raw = .error fault := by
  suffices Entries.pairs raw = .error fault by
    rw [Entries.parse, this]
    rfl
  cases h with
  | @unexpected head c rest hhead hc =>
    have hlast : head.getLast? ≠ some '\\' := by simp [hhead.getLast?]
    obtain ⟨es, key, outer, inner, hwritten⟩ := hhead
    obtain ⟨hes, he, hsymbols⟩ := written_concat_iff.mp hwritten
    obtain ⟨y, ys, hrest, hfirst⟩ := exists_ofText_cons c rest
    have hy : y ≠ plain ',' := by
      rintro rfl
      exact hc hfirst.symm
    rw [Entries.pairs, Symbol.ofText_append (apart_of_getLast? hlast _), hsymbols, hrest,
      List.append_assoc, read_unexpected hes he hy, ← hsymbols, widths_ofText, hfirst, Nat.zero_add]
  | @unclosed head rest hhead hrest =>
    have happend := hhead.ofText_append rest
    obtain ⟨-, es, key, outer, hwritten⟩ := hhead
    obtain ⟨hes, he, hsymbols⟩ := written_concat_iff.mp hwritten
    have hread := read_unclosed hes he.1 he.2 hrest 0
    have hlength : head.length = widths (closed es) + widths key + 1 + widths outer := by
      rw [← widths_ofText, hsymbols]
      simp [Entry.symbols, Value.symbols, Nat.add_assoc]
    rw [Entries.pairs, happend, hsymbols, hlength]
    simpa [Entry.symbols, Value.symbols] using hread

/-- A text is entries, or has a fault. -/
theorem written_or_faulty (raw : Text) : (∃ es, Written raw es) ∨ ∃ fault, Faulty raw fault := by
  have shape := shape (Symbol.ofText raw)
  generalize hys : Symbol.ofText raw = ys at shape
  cases shape with
  | complete es e hes he => exact .inl ⟨es ++ [e], written_concat_iff.mpr ⟨hes, he, hys⟩⟩
  | unclosed es key outer inner hes hkey houter hinner =>
    have hsymbols : Symbol.ofText raw =
        (closed es ++ (Entry.assigned key (.bare outer)).symbols) ++ plain '\x27' :: inner := by
      simp [hys, Entry.symbols, Value.symbols]
    obtain ⟨head, u, rfl, hapart, hhead, hu⟩ := exists_cut hsymbols
    obtain ⟨rest, rfl⟩ := exists_of_ofText_eq_cons hu
    change Symbol.ofText ('\x27' :: rest) = _ at hu
    rw [ofText_cons (by decide)] at hu
    obtain ⟨-, rfl⟩ := List.cons.inj hu
    exact .inr ⟨_, .unclosed ⟨fun hlast => hapart hlast rfl, es, key, outer,
      written_concat_iff.mpr ⟨hes, ⟨hkey, houter⟩, hhead⟩⟩ hinner⟩
  | unexpected es key outer inner next rest hes he hnext =>
    rw [← List.append_assoc] at hys
    obtain ⟨head, u, rfl, -, hhead, hu⟩ := exists_cut hys
    obtain ⟨t, rfl⟩ := exists_of_ofText_eq_cons hu
    refine .inr ⟨_, .unexpected t
      ⟨es, key, outer, inner, written_concat_iff.mpr ⟨hes, he, hhead⟩⟩ fun hcomma => hnext ?_⟩
    -- A comma would be the symbol behind the closing quote.
    rw [hcomma, ofText_cons (by decide)] at hu
    exact (List.cons.inj hu).1.symm

/-- Reading fails with the fault of the text. -/
theorem parse_eq_error_iff {raw : Text} {fault : Fault} :
    parse raw = .error fault ↔ Faulty raw fault := by
  refine ⟨fun h => ?_, Faulty.parse⟩
  rcases written_or_faulty raw with ⟨es, hes⟩ | ⟨found, hfound⟩
  · rw [hes.parse] at h
    cases h
  · obtain rfl : found = fault := Except.error.inj (hfound.parse.symm.trans h)
    exact hfound

/-! ## Faults of longer and of shorter texts -/

/-- What stands behind a closing quote is wrong however the text goes on. -/
theorem Faulty.append {raw : Text} {c : Char} {position : Nat}
    (h : Faulty raw (.unexpected c position)) (s : Text) :
    Faulty (raw ++ s) (.unexpected c position) := by
  cases h with
  | unexpected rest hhead hc =>
    rw [List.append_assoc, List.cons_append]
    exact .unexpected (rest ++ s) hhead hc

/-- An open quote is open in every beginning of the text that has it. -/
theorem Faulty.take {raw : Text} {quote : Nat} (h : Faulty raw (.unclosed quote)) {n : Nat}
    (hn : quote < n) : Faulty (raw.take n) (.unclosed quote) := by
  cases h with
  | @unclosed head rest hhead hrest =>
    obtain ⟨m, rfl⟩ : ∃ m, n = head.length + (m + 1) := ⟨n - head.length - 1, by omega⟩
    rw [List.take_length_add_append, List.take_succ_cons]
    exact .unclosed hhead (Unquoted.of_append (t := rest.drop m) (by rwa [List.take_append_drop]))

/-- A quote behind a backslash leaves the open quote open. -/
theorem Faulty.escape {raw : Text} {quote : Nat} (h : Faulty raw (.unclosed quote))
    (hlast : raw.getLast? = some '\\') : Faulty (raw ++ ['\x27']) (.unclosed quote) := by
  cases h with
  | unclosed hhead hrest =>
    rw [List.append_assoc]
    exact .unclosed hhead (hrest.escape ((getLast?_append_cons (by decide) _ _).mp hlast))

/-- A quote that stands behind no backslash closes the open one. -/
theorem Faulty.closes {raw : Text} {quote : Nat} (h : Faulty raw (.unclosed quote))
    (hlast : raw.getLast? ≠ some '\\') : Closes (raw ++ ['\x27']) := by
  cases h with
  | unclosed hhead hrest =>
    rw [List.append_assoc]
    exact hhead.closes hrest fun h => hlast ((getLast?_append_cons (by decide) _ _).mpr h)

/-- The fault that reading reports is one of the text. What is found behind a closing quote is
no comma, the text before it is entries, and nothing behind it helps. A quote that is not closed
has entries before it, is not closed in any beginning of the text that has it, and can be
closed. -/
theorem fault_located (raw : Text) :
    (∀ c position, parse raw = .error (.unexpected c position) →
      raw[position]? = some c ∧ c ≠ ',' ∧
      (0 < position ∧ raw[position - 1]? = some '\x27') ∧
      (∃ items, parse (raw.take position) = .ok items) ∧
      ∀ s, parse (raw ++ s) = .error (.unexpected c position)) ∧
    ∀ quote, parse raw = .error (.unclosed quote) →
      raw[quote]? = some '\x27' ∧
      (∃ items, parse (raw.take quote) = .ok items) ∧
      (∀ n, quote < n → n ≤ raw.length → parse (raw.take n) = .error (.unclosed quote)) ∧
      (raw.getLast? ≠ some '\\' → ∃ items, parse (raw ++ ['\x27']) = .ok items) ∧
      (raw.getLast? = some '\\' → ∃ items, parse (raw ++ ['\x27', '\x27']) = .ok items) := by
  constructor
  · intro c position h
    have hfault := parse_eq_error_iff.mp h
    have happend := fun s => (hfault.append s).parse
    cases hfault with
    | @unexpected head _ rest hhead hc =>
      have haccepts : ∃ items, parse ((head ++ c :: rest).take head.length) = .ok items := by
        rw [List.take_left]
        exact hhead.exists_parse
      obtain ⟨before, rfl⟩ := List.getLast?_eq_some_iff.mp hhead.getLast?
      exact ⟨by simp, hc, by simp, haccepts, happend⟩
  · intro quote h
    have hfault := parse_eq_error_iff.mp h
    have htake := fun n (hn : quote < n) (_ : n ≤ raw.length) => (hfault.take hn).parse
    have hcloses := fun hlast => (hfault.closes hlast).exists_parse
    have hescaped := fun hlast => ((hfault.escape hlast).closes (by simp)).exists_parse
    simp only [List.append_assoc, List.cons_append, List.nil_append] at hescaped
    cases hfault with
    | @unclosed head rest hhead hrest =>
      have haccepts : ∃ items, parse ((head ++ '\x27' :: rest).take head.length) = .ok items := by
        rw [List.take_left]
        exact hhead.exists_parse
      exact ⟨by simp, haccepts, htake, hcloses, hescaped⟩

/-- The second of two values has something behind its quotes, or an open quote with a backslash
at the end of the text. -/
theorem fault_located_second_value :
    (parse ['a', '=', '\x27', '\x27', ',', 'k', '=', '\x27', '\x27', 'x'] =
        .error (.unexpected 'x' 9) ∧
      ∀ s, parse (['a', '=', '\x27', '\x27', ',', 'k', '=', '\x27', '\x27', 'x'] ++ s) =
        .error (.unexpected 'x' 9)) ∧
    parse ['a', '=', '\x27', '\x27', ',', 'k', '=', '\x27', '\\'] = .error (.unclosed 7) ∧
      ∃ items, parse (['a', '=', '\x27', '\x27', ',', 'k', '=', '\x27', '\\'] ++
        ['\x27', '\x27']) = .ok items := by
  have hfound : parse ['a', '=', '\x27', '\x27', ',', 'k', '=', '\x27', '\x27', 'x'] =
      .error (.unexpected 'x' 9) := by decide
  have hquote : parse ['a', '=', '\x27', '\x27', ',', 'k', '=', '\x27', '\\'] =
      .error (.unclosed 7) := by decide
  obtain ⟨-, -, -, -, happend⟩ := (fault_located _).1 _ _ hfound
  obtain ⟨-, -, -, -, hescaped⟩ := (fault_located _).2 _ hquote
  exact ⟨⟨hfound, happend⟩, hquote, hescaped (by decide)⟩

end Stencil.Entries
