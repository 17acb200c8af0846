import Stencil.Proofs.Pairs
import Stencil.Proofs.Span
import Stencil.Tag.Entries

/-!
# The grammar of entries

An entry is a key, a key and a value behind `=`, or a key and a value that ends in a part
between quotes (`Entry`, `Entry.Valid`). A text is `Written` by entries when its symbols
are theirs with a comma between any two.

`Entries.read` is a loop over symbols with a place as its state. `shape` gives the three
ways in which symbols can go on : entries up to the end, a quote that is not closed, and a
closing quote with something behind it that is no comma. `read_complete`, `read_unclosed`
and `read_unexpected` run the loop on each of them, so that reading is determined by the
shape. `parse_accepts_grammar` : reading accepts the texts that entries write, and gives
each key its values; there is at most one way to write a text.
-/

namespace Stencil

namespace Symbol

/-- The characters that symbols stand for. -/
def chars (ys : List Symbol) : Text :=
  ys.map Symbol.char

/-- The number of characters that symbols take. -/
def widths : List Symbol → Nat
  | [] => 0
  | y :: ys => y.width + widths ys

@[simp] theorem widths_nil : widths [] = 0 :=
  rfl

@[simp] theorem widths_cons (y : Symbol) (ys : List Symbol) :
    widths (y :: ys) = y.width + widths ys :=
  rfl

@[simp] theorem widths_append : ∀ ys zs : List Symbol,
    widths (ys ++ zs) = widths ys + widths zs
  | [], zs => (Nat.zero_add _).symm
  | y :: ys, zs => by
    rw [List.cons_append, widths_cons, widths_cons, widths_append ys zs, Nat.add_assoc]

@[simp] theorem width_plain (c : Char) : (plain c).width = 1 :=
  rfl

@[simp] theorem char_plain (c : Char) : (plain c).char = c :=
  rfl

@[simp] theorem chars_nil : chars [] = [] :=
  rfl

@[simp] theorem chars_cons (y : Symbol) (ys : List Symbol) : chars (y :: ys) = y.char :: chars ys :=
  rfl

@[simp] theorem chars_append (ys zs : List Symbol) : chars (ys ++ zs) = chars ys ++ chars zs := by
  simp [chars]

/-- A symbol of a key. -/
def inKey (y : Symbol) : Bool :=
  y ≠ plain ',' ∧ y ≠ plain '='

/-- A symbol of a value that stands outside of quotes. -/
def inValue (y : Symbol) : Bool :=
  y ≠ plain ',' ∧ y ≠ plain '\x27'

/-- A symbol of a value that stands between quotes. -/
def inQuotes (y : Symbol) : Bool :=
  y ≠ plain '\x27'

end Symbol

namespace Entries

open Stencil.Symbol

/-! ## Entries as they are written -/

/-- A value as it is written : with no quotes, or with quotes around its end. -/
inductive Value where
  | bare (outer : List Symbol)
  | quoted (outer inner : List Symbol)

/-- An entry as it is written : a key, or a key and a value. -/
inductive Entry where
  | flag (key : List Symbol)
  | assigned (key : List Symbol) (value : Value)

namespace Value

/-- The symbols of a value. -/
def symbols : Value → List Symbol
  | bare outer => outer
  | quoted outer inner => outer ++ plain '\x27' :: (inner ++ [plain '\x27'])

/-- The parts of a value hold none of the symbols that end them. -/
def Valid : Value → Prop
  | bare outer => ∀ y ∈ outer, inValue y
  | quoted outer inner => (∀ y ∈ outer, inValue y) ∧ ∀ y ∈ inner, inQuotes y

/-- The text of a value, without its quotes. -/
def text : Value → Text
  | bare outer => chars outer
  | quoted outer inner => chars outer ++ chars inner

end Value

namespace Entry

/-- The symbols of an entry. -/
def symbols : Entry → List Symbol
  | flag key => key
  | assigned key value => key ++ plain '=' :: value.symbols

/-- The key holds no comma and no `=`, and the value is valid. -/
def Valid : Entry → Prop
  | flag key => ∀ y ∈ key, inKey y
  | assigned key value => (∀ y ∈ key, inKey y) ∧ value.Valid

/-- The key and the value of an entry; a key alone has the empty value. -/
def pair : Entry → Text × Text
  | flag key => (chars key, [])
  | assigned key value => (chars key, value.text)

end Entry

/-- The text `raw` consists of the entries `es`, with a comma between any two. -/
structure Written (raw : Text) (es : List Entry) : Prop where
  nonempty : es ≠ []
  valid : ∀ e ∈ es, e.Valid
  symbols : Symbol.ofText raw = [plain ','].intercalate (es.map Entry.symbols)

/-! ## Only one way to write a text -/

/-- What follows an entry : nothing, or a comma. -/
def Ends (rest : List Symbol) : Prop :=
  ∀ y ∈ rest.head?, y = plain ','

theorem Ends.stops {p : Symbol → Bool} {rest : List Symbol} (h : Ends rest)
    (hp : p (plain ',') = false) : Stops p rest :=
  fun y hy => h y hy ▸ hp

theorem not_ends_cons {c : Char} (hc : c ≠ ',') (rest : List Symbol) :
    ¬Ends (plain c :: rest) := by
  simp [Ends, plain, hc]

theorem stops_inKey (rest : List Symbol) : Stops inKey (plain '=' :: rest) :=
  stops_cons.mpr (by decide)

theorem stops_inValue (rest : List Symbol) : Stops inValue (plain '\x27' :: rest) :=
  stops_cons.mpr (by decide)

theorem stops_inQuotes (rest : List Symbol) : Stops inQuotes (plain '\x27' :: rest) :=
  stops_cons.mpr (by decide)

theorem Value.symbols_append_inj {v v' : Value} {rest rest' : List Symbol} (hv : v.Valid)
    (hv' : v'.Valid) (hr : Ends rest) (hr' : Ends rest')
    (h : v.symbols ++ rest = v'.symbols ++ rest') : v = v' ∧ rest = rest' := by
  have stop := hr.stops (p := inValue) (by decide)
  have stop' := hr'.stops (p := inValue) (by decide)
  cases v with
  | bare outer =>
    cases v' with
    | bare outer' =>
      obtain ⟨rfl, rfl⟩ := span_inj hv stop hv' stop' h
      exact ⟨rfl, rfl⟩
    | quoted outer' inner' =>
      simp only [Value.symbols, List.append_assoc, List.cons_append] at h
      obtain ⟨-, rfl⟩ := span_inj hv stop hv'.1 (stops_inValue _) h
      exact absurd hr (not_ends_cons (by decide) _)
  | quoted outer inner =>
    cases v' with
    | bare outer' =>
      simp only [Value.symbols, List.append_assoc, List.cons_append] at h
      obtain ⟨-, rfl⟩ := span_inj hv.1 (stops_inValue _) hv' stop' h
      exact absurd hr' (not_ends_cons (by decide) _)
    | quoted outer' inner' =>
      simp only [Value.symbols, List.append_assoc, List.cons_append, List.nil_append] at h
      obtain ⟨rfl, hq⟩ := span_inj hv.1 (stops_inValue _) hv'.1 (stops_inValue _) h
      obtain ⟨rfl, hrest⟩ :=
        span_inj hv.2 (stops_inQuotes _) hv'.2 (stops_inQuotes _) (List.cons.inj hq).2
      exact ⟨rfl, (List.cons.inj hrest).2⟩

theorem Entry.symbols_append_inj {e e' : Entry} {rest rest' : List Symbol} (he : e.Valid)
    (he' : e'.Valid) (hr : Ends rest) (hr' : Ends rest')
    (h : e.symbols ++ rest = e'.symbols ++ rest') : e = e' ∧ rest = rest' := by
  have stop := hr.stops (p := inKey) (by decide)
  have stop' := hr'.stops (p := inKey) (by decide)
  cases e with
  | flag key =>
    cases e' with
    | flag key' =>
      obtain ⟨rfl, rfl⟩ := span_inj he stop he' stop' h
      exact ⟨rfl, rfl⟩
    | assigned key' value' =>
      simp only [Entry.symbols, List.append_assoc, List.cons_append] at h
      obtain ⟨-, rfl⟩ := span_inj he stop he'.1 (stops_inKey _) h
      exact absurd hr (not_ends_cons (by decide) _)
  | assigned key value =>
    cases e' with
    | flag key' =>
      simp only [Entry.symbols, List.append_assoc, List.cons_append] at h
      obtain ⟨-, rfl⟩ := span_inj he.1 (stops_inKey _) he' stop' h
      exact absurd hr' (not_ends_cons (by decide) _)
    | assigned key' value' =>
      simp only [Entry.symbols, List.append_assoc, List.cons_append] at h
      obtain ⟨rfl, hv⟩ := span_inj he.1 (stops_inKey _) he'.1 (stops_inKey _) h
      obtain ⟨rfl, rfl⟩ := Value.symbols_append_inj he.2 he'.2 hr hr' (List.cons.inj hv).2
      exact ⟨rfl, rfl⟩

/-- The symbols of entries, with a comma before each. -/
def following (es : List Entry) : List Symbol :=
  es.flatMap fun e => plain ',' :: e.symbols

theorem ends_following : ∀ es : List Entry, Ends (following es)
  | [] => by simp [Ends, following]
  | e :: es => by simp [Ends, following]

theorem intercalate_cons (e : Entry) :
    ∀ es : List Entry,
      [plain ','].intercalate ((e :: es).map Entry.symbols) = e.symbols ++ following es
  | [] => by simp [following]
  | e' :: es => by
    rw [List.map_cons, List.intercalate_cons_of_ne_nil (by simp), intercalate_cons e' es]
    simp [following]

theorem following_inj :
    ∀ {es es' : List Entry}, (∀ e ∈ es, e.Valid) → (∀ e ∈ es', e.Valid) →
      following es = following es' → es = es'
  | [], [], _, _, _ => rfl
  | [], _ :: _, _, _, h => by simp [following] at h
  | _ :: _, [], _, _, h => by simp [following] at h
  | e :: es, e' :: es', hes, hes', h => by
    have h : e.symbols ++ following es = e'.symbols ++ following es' := by
      simpa [following] using h
    obtain ⟨rfl, hrest⟩ := Entry.symbols_append_inj (hes e (by simp)) (hes' e' (by simp))
      (ends_following es) (ends_following es') h
    rw [following_inj (fun x hx => hes x (by simp [hx])) (fun x hx => hes' x (by simp [hx]))
      hrest]

/-- A text is written by one list of entries at most. -/
theorem Written.unique {raw : Text} {es es' : List Entry} (h : Written raw es)
    (h' : Written raw es') : es = es' := by
  have hs := h.symbols.symm.trans h'.symbols
  obtain ⟨e, es, rfl⟩ := List.exists_cons_of_ne_nil h.nonempty
  obtain ⟨e', es', rfl⟩ := List.exists_cons_of_ne_nil h'.nonempty
  rw [intercalate_cons, intercalate_cons] at hs
  exact following_inj h.valid h'.valid (by simpa [following] using hs)

/-! ## Reading -/

theorem read_key_cons (k : Text) (position : Nat) (y : Symbol) (ys : List Symbol) :
    read position (.key k) (y :: ys) =
      if y = plain ',' then ((k.reverse, []) :: ·) <$> read (position + 1) (.key []) ys
      else if y = plain '=' then read (position + 1) (.value k []) ys
      else read (position + y.width) (.key (y.char :: k)) ys :=
  rfl

theorem read_value_cons (k v : Text) (position : Nat) (y : Symbol) (ys : List Symbol) :
    read position (.value k v) (y :: ys) =
      if y = plain ',' then ((k.reverse, v.reverse) :: ·) <$> read (position + 1) (.key []) ys
      else if y = plain '\x27' then read (position + 1) (.quoted k v position) ys
      else read (position + y.width) (.value k (y.char :: v)) ys :=
  rfl

theorem read_key (k : Text) (rest : List Symbol) :
    ∀ (key : List Symbol) (position : Nat), (∀ y ∈ key, inKey y) →
      read position (.key k) (key ++ rest) =
        read (position + widths key) (.key ((chars key).reverse ++ k)) rest
  | [], position, _ => rfl
  | y :: key, position, h => by
    have hy : y ≠ plain ',' ∧ y ≠ plain '=' := by simpa [inKey] using h y (by simp)
    rw [List.cons_append, read_key_cons, if_neg hy.1, if_neg hy.2,
      read_key (y.char :: k) rest key _ fun z hz => h z (by simp [hz])]
    simp [Nat.add_assoc]

theorem read_value (k : Text) (rest : List Symbol) :
    ∀ (outer : List Symbol) (v : Text) (position : Nat), (∀ y ∈ outer, inValue y) →
      read position (.value k v) (outer ++ rest) =
        read (position + widths outer) (.value k ((chars outer).reverse ++ v)) rest
  | [], v, position, _ => rfl
  | y :: outer, v, position, h => by
    have hy : y ≠ plain ',' ∧ y ≠ plain '\x27' := by simpa [inValue] using h y (by simp)
    rw [List.cons_append, read_value_cons, if_neg hy.1, if_neg hy.2,
      read_value k rest outer _ _ fun z hz => h z (by simp [hz])]
    simp [Nat.add_assoc]

theorem read_quoted_cons (k v : Text) (opened position : Nat) {y : Symbol}
    (hy : y ≠ plain '\x27') (ys : List Symbol) :
    read position (.quoted k v opened) (y :: ys) =
      read (position + y.width) (.quoted k (y.char :: v) opened) ys := by
  cases ys <;> simp [read, hy]

theorem read_quoted (k : Text) (opened : Nat) (rest : List Symbol) :
    ∀ (inner : List Symbol) (v : Text) (position : Nat), (∀ y ∈ inner, inQuotes y) →
      read position (.quoted k v opened) (inner ++ rest) =
        read (position + widths inner) (.quoted k ((chars inner).reverse ++ v) opened) rest
  | [], v, position, _ => rfl
  | y :: inner, v, position, h => by
    have hy : y ≠ plain '\x27' := by simpa [inQuotes] using h y (by simp)
    rw [List.cons_append, read_quoted_cons k v opened position hy,
      read_quoted k opened rest inner _ _ fun z hz => h z (by simp [hz])]
    simp [Nat.add_assoc]

/-- What reading gives behind an entry : the entry alone at the end of the text, and the
entry with those behind the comma otherwise. -/
def readOn (pair : Text × Text) (position : Nat) :
    List Symbol → Except Fault (List (Text × Text))
  | [] => .ok [pair]
  | _ :: rest => (pair :: ·) <$> read (position + 1) (.key []) rest

theorem read_key_of_ends (k : Text) (position : Nat) :
    ∀ {rest : List Symbol}, Ends rest →
      read position (.key k) rest = readOn (k.reverse, []) position rest
  | [], _ => rfl
  | y :: rest, h => by
    rw [read_key_cons, if_pos (h y rfl), readOn]

theorem read_value_of_ends (k v : Text) (position : Nat) :
    ∀ {rest : List Symbol}, Ends rest →
      read position (.value k v) rest = readOn (k.reverse, v.reverse) position rest
  | [], _ => rfl
  | y :: rest, h => by
    rw [read_value_cons, if_pos (h y rfl), readOn]

theorem read_quoted_of_ends (k v : Text) (opened position : Nat) :
    ∀ {rest : List Symbol}, Ends rest →
      read position (.quoted k v opened) (plain '\x27' :: rest) =
        readOn (k.reverse, v.reverse) (position + 1) rest
  | [], _ => by simp [read, readOn]
  | y :: rest, h => by simp [read, readOn, h y rfl, Nat.add_assoc]

theorem read_to_value (key : List Symbol) (hkey : ∀ y ∈ key, inKey y) (rest : List Symbol)
    (position : Nat) :
    read position (.key []) (key ++ plain '=' :: rest) =
      read (position + widths key + 1) (.value (chars key).reverse []) rest := by
  rw [read_key [] _ key position hkey, List.append_nil, read_key_cons, if_neg (by decide),
    if_pos rfl]

theorem read_to_quotes (key outer : List Symbol) (hkey : ∀ y ∈ key, inKey y)
    (houter : ∀ y ∈ outer, inValue y) (rest : List Symbol) (position : Nat) :
    read position (.key []) (key ++ plain '=' :: (outer ++ plain '\x27' :: rest)) =
      read (position + widths key + 1 + widths outer + 1)
        (.quoted (chars key).reverse (chars outer).reverse
          (position + widths key + 1 + widths outer)) rest := by
  rw [read_to_value key hkey, read_value _ _ outer _ _ houter, List.append_nil,
    read_value_cons, if_neg (by decide), if_pos rfl]

/-- An entry is read as its pair. -/
theorem read_entry {e : Entry} (he : e.Valid) {rest : List Symbol} (hr : Ends rest)
    (position : Nat) :
    read position (.key []) (e.symbols ++ rest) =
      readOn e.pair (position + widths e.symbols) rest := by
  cases e with
  | flag key =>
    rw [Entry.symbols, read_key [] rest key position he, read_key_of_ends _ _ hr]
    simp [Entry.pair]
  | assigned key value =>
    cases value with
    | bare outer =>
      rw [Entry.symbols, List.append_assoc, List.cons_append, read_to_value key he.1,
        Value.symbols, read_value _ rest outer _ _ he.2, read_value_of_ends _ _ _ hr]
      simp [Entry.pair, Value.text, Nat.add_assoc]
    | quoted outer inner =>
      simp only [Entry.symbols, Value.symbols, List.append_assoc, List.cons_append,
        List.nil_append]
      rw [read_to_quotes key outer he.1 he.2.1, read_quoted _ _ _ inner _ _ he.2.2,
        read_quoted_of_ends _ _ _ _ hr]
      simp [Entry.pair, Value.text, Nat.add_assoc]

/-! ## The shapes of symbols -/

/-- The symbols of entries that have a comma behind each. -/
def closed (es : List Entry) : List Symbol :=
  es.flatMap fun e => e.symbols ++ [plain ',']

@[simp] theorem closed_nil : closed [] = [] :=
  rfl

@[simp] theorem closed_cons (e : Entry) (es : List Entry) :
    closed (e :: es) = e.symbols ++ plain ',' :: closed es := by
  simp [closed]

theorem intercalate_eq_closed (e : Entry) :
    ∀ es : List Entry,
      [plain ','].intercalate ((es ++ [e]).map Entry.symbols) = closed es ++ e.symbols
  | [] => by simp
  | e' :: es => by
    rw [List.cons_append, List.map_cons, List.intercalate_cons_of_ne_nil (by simp),
      intercalate_eq_closed e es]
    simp

/-- Behind entries that end in commas, symbols are an entry up to the end, or begin an
entry whose quote is not closed, or begin with an entry whose closing quote has something
other than a comma behind it. -/
inductive Shape : List Symbol → Prop
  | complete (es : List Entry) (e : Entry) (hes : ∀ e ∈ es, e.Valid) (he : e.Valid) :
    Shape (closed es ++ e.symbols)
  | unclosed (es : List Entry) (key outer inner : List Symbol) (hes : ∀ e ∈ es, e.Valid)
    (hkey : ∀ y ∈ key, inKey y) (houter : ∀ y ∈ outer, inValue y)
    (hinner : ∀ y ∈ inner, inQuotes y) :
    Shape (closed es ++ (key ++ plain '=' :: (outer ++ plain '\x27' :: inner)))
  | unexpected (es : List Entry) (key outer inner : List Symbol) (next : Symbol)
    (rest : List Symbol) (hes : ∀ e ∈ es, e.Valid)
    (he : (Entry.assigned key (.quoted outer inner)).Valid) (hnext : next ≠ plain ',') :
    Shape (closed es ++ ((Entry.assigned key (.quoted outer inner)).symbols ++ next :: rest))

theorem Shape.behind {e : Entry} (he : e.Valid) {ys : List Symbol} (h : Shape ys) :
    Shape (e.symbols ++ plain ',' :: ys) := by
  have valid : ∀ {es : List Entry}, (∀ x ∈ es, x.Valid) → ∀ x ∈ e :: es, x.Valid := by
    intro es hes x hx
    rcases List.mem_cons.mp hx with rfl | hx
    · exact he
    · exact hes x hx
  cases h with
  | complete es last hes hlast => simpa using Shape.complete (e :: es) last (valid hes) hlast
  | unclosed es key outer inner hes hkey houter hinner =>
    simpa using Shape.unclosed (e :: es) key outer inner (valid hes) hkey houter hinner
  | unexpected es key outer inner next rest hes hlast hnext =>
    simpa using Shape.unexpected (e :: es) key outer inner next rest (valid hes) hlast hnext

theorem shape_of_length_lt (n : Nat) : ∀ ys : List Symbol, ys.length < n → Shape ys := by
  induction n with
  | zero => simp
  | succ n ih =>
    intro ys hlen
    obtain ⟨key, r, rfl, hkey, hr⟩ := exists_span inKey ys
    rcases r with _ | ⟨y, r⟩
    · simpa [Entry.symbols] using Shape.complete [] (.flag key) (by simp) hkey
    by_cases hy : y = plain ','
    · subst hy
      exact (ih r (by simp at hlen; omega)).behind (e := .flag key) hkey
    obtain rfl : y = plain '=' := by simpa [inKey, hy] using stops_cons.mp hr
    obtain ⟨outer, r, rfl, houter, hr⟩ := exists_span inValue r
    rcases r with _ | ⟨z, r⟩
    · simpa [Entry.symbols, Value.symbols] using
        Shape.complete [] (.assigned key (.bare outer)) (by simp) ⟨hkey, houter⟩
    by_cases hz : z = plain ','
    · subst hz
      simpa [Entry.symbols, Value.symbols] using
        (ih r (by simp at hlen; omega)).behind (e := .assigned key (.bare outer)) ⟨hkey, houter⟩
    obtain rfl : z = plain '\x27' := by simpa [inValue, hz] using stops_cons.mp hr
    obtain ⟨inner, r, rfl, hinner, hr⟩ := exists_span inQuotes r
    have he : (Entry.assigned key (.quoted outer inner)).Valid := ⟨hkey, houter, hinner⟩
    rcases r with _ | ⟨q, r⟩
    · simpa using Shape.unclosed [] key outer inner (by simp) hkey houter hinner
    obtain rfl : q = plain '\x27' := by simpa [inQuotes] using stops_cons.mp hr
    rcases r with _ | ⟨next, r⟩
    · simpa [Entry.symbols, Value.symbols] using Shape.complete [] _ (by simp) he
    by_cases hnext : next = plain ','
    · subst hnext
      simpa [Entry.symbols, Value.symbols] using (ih r (by simp at hlen; omega)).behind he
    · simpa [Entry.symbols, Value.symbols] using
        Shape.unexpected [] key outer inner next r (by simp) he hnext

/-- All symbols have one of the three shapes. -/
theorem shape (ys : List Symbol) : Shape ys :=
  shape_of_length_lt _ ys (Nat.lt_succ_self _)

theorem read_closed (rest : List Symbol) :
    ∀ (es : List Entry) (position : Nat), (∀ e ∈ es, e.Valid) →
      read position (.key []) (closed es ++ rest) =
        (es.map Entry.pair ++ ·) <$> read (position + widths (closed es)) (.key []) rest
  | [], position, _ => by simp
  | e :: es, position, h => by
    have ends : Ends (plain ',' :: (closed es ++ rest)) := by simp [Ends]
    rw [closed_cons, List.append_assoc, List.cons_append, read_entry (h e (by simp)) ends, readOn,
      read_closed rest es _ fun x hx => h x (by simp [hx])]
    simp [Functor.map_map, Nat.add_assoc]

theorem read_complete {es : List Entry} {e : Entry} (hes : ∀ e ∈ es, e.Valid) (he : e.Valid)
    (position : Nat) :
    read position (.key []) (closed es ++ e.symbols) = .ok ((es ++ [e]).map Entry.pair) := by
  have hends : Ends [] := by simp [Ends]
  have hlast := read_entry he hends (position + widths (closed es))
  rw [List.append_nil] at hlast
  rw [read_closed _ es position hes, hlast, readOn]
  simp [Functor.map, Except.map]

/-- A quote that is not closed is reported with its position. -/
theorem read_unclosed {es : List Entry} {key outer inner : List Symbol}
    (hes : ∀ e ∈ es, e.Valid) (hkey : ∀ y ∈ key, inKey y) (houter : ∀ y ∈ outer, inValue y)
    (hinner : ∀ y ∈ inner, inQuotes y) (position : Nat) :
    read position (.key []) (closed es ++ (key ++ plain '=' :: (outer ++ plain '\x27' :: inner))) =
      .error (.unclosed (position + widths (closed es) + widths key + 1 + widths outer)) := by
  have hread := read_quoted (chars key).reverse
    (position + widths (closed es) + widths key + 1 + widths outer) [] inner (chars outer).reverse
    (position + widths (closed es) + widths key + 1 + widths outer + 1) hinner
  rw [List.append_nil] at hread
  rw [read_closed _ es position hes, read_to_quotes key outer hkey houter, hread, read]
  rfl

/-- What stands behind a closing quote and is no comma is reported with its position. -/
theorem read_unexpected {es : List Entry} {key outer inner : List Symbol} {next : Symbol}
    (hes : ∀ e ∈ es, e.Valid) (he : (Entry.assigned key (.quoted outer inner)).Valid)
    (hnext : next ≠ plain ',') (rest : List Symbol) (position : Nat) :
    read position (.key [])
        (closed es ++ ((Entry.assigned key (.quoted outer inner)).symbols ++ next :: rest)) =
      .error (.unexpected next.first
        (position + widths (closed es ++ (Entry.assigned key (.quoted outer inner)).symbols))) := by
  rw [read_closed _ es position hes]
  simp only [Entry.symbols, Value.symbols, List.append_assoc, List.cons_append, List.nil_append]
  rw [read_to_quotes key outer he.1 he.2.1, read_quoted _ _ _ inner _ _ he.2.2]
  simp [read, hnext, Functor.map, Except.map, Nat.add_assoc]

/-! ## What reading accepts -/

theorem written_concat_iff {raw : Text} {es : List Entry} {e : Entry} :
    Written raw (es ++ [e]) ↔
      (∀ x ∈ es, x.Valid) ∧ e.Valid ∧ Symbol.ofText raw = closed es ++ e.symbols := by
  constructor
  · intro h
    refine ⟨fun x hx => h.valid x (by simp [hx]), h.valid e (by simp), ?_⟩
    rw [h.symbols, intercalate_eq_closed]
  · rintro ⟨hes, he, hraw⟩
    refine ⟨by simp, fun x hx => ?_, by rw [intercalate_eq_closed, hraw]⟩
    rcases List.mem_append.mp hx with hx | hx
    · exact hes x hx
    · exact List.mem_singleton.mp hx ▸ he

theorem Written.pairs {raw : Text} {es : List Entry} (h : Written raw es) :
    pairs raw = .ok (es.map Entry.pair) := by
  obtain ⟨es, e, rfl⟩ := List.eq_nil_or_concat es |>.resolve_left h.nonempty
  rw [List.concat_eq_append] at h ⊢
  obtain ⟨hes, he, hraw⟩ := written_concat_iff.mp h
  rw [Entries.pairs, hraw]
  exact read_complete hes he 0

theorem Written.parse {raw : Text} {es : List Entry} (h : Written raw es) :
    parse raw = .ok (Pairs.byKey (es.map Entry.pair)) := by
  rw [Entries.parse, h.pairs, ← Pairs.group_eq_byKey]
  rfl

theorem exists_written {raw : Text} {items : List (Text × List Text)} (h : parse raw = .ok items) :
    ∃ es, Written raw es := by
  have shape := shape (Symbol.ofText raw)
  generalize hys : Symbol.ofText raw = ys at shape
  cases shape with
  | complete es e hes he => exact ⟨es ++ [e], written_concat_iff.mpr ⟨hes, he, hys⟩⟩
  | unclosed es key outer inner hes hkey houter hinner =>
    rw [Entries.parse, pairs, hys, read_unclosed hes hkey houter hinner] at h
    simp [Functor.map, Except.map] at h
  | unexpected es key outer inner next rest hes he hnext =>
    rw [Entries.parse, pairs, hys, read_unexpected hes he hnext] at h
    simp [Functor.map, Except.map] at h

/-- Reading accepts the texts that entries write, gives each key its values, the keys in
the order of their first occurrences, and refuses all other texts. The entries that write
a text are determined by it. -/
theorem parse_accepts_grammar (raw : Text) :
    (∀ items, parse raw = .ok items ↔
      ∃ es, Written raw es ∧ items = Pairs.byKey (es.map Entry.pair)) ∧
    ((∃ fault, parse raw = .error fault) ↔ ¬∃ es, Written raw es) ∧
    ∀ es es', Written raw es → Written raw es' → es = es' := by
  refine ⟨fun items => ⟨fun h => ?_, ?_⟩, ⟨?_, fun h => ?_⟩, fun es es' => Written.unique⟩
  · obtain ⟨es, hes⟩ := exists_written h
    exact ⟨es, hes, Except.ok.inj (h.symm.trans hes.parse)⟩
  · rintro ⟨es, hes, rfl⟩
    exact hes.parse
  · rintro ⟨fault, hfault⟩ ⟨es, hes⟩
    rw [hes.parse] at hfault
    cases hfault
  · cases hparse : parse raw with
    | ok items => exact absurd (exists_written hparse) h
    | error fault => exact ⟨fault, rfl⟩

end Entries

end Stencil
