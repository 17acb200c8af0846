import Stencil.Literal.Display
import Stencil.Pairs

/-!
# Entries of a field tag

The tool's value of a field tag is a list of entries with commas between them. An entry is a key,
or a key and a value with `=` between them. Single quotes around the end of a value keep its
commas, and a backslash before a single quote takes away its meaning.

`Entries.parse` reads the entries as symbols (`Symbol.ofText`), one state after the other
(`Entries.read`), and gives each key its values in order (`Pairs.group`). `Entries.flatten` keeps
the first value of each key, and `Entries.encode` writes entries.
-/

namespace Stencil

/-- A character of the entries, or a quote behind a backslash. -/
structure Symbol where
  char : Char
  escaped : Bool
  deriving DecidableEq, Repr

namespace Symbol

/-- A character that stands for itself. -/
def plain (c : Char) : Symbol := ⟨c, false⟩

/-- The symbols of a text: a backslash and a quote are one, any other character is one. -/
def ofText : Text → List Symbol
  | [] => []
  | '\\' :: '\x27' :: s => ⟨'\x27', true⟩ :: ofText s
  | c :: s => plain c :: ofText s

/-- The number of characters that a symbol takes. -/
def width (y : Symbol) : Nat := if y.escaped then 2 else 1

/-- The first of the characters that a symbol takes. -/
def first (y : Symbol) : Char := if y.escaped then '\\' else y.char

end Symbol

namespace Entries

/-- What can be wrong with entries: a character behind a closing quote that is no comma, or a quote
that is not closed, each with its position. -/
inductive Fault where
  | unexpected (found : Char) (position : Nat)
  | unclosed (quote : Nat)
  deriving DecidableEq, Repr

/-- The text of a fault in the entries `raw`. -/
def Fault.message (raw : Text) : Fault → Text
  | .unexpected found position =>
    Display.text raw ++ " has an unexpected char " ++ Display.text [found] ++ " at pos "
      ++ Text.ofNat position
  | .unclosed quote =>
    Display.text raw ++ " is not quoted properly: quote at pos " ++ Text.ofNat quote
      ++ " is never closed"

/-- Where reading stands: in a key, in a value, or between quotes that were opened at a position.
Key and value are held with their last character first. -/
inductive Place where
  | key (k : Text)
  | value (k v : Text)
  | quoted (k v : Text) (opened : Nat)
  deriving DecidableEq, Repr

/-- Reads the entries that begin at a place; `position` counts the characters before it. -/
def read : Nat → Place → List Symbol → Except Fault (List (Text × Text))
  | _, .key k, [] => .ok [(k.reverse, [])]
  | _, .value k v, [] => .ok [(k.reverse, v.reverse)]
  | _, .quoted _ _ opened, [] => .error (.unclosed opened)
  | position, .key k, y :: ys =>
    if y = .plain ',' then ((k.reverse, []) :: ·) <$> read (position + 1) (.key []) ys
    else if y = .plain '=' then read (position + 1) (.value k []) ys
    else read (position + y.width) (.key (y.char :: k)) ys
  | position, .value k v, y :: ys =>
    if y = .plain ',' then ((k.reverse, v.reverse) :: ·) <$> read (position + 1) (.key []) ys
    else if y = .plain '\x27' then read (position + 1) (.quoted k v position) ys
    else read (position + y.width) (.value k (y.char :: v)) ys
  | position, .quoted k v opened, y :: ys =>
    if y = .plain '\x27' then
      match ys with
      | [] => .ok [(k.reverse, v.reverse)]
      | next :: ys =>
        if next = .plain ',' then
          ((k.reverse, v.reverse) :: ·) <$> read (position + 2) (.key []) ys
        else .error (.unexpected next.first (position + 1))
    else read (position + y.width) (.quoted k (y.char :: v) opened) ys

/-- The keys and values of the entries, one pair for each entry. -/
def pairs (raw : Text) : Except Fault (List (Text × Text)) := read 0 (.key []) (Symbol.ofText raw)

/-- The keys of the entries in order of their first occurrence, each with its values in order. -/
def parse (raw : Text) : Except Fault (List (Text × List Text)) := Pairs.group <$> pairs raw

/-- Each key with its first value, or with `true` when that is empty or missing. -/
def flatten (entries : List (Text × List Text)) : List (Text × Text) :=
  entries.map fun (key, values) =>
    (key, match values with
      | [] | [] :: _ => "true".toList
      | v :: _ => v)

/-! ## Writing -/

/-- A text with a backslash before each quote. -/
def escape (s : Text) : Text := s.flatMap fun c => if c = '\x27' then ['\\', '\x27'] else [c]

/-- A value, between quotes when it has a comma. -/
def encodeValue (v : Text) : Text :=
  if v.contains ',' then '\x27' :: escape v ++ ['\x27'] else escape v

/-- The entries of pairs of a key and a value. -/
def encode (pairs : List (Text × Text)) : Text :=
  Text.joined [','] (pairs.map fun (k, v) => escape k ++ '=' :: encodeValue v)

end Entries

end Stencil
