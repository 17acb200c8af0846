import Stencil.Literal.CharacterName.Aliases
import Stencil.Literal.CharacterName.Alphabets
import Stencil.Literal.CharacterName.Ancient
import Stencil.Literal.CharacterName.Cuneiform
import Stencil.Literal.CharacterName.EastAsia
import Stencil.Literal.CharacterName.Hieroglyphs
import Stencil.Literal.CharacterName.Notations
import Stencil.Literal.CharacterName.Pictures
import Stencil.Literal.CharacterName.SouthAsia
import Stencil.Literal.CharacterName.Syllables
import Stencil.Literal.CharacterName.Symbols

/-!
# Characters by name

`CharacterName.find?` finds a character by its name in Unicode 14. Most names are in tables; the
names of ideographs and of Korean syllables follow rules. Small letters of ASCII count as capitals
in a name, but for a unified ideograph and for a Korean syllable.
-/

namespace Stencil.CharacterName

/-! ## Ideographs -/

/-- Whether a code point lies in one of some ranges, both ends included. -/
def isWithin (ranges : List (Nat × Nat)) (n : Nat) : Bool :=
  ranges.any fun r => r.1 ≤ n && n ≤ r.2

/-- The unified ideographs. -/
def unified : List (Nat × Nat) :=
  [(0x3400, 0x4dbf), (0x4e00, 0x9fff), (0x20000, 0x2a6df), (0x2a700, 0x2b738), (0x2b740, 0x2b81d),
    (0x2b820, 0x2cea1), (0x2ceb0, 0x2ebe0), (0x30000, 0x3134a)]

/-- The characters whose names end in their code points, by the beginnings of these names. -/
def numbered : List (String × List (Nat × Nat)) :=
  [("CJK COMPATIBILITY IDEOGRAPH-", [(0xf900, 0xfa6d), (0xfa70, 0xfad9), (0x2f800, 0x2fa1d)]),
    ("NUSHU CHARACTER-", [(0x1b170, 0x1b2fb)]),
    ("KHITAN SMALL SCRIPT CHARACTER-", [(0x18b00, 0x18cd5)])]

/-- The value of hexadecimal digits with capital letters. -/
def capitalHex? (s : Text) : Option Nat :=
  if s.any Char.isLower then none else Text.hexValue? s

/-- The unified ideograph with a name. -/
def unified? (name : Text) : Option Nat := do
  let digits ← Text.after? "CJK UNIFIED IDEOGRAPH-" name
  if digits.length = 4 ∨ digits.length = 5 then
    let n ← capitalHex? digits
    if isWithin unified n then some n else none
  else none

/-- The character whose name ends in its code point. -/
def numbered? (name : Text) : Option Nat :=
  numbered.findSome? fun (start, ranges) => do
    let digits ← Text.after? start.toList name
    let n ← capitalHex? digits
    if digits.head? ≠ some '0' ∧ ¬ digits.isEmpty ∧ isWithin ranges n then some n else none

/-! ## Korean syllables -/

/-- The names of the letters that begin a syllable. -/
def initials : List String :=
  ["G", "GG", "N", "D", "DD", "R", "M", "B", "BB", "S", "SS", "", "J", "JJ", "C", "K", "T", "P",
    "H"]

/-- The names of the vowels of a syllable. -/
def vowels : List String :=
  ["A", "AE", "YA", "YAE", "EO", "E", "YEO", "YE", "O", "WA", "WAE", "OE", "YO", "U", "WEO", "WE",
    "WI", "YU", "EU", "YI", "I"]

/-- The names of the letters that end a syllable. -/
def finals : List String :=
  ["", "G", "GG", "GS", "N", "NJ", "NH", "D", "L", "LG", "LM", "LB", "LS", "LT", "LP", "LH", "M",
    "B", "BS", "S", "SS", "NG", "J", "C", "K", "T", "P", "H"]

/-- The longest of some names at the beginning of a text, as its number, and the rest. -/
def longest? (names : List String) (s : Text) : Option (Nat × Text) :=
  let found := names.zipIdx.filterMap fun (n, i) =>
    (Text.after? n.toList s).map fun rest => (i, rest)
  found.foldl (fun best f =>
    match best with
    | none => some f
    | some b => if f.2.length < b.2.length then some f else some b) none

/-- The Korean syllable with a name. -/
def syllable? (name : Text) : Option Nat := do
  let s ← Text.after? "HANGUL SYLLABLE " name
  let (i, s) ← longest? initials s
  let (v, s) ← longest? vowels s
  let (f, s) ← longest? finals s
  if s.isEmpty then some (0xac00 + (i * 21 + v) * 28 + f) else none

/-! ## All names -/

/-- The variation selector with an abbreviated name. -/
def selector? (name : Text) : Option Nat := do
  let digits ← Text.after? "VS" name
  let n := Text.digitsValue digits
  if digits = Text.ofNat n ∧ 1 ≤ n ∧ n ≤ 256 then
    some (if n ≤ 16 then 0xfe00 + n - 1 else 0xe0100 + n - 17)
  else none

/-- The character with a further name. -/
def alias? (name : Text) : Option Nat :=
  (aliases.find? fun a => (Text.splitOn [';'] none a.2.toList).contains name).map Prod.fst

/-- The tables of names. -/
def tables : List (List Block) :=
  [alphabets, southAsia, syllables, symbols, eastAsia, ancient, cuneiform, hieroglyphs, notations,
    pictures]

/-- The code point with a name. -/
def number? (name : Text) : Option Nat :=
  if "HANGUL SYLLABLE ".toList.isPrefixOf name then syllable? name
  else if "CJK UNIFIED IDEOGRAPH-".toList.isPrefixOf name then unified? name
  else
    let name := name.map Char.toUpper
    ((tables.findSome? fun t => findIn t name).or (numbered? name)).or
      ((alias? name).or (selector? name))

/-- The character with a name. -/
def find? (name : Text) : Option Char := (number? name).map Char.ofNat

end Stencil.CharacterName
