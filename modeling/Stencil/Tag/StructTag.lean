import Stencil.Literal.Escape
import Stencil.Tag.Entries

/-!
# Struct tags

A struct tag is a list of pairs, each a name, a colon and a double-quoted literal, with spaces
before it. `StructTag.pairs` reads them up to the first malformed one; `StructTag.lookup` gives the
text of the first literal with a name.
-/

namespace Stencil.StructTag

/-- A character of a name. -/
def isNameChar (c : Char) : Bool := ' ' < c && c != ':' && c != '"' && c != '\x7f'

/-- What stands before the closing quote of a literal, and what stands behind it. A backslash hides
the character behind it. -/
def literal? : Text → Option (Text × Text)
  | [] => none
  | '\\' :: c :: s => (literal? s).map fun (body, rest) => ('\\' :: c :: body, rest)
  | c :: s =>
    if c = '"' then some ([], s)
    else (literal? s).map fun (body, rest) => (c :: body, rest)

/-- The first pair of a tag, as its name and what stands between its quotes, and the rest. -/
def next? (tag : Text) : Option ((Text × Text) × Text) :=
  let tag := tag.dropWhile (· = ' ')
  let name := tag.takeWhile isNameChar
  match name, tag.dropWhile isNameChar with
  | _ :: _, ':' :: '"' :: s => (literal? s).map fun (body, rest) => ((name, body), rest)
  | _, _ => none

/-- The pairs of a tag up to the first malformed one; each takes at least one of `fuel`. -/
def pairsFrom : Nat → Text → List (Text × Text)
  | 0, _ => []
  | fuel + 1, tag =>
    match next? tag with
    | some (pair, rest) => pair :: pairsFrom fuel rest
    | none => []

/-- The pairs of a tag up to the first malformed one. -/
def pairs (tag : Text) : List (Text × Text) := pairsFrom tag.length tag

/-- The text of the first literal with the name `key`; empty when there is none, or when the
literal is malformed. -/
def lookup (tag key : Text) : Text :=
  (((pairs tag).lookup key).bind Escape.literal?).getD []

/-- The entries under `key`, each key with one value. -/
def entries (tag key : Text) : Except (Text × Entries.Fault) (List (Text × Text)) :=
  let raw := lookup tag key
  match Entries.parse raw with
  | .ok items => .ok (Entries.flatten items)
  | .error e => .error (raw, e)

end Stencil.StructTag
