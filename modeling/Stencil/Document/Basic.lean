import Stencil.Decimal.Number
import Stencil.Literal.Display
import Stencil.Pairs

/-!
# Documents

A document is a value of JSON. The members of an object stand in the order in which they were
written, each name once. `display` shows a document in a message, `shown` gives the text that a
document stands for, and `isEmpty` tells the documents that count as absent.
-/

namespace Stencil

/-- A value of JSON. -/
inductive Document where
  | null
  | bool (b : Bool)
  | int (i : Int)
  | float (x : Float)
  | text (s : Text)
  | list (items : List Document)
  | object (members : List (Text × Document))
  deriving Inhabited

namespace Document

mutual

/-- A document as a message shows it. -/
def display : Document → Text
  | .null => "None"
  | .bool true => "True"
  | .bool false => "False"
  | .int i => Text.ofInt i
  | .float x => Decimal.text x
  | .text s => Display.text s
  | .list items => '[' :: displayItems items ++ [']']
  | .object members => '\x7b' :: displayMembers members ++ ['\x7d']

/-- Items with commas between them. -/
def displayItems : List Document → Text
  | [] => []
  | [d] => display d
  | d :: e :: rest => display d ++ ", " ++ displayItems (e :: rest)

/-- Members with commas between them. -/
def displayMembers : List (Text × Document) → Text
  | [] => []
  | [(k, d)] => Display.text k ++ ": " ++ display d
  | (k, d) :: e :: rest => Display.text k ++ ": " ++ display d ++ ", " ++ displayMembers (e :: rest)

end

/-- The text that a document stands for: a text itself, anything else as messages show it. -/
def shown : Document → Text
  | .text s => s
  | d => display d

/-- Whether a document counts as absent: null, false, zero, and what is empty. -/
def isEmpty : Document → Bool
  | .null => true
  | .bool b => !b
  | .int i => i == 0
  | .float x => x == 0.0
  | .text s => s.isEmpty
  | .list items => items.isEmpty
  | .object members => members.isEmpty

/-- The member of an object with a name. -/
def member? (name : Text) : Document → Option Document
  | .object members => members.lookup name
  | _ => none

/-- Whether a document is an object. -/
def isObject : Document → Bool
  | .object _ => true
  | _ => false

/-- What a loop over a document runs through: the items of a list, the names of an object, the
characters of a text. -/
def items? : Document → Option (List Document)
  | .list items => some items
  | .object members => some (members.map fun m => .text m.1)
  | .text s => some (s.map fun c => .text [c])
  | _ => none

end Document

end Stencil
