import Stencil.Host.Path
import Stencil.Literal.Display
import Stencil.Pairs
import Stencil.Text.Utf8

/-!
# File trees

A file tree holds directories and files by location. A path leads from a directory name by name to a
location (`FileTree.walk`); two dots lead to the directory above. On that rest `find?`, `read` and
`write`, each of which fails with a fault that says what stands in the way.
-/

namespace Stencil

/-- What is at a location. -/
inductive Entry where
  | directory
  | file (content : Bytes)
  deriving DecidableEq, Repr

/-- Directories and files by location. -/
structure FileTree where
  entries : List (Location × Entry)
  deriving DecidableEq, Inhabited, Repr

/-- Why a file cannot be read or written. -/
inductive FileFault where
  | notFound
  | notDirectory
  | isDirectory
  | nameTooLong
  /-- A path with a null character, which no file can have. -/
  | nullCharacter
  deriving DecidableEq, Repr

/-- The wording of a fault at a path. -/
def FileFault.message (p : Path) : FileFault → Text
  | .notFound => "[Errno 2] No such file or directory: " ++ Display.text p.text
  | .notDirectory => "[Errno 20] Not a directory: " ++ Display.text p.text
  | .isDirectory => "[Errno 21] Is a directory: " ++ Display.text p.text
  | .nameTooLong => "[Errno 36] File name too long: " ++ Display.text p.text
  | .nullCharacter => "embedded null byte"

/-- Whether a path is longer than the paths that a host takes. -/
def Path.isTooLong (p : Path) : Bool := 4095 < p.text.bytes.length

namespace FileTree

/-- What is at a location. The root is a directory. -/
def entry? (t : FileTree) (l : Location) : Option Entry :=
  if l.isEmpty then some .directory else t.entries.lookup l

/-- Whether a directory is at a location. -/
def isDirectory (t : FileTree) (l : Location) : Bool := t.entry? l = some .directory

/-- The location to which names lead from a directory; at the last one there may be nothing. -/
def walk (t : FileTree) : Location → List Text → Except FileFault Location
  | l, [] => .ok l
  | l, name :: rest =>
    match t.entry? l with
    | none => .error .notFound
    | some (.file _) => .error .notDirectory
    | some .directory =>
      if 255 < name.bytes.length then .error .nameTooLong
      else if name = ['.', '.'] then t.walk l.dropLast rest
      else t.walk (l ++ [name]) rest

/-- The location to which a path leads from the current directory. -/
def locate (t : FileTree) (current : Location) (p : Path) : Except FileFault Location :=
  if p.text.contains '\x00' then .error .nullCharacter
  else if p.isTooLong then .error .nameTooLong
  else t.walk (if p.root.isEmpty then current else []) p.names

/-- Whether a path leads to something, and the location. A path that leads through a file or has a
null character leads to nothing. -/
def find? (t : FileTree) (current : Location) (p : Path) : Except FileFault (Option Location) :=
  match t.locate current p with
  | .ok l => .ok (if (t.entry? l).isSome then some l else none)
  | .error .nameTooLong => .error .nameTooLong
  | .error _ => .ok none

/-- The content of the file to which a path leads. -/
def read (t : FileTree) (current : Location) (p : Path) : Except FileFault Bytes := do
  match t.entry? (← t.locate current p) with
  | none => .error .notFound
  | some .directory => .error .isDirectory
  | some (.file content) => .ok content

/-- The tree with a content in the file to which a path leads; the file need not be there, but its
directory. -/
def write (t : FileTree) (current : Location) (p : Path) (content : Bytes) :
    Except FileFault FileTree := do
  let l ← t.locate current p
  if t.isDirectory l then .error .isDirectory
  else .ok { t with entries := Pairs.set l (.file content) t.entries }

/-! ## Making trees -/

/-- The locations above a location and itself, from the root on. -/
def above (l : Location) : List Location := (List.range (l.length + 1)).map fun n => l.take n

/-- The tree with a directory and all those above it. -/
def addDirectory (t : FileTree) (l : Location) : FileTree :=
  (above l).foldl (fun t l =>
    if (t.entry? l).isSome then t else { t with entries := t.entries ++ [(l, .directory)] }) t

/-- The tree with a file and the directories above it. -/
def addFile (t : FileTree) (l : Location) (content : Bytes) : FileTree :=
  let t := t.addDirectory l.dropLast
  { t with entries := Pairs.set l (.file content) t.entries }

/-- The files with their locations. -/
def files (t : FileTree) : List (Location × Bytes) :=
  t.entries.filterMap fun (l, e) =>
    match e with
    | .file content => some (l, content)
    | .directory => none

end FileTree

end Stencil
