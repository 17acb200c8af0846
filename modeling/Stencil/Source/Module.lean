import Stencil.Error
import Stencil.Host.Basic
import Stencil.Text.Blank

/-!
# Source directories and their modules

The source of a type is in a directory of a module, whose root is the nearest directory with a file
`go.mod` (`moduleRoot?`). `modulePath?` finds the path of the module in the text of that file: the
second word of the first line that begins with `module` and a space.
-/

namespace Stencil

/-- A directory with source, the root of its module, and the path of the module. -/
structure SourceDirectory where
  package : Location
  module : Location
  modulePath : Text
  deriving DecidableEq, Inhabited, Repr

namespace SourceDirectory

/-- The name of the file at the root of a module. -/
def moduleFile : Text := "go.mod"

/-- The path that a line of a module file gives to the module. -/
def declared? (line : Text) : Option Text :=
  let line := Text.strip Text.isBlank line
  if "module ".toList.isPrefixOf line then
    (Text.words line)[1]?.map (Text.strip (· = '"'))
  else none

/-- The path of the module in the text of a module file. -/
def modulePath? (text : Text) : Option Text :=
  (Text.lines (Text.unifyLineEnds text)).findSome? declared?

/-- The path of the module whose root a path leads to. -/
def readModulePath (h : Host) (root : Path) : Except Failure Text :=
  let file := root.child moduleFile
  match h.tree.find? h.current file with
  | .error f => .error (Failure.ofFile f)
  | .ok none => .error (Failure.resolution (.noModule root.text))
  | .ok (some _) =>
    match h.read file with
    | .error f => .error (Failure.ofFile f)
    | .ok bytes =>
      match bytes.decode? with
      | none => .error (.crash .undecodable)
      | some text =>
        match modulePath? text with
        | some p => .ok p
        | none => .error (Failure.resolution (.noModulePath file.text))

/-- The nearest root of a module: a location itself or one above it. -/
def moduleRoot? (t : FileTree) (l : Location) : Option Location :=
  (FileTree.above l).reverse.find? fun root => (t.entry? (root ++ [moduleFile])).isSome

/-- The source directory to which a path leads. The search for the root fails where it begins with
a path that is too long. -/
def find (h : Host) (given : Text) : Except Failure SourceDirectory :=
  match h.tree.find? h.current (Path.ofText given) with
  | .error f => .error (Failure.ofFile f)
  | .ok none => .error (Failure.resolution (.noDirectory given))
  | .ok (some l) =>
    if h.tree.isDirectory l then
      if ((Path.ofLocation l).child moduleFile).isTooLong then
        .error (Failure.ofFile .nameTooLong)
      else
        match moduleRoot? h.tree l with
        | none => .error (Failure.resolution (.noModuleAbove l.text))
        | some root =>
          match readModulePath h (Path.ofLocation root) with
          | .ok modulePath => .ok ⟨l, root, modulePath⟩
          | .error e => .error e
    else .error (Failure.resolution (.noDirectory given))

end SourceDirectory

end Stencil
