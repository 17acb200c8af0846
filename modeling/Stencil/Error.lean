import Stencil.Declaration.Decode
import Stencil.Description.Extract
import Stencil.Host.FileTree
import Stencil.Template.Value

/-!
# Errors

The errors that the tool reports, by the part of its work that fails, and their wording
(`Error.message`). A run may also end in a crash, which has none (`Failure`).
-/

namespace Stencil

/-- Why a declaration cannot be resolved. -/
inductive ResolutionFault where
  /-- No directory where the source should be; the text is as it was given. -/
  | noDirectory (given : Text)
  /-- No module file in a directory. -/
  | noModule (directory : Text)
  /-- No module file in a directory or above it. -/
  | noModuleAbove (directory : Text)
  | noModulePath (moduleFile : Text)
  | noToolchain (go : Text)
  /-- The type checker failed. -/
  | failed (name directory errors output : Text)
  | notDeclared (name directory : Text)
  | decode (f : Declaration.DecodeFault)
  | untyped (kind : Text)
  deriving DecidableEq, Repr

/-- Why a text cannot be formatted. -/
inductive FormatFault where
  | noFormatter (formatter : Text)
  | failed (name errors : Text)
  deriving DecidableEq, Repr

/-- Why a text cannot be written. -/
inductive SinkFault where
  | file (f : FileFault)
  /-- The writer of the caller fails, for a reason of its own. -/
  | writer (reason : Text)
  deriving DecidableEq, Repr

/-- An error of the tool. -/
inductive Error where
  /-- There is neither a template nor a file with one. -/
  | noTemplate
  /-- A template is to be rendered before it is there, or before the description is. -/
  | notPrepared
  | resolution (f : ResolutionFault)
  /-- The tag of a field has malformed entries. -/
  | entries (field raw : Text) (f : Entries.Fault)
  | template (f : Template.Fault)
  | format (f : FormatFault)
  /-- The template cannot be read from the path that was given. -/
  | unreadable (given : Text) (f : FileFault)
  /-- The text cannot be written; `given` is the path that was given, or what stands for none. -/
  | unwritable (given : Text) (f : SinkFault)
  deriving DecidableEq, Repr

/-- The wording of a fault of resolution. -/
def ResolutionFault.message : ResolutionFault → Text
  | .noDirectory given => "source directory not found: " ++ given
  | .noModule directory => "go.mod not found in " ++ directory
  | .noModuleAbove directory => "go.mod not found in " ++ directory ++ " or any parent directory"
  | .noModulePath file => "failed to parse module path from " ++ file
  | .noToolchain go =>
    "Go toolchain not found (\x60" ++ go
      ++ "\x60 is missing from PATH). Install Go or point GOGEN_GO at the go binary."
  | .failed name directory errors output =>
    "resolving " ++ name ++ " in " ++ directory ++ " failed\n" ++ errors ++ output
  | .notDeclared name directory => "type " ++ name ++ " not found in " ++ directory
  | .decode f => f.message
  | .untyped kind => (Description.ExtractFault.untyped kind).message

/-- The wording of a fault of formatting. -/
def FormatFault.message : FormatFault → Text
  | .noFormatter formatter =>
    "formatter not found (\x60" ++ formatter
      ++ "\x60 is missing from PATH). Install Go or point GOGEN_FORMATTER at gofmt/goimports."
  | .failed name errors => "failed to format " ++ name ++ "\n" ++ errors

/-- The wording of a fault of writing to a path. -/
def SinkFault.message (path : Path) : SinkFault → Text
  | .file f => f.message path
  | .writer reason => reason

/-- The wording of an error. -/
def Error.message : Error → Text
  | .noTemplate => "either template or template_file is required"
  | .notPrepared => "prepare_description and load_template must run before execute_template"
  | .resolution f => f.message
  | .entries field raw f => (Description.ExtractFault.entries field raw f).message
  | .template f => "template error: " ++ f.message
  | .format f => f.message
  | .unreadable given f =>
    "failed to read template " ++ given ++ ": " ++ f.message (Path.ofText given)
  | .unwritable given f =>
    "failed to write output " ++ given ++ ": " ++ f.message (Path.ofText given)

/-- How a run fails. -/
inductive Failure where
  | error (e : Error)
  | crash (c : Crash)
  deriving DecidableEq, Repr

namespace Failure

/-- The failure of a resolution. -/
def resolution (f : ResolutionFault) : Failure := .error (.resolution f)

/-- The failure of a decoding. Some faults of a document have no error of their own. -/
def ofDecode (f : Declaration.DecodeFault) : Failure :=
  match f with
  | .malformedDocument _ ⟨.tooManyDigits, _⟩ => .crash .badValue
  | .malformedDocument _ ⟨.tooDeep, _⟩ => .crash .tooDeep
  | .noItems => .crash .wrongType
  | f => resolution (.decode f)

/-- The failure of a description. -/
def ofExtract : Description.ExtractFault → Failure
  | .entries field raw f => .error (.entries field raw f)
  | .untyped kind => resolution (.untyped kind)

/-- The failure of a rendering. -/
def ofStop : Template.Stop → Failure
  | .fault f => .error (.template f)
  | .crash c => .crash c

/-- The failure of looking at a file where that has no error of its own. -/
def ofFile : FileFault → Failure
  | .isDirectory => .crash .isDirectory
  | .nullCharacter => .crash .badValue
  | _ => .crash .system

end Failure

end Stencil
