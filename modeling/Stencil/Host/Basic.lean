import Stencil.Crash
import Stencil.Host.FileTree

/-!
# The host

The host is what a run of the tool finds around it and leaves behind: the file tree, the
environment, the answers of the programs that it starts, and then the calls of programs, the log,
and what was written to the standard output and into the buffer of the caller.
-/

namespace Stencil

/-- What a program that was started answers. -/
structure Answer where
  code : Int
  output : Bytes
  errors : Bytes
  deriving DecidableEq, Inhabited, Repr

/-- A call of a program: its name with the arguments, the text that it is given, and the files of
its own directory when it has one. -/
structure Call where
  command : List Text
  input : Option Text
  files : List (Text × Text)
  deriving DecidableEq, Inhabited, Repr

namespace Call

/-- The name of the program. -/
def program (c : Call) : Text := c.command.headD []

/-- Whether the name of the program is longer than the names or the paths of files are. -/
def isMisnamed (c : Call) : Bool :=
  4095 < c.program.bytes.length || (255 < c.program.bytes.length && !c.program.contains '/')

/-- The greatest size of a word that a program can be handed. -/
def wordLimit : Nat := 131071

/-- What comes of a call, from the answer of the program, or from nothing when it is missing. No
word may have a null character, and a program that is there takes no words that are too long. -/
def answered (c : Call) (answer : Option Answer) : Except Crash (Option Answer) :=
  if c.command.any (·.contains '\x00') then .error .badValue
  else if c.isMisnamed || (answer.isSome && c.command.any (wordLimit < ·.bytes.length)) then
    .error .system
  else .ok answer

end Call

/-- How much a record of the log matters. -/
inductive Level where
  | debug | info | warning | error | critical
  deriving DecidableEq, Repr

/-- A record of the log. -/
structure LogRecord where
  level : Level
  logger : Text
  message : Text
  deriving DecidableEq, Repr

/-- What a run of the tool finds around it and leaves behind. -/
structure Host where
  tree : FileTree
  /-- The current directory. -/
  current : Location
  environment : List (Text × Text)
  /-- The programs found on the search path. -/
  programs : List Text
  /-- The answers of the next calls; nothing for a program that is missing, and so for every call
  behind the last one. -/
  answers : List (Option Answer)
  calls : List Call
  log : List LogRecord
  output : Text
  buffer : Text
  deriving Inhabited

namespace Host

/-- Adds a record to the log. -/
def note (level : Level) (logger message : Text) (h : Host) : Host :=
  { h with log := h.log ++ [⟨level, logger, message⟩] }

/-- Calls a program; its answer, unless it is missing. -/
def call (c : Call) (h : Host) : Option Answer × Host :=
  (h.answers.head?.join, { h with answers := h.answers.drop 1, calls := h.calls ++ [c] })

/-- The content of the file to which a path leads. -/
def read (h : Host) (p : Path) : Except FileFault Bytes := h.tree.read h.current p

end Host

end Stencil
