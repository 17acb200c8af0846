import Stencil.Literal.Display
import Stencil.Text.Letter

/-!
# Options

The options of the command line (`Switch`), how they are written, and which option a word of the
command line is (`Word.read`): an option may be cut short as long as that is unambiguous, and a
value may be joined to it. A word that looks like a negative number, or that has a space in it, is
no option, unless it begins like one.
-/

namespace Stencil.CommandLine

/-- The options. -/
inductive Switch where
  | help | templateFile | output | directory | format | debug | version
  deriving DecidableEq, Repr

namespace Switch

/-- How the options are written. -/
def spellings : List (String × Switch) :=
  [("-h", .help), ("--help", .help), ("--template-file", .templateFile), ("-t", .templateFile),
    ("--output", .output), ("-o", .output), ("--dir", .directory), ("-d", .directory),
    ("--format", .format), ("--debug", .debug), ("--version", .version)]

/-- The option that is written so. -/
def ofText? (s : Text) : Option Switch :=
  (spellings.find? fun e => e.1.toList = s).map Prod.snd

/-- What messages call an option: its spellings with slashes between them. -/
def title (o : Switch) : Text :=
  Text.joined ['/'] ((spellings.filter fun e => e.2 = o).map fun e => e.1.toList)

/-- Whether a value belongs to an option. -/
def takesValue : Switch → Bool
  | .templateFile | .output | .directory => true
  | .help | .format | .debug | .version => false

end Switch

/-- How a command line is misused. -/
inductive Misuse where
  /-- A word that may be cut short from several options. -/
  | ambiguous (word : Text) (options : List Text)
  /-- An option without the value that belongs to it. -/
  | valueExpected (option : Switch)
  /-- A value joined to an option that takes none. -/
  | valueIgnored (option : Switch) (value : Text)
  | missing (names : List Text)
  | unrecognized (words : List Text)
  deriving DecidableEq, Repr

/-- The wording of a misuse. -/
def Misuse.message : Misuse → Text
  | .ambiguous word options =>
    "ambiguous option: " ++ word ++ " could match " ++ Text.joined ", " options
  | .valueExpected o => "argument " ++ o.title ++ ": expected one argument"
  | .valueIgnored o value =>
    "argument " ++ o.title ++ ": ignored explicit argument " ++ Display.text value
  | .missing names => "the following arguments are required: " ++ Text.joined ", " names
  | .unrecognized words => "unrecognized arguments: " ++ Text.joined [' '] words

/-- A value that is joined to an option, perhaps with an equals sign. -/
structure Joined where
  equals : Bool
  value : Text
  deriving DecidableEq, Repr

/-- What a word of the command line is. -/
inductive Word where
  /-- An argument. -/
  | plain (s : Text)
  /-- The two dashes behind which all words are arguments. -/
  | dashes
  /-- An option, as it is spelled in full, with a value that is joined to it. -/
  | option (o : Switch) (spelling : Text) (joined : Option Joined)
  /-- Something that looks like an option and is none. -/
  | unknown (s : Text)
  deriving DecidableEq, Repr

namespace Word

/-- The options that a word with one dash may be: one letter with a value behind it. -/
def shortMatches (s : Text) : List (Text × Switch × Option Joined) :=
  Switch.spellings.filterMap fun (spelling, o) =>
    let spelling := spelling.toList
    if spelling = s.take 2 then some (spelling, o, some ⟨false, s.drop 2⟩)
    else if s.isPrefixOf spelling then some (spelling, o, none)
    else none

/-- What stands before the first equals sign, and the value behind it. -/
def cutValue (s : Text) : Text × Option Joined :=
  match Text.cut? ['='] s with
  | some (start, value) => (start, some ⟨true, value⟩)
  | none => (s, none)

/-- The options that a word with two dashes may be cut short from. -/
def longMatches (s : Text) : List (Text × Switch × Option Joined) :=
  let (start, value) := cutValue s
  Switch.spellings.filterMap fun (spelling, o) =>
    if start.isPrefixOf spelling.toList then some (spelling.toList, o, value) else none

/-- Whether digits, perhaps with a line feed behind them, are all there is. -/
def isDigits (least : Nat) (s : Text) : Bool :=
  let s := if s.getLast? = some '\n' then s.dropLast else s
  least ≤ s.length && s.all Text.isDecimal

/-- Whether a word looks like a negative number. -/
def isNegative : Text → Bool
  | '-' :: s =>
    isDigits 1 s
      || (let fraction := s.dropWhile Text.isDecimal
          fraction.head? = some '.' && isDigits 1 (fraction.drop 1))
  | _ => false

/-- The kind of a word that does not stand behind two dashes. -/
def read (s : Text) : Except Misuse Word :=
  if s.head? ≠ some '-' ∨ s = ['-'] then .ok (.plain s)
  else
    match Switch.ofText? s with
    | some o => .ok (.option o s none)
    | none =>
      let (start, value) := cutValue s
      match value, Switch.ofText? start with
      | some value, some o => .ok (.option o start (some value))
      | _, _ =>
        match (if s[1]? = some '-' then longMatches s else shortMatches s) with
        | [(spelling, o, value)] => .ok (.option o spelling value)
        | [] => .ok (if isNegative s || s.contains ' ' then .plain s else .unknown s)
        | several => .error (.ambiguous s (several.map Prod.fst))

/-- The kinds of all words. -/
def readAll : List Text → Except Misuse (List Word)
  | [] => .ok []
  | s :: rest =>
    if s = ['-', '-'] then .ok (.dashes :: rest.map .plain)
    else do
      let w ← read s
      return w :: (← readAll rest)

/-- Whether a word is an option or looks like one. -/
def isOption : Word → Bool
  | .option _ _ _ | .unknown _ => true
  | .plain _ | .dashes => false

/-- The text of a word that is no option. -/
def text : Word → Text
  | .plain s => s
  | .unknown s => s
  | .dashes => ['-', '-']
  | .option _ spelling _ => spelling

end Word

end Stencil.CommandLine
