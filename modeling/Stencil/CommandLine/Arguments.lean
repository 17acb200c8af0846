import Stencil.CommandLine.Options

/-!
# Arguments

`Arguments.read` takes the arguments from the words of a command line. Words are taken from left to
right: an option with the value that belongs to it, a first argument as the name; what is left over
is a misuse. The options for help and for the version end the reading where they stand.
-/

namespace Stencil.CommandLine

/-- What a command line asks for. -/
structure Arguments where
  name : Text
  templateFile : Text
  output : Option Text
  directory : Text
  format : Bool
  debug : Bool
  deriving DecidableEq, Inhabited, Repr

/-- What a command line comes to. -/
inductive Request where
  | generate (a : Arguments)
  | help
  | version
  | misused (m : Misuse)
  deriving DecidableEq, Repr

/-- What has been read of a command line. -/
structure Progress where
  name : Option Text
  templateFile : Option Text
  output : Option Text
  directory : Option Text
  format : Bool
  debug : Bool
  /-- Words that belong nowhere. -/
  extras : List Text
  deriving DecidableEq, Inhabited, Repr

/-- Reading ends early with a request, or goes on. -/
abbrev Reading := Except Request

/-- Ends the reading with a misuse. -/
def misuse {α : Type} (m : Misuse) : Reading α := .error (.misused m)

namespace Progress

/-- Nothing has been read. -/
def none : Progress := ⟨.none, .none, .none, .none, false, false, []⟩

/-- Adds words that belong nowhere. -/
def addExtras (words : List Text) (p : Progress) : Progress :=
  { p with extras := p.extras ++ words }

/-- Takes an option, with its value if one belongs to it. -/
def take (p : Progress) (o : Switch) (value : Text) : Reading Progress :=
  match o with
  | .help => .error .help
  | .version => .error .version
  | .templateFile => .ok { p with templateFile := some value }
  | .output => .ok { p with output := some value }
  | .directory => .ok { p with directory := some value }
  | .format => .ok { p with format := true }
  | .debug => .ok { p with debug := true }

/-- Takes options without values, one after the other. -/
def takeAll (p : Progress) (os : List Switch) : Reading Progress :=
  os.foldlM (fun p o => p.take o []) p

/-! ## Options -/

/-- The value of an option in the words behind it, and the rest. -/
def valueAfter (o : Switch) (words : List Word) : Reading (Text × List Word) :=
  if o.takesValue then
    match words with
    | .plain s :: rest => .ok (s, rest)
    | _ => misuse (.valueExpected o)
  else .ok ([], words)

/-- Takes an option of one letter that takes no value, when letters are joined to it: they are
options themselves, and the options before them are taken when the last one is complete. -/
def takeLetters (p : Progress) (words : List Word) :
    List Switch → Switch → Bool → Text → Reading (Progress × List Word)
  | _, o, _, [] => misuse (.valueIgnored o [])
  | before, o, equals, c :: rest =>
    if equals || c = '-' then misuse (.valueIgnored o (c :: rest))
    else
      match Switch.ofText? ['-', c] with
      | .none => do return (← (p.addExtras ['-' :: c :: rest]).takeAll (before ++ [o]), words)
      | some next =>
        match rest with
        | [] => do
          let (value, words) ← valueAfter next words
          return (← (← p.takeAll (before ++ [o])).take next value, words)
        | d :: more =>
          if next.takesValue then do
            let p ← p.takeAll (before ++ [o])
            return (← p.take next (if d = '=' then more else d :: more), words)
          else if d = '=' then takeLetters p words (before ++ [o]) next true more
          else takeLetters p words (before ++ [o]) next false (d :: more)

/-- Takes an option and its value, joined to it or in the words behind it. -/
def takeOption (p : Progress) (o : Switch) (spelling : Text) (joined : Option Joined)
    (words : List Word) : Reading (Progress × List Word) :=
  match joined with
  | .none => do
    let (value, words) ← valueAfter o words
    return (← p.take o value, words)
  | some ⟨equals, value⟩ =>
    if o.takesValue then do return (← p.take o value, words)
    else if spelling[1]? = some '-' then misuse (.valueIgnored o value)
    else takeLetters p words [] o equals value

/-! ## The name -/

/-- The name at the beginning of words, when it is still to come: an argument with the two dashes
around it, which do not count. -/
def takeName (p : Progress) (words : List Word) : Option (Progress × List Word) :=
  let rest := words.dropWhile (· = .dashes)
  match p.name, rest with
  | .none, .plain s :: rest =>
    some ({ p with name := some s }, rest.dropWhile (· = .dashes))
  | _, _ => .none

/-- Takes all words, the options with what stands between them. -/
def takeWords : Nat → Progress → List Word → Reading Progress
  | 0, p, words => .ok (p.addExtras (words.map Word.text))
  | fuel + 1, p, words =>
    if words.any Word.isOption then
      let between := words.takeWhile fun w => !w.isOption
      match (if between.isEmpty then .none else p.takeName words) with
      | some (p, words) => takeWords fuel p words
      | .none =>
        let p := p.addExtras (between.map Word.text)
        match words.dropWhile fun w => !w.isOption with
        | .option o spelling joined :: rest => do
          let (p, rest) ← p.takeOption o spelling joined rest
          takeWords fuel p rest
        | .unknown s :: rest => takeWords fuel (p.addExtras [s]) rest
        | _ => .ok p
    else
      match p.takeName words with
      | some (p, rest) => .ok (p.addExtras (rest.map Word.text))
      | .none => .ok (p.addExtras (words.map Word.text))

/-- The arguments, when all that is needed has been read and nothing else. -/
def finish (p : Progress) : Reading Arguments :=
  match p.name, p.templateFile with
  | some name, some templateFile =>
    if p.extras.isEmpty then
      .ok ⟨name, templateFile, p.output, p.directory.getD ['.'], p.format, p.debug⟩
    else misuse (.unrecognized p.extras)
  | name, templateFile =>
    misuse (.missing ((if name.isNone then ["name".toList] else [])
      ++ (if templateFile.isNone then [Switch.templateFile.title] else [])))

end Progress

/-- What a command line asks for. -/
def Request.read (line : List Text) : Request :=
  match Word.readAll line with
  | .error m => .misused m
  | .ok words =>
    match Progress.takeWords (words.length + 1) Progress.none words >>= Progress.finish with
    | .ok a => .generate a
    | .error r => r

end Stencil.CommandLine
