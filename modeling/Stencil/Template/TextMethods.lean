import Stencil.Template.Argument
import Stencil.Template.Format.Braces
import Stencil.Text.Casing
import Stencil.Text.Layout
import Stencil.Text.Letter
import Stencil.Text.Search

/-!
# Methods of texts

`callText` calls a method of a text. Positions and widths are integers, and a search may be limited
to a window. What does not fit is a fault without a message.
-/

namespace Stencil.Template

/-! ## Classes of texts -/

/-- Whether a text has letters with case, all of them of a class: none is of the `wrong` one. -/
def isCasedAs (right wrong : Char → Bool) (s : Text) : Bool :=
  s.any right && !s.any fun c => wrong c || Text.isTitle c

/-- Whether each run of letters begins with a capital and goes on small: `inside` a run, `found` a
letter. -/
def isTitledFrom : Bool → Bool → Text → Bool
  | _, found, [] => found
  | inside, found, c :: s =>
    if Text.isUpper c || Text.isTitle c then !inside && isTitledFrom true true s
    else if Text.isLower c then inside && isTitledFrom true true s
    else isTitledFrom false found s

/-- Whether a text is not empty and all its characters are of a class. -/
def isAll (cls : Char → Bool) (s : Text) : Bool := !s.isEmpty && s.all cls

/-- A letter or something with a numeric value. -/
def isLetterOrNumber (c : Char) : Bool :=
  Text.isLetter c || Text.isDecimal c || Text.isAnyDigit c || Text.isNumeric c

/-- Whether a text belongs to the class that a method asks for. -/
def isOfClass (m : TextMethod) (s : Text) : Bool :=
  match m with
  | .isalnum => isAll isLetterOrNumber s
  | .isalpha => isAll Text.isLetter s
  | .isascii => s.all fun c => c.toNat < 0x80
  | .isdecimal => isAll Text.isDecimal s
  | .isdigit => isAll Text.isAnyDigit s
  | .isidentifier => Text.isName s
  | .islower => isCasedAs Text.isLower Text.isUpper s
  | .isnumeric => isAll Text.isNumeric s
  | .isprintable => s.all fun c => Text.isPrintable c.toNat
  | .isspace => isAll Text.isBlank s
  | .istitle => isTitledFrom false false s
  | .isupper => isCasedAs Text.isUpper Text.isLower s
  | _ => false

/-! ## Calls -/

/-- The part and the window of a search. -/
def searchArguments (a : Args) : Eval (Text × Option Int × Option Int) := do
  let args ← positional 1 3 a
  let part ← asText (args[0]?.getD .none)
  return (part, ← asBound args[1]?, ← asBound args[2]?)

/-- The position that a search found. -/
def found : Option Nat → Eval Value
  | some n => return .int n
  | none => crash .badValue

/-- Whether a text starts or ends with one of some texts in a window. -/
def anyText (test : Text → Option Int → Option Int → Text → Bool) (s : Text) (a : Args) :
    Eval Value := do
  let args ← positional 1 3 a
  let start ← asBound args[1]?
  let stop ← asBound args[2]?
  match args.head? with
  | some (.tuple parts) =>
    return .bool (← parts.anyM fun p => return test (← asText p) start stop s)
  | some v => return .bool (test (← asText v) start stop s)
  | none => crash .wrongType

/-- The width and the character of a filling. -/
def fillArguments (a : Args) : Eval (Int × Char) := do
  match ← positional 1 2 a with
  | [width] => return (← asWidth width, ' ')
  | [width, .text [c]] => return (← asWidth width, c)
  | _ => crash .wrongType

/-- The characters that are to be stripped: those of a text, or white space. -/
def stripArguments (a : Args) : Eval (Char → Bool) := do
  match ← positional 0 1 a with
  | [] => return Text.isBlank
  | [.none] => return Text.isBlank
  | v :: _ => do
    let chars ← asText v
    return (chars.contains ·)

/-- Texts as a list of values. -/
def textList (pieces : List Text) : Eval Value := newList (pieces.map .text)

/-- How a text is cut: at the places of a separator, or into its words when there is none. -/
def cutting (fromEnd : Bool) (limit : Option Nat) : Option Value → Eval (Text → List Text)
  | none | some .none => return limit.elim Text.words Text.wordsUpTo
  | some v => do
    let sep ← asText v
    if sep.isEmpty then crash .badValue
    else return Text.splitOn (if fromEnd then sep.reverse else sep) limit

/-- The pieces of a text: between the places of a separator, or its words. -/
def splitText (fromEnd : Bool) (s : Text) (a : Args) : Eval Value := do
  let args ← require (a.fit? ["sep", "maxsplit"] 0)
  let most ← asSizeOr (-1) (args[1]?.join)
  let cut ← cutting fromEnd (if most < 0 then none else some most.toNat) args[0]?.join
  textList (if fromEnd then Text.backwards cut s else cut s)

/-- What stands before and after a separator, with it between; `missing` when it is not there. -/
def partition (cut : Text → Text → Option (Text × Text)) (missing : List Text) (s : Text)
    (a : Args) : Eval Value := do
  let sep ← asText ((← positional 1 1 a).head?.getD .none)
  if sep.isEmpty then crash .badValue
  else
    match cut sep s with
    | some (before, after) => return .tuple [.text before, .text sep, .text after]
    | none => return .tuple (missing.map .text)

/-- The texts among values, with `sep` between them. -/
def joinTexts (sep : Text) (items : List Value) : Eval Value := do
  return .text (Text.joined sep (← items.mapM asText))

/-- Calls a method of a text. -/
def callText (m : TextMethod) (s : Text) (a : Args) : Eval Value := do
  match m with
  | .capitalize => noArguments a; return .text (Text.capitalize s)
  | .casefold => noArguments a; return .text (Text.fold s)
  | .lower => noArguments a; return .text (Text.lower s)
  | .upper => noArguments a; return .text (Text.upper s)
  | .swapcase => noArguments a; return .text (Text.swapFrom [] s)
  | .title => noArguments a; return .text (Text.titleFrom [] s)
  | .center => let (width, fill) ← fillArguments a; return .text (Text.center fill width s)
  | .ljust => let (width, fill) ← fillArguments a; return .text (Text.padEnd fill width s)
  | .rjust => let (width, fill) ← fillArguments a; return .text (Text.padStart fill width s)
  | .zfill =>
    let args ← positional 1 1 a
    return .text (Text.zeroFill (← asWidth (args.head?.getD .none)) s)
  | .expandtabs =>
    let args ← require (a.fit? ["tabsize"] 0)
    let size ← asIntOr 8 args.head?.join
    if precisionLimit < size.natAbs then crash .overflow
    enough (size.toNat * List.count '\t' s)
    return .text (Text.expandTabs size s)
  | .count =>
    let (part, start, stop) ← searchArguments a
    return .int (Text.count part start stop s)
  | .find =>
    let (part, start, stop) ← searchArguments a
    return .int (((Text.find? part start stop s).map Int.ofNat).getD (-1))
  | .rfind =>
    let (part, start, stop) ← searchArguments a
    return .int (((Text.findLast? part start stop s).map Int.ofNat).getD (-1))
  | .index => let (part, start, stop) ← searchArguments a; found (Text.find? part start stop s)
  | .rindex => let (part, start, stop) ← searchArguments a; found (Text.findLast? part start stop s)
  | .startswith => anyText Text.startsWith s a
  | .endswith => anyText Text.endsWith s a
  | .join =>
    let args ← positional 1 1 a
    joinTexts s (← iterate (args.head?.getD .none))
  | .strip => return .text (Text.strip (← stripArguments a) s)
  | .lstrip => return .text (Text.stripStart (← stripArguments a) s)
  | .rstrip => return .text (Text.stripEnd (← stripArguments a) s)
  | .partition => partition Text.cut? [s, [], []] s a
  | .rpartition => partition Text.cutLast? [[], [], s] s a
  | .removeStart =>
    let part ← asText ((← positional 1 1 a).head?.getD .none)
    return .text ((Text.after? part s).getD s)
  | .removeEnd =>
    let part ← asText ((← positional 1 1 a).head?.getD .none)
    return .text (if part.isSuffixOf s then s.take (s.length - part.length) else s)
  | .replace =>
    let args ← positional 2 3 a
    let old ← asText (args[0]?.getD .none)
    let new ← asText (args[1]?.getD .none)
    let most ← asSizeOr (-1) args[2]?
    return .text (Text.replace old new (if most < 0 then none else some most.toNat) s)
  | .split => splitText false s a
  | .rsplit => splitText true s a
  | .splitlines =>
    let args ← require (a.fit? ["keepends"] 0)
    let keep ← (match args.head?.join with
      | none => return false
      | some v => asFlag v : Eval Bool)
    textList (Text.linesFrom keep [] s)
  | .format => Format.fillBraces s a
  | m => noArguments a; return .bool (isOfClass m s)

end Stencil.Template
