import Stencil.Document.Basic

/-!
# Reading documents

`Document.read` reads one document, with white space around it and nothing else. A fault names its
cause and the place where it shows, held as the number of characters from there to the end.
Besides the grammar of JSON, the names of infinity and of what is no number are read, and a repeated
name keeps its place and takes the last value. An integer may have up to 4300 digits, and lists and
objects may be nested as deep as calls may be (`nestingLimit`).
-/

namespace Stencil.Document

/-- Why a text is no document. -/
inductive Cause where
  | nameExpected
  | colonExpected
  | commaExpected
  | valueExpected
  | openText
  | malformedEscape
  | malformedCodePoint
  | controlCharacter
  | extraData
  | tooManyDigits
  | tooDeep
  deriving DecidableEq, Repr

/-- A cause together with the number of characters from the place to the end. -/
structure Fault where
  cause : Cause
  behind : Nat
  deriving DecidableEq, Repr

/-- The wording of a cause. -/
def Cause.message : Cause → Text
  | .nameExpected => "Expecting property name enclosed in double quotes"
  | .colonExpected => "Expecting ':' delimiter"
  | .commaExpected => "Expecting ',' delimiter"
  | .valueExpected => "Expecting value"
  | .openText => "Unterminated string starting at"
  | .malformedEscape => "Invalid \\escape"
  | .malformedCodePoint => "Invalid \\uXXXX escape"
  | .controlCharacter => "Invalid control character at"
  | .extraData => "Extra data"
  | .tooManyDigits => "Exceeds the limit (4300 digits) for integer string conversion"
  | .tooDeep => "maximum recursion depth exceeded while decoding a JSON document"

/-- The wording of a fault in a text, with the line, the column and the position, counted from one,
one and zero. -/
def Fault.message (doc : Text) (f : Fault) : Text :=
  let position := doc.length - f.behind
  let before := doc.take position
  let line := before.count '\n' + 1
  let column := (before.reverse.takeWhile (· ≠ '\n')).length + 1
  f.cause.message ++ ": line " ++ Text.ofNat line ++ " column " ++ Text.ofNat column ++ " (char "
    ++ Text.ofNat position ++ ")"

/-- The text without the white space in front of it. -/
def skip (s : Text) : Text :=
  s.dropWhile fun c => c = ' ' || c = '\t' || c = '\n' || c = '\r'

/-- Reports a cause at the place where `rest` begins. -/
def fail {α : Type} (cause : Cause) (rest : Text) : Except Fault α := .error ⟨cause, rest.length⟩

/-! ## Texts -/

/-- The character that a one-letter escape stands for. -/
def escaped? : Char → Option Char
  | '"' => some '"'
  | '\\' => some '\\'
  | '/' => some '/'
  | 'b' => some '\x08'
  | 'f' => some '\x0c'
  | 'n' => some '\n'
  | 'r' => some '\r'
  | 't' => some '\t'
  | _ => none

/-- Whether a number is the first half of a surrogate pair. -/
def isHigh (n : Nat) : Bool := 0xd800 ≤ n && n < 0xdc00

/-- Whether a number is the second half of a surrogate pair. -/
def isLow (n : Nat) : Bool := 0xdc00 ≤ n && n < 0xe000

/-- The character with a number; a half without its other half is U+FFFD. -/
def scalar (n : Nat) : Char := if isHigh n || isLow n then '\ufffd' else Char.ofNat n

/-- The character of a surrogate pair. -/
def joinHalves (high low : Nat) : Char :=
  Char.ofNat (0x10000 + (high - 0xd800) * 0x400 + (low - 0xdc00))

/-- The second half of a surrogate pair that stands at the beginning of a text: nothing if no escape
stands there, a fault if its digits are none. -/
def secondHalf? (s : Text) : Except Fault (Option Nat) :=
  match s with
  | '\\' :: 'u' :: a :: b :: c :: d :: _ :: _ =>
    match Text.hexValue? [a, b, c, d] with
    | some n => .ok (if isLow n then some n else none)
    | none => fail .malformedCodePoint s.tail
  | _ => .ok none

/-- Reads a text from behind its opening quote, which stands `opened` characters before the end. -/
def readText (opened : Nat) : Text → Except Fault (Text × Text)
  | [] => .error ⟨.openText, opened⟩
  | '"' :: s => .ok ([], s)
  | '\\' :: [] => .error ⟨.openText, opened⟩
  | '\\' :: 'u' :: s =>
    match s with
    | a :: b :: c :: d :: s' =>
      match (if s'.isEmpty then none else Text.hexValue? [a, b, c, d]) with
      | none => fail .malformedCodePoint ('u' :: s)
      | some n =>
        match (if isHigh n then secondHalf? s' else .ok none) with
        | .error e => .error e
        | .ok none => do let (t, rest) ← readText opened s'; return (scalar n :: t, rest)
        | .ok (some low) =>
          match s' with
          | _ :: _ :: _ :: _ :: _ :: _ :: s'' => do
            let (t, rest) ← readText opened s''
            return (joinHalves n low :: t, rest)
          | _ => fail .malformedCodePoint s'
    | _ => fail .malformedCodePoint ('u' :: s)
  | '\\' :: c :: s =>
    match escaped? c with
    | some e => do let (t, rest) ← readText opened s; return (e :: t, rest)
    | none => fail .malformedEscape ('\\' :: c :: s)
  | c :: s =>
    if c.toNat < 0x20 then fail .controlCharacter (c :: s)
    else do let (t, rest) ← readText opened s; return (c :: t, rest)

/-! ## Numbers -/

/-- Digits of a number in parts: the integer digits, those behind the point, and the exponent. -/
structure Numeral where
  negative : Bool
  whole : Text
  fraction : Text
  exponent : Int
  /-- Whether there is a point or an exponent. -/
  isFloat : Bool

/-- The digits of an exponent with its sign, from behind `e`, and the rest. -/
def readExponent? (s : Text) : Option (Int × Text) :=
  let (negative, s) := match s with
    | '-' :: s => (true, s)
    | '+' :: s => (false, s)
    | s => (false, s)
  let digits := s.takeWhile Text.isDigit
  if digits.isEmpty then none
  else
    let n := Text.digitsValue digits
    some (if negative then -(n : Int) else n, s.dropWhile Text.isDigit)

/-- The fraction of a number, from before its point, and the rest. -/
def readFraction? : Text → Option (Text × Text)
  | '.' :: s =>
    let digits := s.takeWhile Text.isDigit
    if digits.isEmpty then none else some (digits, s.dropWhile Text.isDigit)
  | _ => none

/-- The integer digits of a number, which begin with zero only when there is one, and the rest. -/
def readWhole? : Text → Option (Text × Text)
  | '0' :: s => some (['0'], s)
  | c :: s =>
    if Text.isDigit c then some (c :: s.takeWhile Text.isDigit, s.dropWhile Text.isDigit) else none
  | [] => none

/-- Reads the numeral at the beginning of a text. -/
def readNumeral? (s : Text) : Option (Numeral × Text) := do
  let (negative, s) := match s with
    | '-' :: s => (true, s)
    | s => (false, s)
  let (whole, s) ← readWhole? s
  let (fraction, s) := (readFraction? s).getD ([], s)
  let exponent := match s with
    | c :: s => if c = 'e' ∨ c = 'E' then readExponent? s else none
    | [] => none
  let isFloat := !fraction.isEmpty || exponent.isSome
  let (exponent, s) := exponent.getD (0, s)
  return (⟨negative, whole, fraction, exponent, isFloat⟩, s)

/-- The number that a numeral writes. -/
def Numeral.value (n : Numeral) : Document :=
  let digits := Text.digitsValue (n.whole ++ n.fraction)
  if n.isFloat then
    let x := Decimal.toFloat ⟨digits, n.exponent - n.fraction.length⟩
    .float (if n.negative then -x else x)
  else .int (if n.negative then -(digits : Int) else digits)

/-- Reads a number. -/
def readNumber (s : Text) : Except Fault (Document × Text) :=
  match readNumeral? s with
  | none => fail .valueExpected s
  | some (n, rest) =>
    if !n.isFloat && 4300 < n.whole.length then fail .tooManyDigits s else .ok (n.value, rest)

/-! ## Documents -/

/-- The values that are written as a word. -/
def words : List (Text × Document) :=
  [("null", .null), ("true", .bool true), ("false", .bool false), ("NaN", .float (0.0 / 0.0)),
    ("Infinity", .float (1.0 / 0.0)), ("-Infinity", .float (-1.0 / 0.0))]

/-- Reads a word or a number. -/
def readScalar (s : Text) : Except Fault (Document × Text) :=
  match words.findSome? fun (word, d) => (Text.after? word s).map (d, ·) with
  | some found => .ok found
  | none => readNumber s

/-- How deep lists and objects may be nested: a thousand calls at most are inside one another, those
of the command that lead to the reader among them. -/
def nestingLimit : Nat := 990

/-- The depth that is left inside of the bracket at the beginning of a text. -/
def inside (depth : Nat) (s : Text) : Except Fault Nat :=
  match depth with
  | 0 => fail .tooDeep s
  | depth + 1 => .ok depth

mutual

/-- Reads the document at the beginning of a text, with brackets up to `depth` deep; each part takes
one of `fuel`. -/
def readValue (depth : Nat) : Nat → Text → Except Fault (Document × Text)
  | 0, s => fail .valueExpected s
  | fuel + 1, s =>
    match s with
    | [] => fail .valueExpected []
    | c :: rest =>
      if c = '"' then do
        let (t, rest) ← readText s.length rest
        return (.text t, rest)
      else if c = '\x7b' then do
        let depth ← inside depth s
        match skip rest with
        | '\x7d' :: rest => return (.object [], rest)
        | rest => do
          let (members, rest) ← readMembers depth fuel rest
          return (.object (Pairs.ofList members), rest)
      else if c = '[' then do
        let depth ← inside depth s
        match skip rest with
        | ']' :: rest => return (.list [], rest)
        | rest => do
          let (items, rest) ← readItems depth fuel rest
          return (.list items, rest)
      else readScalar s

/-- Reads the members of an object that has some, up to its closing brace. -/
def readMembers (depth : Nat) : Nat → Text → Except Fault (List (Text × Document) × Text)
  | 0, s => fail .nameExpected s
  | fuel + 1, s =>
    match s with
    | '"' :: rest => do
      let (name, rest) ← readText s.length rest
      match skip rest with
      | ':' :: rest => do
        let (d, rest) ← readValue depth fuel (skip rest)
        match skip rest with
        | '\x7d' :: rest => return ([(name, d)], rest)
        | ',' :: rest => do
          let (members, rest) ← readMembers depth fuel (skip rest)
          return ((name, d) :: members, rest)
        | rest => fail .commaExpected rest
      | rest => fail .colonExpected rest
    | _ => fail .nameExpected s

/-- Reads the items of a list that has some, up to its closing bracket. -/
def readItems (depth : Nat) : Nat → Text → Except Fault (List Document × Text)
  | 0, s => fail .valueExpected s
  | fuel + 1, s => do
    let (d, rest) ← readValue depth fuel s
    match skip rest with
    | ']' :: rest => return ([d], rest)
    | ',' :: rest => do
      let (items, rest) ← readItems depth fuel (skip rest)
      return (d :: items, rest)
    | rest => fail .commaExpected rest

end

/-- Reads a document with white space around it and nothing else. -/
def read (doc : Text) : Except Fault Document := do
  let (d, rest) ← readValue nestingLimit (2 * doc.length + 2) (skip doc)
  match skip rest with
  | [] => return d
  | rest => fail .extraData rest

end Stencil.Document
