import Stencil.Decimal.Shortest
import Stencil.Literal.Escape
import Stencil.Text.Letter

/-!
# Tokens of a template

A template is text with tags in it: `print` tags between double braces and `block` tags between
braces with percent signs. Comments, between braces with number signs, and the marks of a raw part
vanish. A hyphen at the inner side of a tag takes away the white space outside.

`Token.scan` turns a template into tokens, each with its line, or gives nothing when some part has
no token. Inside a tag, `scanTag` takes the longest number, name, quoted text or operator at each
place; a tag ends only where its brackets are closed.
-/

namespace Stencil

/-- The operators and brackets of expressions. -/
inductive Op where
  | add | sub | mul | div | floordiv | mod | pow | tilde
  | lbracket | rbracket | lparen | rparen | lbrace | rbrace
  | eq | ne | gt | gteq | lt | lteq
  | assign | dot | colon | pipe | comma | semicolon
  deriving DecidableEq, Repr

/-- A piece of a template. -/
inductive Token where
  | data (s : Text)
  | printBegin
  | printEnd
  | blockBegin
  | blockEnd
  | name (s : Text)
  | text (s : Text)
  | int (n : Nat)
  | float (d : Decimal)
  | op (o : Op)
  deriving DecidableEq, Repr

/-- A token and the line on which it begins. -/
structure Located where
  token : Token
  line : Nat
  deriving DecidableEq, Repr

/-- How operators are written, those with two characters first. -/
def Op.table : List (Text × Op) :=
  [("//", .floordiv), ("**", .pow), ("==", .eq), ("!=", .ne), (">=", .gteq), ("<=", .lteq),
    ("+", .add), ("-", .sub), ("*", .mul), ("/", .div), ("%", .mod), ("~", .tilde),
    ("[", .lbracket), ("]", .rbracket), ("(", .lparen), (")", .rparen), (['\x7b'], .lbrace),
    (['\x7d'], .rbrace), (">", .gt), ("<", .lt), ("=", .assign), (".", .dot), (":", .colon),
    ("|", .pipe), (",", .comma), (";", .semicolon)]

/-- The bracket that closes an opening one. -/
def Op.closer? : Op → Option Op
  | .lbracket => some .rbracket
  | .lparen => some .rparen
  | .lbrace => some .rbrace
  | _ => none

/-- Whether an operator is a closing bracket. -/
def Op.isCloser : Op → Bool
  | .rbracket | .rparen | .rbrace => true
  | _ => false

namespace Token

/-! ## Numbers, names and quoted texts -/

/-- The longest run of digits with single underscores between them, without the underscores, and
the rest. -/
def digits (isDigit : Char → Bool) : Text → Text × Text
  | c :: '_' :: d :: s =>
    if isDigit c then
      if isDigit d then let (ds, rest) := digits isDigit (d :: s); (c :: ds, rest)
      else ([c], '_' :: d :: s)
    else ([], c :: '_' :: d :: s)
  | c :: s =>
    if isDigit c then let (ds, rest) := digits isDigit s; (c :: ds, rest) else ([], c :: s)
  | [] => ([], [])

/-- The digits behind `mark`, and the rest; there is at least one. -/
def digitsAfter? (mark : Char) : Text → Option (Text × Text)
  | c :: s =>
    if c = mark then
      match digits Text.isDigit s with
      | ([], _) => none
      | found => some found
    else none
  | [] => none

/-- The exponent of a number with its sign, and the rest. -/
def exponent? : Text → Option (Int × Text)
  | c :: s =>
    if c = 'e' ∨ c = 'E' then
      let (negative, s) := match s with
        | '-' :: s => (true, s)
        | '+' :: s => (false, s)
        | s => (false, s)
      match digits Text.isDigit s with
      | ([], _) => none
      | (ds, rest) =>
        let n := Text.digitsValue ds
        some (if negative then -(n : Int) else n, rest)
    else none
  | [] => none

/-- The number with a fraction or an exponent at the beginning of a text, and the rest. -/
def float? (s : Text) : Option (Decimal × Text) :=
  match digits Text.isDigit s with
  | ([], _) => none
  | (whole, s) =>
    let (fraction, s) := (digitsAfter? '.' s).getD ([], s)
    match exponent? s with
    | some (e, rest) => some (⟨Text.digitsValue (whole ++ fraction), e - fraction.length⟩, rest)
    | none =>
      if fraction.isEmpty then none
      else some (⟨Text.digitsValue (whole ++ fraction), -fraction.length⟩, s)

/-- The letters that introduce a number in another base, with the digits of that base. -/
def bases : List (Char × Nat × (Char → Bool)) :=
  [('b', 2, fun c => '0' ≤ c && c ≤ '1'), ('o', 8, fun c => '0' ≤ c && c ≤ '7'),
    ('x', 16, fun c => (Text.hexDigit? c).isSome)]

/-- A number behind `0` and the letter of a base, and the rest. An underscore may stand behind the
letter. -/
def based? (letter : Char) (s : Text) : Option (Nat × Text) := do
  let (base, isDigit) ← bases.lookup letter.toLower
  let s := match s with
    | '_' :: s => s
    | s => s
  match digits isDigit s with
  | ([], _) => none
  | (ds, rest) => some (ds.foldl (fun n c => base * n + (Text.hexDigit? c).getD 0) 0, rest)

/-- The integer at the beginning of a text, and the rest. Zeros stand only for zero; behind the first
digit of any other number decimal digits of all kinds count. -/
def int? : Text → Option (Nat × Text)
  | '0' :: s =>
    match s with
    | letter :: s' => (based? letter s').getD (0, (digits (· = '0') ('0' :: s)).2)
    | [] => some (0, [])
  | c :: s =>
    if Text.isDigit c then
      let (ds, rest) := digits Text.isDecimal (c :: s)
      some (Text.decimalValue ds, rest)
    else none
  | [] => none

/-- What stands before the closing `mark` of a quoted text, and what stands behind it. A backslash
hides the character behind it. -/
def quoted? (mark : Char) : Text → Option (Text × Text)
  | [] => none
  | '\\' :: c :: s => (quoted? mark s).map fun (body, rest) => ('\\' :: c :: body, rest)
  | c :: s =>
    if c = mark then some ([], s)
    else (quoted? mark s).map fun (body, rest) => (c :: body, rest)

/-- The text with every character above ASCII as an escape. -/
def asciiEscaped (s : Text) : Text :=
  s.flatMap fun c =>
    let n := c.toNat
    if n < 0x80 then [c]
    else if n < 0x100 then "\\x" ++ Text.hex 2 n
    else if n < 0x10000 then "\\u" ++ Text.hex 4 n
    else "\\U" ++ Text.hex 8 n

/-- The operator at the beginning of a text, and the rest. -/
def op? (s : Text) : Option (Op × Text) :=
  Op.table.findSome? fun (written, o) => (Text.after? written s).map (o, ·)

/-- The token at the beginning of a text, which is not blank, and the rest. A number with a fraction
does not stand directly behind a point. -/
def one? (afterDot : Bool) (s : Text) : Option (Token × Text) :=
  match (if afterDot then none else float? s) with
  | some (d, rest) => some (.float d, rest)
  | none =>
    match int? s with
    | some (n, rest) => some (.int n, rest)
    | none =>
      match s with
      | [] => none
      | c :: s' =>
        if Text.isNamePart c then
          let n := s.takeWhile Text.isNamePart
          if Text.isName n then some (.name n, s.dropWhile Text.isNamePart) else none
        else if c = '\x27' ∨ c = '"' then do
          match quoted? c s' with
          | some (body, rest) => return (.text (← Escape.decode? (asciiEscaped body)), rest)
          | none => none
        else (op? s).map fun (o, rest) => (.op o, rest)

/-! ## Tags -/

/-- The text without the white space in front of it. -/
def dropBlank (s : Text) : Text := s.dropWhile Text.isBlank

/-- What stands behind the end of a tag, if one ends here. -/
def tagEnd? (block : Bool) : Text → Option Text
  | '-' :: c :: '\x7d' :: s =>
    if c = (if block then '%' else '\x7d') then some (dropBlank s) else none
  | '+' :: '%' :: '\x7d' :: s => if block then some s else none
  | c :: '\x7d' :: s => if c = (if block then '%' else '\x7d') then some s else none
  | _ => none

/-- The number of lines that end between a text and its rest. -/
def linesBetween (s rest : Text) : Nat := (s.take (s.length - rest.length)).count '\n'

/-- The tokens of a tag up to its end, the line on which it ends, and the rest. `closers` are the
brackets that are to come; a text that ends before the tag does gives the tokens so far. -/
def scanTag (block : Bool) : Nat → List Op → Bool → Nat → Text → Option (List Located × Nat × Text)
  | 0, _, _, _, _ => none
  | fuel + 1, closers, afterDot, line, s =>
    match (if closers.isEmpty then tagEnd? block s else none) with
    | some rest =>
      some ([⟨if block then blockEnd else printEnd, line⟩], line + linesBetween s rest, rest)
    | none =>
      match s with
      | [] => some ([], line, [])
      | c :: _ =>
        if Text.isBlank c then
          let rest := dropBlank s
          scanTag block fuel closers false (line + linesBetween s rest) rest
        else do
          let (token, rest) ← one? afterDot s
          let closers ← match token with
            | .op o =>
              match o.closer? with
              | some closer => some (closer :: closers)
              | none =>
                if o.isCloser then
                  match closers with
                  | expected :: closers => if o = expected then some closers else none
                  | [] => none
                else some closers
            | _ => some closers
          let (tokens, line', rest') ←
            scanTag block fuel closers (token = .op .dot) (line + linesBetween s rest) rest
          return (⟨token, line⟩ :: tokens, line', rest')

/-! ## Text around tags -/

/-- What stands before the first tag or comment, and the rest from its brace on. -/
def takeData : Text → Text × Text
  | [] => ([], [])
  | '\x7b' :: c :: s =>
    if c = '\x7b' ∨ c = '%' ∨ c = '#' then ([], '\x7b' :: c :: s)
    else let (d, rest) := takeData (c :: s); ('\x7b' :: d, rest)
  | c :: s => let (d, rest) := takeData s; (c :: d, rest)

/-- Whether a hyphen stands at the beginning, and the text behind a hyphen or a plus sign. -/
def sign : Text → Bool × Text
  | '-' :: s => (true, s)
  | '+' :: s => (false, s)
  | s => (false, s)

/-- What stands behind `word` with white space around it. -/
def afterWord? (word s : Text) : Option Text :=
  (Text.after? word (dropBlank s)).map dropBlank

/-- What stands behind the mark that begins a raw part, seen from behind its first two
characters. -/
def rawBegin? (s : Text) : Option Text := do
  match ← afterWord? "raw" (sign s).2 with
  | '-' :: '%' :: '\x7d' :: rest => some (dropBlank rest)
  | '%' :: '\x7d' :: rest => some rest
  | _ => none

/-- Whether the mark that ends a raw part takes away white space before it, and what stands behind
the mark. -/
def rawEnd? : Text → Option (Bool × Text)
  | '\x7b' :: '%' :: s => do
    let rest ← afterWord? "endraw" (sign s).2
    return ((sign s).1, ← tagEnd? true rest)
  | _ => none

/-- A raw part up to its end, whether the white space at its end is taken away, and what stands
behind it. -/
def takeRaw : Text → Option (Text × Bool × Text)
  | [] => none
  | c :: s =>
    match rawEnd? (c :: s) with
    | some found => some ([], found)
    | none => (takeRaw s).map fun (d, found) => (c :: d, found)

/-- The text as a token, unless it is empty. -/
def ofData (line : Nat) (s : Text) : List Located := if s.isEmpty then [] else [⟨.data s, line⟩]

/-- What stands behind a comment, seen from behind its opening. -/
def afterComment? (s : Text) : Option Text := do
  let (body, rest) ← Text.cut? ['#', '\x7d'] s
  return if body.getLast? = some '-' then dropBlank rest else rest

/-- The tokens of a template. -/
def scanFrom : Nat → Nat → Text → Option (List Located)
  | 0, _, _ => none
  | fuel + 1, line, s =>
    let (plain, rest) := takeData s
    let tagLine := line + plain.count '\n'
    match rest with
    | _ :: kind :: inner =>
      let (strip, body) := sign inner
      let before := ofData line (if strip then Text.stripEnd Text.isBlank plain else plain)
      if kind = '#' then
        match afterComment? body with
        | some rest' =>
          (before ++ ·) <$> scanFrom fuel (tagLine + linesBetween rest rest') rest'
        | none => if body.isEmpty then some before else none
      else
        match (if kind = '%' then rawBegin? inner else none) with
        | some raw =>
          let rawLine := tagLine + linesBetween rest raw
          match takeRaw raw with
          | some (d, strip, rest') =>
            let d := if strip then Text.stripEnd Text.isBlank d else d
            (before ++ ofData rawLine d ++ ·) <$>
              scanFrom fuel (rawLine + linesBetween raw rest') rest'
          | none => if raw.isEmpty then some before else none
        | none => do
          let block := kind = '%'
          let (tokens, line', rest') ← scanTag block (body.length + 1) [] false tagLine body
          let after ← scanFrom fuel line' rest'
          return before ++ ⟨if block then blockBegin else printBegin, tagLine⟩ :: tokens ++ after
    | _ => some (ofData line plain)

/-- The tokens of a template, or nothing when some part of it has none. -/
def scan (template : Text) : Option (List Located) :=
  let s := Text.unifyLineEnds template
  scanFrom (s.length + 1) 1 s

end Token

end Stencil
