import Stencil.Template.Attribute
import Stencil.Template.Format.Style

/-!
# Percent marks

`fill` puts values into a text in the place of its percent marks. A mark may name what it wants of
the value, and says with flags, a width, a precision and a kind how it is written; a star takes a
number from the values. Two percent signs are one.
-/

namespace Stencil.Template.Format

/-- The text with what lies above ASCII escaped. -/
def ascii (s : Text) : Text :=
  s.flatMap fun c =>
    let n := c.toNat
    if n < 0x80 then [c]
    else if n < 0x100 then "\\x" ++ Text.hex 2 n
    else if n < 0x10000 then "\\u" ++ Text.hex 4 n
    else "\\U" ++ Text.hex 8 n

/-- What is there; otherwise a bad value. -/
def orBadValue : Option Text → Eval Text
  | some t => return t
  | none => crash .badValue

/-- A number in double precision. -/
def toFloat (v : Value) : Eval Float :=
  match (Number.ofValue? v).map Number.toFloat with
  | some (.ok x) => return x
  | some (.error c) => crash c
  | none => crash .wrongType

namespace Mark

/-- The integer part of a number. -/
def whole (v : Value) : Eval Int := do
  match Number.ofValue? v with
  | some (.int i) => return i
  | some (.float x) =>
    if x.isNaN then crash .badValue
    else if x.isInf then crash .overflow
    else return Decimal.truncated x
  | none => crash .wrongType

/-- A value as a mark of a kind writes it. -/
def written (s : Style) (kind : Char) (v : Value) : Eval Text := do
  match kind with
  | 's' => return s.text '>' (← shown v)
  | 'r' => return s.text '>' (← display v)
  | 'a' => return s.text '>' (ascii (← display v))
  | 'c' =>
    match v, integer? v with
    | .text [c], _ => return s.aligned '>' [] [c]
    | _, some i =>
      if i < 0 ∨ 0x110000 ≤ i then crash .overflow
      else return s.aligned '>' [] [Char.ofNat i.toNat]
    | _, none => crash .wrongType
  | 'd' | 'i' | 'u' => orBadValue (s.int? 'd' (← whole v))
  | 'o' | 'x' | 'X' =>
    match integer? v with
    | some i => orBadValue (s.int? kind i)
    | none => crash .wrongType
  | kind =>
    match floatForm? kind with
    | some (form, capital) => return s.float form capital (← toFloat v)
    | none => crash .badValue

/-- Whether a value can be asked for what a mark names. -/
def isSource : Value → Bool
  | .list _ | .dict _ | .range _ _ _ | .absent _ _ _ => true
  | _ => false

/-- A number below a limit in a mark, or the next of the values for a star: the number, the values
behind it, and the rest of the mark. -/
def amount (limit : Nat) (s : Text) (values : List Value) :
    Eval (Option Int × List Value × Text) := do
  match s, values with
  | '*' :: _, [] => crash .wrongType
  | '*' :: rest, v :: values =>
    match integer? v with
    | some n => if limit ≤ n.natAbs then crash .overflow else return (some n, values, rest)
    | none => crash .wrongType
  | s, values =>
    let (digits, rest) := s.span Text.isDigit
    let n := Text.digitsValue digits
    if limit ≤ n then crash .badValue
    else return (if digits.isEmpty then none else some n, values, rest)

/-- What stands before the bracket that closes a name, and what stands behind it. -/
def closed : Nat → Text → Option (Text × Text)
  | _, [] => none
  | depth, c :: s =>
    if c = ')' then
      if depth = 0 then some ([], s) else (closed (depth - 1) s).map fun (n, r) => (c :: n, r)
    else (closed (if c = '(' then depth + 1 else depth) s).map fun (n, r) => (c :: n, r)

/-- What a mark names in brackets, if it does, and the rest of the mark. -/
def named (source : Value) (s : Text) : Eval (Option Value × Text) := do
  match s with
  | '(' :: s =>
    if !isSource source then crash .wrongType
    else
      match closed 0 s with
      | none => crash .badValue
      | some (name, s) =>
        match ← item? source (.text name) with
        | some v => return (some v, s)
        | none => crash (match source with | .dict _ => .missingKey | _ => .wrongType)
  | s => return (none, s)

/-- The style that the flags, the width and the precision of a mark give to a kind. -/
def style (flags : Text) (width precision : Option Int) (kind : Char) : Style :=
  let left := flags.contains '-' || width.any (· < 0)
  let zero := flags.contains '0' && ("diuoxXeEfFgG" : Text).contains kind && !left
  { fill := if zero then '0' else ' '
    align := some (if left then '<' else if zero then '=' else '>')
    plus := if flags.contains '+' then ['+'] else if flags.contains ' ' then [' '] else []
    alternate := flags.contains '#'
    width := (width.getD 0).natAbs
    precision := precision.map Int.toNat }

/-- The rest of a mark behind the letter for the length of a number, which says nothing. -/
def withoutLength : Text → Text
  | c :: s => if ("hlL" : Text).contains c then s else c :: s
  | [] => []

/-- Fills in the marks of a text from `values`; `source` is asked for what a mark names. Values that
are left over are a fault, unless `source` can be asked. -/
def fillFrom (source : Value) : Nat → List Value → Text → Eval Text
  | 0, _, _ => crash .tooDeep
  | fuel + 1, values, s => do
    let plain := s.takeWhile (· ≠ '%')
    match s.dropWhile (· ≠ '%') with
    | [] =>
      if values.isEmpty || isSource source then return plain else crash .wrongType
    | _ :: '%' :: s => return plain ++ '%' :: (← fillFrom source fuel values s)
    | _ :: s => do
      let (name, s) ← named source s
      let (flags, s) := s.span fun c => ("-+ #0" : Text).contains c
      let (width, values, s) ← amount sizeLimit s (if name.isSome then name.toList else values)
      let (precision, values, s) ← (match s with
        | '.' :: s => do
          let (n, values, s) ← amount precisionLimit s values
          return (some (n.getD 0), values, s)
        | s => return (none, values, s) : Eval (Option Int × List Value × Text))
      match withoutLength s, values with
      | [], _ => crash .badValue
      | _ :: _, [] => crash .wrongType
      | kind :: s, v :: values =>
        enough ((width.getD 0).natAbs + (precision.getD 0).toNat)
        let t ← written (style flags width precision kind) kind v
        return plain ++ t ++ (← fillFrom source fuel (if name.isSome then [] else values) s)

end Mark

/-- Fills in the percent marks of a text: from the items of a tuple, or from one value. -/
def fill (s : Text) (v : Value) : Eval Text :=
  match v with
  | .tuple items => Mark.fillFrom .none (s.length + 1) items s
  | v => Mark.fillFrom v (s.length + 1) [v] s

end Stencil.Template.Format
