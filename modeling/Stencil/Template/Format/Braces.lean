import Stencil.Template.Format.Percent
import Stencil.Text.Letter

/-!
# Fields in braces

`fillBraces` puts arguments into a text in the place of its fields. A field gives a number or a name
of an argument, or takes the next one, and then the way to a part of it; behind an exclamation mark
it says as which text the part is written, and behind a colon in which style. A style may have
fields of its own, but not these again. Two braces are one.
-/

namespace Stencil.Template.Format

/-! ## Styles of fields -/

/-- The style that a field asks for, with what counts only for some values: the sign that was given
and the kind. -/
structure FieldStyle where
  style : Style
  sign : Option Char
  kind : Option Char

namespace FieldStyle

/-- Whether a character aligns. -/
def isAlign (c : Char) : Bool := ("<>=^" : Text).contains c

/-- The filling and the alignment at the beginning of a style, and the rest. -/
def aligning : Text → Option Char × Option Char × Text
  | c :: a :: rest =>
    if isAlign a then (some c, some a, rest)
    else if isAlign c then (none, some c, a :: rest)
    else (none, none, c :: a :: rest)
  | [c] => if isAlign c then (none, some c, []) else (none, none, [c])
  | [] => (none, none, [])

/-- The character at the beginning if it is one of some, and the rest behind it. -/
def oneOf (chars : Text) : Text → Option Char × Text
  | c :: s => if chars.contains c then (some c, s) else (none, c :: s)
  | [] => (none, [])

/-- The number at the beginning, if there is one, and the rest. -/
def number (s : Text) : Option Nat × Text :=
  let (digits, rest) := s.span Text.isDecimal
  (if digits.isEmpty then none else some (Text.decimalValue digits), rest)

/-- The style that a text asks for. The zeros of a number that begins with one go behind its sign;
other values are filled up with them. -/
def read? (numeric : Bool) (s : Text) : Option FieldStyle :=
  let (fill, align, s) := aligning s
  let (sign, s) := oneOf "+- " s
  let (unsignedZero, s) := oneOf "z" s
  let (alternate, s) := oneOf "#" s
  let (zero, s) := if fill.isNone then oneOf "0" s else (none, s)
  let (width, s) := number s
  let (group, s) := oneOf ",_" s
  let (point, s) := oneOf "." s
  let (precision, s) := if point.isSome then number s else (none, s)
  let style : Style :=
    { fill := (fill.or zero).getD ' '
      align := align.or (if numeric && zero.isSome then some '=' else none)
      plus := if sign = some '-' then [] else sign.toList
      unsignedZero := unsignedZero.isSome
      alternate := alternate.isSome
      width := width.getD 0
      group
      precision }
  if point.isSome ∧ precision.isNone then none
  else if sizeLimit ≤ style.width ∨ precisionLimit ≤ precision.getD 0 then none
  else
    match s with
    | [] => some ⟨style, sign, none⟩
    | [c] => some ⟨style, sign, some c⟩
    | _ => none

/-- A number of double precision in the style of a field. -/
def float? (s : FieldStyle) (x : Float) : Option Text :=
  match s.kind with
  | none => some (s.style.float .plain false x)
  | some '%' => some (s.style.float .percent false x)
  | some 'n' => if s.style.group.isNone then some (s.style.float .general false x) else none
  | some c => (floatForm? c).map fun (form, capital) => s.style.float form capital x

/-- An integer in the style of a field. -/
def int? (s : FieldStyle) (i : Int) : Option Text :=
  let kind := s.kind.getD 'd'
  if s.style.precision.isSome ∨ s.style.unsignedZero then none
  else if kind = 'd' then s.style.int? 'd' i
  else if kind = 'n' then if s.style.group.isNone then s.style.int? 'd' i else none
  else if s.style.group = some ',' then none
  else s.style.int? kind i

/-- Whether the style suits the character of an integer. -/
def suitsChar (s : FieldStyle) : Bool :=
  s.style.precision.isNone && !s.style.unsignedZero && s.style.group.isNone
    && !s.style.alternate && s.sign.isNone

/-- A text in the style of a field. -/
def text? (s : FieldStyle) (t : Text) : Option Text :=
  if s.kind.all (· = 's') ∧ s.style.group.isNone ∧ s.sign.isNone ∧ ¬ s.style.alternate
      ∧ ¬ s.style.unsignedZero ∧ s.style.align ≠ some '=' then
    some (s.style.text '<' t)
  else none

end FieldStyle

/-- A style that is there and needs no more room than there is. -/
def usable : Option FieldStyle → Eval FieldStyle
  | none => crash .badValue
  | some s => do
    enough (s.style.width + s.style.precision.getD 0)
    return s

/-- An integer as a field with a style writes it. -/
def writtenInt (s : FieldStyle) (i : Int) : Eval Text := do
  if s.kind = some 'c' then
    if !s.suitsChar then crash .badValue
    else if i < 0 ∨ 0x110000 ≤ i then crash .overflow
    else return s.style.aligned '>' [] [Char.ofNat i.toNat]
  else if s.kind.any fun c => c = '%' || (floatForm? c).isSome then
    orBadValue (s.float? (← toFloat (.int i)))
  else orBadValue (s.int? i)

/-- A value as a field with a style writes it. -/
def written (style : Text) (v : Value) : Eval Text := do
  if style.isEmpty then shown v
  else
    match v with
    | .text t => orBadValue ((← usable (FieldStyle.read? false style)).text? t)
    | .bool b => writtenInt (← usable (FieldStyle.read? true style)) (if b then 1 else 0)
    | .int i => writtenInt (← usable (FieldStyle.read? true style)) i
    | .float x => orBadValue ((← usable (FieldStyle.read? true style)).float? x)
    | _ => crash .wrongType

/-! ## Fields -/

/-- A field as it is written: the way to a value, the kind of text that it is written as, and the
style. -/
structure Field where
  path : Text
  conversion : Option Char
  style : Text

namespace Field

/-- What stands before the brace that closes a style, and what stands behind it. -/
def styleEnd? : Nat → Text → Option (Text × Text)
  | _, [] => none
  | depth, c :: s =>
    if c = '\x7d' then
      if depth = 0 then some ([], s) else (styleEnd? (depth - 1) s).map fun (f, r) => (c :: f, r)
    else (styleEnd? (if c = '\x7b' then depth + 1 else depth) s).map fun (f, r) => (c :: f, r)

/-- The way to a value at the beginning of a field, and the rest: it ends at a colon, an exclamation
mark or a brace, unless `inside` a subscript. -/
def pathEnd? : Bool → Text → Option (Text × Text)
  | _, [] => none
  | true, c :: s => (pathEnd? (c ≠ ']') s).map fun (p, r) => (c :: p, r)
  | false, c :: s =>
    if c = '\x7b' then none
    else if c = '\x7d' ∨ c = ':' ∨ c = '!' then some ([], c :: s)
    else (pathEnd? (c = '[') s).map fun (p, r) => (c :: p, r)

/-- The field behind an opening brace, and what stands behind the closing one. -/
def read? (s : Text) : Option (Field × Text) := do
  let (path, s) ← pathEnd? false s
  match s with
  | ':' :: s =>
    let (style, s) ← styleEnd? 0 s
    return (⟨path, none, style⟩, s)
  | '!' :: c :: '\x7d' :: s => return (⟨path, some c, []⟩, s)
  | '!' :: c :: ':' :: s =>
    let (style, s) ← styleEnd? 0 s
    return (⟨path, some c, style⟩, s)
  | '\x7d' :: s => return (⟨path, none, []⟩, s)
  | _ => none

/-- Whether a part of a path ends at a character. -/
def isEnd (c : Char) : Bool := c = '.' || c = '['

/-- The parts of a value that a path asks for, one after the other. -/
def parts : Nat → Text → Value → Eval Value
  | 0, _, _ => crash .tooDeep
  | fuel + 1, s, v => do
    match s with
    | [] => return v
    | '.' :: s =>
      let name := s.takeWhile fun c => !isEnd c
      if name.isEmpty then crash .badValue
      else
        match ← attribute? v name with
        | some w => parts fuel (s.dropWhile fun c => !isEnd c) w
        | none => crash .missingAttribute
    | '[' :: s =>
      let key := s.takeWhile (· ≠ ']')
      match key, s.dropWhile (· ≠ ']') with
      | [], _ | _, [] => crash .badValue
      | key, _ :: rest =>
        let index := key.all Text.isDecimal
        match ← item? v (if index then .int (Text.decimalValue key) else .text key) with
        | some w => parts fuel rest w
        | none =>
          crash (match v with
            | .dict _ => .missingKey
            | .list _ | .tuple _ | .text _ | .range _ _ _ => if index then .badIndex else .wrongType
            | _ => .wrongType)
    | _ => crash .badValue

/-- The value that a path leads to, and the number of the next field without a name: there is none
once a field has given a number itself. -/
def value (a : Args) (next : Option Nat) (path : Text) : Eval (Value × Option Nat) := do
  let first := path.takeWhile fun c => !isEnd c
  let rest := path.dropWhile fun c => !isEnd c
  let partsOf (v : Option Value) (c : Crash) : Eval Value :=
    match v with
    | some v => parts (rest.length + 1) rest v
    | none => crash c
  if first.isEmpty then
    match next with
    | some n => return (← partsOf a.positional[n]? .badIndex, some (n + 1))
    | none => crash .badValue
  else if first.all Text.isDecimal then
    if next.all (· = 0) then
      return (← partsOf a.positional[Text.decimalValue first]? .badIndex, none)
    else crash .badValue
  else return (← partsOf (a.named.lookup first) .missingKey, next)

/-- A value as the text that a field asks for. -/
def converted (kind : Option Char) (v : Value) : Eval Value := do
  match kind with
  | none => return v
  | some 's' => return .text (← shown v)
  | some 'r' => return .text (← display v)
  | some 'a' => return .text (ascii (← display v))
  | some _ => crash .badValue

end Field

/-- Fills in the fields of a text, of which the styles may have fields as `depth` allows. -/
def fillFields (a : Args) (depth : Nat) : Nat → Option Nat → Text → Eval (Text × Option Nat)
  | _, next, [] => return ([], next)
  | 0, _, _ => crash .tooDeep
  | fuel + 1, next, c :: s => do
    if c ≠ '\x7b' ∧ c ≠ '\x7d' then
      let (t, next) ← fillFields a depth fuel next s
      return (c :: t, next)
    else if s.head? = some c then
      let (t, next) ← fillFields a depth fuel next (s.drop 1)
      return (c :: t, next)
    else
      match (if c = '\x7b' then Field.read? s else none) with
      | none => crash .badValue
      | some (field, rest) =>
        let (v, next) ← Field.value a next field.path
        let v ← Field.converted field.conversion v
        let (style, next) ← (
          if field.style.contains '\x7b' then
            match depth with
            | 0 => crash .badValue
            | depth + 1 => fillFields a depth fuel next field.style
          else return (field.style, next) : Eval (Text × Option Nat))
        let t ← written style v
        let (more, next) ← fillFields a depth fuel next rest
        return (t ++ more, next)

/-- Fills in the fields of a text from arguments. -/
def fillBraces (s : Text) (a : Args) : Eval Value := do
  return .text (← fillFields a 1 (s.length + 1) (some 0) s).1

end Stencil.Template.Format
