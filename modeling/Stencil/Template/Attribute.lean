import Stencil.Description.Basic
import Stencil.Template.Gather
import Stencil.Template.Sequence

/-!
# Parts of values

A part of a value is named by an attribute (`member`) or by a subscript (`subscript`). Both look
for attributes and for items, in this order and the other way round, so that `x.key` and `x["key"]`
differ only where a value has both. A part that is not there is absent.

The objects that describe a type have their fields as attributes, and some that are computed:
`decl_type` of a variable, and `methods`, `fields`, `is_interface` and `is_struct` of a description.
-/

namespace Stencil.Template

/-- The entry of a table under a name. -/
def named? {α : Type} (table : List (String × α)) (name : Text) : Option α :=
  (table.find? fun e => e.1.toList = name).map Prod.snd

/-- The methods of texts by name. -/
def textMethods : List (String × TextMethod) :=
  [("capitalize", .capitalize), ("casefold", .casefold), ("center", .center), ("count", .count),
    ("endswith", .endswith), ("expandtabs", .expandtabs), ("find", .find), ("format", .format),
    ("index", .index), ("isalnum", .isalnum), ("isalpha", .isalpha), ("isascii", .isascii),
    ("isdecimal", .isdecimal), ("isdigit", .isdigit), ("isidentifier", .isidentifier),
    ("islower", .islower), ("isnumeric", .isnumeric), ("isprintable", .isprintable),
    ("isspace", .isspace), ("istitle", .istitle), ("isupper", .isupper), ("join", .join),
    ("ljust", .ljust), ("lower", .lower), ("lstrip", .lstrip), ("partition", .partition),
    ("removeprefix", .removeStart), ("removesuffix", .removeEnd), ("replace", .replace),
    ("rfind", .rfind), ("rindex", .rindex), ("rjust", .rjust), ("rpartition", .rpartition),
    ("rsplit", .rsplit), ("rstrip", .rstrip), ("split", .split), ("splitlines", .splitlines),
    ("startswith", .startswith), ("strip", .strip), ("swapcase", .swapcase), ("title", .title),
    ("upper", .upper), ("zfill", .zfill)]

/-- The methods of lists by name. -/
def listMethods : List (String × ListMethod) :=
  [("append", .append), ("clear", .clear), ("copy", .copy), ("count", .count),
    ("extend", .extend), ("index", .index), ("insert", .insert), ("pop", .pop),
    ("remove", .remove), ("reverse", .reverse), ("sort", .sort)]

/-- The methods of tables by name. -/
def dictMethods : List (String × DictMethod) :=
  [("clear", .clear), ("copy", .copy), ("fromkeys", .fromKeys), ("get", .get), ("items", .items),
    ("keys", .keys), ("pop", .pop), ("popitem", .popitem), ("setdefault", .setdefault),
    ("update", .update), ("values", .values)]

/-- The type as a parameter list writes it, from the fields of a variable. -/
def declaredTypeOf (fields : Bindings) : Option Value :=
  match Bindings.find? fields "type", Bindings.find? fields "variadic" with
  | some (.record .goType type), some (.bool variadic) =>
    match Bindings.find? type "short_name" with
    | some (.text short) => some (.text (Description.declaredType variadic short))
    | _ => none
  | _, _ => none

/-- Whether a description has a shape of a kind. -/
def isShaped (kind : RecordKind) (fields : Bindings) : Bool :=
  match Bindings.find? fields "shape" with
  | some (.record k _) => k == kind
  | _ => false

/-- The list in the shape of a description, if that is of a kind; otherwise a new list. -/
def shapeList (kind : RecordKind) (name : Text) (fields : Bindings) : Eval Value :=
  match Bindings.find? fields "shape" with
  | some (.record k parts) =>
    match (if k = kind then Bindings.find? parts name else none) with
    | some v => return v
    | none => newList []
  | _ => newList []

/-- The attribute of a description that is no field of it. -/
def descriptionAttribute? (fields : Bindings) (name : Text) : Eval (Option Value) := do
  if name = "methods" then return some (← shapeList .interfaceShape "methods" fields)
  else if name = "fields" then return some (← shapeList .structShape "fields" fields)
  else if name = "is_interface" then return some (.bool (isShaped .interfaceShape fields))
  else if name = "is_struct" then return some (.bool (isShaped .structShape fields))
  else if name = "template_context" then
    return some (.method (.record .description fields) .context)
  else return none

/-- The round next to the current one, if there is one. -/
def neighbour (which : Text) (v : Option Value) : Value :=
  v.getD (.absent false ("there is no " ++ which ++ " item") none)

/-- An attribute of a loop, in its current round. -/
def loopAttribute? (p : Place) (name : Text) : Eval (Option Value) := do
  let l ← loopAt p
  if name = "index" then return some (.int l.index)
  else if name = "index0" then return some (.int (l.index - 1))
  else if name = "revindex" then return some (.int ((← Loop.length p) - (l.index - 1)))
  else if name = "revindex0" then return some (.int ((← Loop.length p) - l.index))
  else if name = "first" then return some (.bool (l.index = 1))
  else if name = "last" then return some (.bool (← Loop.peek p).isNone)
  else if name = "length" then return some (.int (← Loop.length p))
  else if name = "previtem" then return some (neighbour "previous" l.before)
  else if name = "nextitem" then return some (neighbour "next" (← Loop.peek p))
  else if name = "depth" then return some (.int 1)
  else if name = "depth0" then return some (.int 0)
  else if name = "cycle" then return some (.method (.loop p) .cycle)
  else if name = "changed" then return some (.method (.loop p) .changed)
  else return none

/-- Whether the body of a routine reads a name that the routine has besides its parameters. -/
def readsSpare (params : List Text) (body : List Node) (name : Text) : Bool :=
  Node.takes body name && !params.contains name

/-- An attribute of a routine. -/
def routineAttribute? (routine : Text) (params : List Text) (body : List Node) (name : Text) :
    Option Value :=
  if name = "name" then some (.text routine)
  else if name = "arguments" then some (.tuple (params.map .text))
  else if name = "catch_kwargs" then some (.bool (readsSpare params body "kwargs"))
  else if name = "catch_varargs" then some (.bool (readsSpare params body "varargs"))
  else if name = "caller" then some (.bool (Node.takes body "caller"))
  else if name = "explicit_caller" then some (.bool (params.contains "caller"))
  else none

/-- An attribute of a tuple or a range: its methods. -/
def rowAttribute? (v : Value) (name : Text) : Option Value :=
  if name = "count" then some (.method v .count)
  else if name = "index" then some (.method v .index)
  else none

/-- An attribute of an integer. -/
def intAttribute? (i : Int) (name : Text) : Option Value :=
  if name = "real" ∨ name = "numerator" then some (.int i)
  else if name = "imag" then some (.int 0)
  else if name = "denominator" then some (.int 1)
  else none

/-- An attribute of a value. -/
def attribute? (v : Value) (name : Text) : Eval (Option Value) := do
  match v with
  | .absent _ missing key => refuse missing key
  | .text _ => return (named? textMethods name).map fun m => .method v (.text m)
  | .list _ => return (named? listMethods name).map fun m => .method v (.list m)
  | .dict _ => return (named? dictMethods name).map fun m => .method v (.dict m)
  | .record kind fields =>
    match Bindings.find? fields name with
    | some w => return some w
    | none =>
      match kind with
      | .description => descriptionAttribute? fields name
      | .var => return if name = "decl_type" then declaredTypeOf fields else none
      | _ => return none
  | .loop p => loopAttribute? p name
  | .routine n params body _ => return routineAttribute? n (params.map Prod.fst) body name
  | .int i => return intAttribute? i name
  | .bool b => return intAttribute? (if b then 1 else 0) name
  | .float x =>
    return if name = "real" then some (.float x) else if name = "imag" then some (.float 0.0)
      else none
  | .range start stop step =>
    return if name = "start" then some (.int start) else if name = "stop" then some (.int stop)
      else if name = "step" then some (.int step) else rowAttribute? v name
  | .tuple _ => return rowAttribute? v name
  | _ => return none

/-- The item of a row at a position, if `key` is one. -/
def itemAt? (items : List Value) (key : Value) : Option Value :=
  (integer? key).bind (nth? items)

/-- An item of a value. A key that a table cannot have is not there. -/
def item? (v key : Value) : Eval (Option Value) := do
  match v with
  | .absent _ missing key => refuse missing key
  | .text s => return ((integer? key).bind (nth? s)).map fun c => .text [c]
  | .tuple items => return itemAt? items key
  | .list p => return itemAt? (← itemsAt p) key
  | .range start stop step =>
    return (integer? key).bind fun i =>
      (position? (rangeLength start stop step) i).map fun n => .int (start + n * step)
  | .dict p =>
    match ← attempt (hashable key) with
    | .error (.crash _) => return none
    | _ => find? key (← entriesAt p)
  | _ => return none

/-- What is absent when a value does not have a part. -/
def lacking (v key : Value) : Eval Value := do
  let type ← look (typeName · v)
  match key with
  | .text name =>
    return .absent false (Display.text type ++ " has no attribute " ++ Display.text name) none
  | _ => return .absent false (type ++ " has no element ") (some key)

/-- The part of a value that an attribute names. -/
def member (v : Value) (name : Text) : Eval Value := do
  match ← attribute? v name with
  | some w => return w
  | none =>
    match ← item? v (.text name) with
    | some w => return w
    | none => lacking v (.text name)

/-- The part of a value that a subscript names. -/
def subscript (v key : Value) : Eval Value := do
  match ← item? v key with
  | some w => return w
  | none =>
    match key with
    | .text name =>
      match ← attribute? v name with
      | some w => return w
      | none => lacking v key
    | _ => lacking v key

end Stencil.Template
