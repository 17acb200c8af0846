import Stencil.Decimal.Number
import Stencil.Template.Loop

/-!
# How values are shown

A template prints the text of a value (`shown`): a text as it is, a type by its name, anything else
as `display` gives it. `display` quotes texts and writes the parts of a value in brackets; a list or
a table that contains itself is written as dots where it comes again. A loop is shown with the
number of its rounds, which may have to be found out for that. `typeName` is the kind of a value as
messages name it, and `refuse` says what is missing where something absent is used.
-/

namespace Stencil.Template

/-- The name of a class of objects. -/
def recordName : RecordKind → Text
  | .package => "Package"
  | .goType => "GoType"
  | .var => "Var"
  | .field => "Field"
  | .method => "Method"
  | .interfaceShape => "InterfaceShape"
  | .structShape => "StructShape"
  | .description => "Description"

/-- The name of a part of a table. -/
def partName : DictPart → Text
  | .keys => "dict_keys"
  | .values => "dict_values"
  | .items => "dict_items"

/-- The kind of a value as messages name it. -/
def typeName (store : Store) : Value → Text
  | .none => "None"
  | .bool _ => "bool object"
  | .int _ => "int object"
  | .float _ => "float object"
  | .text _ => "str object"
  | .tuple _ => "tuple object"
  | .list _ => "list object"
  | .dict _ => "dict object"
  | .stream p =>
    match store.object p with
    | .stream type _ => type ++ " object"
    | _ => "generator object"
  | .view part _ => partName part ++ " object"
  | .range _ _ _ => "range object"
  | .record kind _ => "gogen.description." ++ recordName kind ++ " object"
  | .method _ .context => "method object"
  | .method _ .cycle | .method _ .changed => "method object"
  | .method _ _ => "builtin_function_or_method object"
  | .helper .quote => "function object"
  | .helper .shout => "method_descriptor object"
  | .builtin _ => "type object"
  | .routine _ _ _ _ => "jinja2.runtime.Macro object"
  | .loop _ => "jinja2.runtime.LoopContext object"
  | .absent _ _ _ => "Undefined"

/-- The text of an integer. One of more than 4300 digits is not written. -/
def shownInt (i : Int) : Eval Text :=
  if Decimal.pow10 4300 ≤ i.natAbs then crash .badValue else return Text.ofInt i

/-- A range as messages show it. -/
def shownRange (start stop step : Int) : Eval Text := do
  let bounds := "range(" ++ (← shownInt start) ++ ", " ++ (← shownInt stop)
  if step = 1 then return bounds ++ ")"
  else return bounds ++ ", " ++ (← shownInt step) ++ ")"

mutual

/-- A value as messages show it; `inner` shows what is at a place, or a part of the table there. -/
def displayWith (inner : Option DictPart → Place → Eval Text) : Value → Eval Text
  | .none => return "None"
  | .bool true => return "True"
  | .bool false => return "False"
  | .int i => shownInt i
  | .float x => return Decimal.text x
  | .text s => return Display.text s
  | .tuple [v] => return "(" ++ (← displayWith inner v) ++ ",)"
  | .tuple items => return "(" ++ Text.joined ", " (← displayAll inner items) ++ ")"
  | .list p => inner none p
  | .dict p => inner none p
  | .stream p => inner none p
  | .loop p => inner none p
  | .view part p => inner (some part) p
  | .range start stop step => shownRange start stop step
  | .record kind fields =>
    return recordName kind ++ "(" ++ Text.joined ", " (← displayFields inner fields) ++ ")"
  | .method self .context =>
    return "<bound method Description.template_context of " ++ (← displayWith inner self) ++ ">"
  | .method self .cycle =>
    return "<bound method LoopContext.cycle of " ++ (← displayWith inner self) ++ ">"
  | .method self .changed =>
    return "<bound method LoopContext.changed of " ++ (← displayWith inner self) ++ ">"
  | .method _ _ => return "<built-in method>"
  | .helper .quote => return "<function go_quote>"
  | .helper .shout => return "<method \x27upper\x27 of \x27str\x27 objects>"
  | .builtin .range => return "<class \x27range\x27>"
  | .builtin .dict => return "<class \x27dict\x27>"
  | .routine name _ _ _ => return "<Macro " ++ Display.text name ++ ">"
  | .absent _ _ _ => return "Undefined"

/-- Values as messages show them. -/
def displayAll (inner : Option DictPart → Place → Eval Text) : List Value → Eval (List Text)
  | [] => return []
  | v :: rest => return (← displayWith inner v) :: (← displayAll inner rest)

/-- Named values as messages show them. -/
def displayFields (inner : Option DictPart → Place → Eval Text) :
    List (Text × Value) → Eval (List Text)
  | [] => return []
  | (n, v) :: rest =>
    return (n ++ "=" ++ (← displayWith inner v)) :: (← displayFields inner rest)

end

/-- An entry of a table as messages show it, with `between` after the key. -/
def displayEntry (inner : Option DictPart → Place → Eval Text) (between : Text)
    (entry : Value × Value) : Eval Text :=
  return (← displayWith inner entry.1) ++ between ++ (← displayWith inner entry.2)

/-- What is at a place as messages show it. A list or a table among the `seen` ones is being shown
already. The fuel bounds how deep lists and tables are nested. -/
def displayAt : Nat → List Place → Option DictPart → Place → Eval Text
  | 0, _, _, _ => crash .tooDeep
  | fuel + 1, seen, part, p => do
    match ← look (·.object p), part with
    | .list items, _ =>
      if seen.contains p then return "[...]"
      else
        let shown ← displayAll (displayAt fuel (p :: seen)) items
        return "[" ++ Text.joined ", " shown ++ "]"
    | .dict slots, none =>
      if seen.contains p then return "\x7b...\x7d"
      else
        let shown ← slots.reduceOption.mapM (displayEntry (displayAt fuel (p :: seen)) ": ")
        return "\x7b" ++ Text.joined ", " shown ++ "\x7d"
    | .dict slots, some .keys =>
      let shown ← displayAll (displayAt fuel seen) (slots.reduceOption.map Prod.fst)
      return "dict_keys([" ++ Text.joined ", " shown ++ "])"
    | .dict slots, some .values =>
      let shown ← displayAll (displayAt fuel seen) (slots.reduceOption.map Prod.snd)
      return "dict_values([" ++ Text.joined ", " shown ++ "])"
    | .dict slots, some .items =>
      let shown ← slots.reduceOption.mapM (displayEntry (displayAt fuel seen) ", ")
      return "dict_items([" ++ Text.joined ", " (shown.map fun s => "(" ++ s ++ ")") ++ "])"
    | .stream type _, _ => return "<" ++ type ++ " object>"
    | .names _, _ => return []
    | .loop l, _ =>
      return "<LoopContext " ++ Text.ofNat l.index ++ "/" ++ Text.ofNat (← Loop.length p) ++ ">"

/-- A value as messages show it. -/
def display (v : Value) : Eval Text := displayWith (displayAt frames []) v

/-- Refuses what is absent, and says what is missing. -/
def refuse {α : Type} (missing : Text) (key : Option Value) : Eval α := do
  match key with
  | none => fault (.absent missing)
  | some key => fault (.absent (missing ++ (← display key)))

/-- The text of a value. -/
def shown : Value → Eval Text
  | .text s => return s
  | .absent true _ _ => return []
  | .absent false missing key => refuse missing key
  | .record .goType fields =>
    match Bindings.find? fields "name" with
    | some (.text name) => return name
    | _ => display (.record .goType fields)
  | v => display v

end Stencil.Template
