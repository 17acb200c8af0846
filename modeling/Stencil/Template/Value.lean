import Stencil.Crash
import Stencil.Literal.Display
import Stencil.Pairs
import Stencil.Template.Tree

/-!
# Values of templates

Lists and tables can be changed by a template, so a value names their place in a store (`Store`) and
the store holds what is there. So it is with what a loop goes through: how far a loop or a stream
has come is in the store (`Source`, `Stream`, `Loop`), and the list that it goes through may change
under way.

A computation (`Eval`) changes the store and may fail; the store keeps what was changed before a
failure. What a stream or a loop with a condition gives next is found only when it is asked for
(`Request`), by what the computation is given for that (`Resume`).

A name that stands for nothing gives the value `absent` (`Value.unset`), which can be asked about but
not used; it says what is missing. The names of a block that has routines of its own are in the store
as well, since a routine sees what is set behind its definition.
-/

namespace Stencil

/-- The functions that a template can be given. -/
inductive Helper where
  /-- Writes a text as a literal of the generated language. -/
  | quote
  /-- Writes a text in capital letters. -/
  | shout
  deriving DecidableEq, Repr

/-- The classes of the objects that describe a type. -/
inductive RecordKind where
  | package | goType | var | field | method | interfaceShape | structShape | description
  deriving DecidableEq, Repr

/-- The methods of texts. -/
inductive TextMethod where
  | capitalize | casefold | center | count | endswith | expandtabs | find | format | index
  | isalnum | isalpha | isascii | isdecimal | isdigit | isidentifier | islower | isnumeric
  | isprintable | isspace | istitle | isupper | join | ljust | lower | lstrip | partition
  | removeStart | removeEnd | replace | rfind | rindex | rjust | rpartition | rsplit | rstrip
  | split | splitlines | startswith | strip | swapcase | title | upper | zfill
  deriving DecidableEq, Repr

/-- The methods of lists. -/
inductive ListMethod where
  | append | clear | copy | count | extend | index | insert | pop | remove | reverse | sort
  deriving DecidableEq, Repr

/-- The methods of tables. -/
inductive DictMethod where
  | clear | copy | fromKeys | get | items | keys | pop | popitem | setdefault | update | values
  deriving DecidableEq, Repr

/-- The methods of a value. -/
inductive Method where
  | text (m : TextMethod)
  | list (m : ListMethod)
  | dict (m : DictMethod)
  /-- How often a value is in a tuple or a range. -/
  | count
  /-- Where a value is in a tuple or a range. -/
  | index
  /-- The names that a description gives to a template. -/
  | context
  /-- One of the arguments, by the number of the round. -/
  | cycle
  /-- Whether the arguments differ from those of the call before. -/
  | changed
  deriving DecidableEq, Repr

/-- The functions that every template has. -/
inductive Builtin where
  | range | dict
  deriving DecidableEq, Repr

/-- The parts of a table that can be looked at. -/
inductive DictPart where
  | keys | values | items
  deriving DecidableEq, Repr

/-- The place of a list, a table, a stream or a loop in the store. -/
abbrev Place := Nat

/-- A value of a template. -/
inductive Value where
  | none
  | bool (b : Bool)
  | int (i : Int)
  | float (x : Float)
  | text (s : Text)
  | tuple (items : List Value)
  | list (place : Place)
  | dict (place : Place)
  /-- Values that can be gone through once. -/
  | stream (place : Place)
  | view (part : DictPart) (place : Place)
  | range (start stop step : Int)
  | record (kind : RecordKind) (fields : List (Text × Value))
  /-- A method of a value. -/
  | method (self : Value) (m : Method)
  | helper (h : Helper)
  | builtin (b : Builtin)
  /-- A routine of the template, with the place of the names of the block in which it is defined. -/
  | routine (name : Text) (params : List (Text × Option Expr)) (body : List Node)
      (around : Option Place)
  /-- A loop, as its body sees it. -/
  | loop (place : Place)
  /-- Nothing; shown as an empty text when `lenient`. What is missing may be an element with a
  key. -/
  | absent (lenient : Bool) (missing : Text) (key : Option Value)
  deriving Inhabited

/-- What a name stands for that is not set. -/
def Value.unset (name : Text) : Value :=
  .absent false (Display.text name ++ " is undefined") Option.none

namespace Template

/-- Why a template cannot be rendered. -/
inductive Fault where
  | malformed
  /-- A filter or a test without a meaning, found before rendering. -/
  | unknown (what name : Text)
  /-- An assignment to the round of a loop. -/
  | loopAssigned
  /-- The use of what is absent. -/
  | absent (missing : Text)
  /-- A filter or a test without a meaning in a part that is rendered. -/
  | unknownUsed (what name : Text)
  /-- A filter or a test without a meaning, given to a filter; `shown` shows the value that should
  name it. -/
  | unknownGiven (what shown : Text)
  /-- An argument that a filter does not take. -/
  | badArgument (reason : Text)
  deriving DecidableEq, Repr

/-- The wording of a fault. -/
def Fault.message : Fault → Text
  | .malformed => "malformed template"
  | .unknown what name => "No " ++ what ++ " named " ++ Display.text name ++ "."
  | .loopAssigned => "Can't assign to special loop variable in for-loop"
  | .absent missing => missing
  | .unknownUsed what name => "No " ++ what ++ " named " ++ Display.text name ++ " found."
  | .unknownGiven what shown => "No " ++ what ++ " named " ++ shown ++ "."
  | .badArgument reason => reason

/-- What ends a rendering: a fault of the template, or a crash without a message. -/
inductive Stop where
  | fault (f : Fault)
  | crash (c : Crash)
  deriving DecidableEq, Repr

/-- Names and the values they stand for, the latest first. -/
abbrev Bindings := List (Text × Value)

/-- The value that a name stands for. -/
def Bindings.find? (names : Bindings) (n : Text) : Option Value := names.lookup n

/-- The names that are set. -/
structure Scope where
  /-- Those set at the top level. -/
  top : Bindings
  /-- Those set in the blocks around, when there is one. -/
  own : Option Bindings
  /-- Where the names of the innermost block are for the routines in it, when it has some. -/
  shared : Option Place
  /-- The text of the block that a filter takes. -/
  collected : Text
  deriving Inhabited

/-- The arguments of a call. -/
structure Args where
  positional : List Value
  named : Bindings
  deriving Inhabited

/-! ## The store -/

/-- What is still to come of something that a loop goes through. -/
inductive Source where
  | values (rest : List Value)
  /-- Integers, `count` of them. -/
  | counting (first step : Int) (count : Nat)
  /-- The items of the list at a place from a position on. -/
  | list (p : Place) (i : Nat)
  /-- The items of the list at a place before a position, the last one first. -/
  | listBack (p : Place) (i : Nat)
  /-- The entries of the table at a place from a position on, `left` of them. The table has to keep
  its size. -/
  | entries (part : DictPart) (p : Place) (size i left : Nat)
  /-- The entries of the table at a place before a position, the last one first. -/
  | entriesBack (part : DictPart) (p : Place) (size i : Nat)
  | stream (p : Place)
  | loop (p : Place)
  deriving Inhabited

/-- What a stream makes of the items of a value. -/
inductive Making where
  /-- A part of each item, or what a filter makes of it. -/
  | map
  /-- The items that have a property, or those that do not; the property may be of one part of each
  item. -/
  | select (keep byPart : Bool)
  deriving DecidableEq, Repr

/-- How far a stream has come. -/
inductive Stream where
  | over (source : Source)
  /-- Nothing has been asked of it. -/
  | waiting (making : Making) (a : Args) (v : Value)
  | going (making : Making) (a : Args) (source : Source)
  /-- The next item is being made. -/
  | running
  deriving Inhabited

/-- The condition of a loop, in the scope around it: a value is taken if `test` holds of the names
that it gives to `target`. -/
structure Gate where
  target : Target
  test : Expr
  around : Scope
  deriving Inhabited

/-- How far a loop has come. -/
structure Loop where
  /-- What the loop goes through. -/
  items : Value
  source : Source
  gate : Option Gate
  /-- The condition is being tested. -/
  busy : Bool
  /-- The number of rounds that have begun. -/
  index : Nat
  /-- The value of the round before the current one. -/
  before : Option Value
  current : Option Value
  /-- The value of the next round, if that has been asked for. -/
  after : Option Value
  /-- The number of all rounds, if that has been asked for. -/
  total : Option Nat
  /-- The values that were last asked about for a change. -/
  noted : Option (List Value)
  deriving Inhabited

/-- What the store holds at a place. -/
inductive Object where
  | list (items : List Value)
  /-- The entries in the order in which they came; nothing is left where one was removed. -/
  | dict (slots : List (Option (Value × Value)))
  /-- Values that are made one by one; `type` names the kind of stream. -/
  | stream (type : Text) (state : Stream)
  | loop (l : Loop)
  /-- The names of a block, for the routines that are defined in it. -/
  | names (names : Bindings)
  deriving Inhabited

/-- The number of things in a list or a table. -/
def Object.size : Object → Nat
  | .list items => items.length
  | .dict slots => slots.length
  | _ => 0

/-- The lists, tables, streams and loops, and the names of blocks, by place. -/
abbrev Store := List Object

namespace Store

/-- The object at a place. -/
def object (store : Store) (p : Place) : Object := store[p]?.getD (.list [])

/-- The items of the list at a place. -/
def items (store : Store) (p : Place) : List Value :=
  match store.object p with
  | .list items => items
  | _ => []

/-- The entries of the table at a place and what is left of the removed ones. -/
def slots (store : Store) (p : Place) : List (Option (Value × Value)) :=
  match store.object p with
  | .dict slots => slots
  | _ => []

/-- The entries of the table at a place. -/
def entries (store : Store) (p : Place) : List (Value × Value) := (store.slots p).reduceOption

/-- How far the loop at a place has come. -/
def loop (store : Store) (p : Place) : Loop :=
  match store.object p with
  | .loop l => l
  | _ => default

/-- The names of the block at a place. -/
def names (store : Store) (p : Place) : Bindings :=
  match store.object p with
  | .names names => names
  | _ => []

/-- The number of things in the lists and tables. -/
def size : Store → Nat
  | [] => 0
  | o :: rest => o.size + size rest

end Store

/-! ## Computations -/

/-- What is asked of something that goes on only when it is asked. -/
inductive Request where
  /-- The next item of a stream. -/
  | item (stream : Place)
  /-- The next value that a loop with a condition takes. -/
  | value (loop : Place)
  /-- The next round of a loop. -/
  | round (loop : Place)
  deriving DecidableEq, Repr

/-- What answers requests. -/
abbrev Resume := Request → ExceptT Stop (StateM Store) (Option Value)

/-- A computation that changes the store and may fail; what it changed before a failure stays. -/
abbrev Eval := ReaderT Resume (ExceptT Stop (StateM Store))

/-- The sizes of texts and lists lie below this number. -/
def sizeLimit : Nat := 0x8000000000000000

/-- Counts of digits lie below this number. -/
def precisionLimit : Nat := 0x7fffffff

/-- The greatest size of a text or list for which there is room. -/
def room : Nat := 100000000

/-- The frames that the host has for calls inside one another: they bound how deep a template is
nested, how deep values are that can be shown and compared, and how streams go through streams. -/
def frames : Nat := 980

section

variable {m : Type → Type} [MonadExcept Stop m] {α : Type}

/-- Fails with a fault of the template. -/
def fault (f : Fault) : m α := throw (.fault f)

/-- Fails without a message. -/
def crash (c : Crash) : m α := throw (.crash c)

/-- Fails unless there is room for a text or a list of a size. -/
def enough [Pure m] (size : Nat) : m Unit := if room < size then crash .noRoom else pure ()

end

/-- What a request gives. -/
def ask (q : Request) : Eval (Option Value) := fun resume => resume q

/-- What is seen in the store. -/
def look {α : Type} (f : Store → α) : Eval α := fun _ store => (.ok (f store), store)

/-- Puts an object into a new place. -/
def allocate (o : Object) : Eval Place := fun _ store => (.ok store.length, store ++ [o])

/-- Changes the object at a place. -/
def write (p : Place) (o : Object) : Eval Unit := fun _ store => (.ok (), store.set p o)

/-- Puts a list into a new place. -/
def newList (items : List Value) : Eval Value := Value.list <$> allocate (.list items)

/-- Puts a table into a new place. -/
def newDict (entries : List (Value × Value)) : Eval Value :=
  Value.dict <$> allocate (.dict (entries.map some))

/-- Puts a stream into a new place. -/
def newStream (type : Text) (state : Stream) : Eval Value :=
  Value.stream <$> allocate (.stream type state)

/-- The items of the list at a place. -/
def itemsAt (p : Place) : Eval (List Value) := look (·.items p)

/-- The entries of the table at a place and what is left of the removed ones. -/
def slotsAt (p : Place) : Eval (List (Option (Value × Value))) := look (·.slots p)

/-- The entries of the table at a place. -/
def entriesAt (p : Place) : Eval (List (Value × Value)) := look (·.entries p)

/-- How far the loop at a place has come. -/
def loopAt (p : Place) : Eval Loop := look (·.loop p)

/-- Changes how far the loop at a place has come. -/
def changeLoop (p : Place) (f : Loop → Loop) : Eval Unit := do
  write p (.loop (f (← loopAt p)))

/-- The outcome of a computation that may fail, as a value. -/
def attempt {α : Type} (e : Eval α) : Eval (Except Stop α) := fun resume store =>
  match e resume store with
  | (r, store') => (.ok r, store')

end Template

end Stencil
