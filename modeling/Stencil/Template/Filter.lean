import Stencil.Literal.GoString
import Stencil.Template.Containers
import Stencil.Template.Test

/-!
# Filters

A filter makes a new value of a value: `x | upper`. Filters have names (`Filter.named?`); the
helpers of a template are filters too. `map` and the selecting filters give streams, which look at
the value when they are asked for their first item (`Stream.next`).
-/

namespace Stencil.Template

/-- The name under which a template finds a helper. -/
def helperName : Helper → Text
  | .quote => "quote"
  | .shout => "shout"

/-- Calls a helper. -/
def callHelper (h : Helper) (a : Args) : Eval Value := do
  match h with
  | .quote =>
    let args ← require (a.fit? ["s"] 1)
    return .text (GoString.ofText (← shown (args.head?.join.getD .none)))
  | .shout =>
    let args ← positional 1 1 a
    return .text (Text.upper (← asText (args.head?.getD .none)))

/-- What filters make of values. -/
inductive Filter where
  | size | upper | lower | title | capitalize | trim | replace | default | join | string
  | sort | first | last | reverse | list | map
  /-- Keeps the items that have a property, or those that do not; the property may be of one part
  of each item. -/
  | select (keep byPart : Bool)
  | helper (h : Helper)
  deriving DecidableEq, Repr

namespace Filter

/-- The filters that every template has, by name. -/
def table : List (String × Filter) :=
  [("length", .size), ("count", .size), ("upper", .upper), ("lower", .lower),
    ("title", .title), ("capitalize", .capitalize), ("trim", .trim), ("replace", .replace),
    ("default", .default), ("d", .default), ("join", .join), ("string", .string), ("sort", .sort),
    ("first", .first), ("last", .last), ("reverse", .reverse), ("list", .list), ("map", .map),
    ("select", .select true false), ("reject", .select false false),
    ("selectattr", .select true true), ("rejectattr", .select false true)]

/-- The filter with a name: one of the helpers, or one that every template has. -/
def named? (helpers : List Helper) (name : Text) : Option Filter :=
  match helpers.find? fun h => helperName h = name with
  | some h => some (.helper h)
  | none => Template.named? table name

/-! ## Texts -/

/-- Whether a word may begin behind a character. -/
def isBreak (c : Char) : Bool := Text.isBlank c || c ∈ ['-', '(', '\x7b', '[', '<']

/-- The text with a capital at the beginning of each word, the rest of which is small. -/
def titled (s : Text) : Text :=
  (s.splitBy fun a b => isBreak a == isBreak b).flatMap fun
    | [] => []
    | c :: rest => Text.upperChar c ++ Text.lower rest

/-! ## Parts of items -/

/-- The key that a name in a path stands for: a number if all of it are digits. -/
def pathKey (name : Text) : Eval Value :=
  if isAll Text.isAnyDigit name then
    if name.all Text.isDecimal && name.length ≤ 4300 then return .int (Text.decimalValue name)
    else crash .badValue
  else return .text name

/-- The keys that a path to a part names, with points between them. -/
def pathKeys : Value → Eval (List Value)
  | .none => return []
  | .text s => (Text.splitOn ['.'] none s).mapM pathKey
  | v => return [v]

/-- The part of a value that keys lead to. What is absent on the way is `default`, if there is
one. -/
def follow (default : Option Value) (keys : List Value) (v : Value) : Eval Value :=
  keys.foldlM (fun v key => do
    match ← subscript v key, default with
    | .absent _ _ _, some d => return d
    | w, _ => return w) v

/-- The keys that the paths in a text lead along, with commas between the paths. -/
def sortPaths : Value → Eval (List (List Value))
  | .text s => (Text.splitOn [','] none s).mapM fun path => pathKeys (.text path)
  | path => do return [← pathKeys path]

/-- What an item is sorted by: the parts that keys lead to, texts without regard to case unless that
counts. -/
def sortKey (caseCounts : Bool) (paths : List (List Value)) (v : Value) : Eval Value := do
  let parts ← paths.mapM fun keys => do
    match ← follow none keys v with
    | .text s => return .text (if caseCounts then s else Text.lower s)
    | w => return w
  return .tuple parts

/-- The filter or the test that a value names. -/
def givenName {α : Type} (what : Text) (find : Text → Option α) (name : Value) : Eval α := do
  hashable name
  let found := match name with
    | .text n => find n
    | _ => none
  match found with
  | some a => return a
  | none => fault (.unknownGiven what (← display name))

/-! ## From the end -/

/-- What a loop over a value goes through from the end. -/
def backwards : Value → Eval Source
  | .text s => return .values (s.reverse.map fun c => .text [c])
  | .tuple items => return .values items.reverse
  | .list p => do return .listBack p (← itemsAt p).length
  | .dict p => do return .entriesBack .keys p (← entriesAt p).length (← slotsAt p).length
  | .view part p => do return .entriesBack part p (← entriesAt p).length (← slotsAt p).length
  | .range start stop step =>
    let n := rangeLength start stop step
    return .counting (start + (n - 1) * step) (-step) n
  | .absent true _ _ => return .done
  | .absent false missing key => refuse missing key
  | _ => crash .wrongType

/-- The kind of stream that a value gives from the end. -/
def backwardsName : Value → Text
  | .list _ => "list_reverseiterator"
  | .dict _ | .view .keys _ => "dict_reversekeyiterator"
  | .view .values _ => "dict_reversevalueiterator"
  | .view .items _ => "dict_reverseitemiterator"
  | .range _ _ _ => "range_iterator"
  | _ => "reversed"

/-- The items of a value from the last one on: a new list where they cannot be gone through from the
end. -/
def reversed (v : Value) : Eval Value := do
  match v with
  | .text s => return .text s.reverse
  | v =>
    match ← attempt (backwards v) with
    | .ok source => newStream (backwardsName v) (.over source)
    | .error (.crash _) =>
      match ← attempt (iterate v) with
      | .ok items => newList items.reverse
      | .error (.crash .wrongType) => fault (.badArgument "argument must be iterable")
      | .error stop => throw stop
    | .error stop => throw stop

/-! ## Calls -/

/-- What is made of the items of a value, as a stream. -/
def streamOf (making : Making) (v : Value) (a : Args) : Eval Value := do
  if a.named.any fun n => (["context", "value"] : List Text).contains n.1 then crash .wrongType
  else newStream "generator" (.waiting making a v)

/-- Calls a filter. -/
def apply (f : Filter) (v : Value) (a : Args) : Eval Value := do
  let text (change : Text → Text) : Eval Value := do
    noArguments a
    return .text (change (← shown v))
  match f with
  | .size => noArguments a; return .int (← length v)
  | .upper => text Text.upper
  | .lower => text Text.lower
  | .title => text titled
  | .capitalize => text Text.capitalize
  | .string => text id
  | .trim =>
    let args ← require (a.fit? ["chars"] 0)
    let s ← shown v
    match args.head?.join with
    | none | some .none => return .text (Text.strip Text.isBlank s)
    | some chars =>
      let chars ← asText chars
      return .text (Text.strip (chars.contains ·) s)
  | .replace =>
    let args ← require (a.fit? ["old", "new", "count"] 2)
    let s ← shown v
    let old ← shown (args.head?.join.getD .none)
    let new ← shown ((args.drop 1).head?.join.getD .none)
    let most ← (match (args.drop 2).head?.join with
      | none | some .none => return none
      | some n => do
        let n ← asInt n
        return if n < 0 then none else some n.toNat : Eval (Option Nat))
    return .text (Text.replace old new most s)
  | .default =>
    let args ← require (a.fit? ["default_value", "boolean"] 0)
    let other := args.head?.join.getD (.text [])
    if Test.isAbsent v then return other
    else
      match (args.drop 1).head?.join with
      | none => return v
      | some boolean =>
        if ← truth boolean then
          if ← truth v then return v else return other
        else return v
  | .join =>
    let args ← require (a.fit? ["d", "attribute"] 0)
    let between := args.head?.join.getD (.text [])
    let joined (sep : Text) (keys : List Value) (source : Source) : Eval Value := do
      let steps ← source.steps
      let texts ← source.each (fun item => do shown (← follow none keys item)) steps
      return .text (Text.joined sep texts)
    match (args.drop 1).head?.join with
    | none | some .none =>
      let sep ← shown between
      joined sep [] (← Source.of v)
    | some path =>
      let keys ← pathKeys path
      let source ← Source.of v
      joined (← shown between) keys source
  | .sort =>
    let args ← require (a.fit? ["reverse", "case_sensitive", "attribute"] 0)
    let caseCounts ← (match (args.drop 1).head?.join with
      | none => return false
      | some c => truth c : Eval Bool)
    let paths ← sortPaths ((args.drop 2).head?.join.getD .none)
    let items ← iterate v
    let descending ← (match args.head?.join with
      | none => return false
      | some r => asFlag r : Eval Bool)
    let keyed ← items.mapM fun item => return (← sortKey caseCounts paths item, item)
    newList (← sortBy descending keyed)
  | .first =>
    noArguments a
    return (← takeFirst v).getD (.absent false "No first item, sequence was empty." none)
  | .last =>
    noArguments a
    return ((← (← backwards v).next).map Prod.fst).getD
      (.absent false "No last item, sequence was empty." none)
  | .reverse => noArguments a; reversed v
  | .list => noArguments a; newList (← iterate v)
  | .map => streamOf .map v a
  | .select keep byPart => streamOf (.select keep byPart) v a
  | .helper h => callHelper h ⟨v :: a.positional, a.named⟩

end Filter

/-! ## Streams -/

/-- What `map` makes of an item: one part of it, or what a filter makes of it. -/
def mapStep (helpers : List Helper) (a : Args) : Eval (Value → Eval (Option Value)) := do
  match a.positional, a.named.lookup "attribute".toList with
  | [], some path =>
    match List.find? (fun n => !(["attribute", "default"] : List Text).contains n.1) a.named with
    | some (name, _) =>
      fault (.badArgument ("Unexpected keyword argument " ++ Display.text name))
    | none =>
      let default := match a.named.lookup "default".toList with
        | some .none => none
        | d => d
      let keys ← Filter.pathKeys path
      return fun v => return some (← Filter.follow default keys v)
  | [], none => fault (.badArgument "map requires a filter argument")
  | name :: args, _ =>
    return fun v => do
      let f ← Filter.givenName "filter" (Filter.named? helpers) name
      return some (← f.apply v ⟨args, a.named⟩)

/-- Whether a selecting filter keeps an item: by a test of the item or of a part of it, or by
whether it counts as true. -/
def selectStep (helpers : List Helper) (keep byPart : Bool) (a : Args) :
    Eval (Value → Eval (Option Value)) := do
  let (keys, args) ← (do
    if byPart then
      match a.positional with
      | path :: args => return (← Filter.pathKeys path, args)
      | [] => fault (.badArgument "Missing parameter for attribute name")
    else return ([], a.positional) : Eval (List Value × List Value))
  return fun v => do
    let part ← Filter.follow none keys v
    let holds ← (match args with
      | [] => truth part
      | name :: args => do
        let t ← Filter.givenName "test" Test.named? name
        t.run (fun n => (Filter.named? helpers n).isSome) part ⟨args, a.named⟩ : Eval Bool)
    return if holds = keep then some v else none

/-- What a stream makes of an item, if anything. -/
def Making.step (helpers : List Helper) (a : Args) : Making → Eval (Value → Eval (Option Value))
  | .map => mapStep helpers a
  | .select keep byPart => selectStep helpers keep byPart a

/-- The first value that a step makes of those of a source, and the source behind it. -/
def Source.made (step : Value → Eval (Option Value)) : Nat → Source →
    Eval (Option (Value × Source))
  | 0, _ => crash .noRoom
  | fuel + 1, source => do
    match ← source.next with
    | none => return none
    | some (v, rest) =>
      match ← step v with
      | some w => return some (w, rest)
      | none => made step fuel rest

/-- The next item of a stream, and how far the stream has come then. The step is not prepared for a
value that counts as false. -/
def Stream.next (helpers : List Helper) : Stream → Eval (Option (Value × Stream))
  | .over source => do return (← source.next).map fun (v, rest) => (v, .over rest)
  | .waiting making a v => do
    if ← truth v then
      let step ← making.step helpers a
      let source ← Source.of v
      return (← source.made step (← source.steps)).map fun (w, rest) => (w, .going making a rest)
    else return none
  | .going making a source => do
    let step ← making.step helpers a
    return (← source.made step (← source.steps)).map fun (w, rest) => (w, .going making a rest)
  | .running => crash .badValue

/-- The next item of the stream at a place. A stream that has ended or failed has no more. -/
def nextItem (helpers : List Helper) (p : Place) : Eval (Option Value) := do
  match ← look (·.object p) with
  | .stream type state =>
    write p (.stream type .running)
    match ← attempt (state.next helpers) with
    | .ok (some (v, state)) =>
      write p (.stream type state)
      return some v
    | .ok none =>
      write p (.stream type (.over .done))
      return none
    | .error stop =>
      write p (.stream type (.over .done))
      throw stop
  | _ => return none

end Stencil.Template
