import Stencil.Template.Tree

/-!
# What expressions mention

`Expr.gather` lists what a function finds in an expression and in its parts, from the outside to the
inside and from left to right; the parts of a choice count as lenient, since not all of them are
evaluated. From it come the names that a part of a template reads, and `unset`: the names that a
template sets before it reads them, which stand for nothing until they are set. So it is in each
block for the names that no part around mentions (`settled`).
-/

namespace Stencil

namespace Expr

variable {α : Type} (find : Bool → Expr → List α)

mutual

/-- What `find` finds in an expression and its parts. -/
def gather (lenient : Bool) (e : Expr) : List α :=
  find lenient e ++ match e with
  | .tuple items | .list items | .concat items => gatherAll lenient items
  | .dict entries => gatherEntries lenient entries
  | .attr e _ | .neg e | .pos e | .not e => gather lenient e
  | .item e key => gather lenient e ++ gather lenient key
  | .slice e start stop step =>
    gather lenient e ++ gatherOption lenient start ++ gatherOption lenient stop
      ++ gatherOption lenient step
  | .call e args named more others | .filter e _ args named more others
  | .test e _ args named more others =>
    gather lenient e ++ gatherAll lenient args ++ gatherNamed lenient named
      ++ gatherOption lenient more ++ gatherOption lenient others
  | .and l r | .or l r | .binary _ l r => gather lenient l ++ gather lenient r
  | .compare e ops => gather lenient e ++ gatherOperands lenient ops
  | .choice condition yes no _ =>
    gather true yes ++ gather true condition ++ gatherOption true no
  | .none | .bool _ | .int _ | .float _ | .text _ | .name _ | .collected => []

/-- What `find` finds in expressions. -/
def gatherAll (lenient : Bool) : List Expr → List α
  | [] => []
  | e :: rest => gather lenient e ++ gatherAll lenient rest

/-- What `find` finds in an expression that may be left out. -/
def gatherOption (lenient : Bool) : Option Expr → List α
  | .none => []
  | .some e => gather lenient e

/-- What `find` finds in named expressions. -/
def gatherNamed (lenient : Bool) : List (Text × Expr) → List α
  | [] => []
  | (_, e) :: rest => gather lenient e ++ gatherNamed lenient rest

/-- What `find` finds in the entries of a table. -/
def gatherEntries (lenient : Bool) : List (Expr × Expr) → List α
  | [] => []
  | (k, v) :: rest => gather lenient k ++ gather lenient v ++ gatherEntries lenient rest

/-- What `find` finds in what comparisons compare with. -/
def gatherOperands (lenient : Bool) : List (Comparison × Expr) → List α
  | [] => []
  | (_, e) :: rest => gather lenient e ++ gatherOperands lenient rest

end

/-- The name that an expression is. -/
def asName : Expr → List Text
  | .name n => [n]
  | _ => []

/-- The names that an expression reads. -/
def names (e : Expr) : List Text := gather (fun _ => asName) false e

end Expr

mutual

/-- The names that a target sets. -/
def Target.names : Target → List Text
  | .name n => [n]
  | .tuple parts => Target.namesAll parts

/-- The names that targets set. -/
def Target.namesAll : List Target → List Text
  | [] => []
  | t :: rest => t.names ++ Target.namesAll rest

end

namespace Node

/-- Names that are read. -/
def reads (ns : List Text) : List (Text × Bool) := ns.map (·, false)

/-- Names that are set. -/
def sets (ns : List Text) : List (Text × Bool) := ns.map (·, true)

mutual

/-- The names that a statement mentions outside of blocks with names of their own, with whether it
sets them whatever happens. -/
def mentions : Node → List (Text × Bool)
  | .data _ => []
  | .print e => reads e.names
  | .forLoop _ items _ _ _ => reads items.names
  | .branch condition yes no =>
    reads condition.names ++ reads ((mentionsAll yes ++ mentionsAll no).map Prod.fst)
  | .assign target e => reads e.names ++ sets target.names
  | .capture target _ _ => sets target.names
  | .define name _ _ => [(name, true)]
  | .scope bindings _ => bindings.flatMap fun b => reads b.2.names
  | .filtered filter _ => reads filter.names
  | .forget names => sets names

/-- The names that statements mention. -/
def mentionsAll : List Node → List (Text × Bool)
  | [] => []
  | n :: rest => mentions n ++ mentionsAll rest

end

/-- The names of which the first mention sets them. -/
def unset (nodes : List Node) : List Text :=
  go [] (mentionsAll nodes)
where
  /-- The names that are set first, without those `seen` before. -/
  go : List Text → List (Text × Bool) → List Text
    | _, [] => []
    | seen, (n, first) :: rest =>
      if n ∈ seen then go seen rest
      else if first then n :: go (n :: seen) rest
      else go (n :: seen) rest

mutual

/-- The names that a statement sets, with those set inside of it. -/
def setNames : Node → List Text
  | .forLoop target _ _ body otherwise =>
    target.names ++ setNamesAll body ++ setNamesAll otherwise
  | .branch _ yes no => setNamesAll yes ++ setNamesAll no
  | .assign target _ => target.names
  | .capture target _ body => target.names ++ setNamesAll body
  | .define _ _ body | .scope _ body | .filtered _ body => setNamesAll body
  | .data _ | .print _ | .forget _ => []

/-- The names that statements set. -/
def setNamesAll : List Node → List Text
  | [] => []
  | n :: rest => setNames n ++ setNamesAll rest

end

/-! ## Routines -/

/-- The names that an expression reads which may be left out. -/
def readsOption (e : Option Expr) : List (Text × Bool) := reads ((e.map Expr.names).getD [])

mutual

/-- The names that a statement mentions, inside of its blocks as well, with whether it sets them. -/
def allMentions : Node → List (Text × Bool)
  | .data _ | .forget _ => []
  | .print e => reads e.names
  | .forLoop target items test body otherwise =>
    sets target.names ++ reads items.names ++ allMentionsOf body ++ allMentionsOf otherwise
      ++ readsOption test
  | .branch condition yes no => reads condition.names ++ allMentionsOf yes ++ allMentionsOf no
  | .assign target e => sets target.names ++ reads e.names
  | .capture target filter body => sets target.names ++ reads filter.names ++ allMentionsOf body
  | .define _ params body =>
    sets (params.map Prod.fst) ++ params.flatMap (readsOption ·.2) ++ allMentionsOf body
  | .scope bindings body =>
    sets (bindings.flatMap (·.1.names)) ++ reads (bindings.flatMap (·.2.names))
      ++ allMentionsOf body
  | .filtered filter body => allMentionsOf body ++ reads filter.names

/-- The names that statements mention, inside of their blocks as well. -/
def allMentionsOf : List Node → List (Text × Bool)
  | [] => []
  | n :: rest => allMentions n ++ allMentionsOf rest

end

/-- Whether statements read a name before they set it. -/
def takes (body : List Node) (name : Text) : Bool := (allMentionsOf body).lookup name == some false

/-- The names that a routine has besides its parameters, if it reads them: what calls it, and the
arguments that are left over. -/
def spareNames (body : List Node) : List Text :=
  (["caller", "kwargs", "varargs"] : List Text).filter (takes body)

/-! ## Blocks -/

/-- A block that begins with names that stand for nothing. -/
def forgetting (names : List Text) (body : List Node) : List Node :=
  if names.isEmpty then body else .forget names :: body

/-- The names of a block of which the first mention sets them, and which are not known around it. -/
def unsetIn (known : List Text) (body : List Node) : List Text :=
  (unset body).filter fun n => !known.contains n

/-- The names that are known inside of a block. -/
def knownIn (known : List Text) (body : List Node) : List Text :=
  known ++ (mentionsAll body).map Prod.fst

mutual

/-- A statement in which each block begins with the names that stand for nothing in it, where
`known` are those that the parts around mention. -/
def settle (known : List Text) : Node → Node
  | .forLoop target items test body otherwise =>
    let inside := known ++ "loop".toList :: target.names
    .forLoop target items test
      (forgetting (unsetIn inside body) (settleAll (knownIn inside body) body))
      (forgetting (unsetIn known otherwise) (settleAll (knownIn known otherwise) otherwise))
  | .branch condition yes no => .branch condition (settleAll known yes) (settleAll known no)
  | .capture target filter body =>
    .capture target filter (forgetting (unsetIn known body) (settleAll (knownIn known body) body))
  | .define name params body =>
    let inside := known ++ params.map Prod.fst ++ (params.flatMap (readsOption ·.2)).map Prod.fst
      ++ spareNames body
    .define name params (forgetting (unsetIn inside body) (settleAll (knownIn inside body) body))
  | .scope bindings body =>
    let inside := known ++ bindings.flatMap (·.1.names)
    .scope bindings (forgetting (unsetIn inside body) (settleAll (knownIn inside body) body))
  | .filtered filter body =>
    .filtered filter (forgetting (unsetIn known body) (settleAll (knownIn known body) body))
  | n => n

/-- Statements in which each block begins with the names that stand for nothing in it. -/
def settleAll (known : List Text) : List Node → List Node
  | [] => []
  | n :: rest => settle known n :: settleAll known rest

end

/-- The statements of a template in which each block begins with the names that stand for nothing
in it. -/
def settled (nodes : List Node) : List Node := settleAll (knownIn [] nodes) nodes

end Node

end Stencil
