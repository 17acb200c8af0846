import Stencil.Example.Templates
import Stencil.Proofs.Template.Interpolation
import Stencil.Proofs.Template.Rounds

/-!
# Reading the template of a mock

`compile_mock` : the template of a mock has the statements `Mock.nodes`. It is scanned as a whole
(`scan_mock`), and its statements are read one by one, each whatever its lines are and whatever
stands behind it.
-/

namespace Stencil.Example

open Template
open Template.Reader (word dotted put tag StatesAs ReadsAs)

namespace Mock

/-! ## The statements -/

/-- A loop over a list with commas between what it makes. -/
def listNode (item : Text) (items : Expr) (piece : List Node) : Node :=
  .forLoop (.name item) items none (piece ++ [comma]) []

def name : Expr := .attr (.name "m") "name"

def params : Expr := .attr (.name "m") "params"

def results : Expr := .attr (.name "m") "results"

def declType : Expr := .attr (.name "p") "decl_type"

def index : Expr := .attr (.name "loop") "index0"

def shortName (e : Expr) : Expr := .attr (.attr e "type") "short_name"

/-- A call of a routine for the current method. -/
def call (routine : Text) : Expr := .call (.name routine) [.name "m"] [] none none

def typesBody : List Node := [listNode "p" params [.print declType]]

def paramsBody : List Node :=
  [listNode "p" params [.data "p", .print index, .data " ", .print declType]]

def argsBody : List Node :=
  [listNode "p" params
    [.data "p", .print index, .branch (.attr (.name "p") "variadic") [.data "..."] []]]

def resultsBody : List Node :=
  [.branch (.compare (.filter results "length" [] [] none none) [(.eq, .int 1)])
    [.data " ", .print (shortName (.item results (.int 0)))]
    [.branch results
      [.data " (", listNode "r" results [.print (shortName (.name "r"))], .data ")"] []]]

def importBody : List Node :=
  [.data "\n\t", .print (.call (.name "quote") [.attr (.name "imp") "path"] [] none none)]

def importsNode : Node :=
  .branch (.name "imports")
    [.data "\nimport (", .forLoop (.name "imp") (.name "imports") none importBody [],
      .data "\n)\n"] []

def slotBody : List Node :=
  [.data "\n\t", .print name, .data "Func func(", .print (call "param_types"), .data ")",
    .print (call "results")]

def forwardBody : List Node :=
  [.data "\n// ", .print name, .data " calls ", .print name, .data "Func.\nfunc (m *Mock",
    .print Slot.name.expr, .data ") ", .print name, .data "(", .print (call "params"), .data ")",
    .print (call "results"), .data " \x7b\n\t", .branch results [.data "return "] [], .data "m.",
    .print name, .data "Func(", .print (call "args"), .data ")\n\x7d\n"]

/-- A loop over the methods. -/
def methodsNode (body : List Node) : Node := .forLoop (.name "m") (.name "methods") none body []

/-- The routines with their names, in the order of their definitions. -/
def routines : List (Text × List Node) :=
  [("param_types", typesBody), ("params", paramsBody), ("args", argsBody),
    ("results", resultsBody)]

/-- The definition of a routine for a method. -/
def routineNode (r : Text × List Node) : Node := .define r.1 [("m", none)] r.2

/-- The statements behind the definitions. -/
def mainNodes : List Node :=
  [.data "// Code generated by gogen. DO NOT EDIT.\n\npackage ", .print Slot.packageName.expr,
    .data "\n", importsNode, .data "\n// Mock", .print Slot.name.expr, .data " is a mock of ",
    .print Slot.name.expr, .data ".\ntype Mock", .print Slot.name.expr, .data " struct \x7b",
    methodsNode slotBody, .data "\n\x7d\n", methodsNode forwardBody]

/-- The statements of the template. -/
def nodes : List Node := routines.map routineNode ++ mainNodes

/-! ## Reading the template -/

/-- The tokens of a loop with commas between what it makes. -/
def listTokens (item : String) (items piece : List Token) : List Token :=
  tag ([word "for", word item, word "in"] ++ items) ++ piece ++
    tag ([word "if", word "not"] ++ dotted ["loop", "last"]) ++ .data ", " :: tag [word "endif"] ++
    tag [word "endfor"]

/-- The tokens of a routine, without the ends of its tags. -/
def routineTokens (name : String) (body : List Token) : List Token :=
  [word "macro", word name, .op .lparen, word "m", .op .rparen, .blockEnd] ++ body ++
    [.blockBegin, word "endmacro"]

def typesTokens : List Token :=
  routineTokens "param_types" <|
    listTokens "p" (dotted ["m", "params"]) (put (dotted ["p", "decl_type"]))

def paramsTokens : List Token :=
  routineTokens "params" <|
    listTokens "p" (dotted ["m", "params"]) (.data "p" :: put (dotted ["loop", "index0"]) ++
      .data " " :: put (dotted ["p", "decl_type"]))

def argsTokens : List Token :=
  routineTokens "args" <|
    listTokens "p" (dotted ["m", "params"]) (.data "p" :: put (dotted ["loop", "index0"]) ++
      tag (word "if" :: dotted ["p", "variadic"]) ++ .data "..." :: tag [word "endif"])

def resultsTokens : List Token :=
  routineTokens "results" <|
    tag (word "if" :: dotted ["m", "results"] ++ [.op .pipe, word "length", .op .eq, .int 1]) ++
      .data " " :: put (dotted ["m", "results"] ++ [.op .lbracket, .int 0, .op .rbracket, .op .dot]
        ++ dotted ["type", "short_name"]) ++
    tag (word "elif" :: dotted ["m", "results"]) ++
      .data " (" :: listTokens "r" (dotted ["m", "results"])
        (put (dotted ["r", "type", "short_name"])) ++ .data ")" ::
    tag [word "endif"]

def importsTokens : List Token :=
  [word "if", word "imports", .blockEnd, .data "\nimport ("] ++
    tag [word "for", word "imp", word "in", word "imports"] ++
      .data "\n\t" ::
        put ([word "quote", .op .lparen] ++ dotted ["imp", "path"] ++ [.op .rparen]) ++
    tag [word "endfor"] ++ [.data "\n)\n", .blockBegin, word "endif"]

def callTokens (routine : String) : List Token :=
  put [word routine, .op .lparen, word "m", .op .rparen]

def nameTokens : List Token := put (dotted ["m", "name"])

/-- The tokens of a loop over the methods, without the ends of its tags. -/
def methodsTokens (body : List Token) : List Token :=
  [word "for", word "m", word "in", word "methods", .blockEnd] ++ body ++
    [.blockBegin, word "endfor"]

def slotTokens : List Token :=
  methodsTokens <| .data "\n\t" :: nameTokens ++ .data "Func func(" :: callTokens "param_types" ++
    .data ")" :: callTokens "results"

def forwardTokens : List Token :=
  methodsTokens <| .data "\n// " :: nameTokens ++ .data " calls " :: nameTokens ++
    .data "Func.\nfunc (m *Mock" :: put Slot.name.tokens ++ .data ") " :: nameTokens ++
    .data "(" :: callTokens "params" ++ .data ")" :: callTokens "results" ++
    .data " \x7b\n\t" :: tag (word "if" :: dotted ["m", "results"]) ++ .data "return " ::
    tag [word "endif"] ++ .data "m." :: nameTokens ++ .data "Func(" :: callTokens "args" ++
    [.data ")\n\x7d\n"]

/-- The tokens of the template. -/
def tokens : List Token :=
  tag typesTokens ++ (tag paramsTokens ++ (tag argsTokens ++ (tag resultsTokens ++
    .data "// Code generated by gogen. DO NOT EDIT.\n\npackage " :: (put Slot.packageName.tokens ++
    .data "\n" :: (tag importsTokens ++ .data "\n// Mock" :: (put Slot.name.tokens ++
    .data " is a mock of " :: (put Slot.name.tokens ++ .data ".\ntype Mock" ::
    (put Slot.name.tokens ++ .data " struct \x7b" :: (tag slotTokens ++ .data "\n\x7d\n" ::
    (tag forwardTokens ++ []))))))))))

section

-- the template is evaluated character by character and token by token
set_option maxRecDepth 20000

theorem scan_mock : (Token.scan mock).map Token.unlocated = some tokens := by
  unfold mock
  -- evaluation is quick on characters and slow on string literals
  repeat rewrite [String.toList_ofList]
  decide +kernel

theorem statesAs_types : StatesAs typesTokens (routineNode ("param_types", typesBody)) :=
  fun _ _ _ => rfl

theorem statesAs_params : StatesAs paramsTokens (routineNode ("params", paramsBody)) :=
  fun _ _ _ => rfl

theorem statesAs_args : StatesAs argsTokens (routineNode ("args", argsBody)) :=
  fun _ _ _ => rfl

theorem statesAs_results : StatesAs resultsTokens (routineNode ("results", resultsBody)) :=
  fun _ _ _ => rfl

theorem statesAs_imports : StatesAs importsTokens importsNode :=
  fun _ _ _ => rfl

theorem statesAs_slot : StatesAs slotTokens (methodsNode slotBody) :=
  fun _ _ _ => rfl

theorem statesAs_forward : StatesAs forwardTokens (methodsNode forwardBody) :=
  fun _ _ _ => rfl

end

theorem readsAs_tokens : ReadsAs tokens nodes := by
  have hname := Slot.name.printsAs
  refine .tag statesAs_types (.tag statesAs_params (.tag statesAs_args (.tag statesAs_results ?_)))
  refine .text (.put Slot.packageName.printsAs (.text (.tag statesAs_imports ?_) _)) _
  refine .text (.put hname (.text (.put hname (.text (.put hname ?_) _)) _)) _
  exact .text (.tag statesAs_slot (.text (.tag statesAs_forward Reader.readsAs_nil) _)) _

theorem compile_mock : compile defaultHelpers mock = .ok nodes := by
  have hcheck : Check.nodes defaultHelpers false nodes = [] := by decide +kernel
  have hlimits : Limits.nodes 0 1 nodes = true := by decide +kernel
  -- the blocks set no names
  have hsettled : Node.settled nodes = nodes := rfl
  rw [compile_of_parse (parse_eq_ok_of_scan scan_mock readsAs_tokens) hcheck hlimits, hsettled]

end Mock

end Stencil.Example
