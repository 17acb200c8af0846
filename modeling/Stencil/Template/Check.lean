import Stencil.Template.Filter
import Stencil.Template.Gather

/-!
# Faults found before rendering

A template that names an unknown filter or test, or that sets `loop` inside of a loop, is faulty
before it is rendered (`Check.nodes`). So is one with a routine that reads its caller and has a
parameter for it without a default. The parts of a template that are rendered on a condition may
name unknown filters and tests (`lenient`); using them is then a fault. A block with names of its
own is strict again.
-/

namespace Stencil.Template.Check

/-- The fault of an expression whose own filter or test stands for nothing, unless it is lenient. -/
def unknown (helpers : List Helper) (lenient : Bool) : Expr → List Fault
  | .filter _ name _ _ _ _ =>
    if lenient || (Filter.named? helpers name).isSome then [] else [.unknown "filter" name]
  | .test _ name _ _ _ _ =>
    if lenient || (Test.named? name).isSome then [] else [.unknown "test" name]
  | _ => []

/-- The faults of an expression, in the order in which they are found. -/
def expr (helpers : List Helper) (lenient : Bool) (e : Expr) : List Fault :=
  Expr.gather (unknown helpers) lenient e

/-- The faults of an expression that may be left out. -/
def perhaps (helpers : List Helper) (e : Option Expr) : List Fault :=
  (e.map (expr helpers false)).getD []

mutual

/-- The faults of a statement, in the order in which they are found. -/
def node (helpers : List Helper) (lenient : Bool) : Node → List Fault
  | .data _ => []
  | .print e => expr helpers lenient e
  | .forLoop target items test body otherwise =>
    perhaps helpers test
      ++ (if "loop".toList ∈ (Node.forLoop target items test body otherwise).setNames then
        [.loopAssigned] else [])
      ++ expr helpers lenient items ++ nodes helpers false body ++ nodes helpers false otherwise
  | .branch condition yes no =>
    expr helpers true condition ++ nodes helpers true yes ++ nodes helpers true no
  | .assign _ e => expr helpers lenient e
  | .capture _ filter body => nodes helpers false body ++ expr helpers false filter
  | .define _ params body =>
    (if Node.takes body "caller" && params.any (fun p => p.1 = "caller" && p.2.isNone) then
      [.malformed] else [])
      ++ params.flatMap (fun p => perhaps helpers p.2) ++ nodes helpers false body
  | .scope bindings body =>
    bindings.flatMap (fun b => expr helpers lenient b.2) ++ nodes helpers false body
  | .filtered filter body => nodes helpers false body ++ expr helpers false filter
  | .forget _ => []

/-- The faults of statements. -/
def nodes (helpers : List Helper) (lenient : Bool) : List Node → List Fault
  | [] => []
  | n :: rest => node helpers lenient n ++ nodes helpers lenient rest

end

end Stencil.Template.Check
