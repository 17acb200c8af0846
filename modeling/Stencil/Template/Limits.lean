import Stencil.Template.Filter
import Stencil.Template.Gather

/-!
# What can be compiled

The host compiles a template before it renders it, and its compiler has limits: twenty loops inside
one another in one routine, a hundred levels of blocks, two hundred brackets inside one another, and
one argument or parameter of a name. `Limits.nodes` says whether a template keeps within them.

Every operation on a value that is not known before puts brackets around its operands
(`Expr.brackets`); what is known is computed first, and leaves none. The compiler goes down an
expression by calls inside one another, which the host bounds as well (`Expr.depth`).
-/

namespace Stencil

open Template

namespace Expr

/-- A sign that an expression is not known before the template is rendered. -/
def unknown : Bool → Expr → List Unit
  | _, .name _ | _, .call _ _ _ _ _ | _, .collected => [()]
  | _, .filter _ f _ _ _ _ =>
    match Filter.named? [] f with
    | some .map | some (.select _ _) => [()]
    | _ => []
  | _, _ => []

/-- Whether the value of an expression is known before the template is rendered. -/
def isKnown (e : Expr) : Bool := (gather unknown false e).isEmpty

section

variable (skips : Expr → Bool)

mutual

/-- The levels of an expression inside one another, without the parts that are skipped. -/
def levels (e : Expr) : Nat :=
  if skips e then 0
  else
    match e with
    | .none | .bool _ | .int _ | .float _ | .text _ | .name _ | .collected => 0
    | .tuple items | .list items => levelsAll items + 1
    | .dict entries => levelsEntries entries + 1
    | .attr e _ | .neg e | .pos e | .not e => levels e + 1
    | .item e key => max (levels e) (levels key) + 1
    | .slice e start stop step =>
      max (levels e) (max (levelsOption start)
        (max (levelsOption stop) (levelsOption step)) + 1)
    | .call e args named more others | .filter e _ args named more others
    | .test e _ args named more others =>
      max (max (levels e) (max (levelsAll args) (levelsNamed named)))
        (max (levelsOption more) (levelsOption others)) + 1
    | .and l r | .or l r | .binary _ l r => max (levels l) (levels r) + 1
    | .concat items => levelsAll items + 2
    | .compare e ops => max (levels e) (levelsOperands ops) + 1
    | .choice condition yes no _ =>
      max (levels condition) (max (levels yes) (levelsOption no)) + 1

/-- The levels of expressions. -/
def levelsAll : List Expr → Nat
  | [] => 0
  | e :: rest => max (levels e) (levelsAll rest)

/-- The levels of an expression that may be left out. -/
def levelsOption : Option Expr → Nat
  | .none => 0
  | .some e => levels e

/-- The levels of named expressions. -/
def levelsNamed : List (Text × Expr) → Nat
  | [] => 0
  | (_, e) :: rest => max (levels e) (levelsNamed rest)

/-- The levels of the entries of a table. -/
def levelsEntries : List (Expr × Expr) → Nat
  | [] => 0
  | (k, e) :: rest => max (max (levels k) (levels e)) (levelsEntries rest)

/-- The levels of what comparisons compare with. -/
def levelsOperands : List (Comparison × Expr) → Nat
  | [] => 0
  | (_, e) :: rest => max (levels e) (levelsOperands rest)

end

end

/-- The brackets inside one another in what the host compiles for an expression. -/
def brackets (e : Expr) : Nat := levels isKnown e

/-- The levels that the compiler goes down in an expression. -/
def depth (e : Expr) : Nat := levels (fun _ => false) e

end Expr

namespace Template.Limits

/-- A sign that an expression that is not known before the template is rendered has two arguments
of a name. -/
def repeated (e : Expr) : List Unit :=
  match e with
  | .call _ _ named _ _ | .filter _ _ _ named _ _ | .test _ _ _ named _ _ =>
    if e.isKnown || (named.map Prod.fst).Nodup then [] else [()]
  | _ => []

/-- Whether an expression can be compiled. Up to three brackets are put around it, and each level
takes three frames. -/
def expr (e : Expr) : Bool :=
  e.brackets ≤ 197 && 3 * e.depth ≤ frames && (Expr.gather (fun _ => repeated) false e).isEmpty

/-- Whether an expression can be compiled that is printed. If its value is known, that is printed at
once. -/
def printed (e : Expr) : Bool := if e.isKnown then 2 * e.depth ≤ frames else expr e

/-- Whether an expression that may be left out can be compiled. -/
def perhaps (e : Option Expr) : Bool := e.all expr

mutual

/-- Whether a statement can be compiled inside of so many loops and levels of blocks. A condition
of a loop is tested three levels further in, in a routine of its own. -/
def node (loops levels : Nat) : Node → Bool
  | .data _ | .forget _ => true
  | .print e => printed e
  | .assign _ e => expr e
  | .forLoop _ items test body otherwise =>
    expr items && perhaps test && loops < 20 && levels + (if test.isSome then 3 else 1) < 100
      && nodes (loops + 1) (levels + 1) body && nodes loops (levels + 1) otherwise
  | .branch condition yes no =>
    expr condition && levels + 1 < 100 && nodes loops (levels + 1) yes
      -- a further condition stands on the level of the first one
      && nodes loops (match no with | [.branch _ _ _] => levels | _ => levels + 1) no
  | .capture _ filter body | .filtered filter body => expr filter && nodes loops levels body
  | .define _ params body =>
    (params.map Prod.fst).Nodup && params.all (perhaps ·.2) && levels + 1 < 100
      && nodes 0 (levels + 1) body
  | .scope bindings body => bindings.all (expr ·.2) && nodes loops levels body

/-- Whether statements can be compiled. -/
def nodes (loops levels : Nat) : List Node → Bool
  | [] => true
  | n :: rest => node loops levels n && nodes loops levels rest

end

end Template.Limits

end Stencil
