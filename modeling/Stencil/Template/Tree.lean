import Stencil.Decimal.Shortest

/-!
# Templates as trees

The expressions (`Expr`) and the statements (`Node`) of a template.
-/

namespace Stencil

/-- The arithmetic operators. -/
inductive BinaryOp where
  | add | sub | mul | div | floordiv | mod | pow
  deriving DecidableEq, Repr

/-- The comparisons. -/
inductive Comparison where
  | eq | ne | lt | lteq | gt | gteq | in | notin
  deriving DecidableEq, Repr

/-- An expression. A call, a filter and a test have arguments by position and by name, and perhaps a
list and a table of further ones. -/
inductive Expr where
  | none
  | bool (b : Bool)
  | int (n : Nat)
  | float (d : Decimal)
  | text (s : Text)
  | name (n : Text)
  | tuple (items : List Expr)
  | list (items : List Expr)
  | dict (items : List (Expr × Expr))
  | attr (e : Expr) (name : Text)
  | item (e key : Expr)
  | slice (e : Expr) (start stop step : Option Expr)
  | call (f : Expr) (args : List Expr) (named : List (Text × Expr)) (more others : Option Expr)
  | filter (e : Expr) (name : Text) (args : List Expr) (named : List (Text × Expr))
      (more others : Option Expr)
  | test (e : Expr) (name : Text) (args : List Expr) (named : List (Text × Expr))
      (more others : Option Expr)
  | neg (e : Expr)
  | pos (e : Expr)
  | not (e : Expr)
  | and (l r : Expr)
  | or (l r : Expr)
  | binary (op : BinaryOp) (l r : Expr)
  | concat (items : List Expr)
  | compare (e : Expr) (ops : List (Comparison × Expr))
  /-- One of two expressions by a condition, with the line it begins on. -/
  | choice (condition yes : Expr) (no : Option Expr) (line : Nat)
  /-- The text collected so far, which a filter on a block of text takes. -/
  | collected
  deriving Inhabited, Repr

/-- What an assignment sets: a name, or the parts of a tuple. -/
inductive Target where
  | name (n : Text)
  | tuple (parts : List Target)
  deriving Inhabited, Repr

/-- A statement of a template. -/
inductive Node where
  | data (s : Text)
  | print (e : Expr)
  | forLoop (target : Target) (items : Expr) (test : Option Expr) (body otherwise : List Node)
  | branch (condition : Expr) (yes no : List Node)
  | assign (target : Target) (e : Expr)
  /-- Assigns the text of a block, which `filter` takes as what was collected. -/
  | capture (target : Target) (filter : Expr) (body : List Node)
  /-- Defines a routine. -/
  | define (name : Text) (params : List (Text × Option Expr)) (body : List Node)
  /-- Runs a block with names of its own. -/
  | scope (bindings : List (Target × Expr)) (body : List Node)
  /-- Prints the text of a block, which `filter` takes as what was collected. -/
  | filtered (filter : Expr) (body : List Node)
  /-- Begins a block: the names stand for nothing until they are set. -/
  | forget (names : List Text)
  deriving Inhabited, Repr

end Stencil
