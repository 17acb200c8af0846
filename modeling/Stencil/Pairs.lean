/-!
# Pairs in order of insertion

A list of keys with values keeps the order in which the keys came. `set` gives a key that is there
its new value in its old place, and puts any other key at the end.
-/

namespace Stencil.Pairs

variable {α β : Type} [BEq α]

/-- Gives `key` the value `v`. -/
def set (key : α) (v : β) : List (α × β) → List (α × β)
  | [] => [(key, v)]
  | (k, w) :: rest => if k == key then (k, v) :: rest else (k, w) :: set key v rest

/-- The pairs with each key in its first place and with its last value. -/
def ofList (pairs : List (α × β)) : List (α × β) :=
  pairs.foldl (fun acc (k, v) => set k v acc) []

/-- The pairs without those of `key`. -/
def erase (key : α) (pairs : List (α × β)) : List (α × β) := pairs.filter fun p => !(p.1 == key)

/-- Adds `v` to the values of `key`. -/
def add (key : α) (v : β) : List (α × List β) → List (α × List β)
  | [] => [(key, [v])]
  | (k, vs) :: rest => if k == key then (k, vs ++ [v]) :: rest else (k, vs) :: add key v rest

/-- The values of each key in order, the keys in order of their first value. -/
def group (pairs : List (α × β)) : List (α × List β) :=
  pairs.foldl (fun acc (k, v) => add k v acc) []

end Stencil.Pairs
