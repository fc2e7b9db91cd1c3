namespace StackSynth.Yaml

/-- A node. Tags are whole, their handles replaced. -/
inductive Node where
  /-- A node that aliases can point to by a number. -/
  | anchored (id : Nat) (content : Node)
  | aliasOf (id : Nat)
  | scalar (tag : Option String) (isPlain : Bool) (text : String)
  | sequence (tag : Option String) (items : List Node)
  | mapping (tag : Option String) (entries : List (Node × Node))
deriving Repr, Inhabited

namespace Node

def empty : Node :=
  scalar none true ""

mutual

/-- How many parts a node has: one for a scalar or alias, and two for a collection besides those of
what is in it. -/
def size : Node → Nat
  | anchored _ content => size content
  | aliasOf _ => 1
  | scalar .. => 1
  | sequence _ items => 2 + itemSizes items
  | mapping _ entries => 2 + entrySizes entries
termination_by structural node => node

def itemSizes : List Node → Nat
  | [] => 0
  | item :: rest => size item + itemSizes rest
termination_by structural items => items

def entrySizes : List (Node × Node) → Nat
  | [] => 0
  | (key, value) :: rest => size key + size value + entrySizes rest
termination_by structural entries => entries

end

mutual

/-- The nodes that aliases can point to, in the order of their first characters. -/
def targets : Node → List (Nat × Node)
  | anchored id content => (id, content) :: targets content
  | aliasOf _ => []
  | scalar .. => []
  | sequence _ items => itemTargets items
  | mapping _ entries => entryTargets entries
termination_by structural node => node

def itemTargets : List Node → List (Nat × Node)
  | [] => []
  | item :: rest => targets item ++ itemTargets rest
termination_by structural items => items

def entryTargets : List (Node × Node) → List (Nat × Node)
  | [] => []
  | (key, value) :: rest => targets key ++ targets value ++ entryTargets rest
termination_by structural entries => entries

end

end Node

end StackSynth.Yaml
