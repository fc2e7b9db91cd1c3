import StackSynth.Text.Split
/-!
Markers: strings that stand for something else. `secret:key` stands for a secret, `ref:resource` and
`ref:resource.attribute` for an attribute of a resource built before.
-/
namespace StackSynth

/-- The attribute of a reference that names none. -/
def defaultAttribute : String := "id"

inductive Marker where
  | secret (key : String)
  | reference (resource : String) (path : String)
deriving DecidableEq, Repr

namespace Marker

/-- The reference behind `ref:`. Its first dot ends the name of the resource. -/
def ofReference (cs : List Char) : Marker :=
  match Text.cutFirst? '.' cs with
  | some (resource, path) => .reference (String.ofList resource) (String.ofList path)
  | none => .reference (String.ofList cs) defaultAttribute

/-- The marker that a string is, or nothing for a literal. -/
def parse? (s : String) : Option Marker :=
  match "secret:".toList.isPrefixOf? s.toList with
  | some key => some (.secret (String.ofList key))
  | none => ("ref:".toList.isPrefixOf? s.toList).map ofReference

end Marker

end StackSynth
