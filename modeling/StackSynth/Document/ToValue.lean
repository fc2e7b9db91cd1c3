import StackSynth.Document.Basic
import StackSynth.Value.Basic
/-!
Documents as values. Tags are dropped, keys become texts, and of two entries whose keys become the
same text the first gives the place and the last gives the value.
-/
namespace StackSynth

inductive Collection where
  | sequence
  | mapping
deriving DecidableEq, Repr

def Collection.word : Collection → String
  | sequence => "sequence"
  | mapping => "mapping"

inductive ValueError where
  /-- A whole number above the greatest one of 64 bits with sign. -/
  | numberOutOfRange (n : Int)
  /-- A key that is a collection. -/
  | unsupportedKey (found : Collection)
deriving DecidableEq, Repr

def ValueError.message : ValueError → String
  | numberOutOfRange n => s!"number {n} is out of range"
  | unsupportedKey found => s!"mapping keys must be scalars, found {found.word}"

def inRange (n : Int) : Bool :=
  -(Nat.pow 2 63 : Int) ≤ n && n < Nat.pow 2 63

namespace Document

def keyText : Document → Except ValueError String
  | string s => .ok s
  | boolean b => .ok (if b then "true" else "false")
  | integer n => .ok s!"{n}"
  | decimal d => .ok (d.render Decimal.yamlLayout)
  | null => .ok "null"
  | sequence _ => .error (.unsupportedKey .sequence)
  | mapping _ => .error (.unsupportedKey .mapping)
  | tagged _ content => keyText content

mutual

/-- The value that a document denotes. -/
def toValue : Document → Except ValueError Value
  | null => .ok .null
  | boolean b => .ok (.boolean b)
  | integer n => if inRange n then .ok (.integer n) else .error (.numberOutOfRange n)
  | decimal d => .ok (.decimal d)
  | string s => .ok (.string s)
  | sequence items => (itemValues items).map .array
  | mapping entries => (entryValues [] entries).map .object
  | tagged _ content => toValue content
termination_by structural document => document

def itemValues : List Document → Except ValueError (List Value)
  | [] => .ok []
  | item :: rest =>
    match toValue item with
    | .error e => .error e
    | .ok value => (itemValues rest).map (value :: ·)
termination_by structural items => items

/-- The object of a mapping whose first entries made `object`. -/
def entryValues (object : Object) : List (Document × Document) → Except ValueError Object
  | [] => .ok object
  | (key, content) :: rest =>
    match keyText key with
    | .error e => .error e
    | .ok name =>
      match toValue content with
      | .error e => .error e
      | .ok value => entryValues (Entries.insert object name value) rest
termination_by structural entries => entries

end

end Document

end StackSynth
