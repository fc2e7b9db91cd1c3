import StackSynth.Decimal.Basic
import StackSynth.Entries

namespace StackSynth

/-- A value: a scalar, a list, or a table whose keys are texts. Whole numbers and decimals are
different values even if they denote the same number. -/
inductive Value where
  | null
  | boolean (b : Bool)
  | integer (n : Int)
  | decimal (d : Decimal)
  | string (s : String)
  | array (items : List Value)
  | object (entries : List (String × Value))
deriving Repr, Inhabited

abbrev Object := Entries Value

namespace Value

/-- Whether a value counts as a set flag: all do but `null`, `false`, zeros and what is empty. -/
def isTruthy : Value → Bool
  | null => false
  | boolean b => b
  | integer n => n ≠ 0
  | decimal d => !d.isZero
  | string s => s ≠ ""
  | array items => !items.isEmpty
  | object entries => !entries.isEmpty

def keys? : Value → Option (List String)
  | object entries => some (Entries.keys entries)
  | _ => none

end Value

end StackSynth
