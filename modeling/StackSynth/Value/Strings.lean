import StackSynth.Value.Basic

namespace StackSynth

mutual

/-- The strings of a value, lists and objects walked in order. -/
def Value.strings : Value → List String
  | .string s => [s]
  | .array items => itemStrings items
  | .object entries => entryStrings entries
  | .null | .boolean _ | .integer _ | .decimal _ => []
termination_by structural value => value

def itemStrings : List Value → List String
  | [] => []
  | item :: rest => item.strings ++ itemStrings rest
termination_by structural items => items

def entryStrings : List (String × Value) → List String
  | [] => []
  | (_, value) :: rest => value.strings ++ entryStrings rest
termination_by structural entries => entries

end

theorem entryStrings_eq_flatMap (entries : Object) :
    entryStrings entries = entries.flatMap fun entry => entry.2.strings := by
  induction entries with
  | nil => rfl
  | cons entry rest ih => simp [entryStrings, ih]

end StackSynth
