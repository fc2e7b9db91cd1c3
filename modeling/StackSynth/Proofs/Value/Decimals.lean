import StackSynth.Value.Basic

namespace StackSynth

mutual

/-- The decimals of a value, lists and objects walked in order. -/
def Value.decimals : Value → List Decimal
  | .decimal d => [d]
  | .array items => itemDecimals items
  | .object entries => entryDecimals entries
  | .null | .boolean _ | .integer _ | .string _ => []
termination_by structural value => value

def itemDecimals : List Value → List Decimal
  | [] => []
  | item :: rest => item.decimals ++ itemDecimals rest
termination_by structural items => items

def entryDecimals : List (String × Value) → List Decimal
  | [] => []
  | (_, value) :: rest => value.decimals ++ entryDecimals rest
termination_by structural entries => entries

end

theorem entryDecimals_eq_nil_iff {entries : Object} :
    entryDecimals entries = [] ↔ ∀ entry ∈ entries, entry.2.decimals = [] := by
  induction entries with
  | nil => simp [entryDecimals]
  | cons entry rest ih => simp [entryDecimals, ih]

@[simp] theorem entryDecimals_append (entries others : Object) :
    entryDecimals (entries ++ others) = entryDecimals entries ++ entryDecimals others := by
  induction entries with
  | nil => rfl
  | cons entry rest ih => simp [entryDecimals, ih]

theorem entryDecimals_insert {entries : Object} {value : Value} (key : String)
    (hentries : entryDecimals entries = []) (hvalue : value.decimals = []) :
    entryDecimals (Entries.insert entries key value) = [] := by
  rw [entryDecimals_eq_nil_iff] at hentries ⊢
  intro entry hentry
  rcases Entries.mem_insert hentry with hmem | rfl
  · exact hentries entry hmem
  · exact hvalue

theorem entryDecimals_insertAll {entries more : Object} (hentries : entryDecimals entries = [])
    (hmore : entryDecimals more = []) : entryDecimals (Entries.insertAll entries more) = [] := by
  rw [entryDecimals_eq_nil_iff] at hentries hmore ⊢
  intro entry hentry
  exact (Entries.mem_insertAll hentry).elim (hentries entry) (hmore entry)

end StackSynth
