namespace StackSynth

/-- A table from text keys to values that remembers the order of its keys. -/
abbrev Entries (α : Type) := List (String × α)

namespace Entries

variable {α : Type}

def find? : Entries α → String → Option α
  | [], _ => none
  | (k, v) :: rest, key => if k = key then some v else find? rest key

def has (entries : Entries α) (key : String) : Bool :=
  (entries.find? key).isSome

def keys (entries : Entries α) : List String :=
  entries.map Prod.fst

/-- Gives a key its value: in the key's own place, or at the end if the key is new. -/
def insert : Entries α → String → α → Entries α
  | [], key, value => [(key, value)]
  | (k, v) :: rest, key, value =>
    if k = key then (k, value) :: rest else (k, v) :: insert rest key value

def erase (entries : Entries α) (key : String) : Entries α :=
  entries.filter fun entry => entry.1 ≠ key

def insertAll (entries more : Entries α) : Entries α :=
  more.foldl (fun table (key, value) => insert table key value) entries

theorem find?_insert_self (entries : Entries α) (key : String) (value : α) :
    find? (insert entries key value) key = some value := by
  induction entries with
  | nil => simp [insert, find?]
  | cons entry rest ih =>
    obtain ⟨k, v⟩ := entry
    by_cases h : k = key <;> simp [insert, find?, h, ih]

theorem find?_insert_of_ne (entries : Entries α) {key other : String} (value : α)
    (hne : other ≠ key) : find? (insert entries key value) other = find? entries other := by
  induction entries with
  | nil => simp [insert, find?, hne.symm]
  | cons entry rest ih =>
    obtain ⟨k, v⟩ := entry
    by_cases h : k = key
    · subst h
      simp [insert, find?, hne.symm]
    · rw [insert, if_neg h, find?, find?, ih]

theorem insert_of_notMem {entries : Entries α} {key : String} (value : α)
    (h : key ∉ keys entries) : insert entries key value = entries ++ [(key, value)] := by
  induction entries with
  | nil => rfl
  | cons entry rest ih =>
    obtain ⟨k, v⟩ := entry
    obtain ⟨hk, hrest⟩ := not_or.mp (mt List.mem_cons.mpr h)
    rw [insert, if_neg fun e => hk e.symm, ih hrest, List.cons_append]

theorem keys_insert (entries : Entries α) (key : String) (value : α) :
    keys (insert entries key value) =
      if key ∈ keys entries then keys entries else keys entries ++ [key] := by
  induction entries with
  | nil => simp [insert, keys]
  | cons entry rest ih =>
    obtain ⟨k, v⟩ := entry
    by_cases h : k = key
    · simp [insert, keys, h]
    · have hk : key ≠ k := fun e => h e.symm
      rw [insert, if_neg h]
      simp only [keys, List.map_cons, List.mem_cons, hk, false_or] at ih ⊢
      by_cases hm : key ∈ rest.map Prod.fst <;> simp [hm, ih]

theorem mem_insert {entries : Entries α} {key : String} {value : α} {entry : String × α}
    (h : entry ∈ insert entries key value) : entry ∈ entries ∨ entry = (key, value) := by
  induction entries with
  | nil => exact Or.inr (List.mem_singleton.mp h)
  | cons first rest ih =>
    obtain ⟨k, v⟩ := first
    by_cases hk : k = key
    · rw [insert, if_pos hk, List.mem_cons, hk] at h
      exact h.symm.imp_left (List.mem_cons_of_mem _)
    · rw [insert, if_neg hk, List.mem_cons] at h
      rcases h with rfl | h
      · exact Or.inl List.mem_cons_self
      · exact (ih h).imp_left (List.mem_cons_of_mem _)

theorem mem_insertAll {entries more : Entries α} {entry : String × α}
    (h : entry ∈ insertAll entries more) : entry ∈ entries ∨ entry ∈ more := by
  induction more generalizing entries with
  | nil => exact Or.inl h
  | cons first rest ih =>
    rcases ih h with hinsert | hrest
    · rcases mem_insert hinsert with hmem | rfl
      · exact Or.inl hmem
      · exact Or.inr List.mem_cons_self
    · exact Or.inr (List.mem_cons_of_mem _ hrest)

theorem nodup_keys_insert {entries : Entries α} (distinct : (keys entries).Nodup) (key : String)
    (value : α) : (keys (insert entries key value)).Nodup := by
  rw [keys_insert]
  split
  · exact distinct
  · next hnew => exact List.nodup_append.mpr ⟨distinct, by simp, by grind⟩

theorem has_iff_mem_keys (entries : Entries α) (key : String) :
    has entries key = true ↔ key ∈ keys entries := by
  induction entries with
  | nil => simp [has, find?, keys]
  | cons entry rest ih =>
    obtain ⟨k, v⟩ := entry
    by_cases h : k = key
    · simp [has, find?, keys, h]
    · have hk : key ≠ k := fun e => h e.symm
      simpa [has, find?, keys, h, hk] using ih

theorem find?_erase_self (entries : Entries α) (key : String) :
    find? (erase entries key) key = none := by
  induction entries with
  | nil => rfl
  | cons entry rest ih =>
    obtain ⟨k, v⟩ := entry
    by_cases h : k = key
    · simpa [erase, h] using ih
    · simpa [erase, h, find?] using ih

theorem find?_erase_of_ne (entries : Entries α) {key other : String}
    (hne : other ≠ key) : find? (erase entries key) other = find? entries other := by
  induction entries with
  | nil => rfl
  | cons entry rest ih =>
    obtain ⟨k, v⟩ := entry
    by_cases hk : k = key
    · have hother : k ≠ other := fun h => hne (h ▸ hk)
      have herase : erase ((k, v) :: rest) key = erase rest key := by simp [erase, hk]
      rw [herase, ih, find?, if_neg hother]
    · have herase : erase ((k, v) :: rest) key = (k, v) :: erase rest key := by simp [erase, hk]
      rw [herase, find?, find?, ih]

@[simp] theorem keys_append (entries more : Entries α) :
    keys (entries ++ more) = keys entries ++ keys more := by
  simp [keys]

theorem find?_eq_none_iff (entries : Entries α) (key : String) :
    find? entries key = none ↔ key ∉ keys entries := by
  rw [← has_iff_mem_keys, has]
  simp

theorem find?_eq_some_of_mem {entries : Entries α} {key : String} {value : α}
    (distinct : (keys entries).Nodup) (h : (key, value) ∈ entries) :
    find? entries key = some value := by
  induction entries with
  | nil => simp at h
  | cons entry rest ih =>
    obtain ⟨k, v⟩ := entry
    obtain ⟨hk, hrest⟩ := List.nodup_cons.mp distinct
    rcases List.mem_cons.mp h with he | h
    · obtain ⟨rfl, rfl⟩ := Prod.mk.inj he
      simp [find?]
    · have hne : k ≠ key := fun e => hk (List.mem_map.mpr ⟨_, h, e.symm⟩)
      rw [find?, if_neg hne, ih hrest h]

theorem mem_of_find?_eq_some {entries : Entries α} {key : String} {value : α}
    (h : find? entries key = some value) : (key, value) ∈ entries := by
  induction entries with
  | nil => simp [find?] at h
  | cons entry rest ih =>
    obtain ⟨k, v⟩ := entry
    by_cases hk : k = key
    · simp_all [find?]
    · rw [find?, if_neg hk] at h
      exact List.mem_cons_of_mem _ (ih h)

theorem find?_append_of_eq_some {entries : Entries α} {key : String} {value : α}
    (h : find? entries key = some value) (more : Entries α) :
    find? (entries ++ more) key = some value := by
  induction entries with
  | nil => cases h
  | cons entry rest ih =>
    obtain ⟨k, v⟩ := entry
    rw [List.cons_append]
    by_cases hk : k = key
    · rw [find?, if_pos hk] at h ⊢
      exact h
    · rw [find?, if_neg hk] at h ⊢
      exact ih h

/-- The order of entries with distinct keys does not matter to a look-up. -/
theorem find?_eq_of_perm {entries others : Entries α} (h : entries.Perm others)
    (distinct : (keys entries).Nodup) (key : String) : find? entries key = find? others key := by
  have hdistinct : (keys others).Nodup := ((h.map Prod.fst).nodup_iff).mp distinct
  cases hfind : find? entries key with
  | none =>
    have hkey : key ∉ keys entries := (find?_eq_none_iff _ _).mp hfind
    have hother : key ∉ keys others := mt ((h.map Prod.fst).mem_iff).mpr hkey
    exact ((find?_eq_none_iff _ _).mpr hother).symm
  | some value =>
    have hmem : (key, value) ∈ others := h.mem_iff.mp (mem_of_find?_eq_some hfind)
    exact (find?_eq_some_of_mem hdistinct hmem).symm

theorem find?_insertAll_of_notMem (entries : Entries α) {more : Entries α} {key : String}
    (h : key ∉ keys more) : find? (insertAll entries more) key = find? entries key := by
  induction more generalizing entries with
  | nil => rfl
  | cons entry rest ih =>
    obtain ⟨k, v⟩ := entry
    obtain ⟨hk, hrest⟩ := not_or.mp (mt List.mem_cons.mpr h)
    calc
      find? (insertAll (insert entries k v) rest) key = find? (insert entries k v) key :=
        ih _ hrest
      _ = find? entries key := find?_insert_of_ne _ _ hk

/-- Each entry of a table with distinct keys is there once all are inserted. -/
theorem find?_insertAll (entries : Entries α) {more : Entries α} {key : String} {value : α}
    (distinct : (keys more).Nodup) (h : find? more key = some value) :
    find? (insertAll entries more) key = some value := by
  induction more generalizing entries with
  | nil => cases h
  | cons entry rest ih =>
    obtain ⟨k, v⟩ := entry
    obtain ⟨hk, hrest⟩ := List.nodup_cons.mp distinct
    by_cases hkey : k = key
    · subst hkey
      rw [find?, if_pos rfl] at h
      calc
        find? (insertAll (insert entries k v) rest) k = find? (insert entries k v) k :=
          find?_insertAll_of_notMem _ hk
        _ = some v := find?_insert_self _ _ _
        _ = some value := h
    · rw [find?, if_neg hkey] at h
      exact ih _ hrest h

theorem keys_erase (entries : Entries α) (key : String) :
    keys (erase entries key) = (keys entries).filter (· ≠ key) := by
  simp [keys, erase, List.filter_map, Function.comp_def]

end Entries

end StackSynth
