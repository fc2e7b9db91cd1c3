import StackSynth.Configuration.Load

namespace StackSynth

theorem firstRepeated?_eq_none_iff {seen names : List String} :
    firstRepeated? seen names = none ↔ names.Nodup ∧ ∀ name ∈ names, name ∉ seen := by
  induction names generalizing seen with
  | nil => simp [firstRepeated?]
  | cons name rest ih =>
    rw [firstRepeated?, List.nodup_cons, List.forall_mem_cons]
    by_cases hname : name ∈ seen
    · rw [if_pos (List.contains_iff_mem.mpr hname)]
      exact iff_of_false (by simp) fun h => h.2.1 hname
    · rw [if_neg (mt List.contains_iff_mem.mp hname), ih]
      constructor
      · rintro ⟨hrest, hseen⟩
        have hnotMem : name ∉ rest := fun h => hseen name h (by simp)
        exact ⟨⟨hnotMem, hrest⟩, hname, fun other hother h => hseen other hother (by simp [h])⟩
      · rintro ⟨⟨hnotMem, hrest⟩, _, hseen⟩
        refine ⟨hrest, fun other hother h => ?_⟩
        rcases List.mem_append.mp h with h | h
        · exact hseen other hother h
        · obtain rfl : other = name := by simpa using h
          exact hnotMem hother

/-- What it takes for a document to be a configuration. -/
theorem Configuration.ofDocument_eq_ok_iff {document : Document} {configuration : Configuration} :
    Configuration.ofDocument document = .ok configuration ↔
      ∃ entries, document = .mapping entries ∧
        (∀ key ∈ requiredKeys, Document.hasKey entries key = true) ∧
        readRoot entries = .ok configuration ∧
        firstRepeated? [] (configuration.declarations.map Declaration.name) = none := by
  cases document with
  | mapping entries =>
    unfold ofDocument
    simp only [Document.mapping.injEq, exists_eq_left']
    have hkeys : (requiredKeys.find? fun key => !Document.hasKey entries key) = none ↔
        ∀ key ∈ requiredKeys, Document.hasKey entries key = true := by
      simp [List.find?_eq_none]
    constructor
    · intro h
      split at h
      · cases h
      · next hmissing =>
        split at h
        · cases h
        · next loaded hread =>
          split at h
          · cases h
          · next hrepeated =>
            obtain rfl := Except.ok.inj h
            exact ⟨hkeys.mp hmissing, hread, hrepeated⟩
    · rintro ⟨hall, hread, hrepeated⟩
      have hnone : firstRepeated? [] (configuration.declarations.map (·.name)) = none := hrepeated
      simp only [hkeys.mpr hall, hread, hnone]
  | null | boolean _ | integer _ | decimal _ | string _ | sequence _ | tagged _ _ =>
    simp [ofDocument]

/-- The declarations of a configuration have pairwise distinct names. -/
theorem Configuration.names_nodup {document : Document} {configuration : Configuration}
    (h : Configuration.ofDocument document = .ok configuration) :
    (configuration.declarations.map Declaration.name).Nodup := by
  obtain ⟨_, _, _, _, hrepeated⟩ := ofDocument_eq_ok_iff.mp h
  exact (firstRepeated?_eq_none_iff.mp hrepeated).1

end StackSynth
