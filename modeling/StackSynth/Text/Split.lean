namespace StackSynth.Text

/-- What stands before and after the first `separator`, if there is one. -/
def cutFirst? (separator : Char) : List Char → Option (List Char × List Char)
  | [] => none
  | c :: rest =>
    if c = separator then some ([], rest)
    else (cutFirst? separator rest).map fun (before, after) => (c :: before, after)

/-- The pieces between the separators, one more than there are separators. -/
def segments (separator : Char) : List Char → List (List Char)
  | [] => [[]]
  | c :: rest =>
    if c = separator then [] :: segments separator rest
    else match segments separator rest with
      | [] => [[c]]
      | piece :: pieces => (c :: piece) :: pieces

theorem cutFirst?_eq_some {separator : Char} {cs before after : List Char}
    (h : cutFirst? separator cs = some (before, after)) :
    cs = before ++ separator :: after ∧ separator ∉ before := by
  induction cs generalizing before after with
  | nil => simp [cutFirst?] at h
  | cons c rest ih =>
    by_cases hc : c = separator
    · simp only [cutFirst?, hc, if_true, Option.some.injEq, Prod.mk.injEq] at h
      obtain ⟨rfl, rfl⟩ := h
      simp [hc]
    · simp only [cutFirst?, hc, if_false, Option.map_eq_some_iff] at h
      obtain ⟨⟨b, a⟩, hr, he⟩ := h
      obtain ⟨rfl, rfl⟩ := Prod.mk.inj he
      obtain ⟨hcs, hb⟩ := ih hr
      exact ⟨by simp [hcs], by simp [Ne.symm hc, hb]⟩

theorem cutFirst?_eq_none_iff {separator : Char} {cs : List Char} :
    cutFirst? separator cs = none ↔ separator ∉ cs := by
  induction cs with
  | nil => simp [cutFirst?]
  | cons c rest ih =>
    by_cases hc : c = separator
    · simp [cutFirst?, hc]
    · simp [cutFirst?, hc, ih, Ne.symm hc]

theorem cutFirst?_append_cons {separator : Char} {before : List Char} (after : List Char)
    (h : separator ∉ before) :
    cutFirst? separator (before ++ separator :: after) = some (before, after) := by
  induction before with
  | nil => rw [List.nil_append, cutFirst?, if_pos rfl]
  | cons c before ih =>
    obtain ⟨hc, hbefore⟩ := not_or.mp (mt List.mem_cons.mpr h)
    rw [List.cons_append, cutFirst?, if_neg fun e => hc e.symm, ih hbefore, Option.map_some]

theorem segments_ne_nil (separator : Char) (cs : List Char) : segments separator cs ≠ [] := by
  cases cs with
  | nil => simp [segments]
  | cons c rest =>
    simp only [segments]
    split
    · simp
    · split <;> simp

theorem intercalate_segments (separator : Char) (cs : List Char) :
    [separator].intercalate (segments separator cs) = cs := by
  induction cs with
  | nil => rfl
  | cons c rest ih =>
    by_cases hc : c = separator
    · have hne := segments_ne_nil separator rest
      obtain ⟨piece, pieces, hs⟩ := List.exists_cons_of_ne_nil hne
      rw [hs] at ih
      simp [segments, hc, hs, List.intercalate_cons_cons, ih]
    · rw [segments, if_neg hc]
      split
      · next h => exact absurd h (segments_ne_nil separator rest)
      · next piece pieces hs =>
        rw [hs] at ih
        cases pieces with
        | nil => simpa using ih
        | cons next more => simpa [List.intercalate_cons_cons] using ih

theorem exists_mem_segments {separator c : Char} {cs : List Char} (h : c ∈ cs)
    (hne : c ≠ separator) : ∃ piece ∈ segments separator cs, c ∈ piece := by
  induction cs with
  | nil => cases h
  | cons d rest ih =>
    obtain ⟨piece, pieces, hsegments⟩ :=
      List.exists_cons_of_ne_nil (segments_ne_nil separator rest)
    rw [hsegments] at ih
    rw [segments, hsegments]
    split
    · next hd =>
      have hrest : c ∈ rest := List.mem_of_ne_of_mem (fun heq => hne (heq.trans hd)) h
      obtain ⟨found, hfound, hc⟩ := ih hrest
      exact ⟨found, List.mem_cons_of_mem _ hfound, hc⟩
    · rcases List.mem_cons.mp h with rfl | hrest
      · exact ⟨_, List.mem_cons_self, List.mem_cons_self⟩
      · obtain ⟨found, hfound, hc⟩ := ih hrest
        rcases List.mem_cons.mp hfound with rfl | hfound
        · exact ⟨_, List.mem_cons_self, List.mem_cons_of_mem _ hc⟩
        · exact ⟨found, List.mem_cons_of_mem _ hfound, hc⟩

theorem segments_of_notMem {separator : Char} {cs : List Char} (h : separator ∉ cs) :
    segments separator cs = [cs] := by
  induction cs with
  | nil => rfl
  | cons c rest ih =>
    obtain ⟨hc, hrest⟩ := not_or.mp (mt List.mem_cons.mpr h)
    rw [segments, if_neg fun e => hc e.symm, ih hrest]

theorem segments_append_cons {separator : Char} {piece : List Char} (rest : List Char)
    (h : separator ∉ piece) :
    segments separator (piece ++ separator :: rest) = piece :: segments separator rest := by
  induction piece with
  | nil => rw [List.nil_append, segments, if_pos rfl]
  | cons c piece ih =>
    obtain ⟨hc, hpiece⟩ := not_or.mp (mt List.mem_cons.mpr h)
    rw [List.cons_append, segments, if_neg fun e => hc e.symm, ih hpiece]

/-- There is only one way to write a text as pieces without the separator. -/
theorem segments_intercalate {separator : Char} {pieces : List (List Char)} (hne : pieces ≠ [])
    (h : ∀ piece ∈ pieces, separator ∉ piece) :
    segments separator ([separator].intercalate pieces) = pieces := by
  induction pieces with
  | nil => exact absurd rfl hne
  | cons piece rest ih =>
    have hpiece : separator ∉ piece := h piece List.mem_cons_self
    cases rest with
    | nil =>
      rw [List.intercalate_singleton]
      exact segments_of_notMem hpiece
    | cons next more =>
      have hmore : ∀ other ∈ next :: more, separator ∉ other :=
        fun other hother => h other (List.mem_cons_of_mem _ hother)
      rw [List.intercalate_cons_cons, List.append_assoc, List.singleton_append,
        segments_append_cons _ hpiece, ih (List.cons_ne_nil _ _) hmore]

end StackSynth.Text
