import StackSynth.Proofs.Configuration.Loading
import StackSynth.Proofs.Configuration.Shape

namespace StackSynth

def HasKey (entries : List (Document × Document)) (key : String) : Prop :=
  ∃ content, (Document.string key, content) ∈ entries

def Complete (entries : List (Document × Document)) : Prop :=
  ∀ key ∈ ["team", "service", "environment", "region"], HasKey entries key

def FirstAbsent (entries : List (Document × Document)) (key : String) : Prop :=
  ∃ before after, ["team", "service", "environment", "region"] = before ++ key :: after ∧
    ¬ HasKey entries key ∧ ∀ earlier ∈ before, HasKey entries earlier

def FirstRepeated (names : List String) (name : String) : Prop :=
  ∃ before after, names = before ++ name :: after ∧ name ∈ before ∧ before.Nodup

/-- What a mapping must become as a configuration. -/
structure Decided (entries : List (Document × Document))
    (result : Except ConfigurationError Configuration) : Prop where
  isMapping : result ≠ .error .notAMapping
  /-- A missing key is reported whatever else is wrong. -/
  missingKey_iff : ∀ key, result = .error (.missingKey key) ↔ FirstAbsent entries key
  malformed_iff : (∃ cause, result = .error (.malformed cause)) ↔
    Complete entries ∧ ¬ WellShaped entries
  duplicate_iff : ∀ name, result = .error (.duplicateDeclaration name) ↔ Complete entries ∧
    ∃ configuration, IsRoot entries configuration ∧
      FirstRepeated (configuration.declarations.map Declaration.name) name
  ok_iff : ∀ configuration, result = .ok configuration ↔ Complete entries ∧
    IsRoot entries configuration ∧
      (configuration.declarations.map Declaration.name).Nodup

theorem hasKey_iff {entries : List (Document × Document)} {key : String} :
    Document.hasKey entries key = true ↔ HasKey entries key := by
  unfold Document.hasKey HasKey
  rw [List.any_eq_true]
  constructor
  · rintro ⟨⟨document, content⟩, hentry, hkey⟩
    dsimp only at hkey
    split at hkey
    · obtain rfl := of_decide_eq_true hkey
      exact ⟨content, hentry⟩
    · cases hkey
  · rintro ⟨content, hentry⟩
    exact ⟨_, hentry, decide_eq_true rfl⟩

section Keys

variable {entries : List (Document × Document)}

theorem find?_requiredKeys_eq_none_iff :
    (requiredKeys.find? fun key => !Document.hasKey entries key) = none ↔ Complete entries := by
  simp only [List.find?_eq_none, Bool.not_eq_true', Bool.not_eq_false, hasKey_iff]
  rfl

theorem find?_requiredKeys_eq_some_iff {key : String} :
    (requiredKeys.find? fun key => !Document.hasKey entries key) = some key ↔
      FirstAbsent entries key := by
  have habsent : (!Document.hasKey entries key) = true ↔ ¬ HasKey entries key := by
    rw [← hasKey_iff, Bool.not_eq_true', Bool.not_eq_true]
  simp only [List.find?_eq_some_iff_append, habsent, Bool.not_not, hasKey_iff]
  constructor
  · rintro ⟨hkey, before, after, hkeys, hbefore⟩
    exact ⟨before, after, hkeys, hkey, hbefore⟩
  · rintro ⟨before, after, hkeys, hkey, hbefore⟩
    exact ⟨hkey, before, after, hkeys, hbefore⟩

theorem FirstAbsent.not_complete {key : String} (h : FirstAbsent entries key) :
    ¬ Complete entries := by
  obtain ⟨before, after, hkeys, habsent, _⟩ := h
  intro hcomplete
  apply habsent
  apply hcomplete
  rw [hkeys]
  exact List.mem_append_right _ List.mem_cons_self

end Keys

/-- The scan finds the first name that was seen or stands there before. -/
theorem firstRepeated?_eq_some_iff {seen names : List String} {name : String} :
    firstRepeated? seen names = some name ↔ ∃ before after, names = before ++ name :: after ∧
      (name ∈ seen ∨ name ∈ before) ∧ before.Nodup ∧ ∀ other ∈ before, other ∉ seen := by
  induction names generalizing seen with
  | nil => simp [firstRepeated?]
  | cons first rest ih =>
    rw [firstRepeated?]
    by_cases hfirst : first ∈ seen
    · -- nothing can stand before the first name
      rw [if_pos (List.contains_iff_mem.mpr hfirst)]
      constructor
      · intro h
        obtain rfl := Option.some.inj h
        exact ⟨[], rest, rfl, .inl hfirst, List.nodup_nil, by simp⟩
      · rintro ⟨before, after, hnames, _, _, hnew⟩
        cases before with
        | nil => rw [(List.cons.inj hnames).1]
        | cons other before =>
          obtain rfl := (List.cons.inj hnames).1
          exact absurd hfirst (hnew first List.mem_cons_self)
    · rw [if_neg (mt List.contains_iff_mem.mp hfirst), ih]
      constructor
      · rintro ⟨before, after, rfl, hname, hdistinct, hnew⟩
        refine ⟨first :: before, after, rfl, ?_, ?_, ?_⟩ <;> grind
      · rintro ⟨before, after, hnames, hname, hdistinct, hnew⟩
        cases before with
        | nil =>
          obtain rfl := (List.cons.inj hnames).1
          simp [hfirst] at hname
        | cons other before =>
          obtain ⟨rfl, rfl⟩ := List.cons.inj hnames
          refine ⟨before, after, rfl, ?_, ?_, ?_⟩ <;> grind

theorem firstRepeated_iff {names : List String} {name : String} :
    firstRepeated? [] names = some name ↔ FirstRepeated names name := by
  rw [firstRepeated?_eq_some_iff, FirstRepeated]
  simp

theorem FirstRepeated.not_nodup {names : List String} {name : String}
    (h : FirstRepeated names name) : ¬ names.Nodup := by
  obtain ⟨before, after, rfl, hmem, _⟩ := h
  intro hdistinct
  exact (List.nodup_append.mp hdistinct).2.2 name hmem name List.mem_cons_self rfl

section Decided

variable {entries : List (Document × Document)}

theorem not_firstAbsent (complete : Complete entries) (key : String) : ¬ FirstAbsent entries key :=
  fun h => h.not_complete complete

/-- A root has one configuration in its fields at most. -/
theorem isRoot_iff_eq {configuration : Configuration} (h : readRoot entries = .ok configuration)
    {other : Configuration} : IsRoot entries other ↔ configuration = other := by
  rw [← readRoot_eq_ok_iff, h, Except.ok.injEq]

theorem decided_of_firstAbsent {key : String} (h : FirstAbsent entries key) :
    Decided entries (.error (.missingKey key)) where
  isMapping := by simp
  missingKey_iff := by
    intro other
    have hother : FirstAbsent entries other ↔ key = other := by
      rw [← find?_requiredKeys_eq_some_iff, find?_requiredKeys_eq_some_iff.mpr h,
        Option.some.injEq]
    rw [hother]
    simp
  malformed_iff := iff_of_false (by simp) fun hmalformed => h.not_complete hmalformed.1
  duplicate_iff _ := iff_of_false (by simp) fun hduplicate => h.not_complete hduplicate.1
  ok_iff _ := iff_of_false (by simp) fun hok => h.not_complete hok.1

theorem decided_of_malformed (complete : Complete entries) {cause : ShapeError}
    (h : readRoot entries = .error cause) : Decided entries (.error (.malformed cause)) := by
  have hnone : ∀ configuration, ¬ IsRoot entries configuration := by
    intro configuration hroot
    rw [← readRoot_eq_ok_iff, h] at hroot
    cases hroot
  exact
    { isMapping := by simp
      missingKey_iff := fun key => iff_of_false (by simp) (not_firstAbsent complete key)
      malformed_iff := by
        refine iff_of_true ⟨cause, rfl⟩ ⟨complete, ?_⟩
        rw [wellShaped_iff]
        rintro ⟨configuration, hroot⟩
        exact hnone configuration hroot
      duplicate_iff := by
        intro name
        refine iff_of_false (by simp) ?_
        rintro ⟨_, configuration, hroot, _⟩
        exact hnone configuration hroot
      ok_iff := fun configuration => iff_of_false (by simp) fun hok =>
        hnone configuration hok.2.1 }

section Read

variable {configuration : Configuration}

theorem not_malformed (h : readRoot entries = .ok configuration) :
    ¬ (Complete entries ∧ ¬ WellShaped entries) := by
  rintro ⟨_, hmisshapen⟩
  exact hmisshapen (wellShaped_iff.mpr ⟨configuration, readRoot_eq_ok_iff.mp h⟩)

theorem decided_of_firstRepeated (complete : Complete entries)
    (h : readRoot entries = .ok configuration) {name : String}
    (hname : FirstRepeated (configuration.declarations.map Declaration.name) name) :
    Decided entries (.error (.duplicateDeclaration name)) where
  isMapping := by simp
  missingKey_iff key := iff_of_false (by simp) (not_firstAbsent complete key)
  malformed_iff := iff_of_false (by simp) (not_malformed h)
  duplicate_iff := by
    intro other
    have hother : FirstRepeated (configuration.declarations.map Declaration.name) other ↔
        name = other := by
      rw [← firstRepeated_iff, firstRepeated_iff.mpr hname, Option.some.injEq]
    simp [complete, isRoot_iff_eq h, hother]
  ok_iff := by
    intro other
    refine iff_of_false (by simp) ?_
    rintro ⟨_, hroot, hdistinct⟩
    obtain rfl := (isRoot_iff_eq h).mp hroot
    exact hname.not_nodup hdistinct

theorem decided_of_nodup (complete : Complete entries) (h : readRoot entries = .ok configuration)
    (hdistinct : (configuration.declarations.map Declaration.name).Nodup) :
    Decided entries (.ok configuration) where
  isMapping := by simp
  missingKey_iff key := iff_of_false (by simp) (not_firstAbsent complete key)
  malformed_iff := iff_of_false (by simp) (not_malformed h)
  duplicate_iff := by
    intro name
    refine iff_of_false (by simp) ?_
    rintro ⟨_, other, hroot, hrepeated⟩
    obtain rfl := (isRoot_iff_eq h).mp hroot
    exact hrepeated.not_nodup hdistinct
  ok_iff := by
    intro other
    rw [isRoot_iff_eq h, Except.ok.injEq]
    constructor
    · rintro rfl
      exact ⟨complete, rfl, hdistinct⟩
    · rintro ⟨_, hsame, _⟩
      exact hsame

end Read

end Decided

/-- Every document that is no mapping is refused for that, and every mapping is decided on by what
is missing in it, then by what its fields are, and then by the names of its declarations. -/
theorem Configuration.ofDocument_decided :
    (∀ document, Configuration.ofDocument document = .error .notAMapping ↔
      ∀ entries, document ≠ .mapping entries) ∧
    ∀ entries, Decided entries (Configuration.ofDocument (.mapping entries)) := by
  have hmapping : ∀ entries, Decided entries (Configuration.ofDocument (.mapping entries)) := by
    intro entries
    rw [ofDocument]
    split
    · next key hkey => exact decided_of_firstAbsent (find?_requiredKeys_eq_some_iff.mp hkey)
    · next hkeys =>
      have hcomplete : Complete entries := find?_requiredKeys_eq_none_iff.mp hkeys
      split
      · next cause hread => exact decided_of_malformed hcomplete hread
      · next configuration hread =>
        split
        · next name hrepeated =>
          exact decided_of_firstRepeated hcomplete hread (firstRepeated_iff.mp hrepeated)
        · next hrepeated =>
          exact decided_of_nodup hcomplete hread (firstRepeated?_eq_none_iff.mp hrepeated).1
  refine ⟨?_, hmapping⟩
  intro document
  cases document with
  | mapping entries => exact iff_of_false (hmapping entries).isMapping (by simp)
  | null | boolean _ | integer _ | decimal _ | string _ | sequence _ | tagged _ _ =>
    exact iff_of_true rfl (by simp)

/-- A region is missing, so nothing is said of the team that is no text and of the lists. -/
example : Configuration.ofDocument (.mapping [(.string "team", .null),
      (.string "service", .string "shop"), (.string "environment", .string "dev"),
      (.tagged "!t" (.string "region"), .sequence []), (.string "aws_resources", .mapping [])]) =
    .error (.missingKey "region") := by
  rfl

end StackSynth
