import StackSynth.Proofs.Resolution.Leaves
/-!
Resolution as a substitution. Main statement: a value resolves exactly if each of its markers does
on its own, and then to the same value with its markers replaced and nothing else changed; else it
fails with the error of the first marker of a walk that does not. The warnings are those of the
strings up to there, one after another.
-/
namespace StackSynth

mutual

/-- A value with a value in the place of each string. Keys of objects stay as they are. -/
def Value.replaceStrings (leaf : String → Value) : Value → Value
  | .string s => leaf s
  | .array items => .array (replaceItems leaf items)
  | .object entries => .object (replaceEntries leaf entries)
  | .null => .null
  | .boolean b => .boolean b
  | .integer n => .integer n
  | .decimal d => .decimal d
termination_by structural value => value

def replaceItems (leaf : String → Value) : List Value → List Value
  | [] => []
  | item :: rest => item.replaceStrings leaf :: replaceItems leaf rest
termination_by structural items => items

def replaceEntries (leaf : String → Value) : List (String × Value) → Object
  | [] => []
  | (key, content) :: rest => (key, content.replaceStrings leaf) :: replaceEntries leaf rest
termination_by structural entries => entries

end

/-- What a string is replaced by: a marker by what it resolves to, a literal by itself. -/
def replacement (registry : Registry) (s : String) : Value :=
  match Marker.parse? s with
  | none => .string s
  | some marker =>
    match (marker.resolve registry).result with
    | .ok value => value
    | .error _ => .string s

/-- The warnings about a string: one for a secret, and one for an attribute that a resource does not
have directly. -/
def warningsAbout (registry : Registry) (s : String) : List String :=
  match Marker.parse? s with
  | none => []
  | some (.secret key) => [s!"Secret references like {key} are not fully implemented"]
  | some (.reference resource path) =>
    match (registry.find? resource).map (·.direct? path) with
    | some none => [s!"Attribute '{path}' not found directly on resource '{resource}'"]
    | _ => []

def Replaceable (registry : Registry) (s : String) : Prop :=
  ∀ marker, Marker.parse? s = some marker → ∃ value, (marker.resolve registry).result = .ok value

def FailsWith (registry : Registry) (s : String) (e : ResolveError) : Prop :=
  ∃ marker, Marker.parse? s = some marker ∧ (marker.resolve registry).result = .error e

/-- What must come of a value and of the messages so far. -/
structure LeafByLeaf (registry : Registry) (value : Value) (before : Diagnostics)
    (result : Except ResolveError Value) (after : Diagnostics) : Prop where
  ok_iff : (∃ resolved, result = .ok resolved) ↔ ∀ s ∈ value.strings, Replaceable registry s
  resolved_eq : ∀ resolved, result = .ok resolved →
    resolved = value.replaceStrings (replacement registry)
  /-- The first marker that fails is the one to blame. -/
  error_iff : ∀ e, result = .error e ↔ ∃ earlier s later,
    value.strings = earlier ++ s :: later ∧ (∀ t ∈ earlier, Replaceable registry t) ∧
      FailsWith registry s e
  warnings_of_ok : (∀ s ∈ value.strings, Replaceable registry s) → after.entries =
    before.entries ++ (value.strings.flatMap (warningsAbout registry)).map
      (⟨.warning, before.subject, ·⟩)
  /-- There are none about the strings behind the first one that fails. -/
  warnings_of_error : ∀ earlier s later e, value.strings = earlier ++ s :: later →
    (∀ t ∈ earlier, Replaceable registry t) → FailsWith registry s e → after.entries =
      before.entries ++ ((earlier ++ [s]).flatMap (warningsAbout registry)).map
        (⟨.warning, before.subject, ·⟩)
  subject_eq : after.subject = before.subject
  /-- What has no markers is not touched, and there is nothing to say about it. -/
  unchanged : (∀ s ∈ value.strings, Marker.parse? s = none) → result = .ok value ∧ after = before

/-- The strings up to the first one that does not resolve, this one included. -/
def readStrings (registry : Registry) : List String → List String
  | [] => []
  | s :: rest =>
    if (resolveString registry s).failure?.isSome then [s] else s :: readStrings registry rest

/-- The resolution that strings lead to, one after another, with a result if all of them resolve. -/
def walked {α : Type} (registry : Registry) (strings : List String) (a : α) : Resolution α :=
  ⟨(readStrings registry strings).flatMap (warningsAbout registry),
    match firstFailure? registry strings with
    | some e => .error e
    | none => .ok a⟩

section Strings

variable {registry : Registry}

theorem readStrings_append_of_eq_none {strings : List String}
    (h : firstFailure? registry strings = none) (later : List String) :
    readStrings registry (strings ++ later) = strings ++ readStrings registry later := by
  induction strings with
  | nil => rfl
  | cons s rest ih =>
    cases hs : (resolveString registry s).failure? with
    | some _ => simp [firstFailure?, hs] at h
    | none =>
      have hrest : firstFailure? registry rest = none := by
        simpa [firstFailure?, hs] using h
      simp [readStrings, hs, ih hrest]

theorem readStrings_append_of_eq_some {strings : List String} {e : ResolveError}
    (h : firstFailure? registry strings = some e) (later : List String) :
    readStrings registry (strings ++ later) = readStrings registry strings := by
  induction strings with
  | nil => cases h
  | cons s rest ih =>
    cases hs : (resolveString registry s).failure? with
    | some _ => simp [readStrings, hs]
    | none =>
      have hrest : firstFailure? registry rest = some e := by
        simpa [firstFailure?, hs] using h
      simp [readStrings, hs, ih hrest]

theorem readStrings_of_eq_none {strings : List String}
    (h : firstFailure? registry strings = none) : readStrings registry strings = strings := by
  have happend := readStrings_append_of_eq_none h []
  rwa [List.append_nil, readStrings, List.append_nil] at happend

theorem walked_map {α β : Type} (strings : List String) (a : α) (f : α → β) :
    (walked registry strings a).map f = walked registry strings (f a) := by
  unfold walked Resolution.map
  cases firstFailure? registry strings <;> rfl

theorem walked_andThen_map {α β γ : Type} (strings others : List String) (a : α) (b : β)
    (f : α → β → γ) :
    ((walked registry strings a).andThen fun x => (walked registry others b).map (f x)) =
      walked registry (strings ++ others) (f a b) := by
  cases h : firstFailure? registry strings with
  | some e =>
    have hread := readStrings_append_of_eq_some h others
    simp [walked, Resolution.andThen, h, hread]
  | none =>
    have hread := readStrings_append_of_eq_none h others
    have hall := readStrings_of_eq_none h
    simp only [walked, Resolution.andThen, Resolution.map, h, hread, hall, List.flatMap_append,
      firstFailure?_append, Option.none_or]
    cases firstFailure? registry others <;> rfl

theorem resolveString_eq_walked (s : String) :
    resolveString registry s = walked registry [s] (replacement registry s) := by
  have hread : readStrings registry [s] = [s] := by
    unfold readStrings
    split <;> rfl
  have hwarnings : (resolveString registry s).warnings = warningsAbout registry s := by
    unfold resolveString warningsAbout
    cases Marker.parse? s with
    | none => rfl
    | some marker =>
      cases marker with
      | secret key => rfl
      | reference resource path =>
        simp only [Marker.resolve]
        cases registry.find? resource with
        | none => rfl
        | some handle => cases hdirect : handle.direct? path <;> simp [hdirect, Resolution.done]
  have hresult : ∀ value, (resolveString registry s).result = .ok value →
      value = replacement registry s := by
    intro value h
    unfold resolveString at h
    unfold replacement
    cases hparse : Marker.parse? s with
    | none => simpa [hparse, Resolution.done, eq_comm] using h
    | some marker =>
      have hmarker : (marker.resolve registry).result = .ok value := by simpa [hparse] using h
      simp [hmarker]
  cases hresolve : resolveString registry s with
  | mk warnings result =>
    rw [hresolve] at hwarnings hresult
    have hwarned : warnings = warningsAbout registry s := hwarnings
    cases result with
    | error e => simp [walked, hread, hwarned, firstFailure?, hresolve, Resolution.failure?]
    | ok value =>
      obtain rfl := hresult value rfl
      simp [walked, hread, hwarned, firstFailure?, hresolve, Resolution.failure?]

theorem replaceable_iff {s : String} :
    Replaceable registry s ↔ (resolveString registry s).failure? = none := by
  rw [Resolution.failure?_eq_none_iff]
  unfold Replaceable resolveString
  cases Marker.parse? s with
  | none => simp [Resolution.done]
  | some marker => simp

theorem failsWith_iff {s : String} {e : ResolveError} :
    FailsWith registry s e ↔ (resolveString registry s).failure? = some e := by
  rw [Resolution.failure?_eq_some_iff]
  unfold FailsWith resolveString
  cases Marker.parse? s with
  | none => simp [Resolution.done]
  | some marker => simp

theorem firstFailure?_eq_none_iff {strings : List String} :
    firstFailure? registry strings = none ↔ ∀ s ∈ strings, Replaceable registry s := by
  simp only [firstFailure?, List.findSome?_eq_none_iff, replaceable_iff]

theorem firstFailure?_eq_some_iff {strings : List String} {e : ResolveError} :
    firstFailure? registry strings = some e ↔ ∃ earlier s later,
      strings = earlier ++ s :: later ∧ (∀ t ∈ earlier, Replaceable registry t) ∧
        FailsWith registry s e := by
  simp only [firstFailure?, List.findSome?_eq_some_iff, replaceable_iff, failsWith_iff, and_comm]

end Strings

mutual

/-- A value is resolved by a walk through its strings. -/
theorem resolve_eq_walked (registry : Registry) (value : Value) :
    value.resolve registry =
      walked registry value.strings (value.replaceStrings (replacement registry)) := by
  cases value with
  | string s => exact resolveString_eq_walked s
  | array items =>
    rw [Value.resolve, resolveItems_eq_walked registry items, walked_map]
    rfl
  | object entries =>
    rw [Value.resolve, resolveEntries_eq_walked registry entries, walked_map]
    rfl
  | null | boolean _ | integer _ | decimal _ => rfl
termination_by structural value

theorem resolveItems_eq_walked (registry : Registry) (items : List Value) :
    resolveItems registry items =
      walked registry (itemStrings items) (replaceItems (replacement registry) items) := by
  cases items with
  | nil => rfl
  | cons item rest =>
    rw [resolveItems, resolve_eq_walked registry item, resolveItems_eq_walked registry rest]
    exact walked_andThen_map _ _ _ _ _
termination_by structural items

theorem resolveEntries_eq_walked (registry : Registry) (entries : List (String × Value)) :
    resolveEntries registry entries =
      walked registry (entryStrings entries) (replaceEntries (replacement registry) entries) := by
  cases entries with
  | nil => rfl
  | cons entry rest =>
    obtain ⟨key, content⟩ := entry
    rw [resolveEntries, resolve_eq_walked registry content, resolveEntries_eq_walked registry rest]
    exact walked_andThen_map _ _ _ _ fun value values => (key, value) :: values
termination_by structural entries

end

mutual

theorem replaceStrings_eq_self {leaf : String → Value} (value : Value)
    (h : ∀ s ∈ value.strings, leaf s = .string s) : value.replaceStrings leaf = value := by
  cases value with
  | string s => exact h s (by simp [Value.strings])
  | array items => rw [Value.replaceStrings, replaceItems_eq_self items h]
  | object entries => rw [Value.replaceStrings, replaceEntries_eq_self entries h]
  | null | boolean _ | integer _ | decimal _ => rfl
termination_by structural value

theorem replaceItems_eq_self {leaf : String → Value} (items : List Value)
    (h : ∀ s ∈ itemStrings items, leaf s = .string s) : replaceItems leaf items = items := by
  cases items with
  | nil => rfl
  | cons item rest =>
    have hitem := replaceStrings_eq_self item fun s hs => h s (by simp [itemStrings, hs])
    have hrest := replaceItems_eq_self rest fun s hs => h s (by simp [itemStrings, hs])
    rw [replaceItems, hitem, hrest]
termination_by structural items

theorem replaceEntries_eq_self {leaf : String → Value} (entries : List (String × Value))
    (h : ∀ s ∈ entryStrings entries, leaf s = .string s) :
    replaceEntries leaf entries = entries := by
  cases entries with
  | nil => rfl
  | cons entry rest =>
    obtain ⟨key, content⟩ := entry
    have hcontent := replaceStrings_eq_self content fun s hs => h s (by simp [entryStrings, hs])
    have hrest := replaceEntries_eq_self rest fun s hs => h s (by simp [entryStrings, hs])
    rw [replaceEntries, hcontent, hrest]
termination_by structural entries

end

/-- Resolving a value replaces its markers one by one in the order of a walk, stops at the first
that does not resolve, and warns about those it has read. -/
theorem Value.resolve_leafByLeaf (registry : Registry) (value : Value) (diagnostics : Diagnostics) :
    LeafByLeaf registry value diagnostics (value.resolve registry).result
      (diagnostics.warnAll (value.resolve registry).warnings) := by
  have hwarnings : (value.resolve registry).warnings =
      (readStrings registry value.strings).flatMap (warningsAbout registry) := by
    rw [resolve_eq_walked, walked]
  have hresult : ∀ resolved, (value.resolve registry).result = .ok resolved ↔
      firstFailure? registry value.strings = none ∧
        resolved = value.replaceStrings (replacement registry) := by
    intro resolved
    rw [resolve_eq_walked, walked]
    cases firstFailure? registry value.strings <;> simp [eq_comm]
  refine
    { ok_iff := ?_
      resolved_eq := fun resolved h => ((hresult resolved).mp h).2
      error_iff := ?_
      warnings_of_ok := ?_
      warnings_of_error := ?_
      subject_eq := Diagnostics.subject_warnAll _ _
      unchanged := ?_ }
  · rw [← firstFailure?_eq_none_iff]
    constructor
    · rintro ⟨resolved, h⟩
      exact ((hresult resolved).mp h).1
    · intro h
      exact ⟨_, (hresult _).mpr ⟨h, rfl⟩⟩
  · intro e
    rw [← firstFailure?_eq_some_iff, ← failure?_resolve, Resolution.failure?_eq_some_iff]
  · intro h
    rw [Diagnostics.entries_warnAll, hwarnings,
      readStrings_of_eq_none (firstFailure?_eq_none_iff.mpr h)]
  · intro earlier s later e hstrings hearlier hfails
    -- the walk reads the strings before, then the one that fails, and stops
    have hlast : readStrings registry (s :: later) = [s] := by
      rw [readStrings, failsWith_iff.mp hfails]
      rfl
    have hread : readStrings registry value.strings = earlier ++ [s] := by
      rw [hstrings, readStrings_append_of_eq_none (firstFailure?_eq_none_iff.mpr hearlier), hlast]
    rw [Diagnostics.entries_warnAll, hwarnings, hread]
  · intro h
    have hall : ∀ s ∈ value.strings, Replaceable registry s := by
      intro s hs marker hmarker
      rw [h s hs] at hmarker
      cases hmarker
    have hnone : firstFailure? registry value.strings = none := firstFailure?_eq_none_iff.mpr hall
    have hself : value.replaceStrings (replacement registry) = value :=
      replaceStrings_eq_self value fun s hs => by simp [replacement, h s hs]
    have hsilent : value.strings.flatMap (warningsAbout registry) = [] :=
      List.flatMap_eq_nil_iff.mpr fun s hs => by simp [warningsAbout, h s hs]
    constructor
    · exact (hresult value).mpr ⟨hnone, hself.symm⟩
    · rw [hwarnings, readStrings_of_eq_none hnone, hsilent]
      rfl

end StackSynth
