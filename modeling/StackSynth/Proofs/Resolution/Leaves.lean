import StackSynth.Resolution
/-!
Resolution string by string. A value fails to resolve exactly if one of its strings does, and with
the error of the first that does. What a registry contributes is what it knows of the names that
the strings refer to.
-/
namespace StackSynth

namespace Resolution

variable {α β γ : Type}

def failure? (r : Resolution α) : Option ResolveError :=
  match r.result with
  | .error e => some e
  | .ok _ => none

theorem failure?_eq_some_iff {r : Resolution α} {e : ResolveError} :
    r.failure? = some e ↔ r.result = .error e := by
  unfold failure?
  split <;> simp_all

theorem failure?_eq_none_iff {r : Resolution α} :
    r.failure? = none ↔ ∃ a, r.result = .ok a := by
  unfold failure?
  split <;> simp_all

@[simp] theorem failure?_done (a : α) : (done a).failure? = none := rfl

@[simp] theorem failure?_map (f : α → β) (r : Resolution α) :
    (r.map f).failure? = r.failure? := by
  obtain ⟨_, _ | _⟩ := r <;> rfl

/-- The first failure wins, since the second step does not depend on the value of the first. -/
@[simp] theorem failure?_andThen_map (r : Resolution α) (next : Resolution β) (f : α → β → γ) :
    (r.andThen fun a => next.map (f a)).failure? = r.failure?.or next.failure? := by
  obtain ⟨_, _ | _⟩ := r <;> obtain ⟨_, _ | _⟩ := next <;> rfl

end Resolution

def firstFailure? (registry : Registry) (strings : List String) : Option ResolveError :=
  strings.findSome? fun s => (resolveString registry s).failure?

@[simp] theorem firstFailure?_append (registry : Registry) (before after : List String) :
    firstFailure? registry (before ++ after) =
      (firstFailure? registry before).or (firstFailure? registry after) :=
  List.findSome?_append

mutual

/-- A value fails with the first of its strings that fails. -/
theorem failure?_resolve (registry : Registry) (value : Value) :
    (value.resolve registry).failure? = firstFailure? registry value.strings := by
  cases value with
  | string s => simp [Value.resolve, Value.strings, firstFailure?]
  | array items => simpa [Value.resolve, Value.strings] using failure?_resolveItems registry items
  | object entries =>
    simpa [Value.resolve, Value.strings] using failure?_resolveEntries registry entries
  | null | boolean _ | integer _ | decimal _ => rfl
termination_by structural value

theorem failure?_resolveItems (registry : Registry) (items : List Value) :
    (resolveItems registry items).failure? = firstFailure? registry (itemStrings items) := by
  cases items with
  | nil => rfl
  | cons item rest =>
    simp only [resolveItems, itemStrings, Resolution.failure?_andThen_map, firstFailure?_append]
    rw [failure?_resolve registry item, failure?_resolveItems registry rest]
termination_by structural items

theorem failure?_resolveEntries (registry : Registry) (entries : List (String × Value)) :
    (resolveEntries registry entries).failure? = firstFailure? registry (entryStrings entries) := by
  cases entries with
  | nil => rfl
  | cons entry rest =>
    obtain ⟨key, content⟩ := entry
    simp only [resolveEntries, entryStrings, Resolution.failure?_andThen_map, firstFailure?_append]
    rw [failure?_resolve registry content, failure?_resolveEntries registry rest]
termination_by structural entries

end

mutual

theorem resolve_congr {first second : Registry} (value : Value)
    (h : ∀ s ∈ value.strings, resolveString first s = resolveString second s) :
    value.resolve first = value.resolve second := by
  cases value with
  | string s => exact h s (by simp [Value.strings])
  | array items =>
    rw [Value.resolve, Value.resolve, resolveItems_congr items h]
  | object entries =>
    rw [Value.resolve, Value.resolve, resolveEntries_congr entries h]
  | null | boolean _ | integer _ | decimal _ => rfl
termination_by structural value

theorem resolveItems_congr {first second : Registry} (items : List Value)
    (h : ∀ s ∈ itemStrings items, resolveString first s = resolveString second s) :
    resolveItems first items = resolveItems second items := by
  cases items with
  | nil => rfl
  | cons item rest =>
    have hitem := resolve_congr item fun s hs => h s (by simp [itemStrings, hs])
    have hrest := resolveItems_congr rest fun s hs => h s (by simp [itemStrings, hs])
    rw [resolveItems, resolveItems, hitem, hrest]
termination_by structural items

theorem resolveEntries_congr {first second : Registry} (entries : List (String × Value))
    (h : ∀ s ∈ entryStrings entries, resolveString first s = resolveString second s) :
    resolveEntries first entries = resolveEntries second entries := by
  cases entries with
  | nil => rfl
  | cons entry rest =>
    obtain ⟨key, content⟩ := entry
    have hcontent := resolve_congr content fun s hs => h s (by simp [entryStrings, hs])
    have hrest := resolveEntries_congr rest fun s hs => h s (by simp [entryStrings, hs])
    rw [resolveEntries, resolveEntries, hcontent, hrest]
termination_by structural entries

end

theorem mem_addName {names : List String} {name other : String} :
    other ∈ addName names name ↔ other ∈ names ∨ other = name := by
  unfold addName
  split
  · next h =>
    have hmem : name ∈ names := by simpa using h
    exact ⟨Or.inl, fun h => h.elim id fun e => e ▸ hmem⟩
  · simp

theorem mem_referencedNames {strings : List String} {name : String} :
    name ∈ referencedNames strings ↔
      ∃ s ∈ strings, ∃ path, Marker.parse? s = some (.reference name path) := by
  have hnil : (∃ s ∈ strings, ∃ path, Marker.parse? s = some (.reference name path)) ↔
      name ∈ ([] : List String) ∨
        ∃ s ∈ strings, ∃ path, Marker.parse? s = some (.reference name path) := by simp
  rw [hnil, referencedNames]
  clear hnil
  -- the fold carries the names met so far
  generalize ([] : List String) = names
  induction strings generalizing names with
  | nil => simp
  | cons s rest ih =>
    refine (ih _).trans ?_
    dsimp only
    split
    · next resource path hs =>
      have hname : (∃ p, Marker.parse? s = some (.reference name p)) ↔ name = resource := by
        simp [hs, eq_comm]
      simp only [mem_addName, List.mem_cons, exists_eq_or_imp, hname, or_assoc]
    · next hs =>
      have hnone : ¬ ∃ p, Marker.parse? s = some (.reference name p) :=
        fun ⟨p, hp⟩ => hs name p hp
      simp [hnone]

theorem resolveString_congr {first second : Registry} {s : String}
    (h : ∀ name path, Marker.parse? s = some (.reference name path) →
      (Marker.reference name path).resolve first = (Marker.reference name path).resolve second) :
    resolveString first s = resolveString second s := by
  unfold resolveString
  split
  · next marker hs =>
    cases marker with
    | secret key => rfl
    | reference name path => exact h name path hs
  · rfl

/-- Resolution sees of a registry no more than the names that are referred to. -/
theorem resolveEntries_congr_of_references {first second : Registry} {entries : Object}
    (h : ∀ name ∈ referencedNames (entryStrings entries), first.find? name = second.find? name) :
    resolveEntries first entries = resolveEntries second entries := by
  apply resolveEntries_congr
  intro s hs
  apply resolveString_congr
  intro name path hparse
  have hname := h name (mem_referencedNames.mpr ⟨s, hs, path, hparse⟩)
  simp only [Marker.resolve, hname]

theorem entryStrings_erase_subset (entries : Object) (key : String) :
    entryStrings (Entries.erase entries key) ⊆ entryStrings entries := by
  intro s hs
  rw [entryStrings_eq_flatMap, List.mem_flatMap] at hs ⊢
  obtain ⟨entry, hmem, hs⟩ := hs
  exact ⟨entry, (List.mem_filter.mp hmem).1, hs⟩

theorem Declaration.resolve_congr {first second : Registry} (declaration : Declaration)
    (h : ∀ name ∈ declaration.references, first.find? name = second.find? name) :
    resolveEntries first declaration.plainArgs = resolveEntries second declaration.plainArgs := by
  refine resolveEntries_congr_of_references fun name hname => h name ?_
  obtain ⟨s, hs, hp⟩ := mem_referencedNames.mp hname
  exact mem_referencedNames.mpr ⟨s, entryStrings_erase_subset _ _ hs, hp⟩

end StackSynth
