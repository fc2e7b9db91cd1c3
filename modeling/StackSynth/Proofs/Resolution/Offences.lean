import StackSynth.Proofs.Resolution.Leaves
import StackSynth.Stack.Basic

namespace StackSynth

/-- A string cannot be replaced where the known resources have these names. -/
inductive Offends (known : String → Prop) : String → ResolveError → Prop where
  | missing {s resource path : String} :
    Marker.parse? s = some (.reference resource path) → ¬ known resource →
      Offends known s (.referenceNotFound resource)
  | unreadable {s resource path : String} :
    Marker.parse? s = some (.reference resource path) → known resource →
      ¬ Text.IsAttributePath path.toList →
      Offends known s (.unreadable resource path (.invalidName path))

/-- Every reference among strings is one to a known resource, by a path of plain names. -/
def Resolvable (known : String → Prop) (strings : List String) : Prop :=
  ∀ s ∈ strings, ∀ resource path, Marker.parse? s = some (.reference resource path) →
    known resource ∧ Text.IsAttributePath path.toList

/-- The error of the first string that cannot be replaced. -/
def FirstOffence (known : String → Prop) (strings : List String) (e : ResolveError) : Prop :=
  ∃ before s after, strings = before ++ s :: after ∧
    Offends known s e ∧ ∀ other ∈ before, ∀ e, ¬ Offends known other e

/-- The resources are constructs, and what their types have can be read by name as well. -/
def Registry.Synthesized (registry : Registry) : Prop :=
  ∀ name handle, (name, handle) ∈ registry.handles → ∃ construct : Construct,
    handle = construct.handle ∧
      ∀ path ∈ construct.entry.attributes, Text.IsAttributePath path.toList

theorem resolvable_iff {known : String → Prop} {strings : List String} :
    Resolvable known strings ↔ ∀ s ∈ strings, ∀ e, ¬ Offends known s e := by
  constructor
  · rintro h s hs e (⟨hparse, hknown⟩ | ⟨hparse, _, hpath⟩)
    · exact hknown (h s hs _ _ hparse).1
    · exact hpath (h s hs _ _ hparse).2
  · intro h s hs resource path hparse
    by_cases hknown : known resource
    · refine ⟨hknown, Classical.byContradiction fun hpath => ?_⟩
      exact h s hs _ (.unreadable hparse hknown hpath)
    · exact absurd (.missing hparse hknown) (h s hs _)

theorem offends_reference_iff {known : String → Prop} {s resource path : String}
    (hparse : Marker.parse? s = some (.reference resource path)) {e : ResolveError} :
    Offends known s e ↔
      (¬ known resource ∧ e = .referenceNotFound resource) ∨
      (known resource ∧ ¬ Text.IsAttributePath path.toList ∧
        e = .unreadable resource path (.invalidName path)) := by
  constructor
  · rintro (⟨hother, hknown⟩ | ⟨hother, hknown, hpath⟩)
    · obtain ⟨rfl, rfl⟩ := by simpa [hparse] using hother
      exact Or.inl ⟨hknown, rfl⟩
    · obtain ⟨rfl, rfl⟩ := by simpa [hparse] using hother
      exact Or.inr ⟨hknown, hpath, rfl⟩
  · rintro (⟨hknown, rfl⟩ | ⟨hknown, hpath, rfl⟩)
    · exact .missing hparse hknown
    · exact .unreadable hparse hknown hpath

theorem not_offends {known : String → Prop} {s : String} {e : ResolveError}
    (h : ∀ resource path, Marker.parse? s ≠ some (.reference resource path)) :
    ¬ Offends known s e := by
  rintro (⟨hparse, _⟩ | ⟨hparse, _, _⟩)
  · exact h _ _ hparse
  · exact h _ _ hparse

theorem Construct.byName_eq_error_iff (construct : Construct) (path : String)
    {e : AttributeError} :
    construct.handle.byName path = .error e ↔
      ¬ Text.IsAttributePath path.toList ∧ e = .invalidName path := by
  rw [← Text.isAttributePath_iff]
  simp only [handle, byName]
  split
  · next hpath => simp [hpath]
  · next hpath => simp [hpath, eq_comm]

section Synthesized

variable {registry : Registry} (synthesized : registry.Synthesized)
include synthesized

theorem failure?_resolve_reference {resource path : String} {handle : Handle}
    (hfind : registry.find? resource = some handle) {e : ResolveError} :
    ((Marker.reference resource path).resolve registry).failure? = some e ↔
      ¬ Text.IsAttributePath path.toList ∧
        e = .unreadable resource path (.invalidName path) := by
  obtain ⟨construct, rfl, hattributes⟩ :=
    synthesized resource handle (Entries.mem_of_find?_eq_some hfind)
  simp only [Marker.resolve, hfind]
  split
  · next value hdirect =>
    -- what the type has is a path of plain names
    have hpath : Text.IsAttributePath path.toList := by
      have hcontains : path ∈ construct.entry.attributes :=
        Classical.byContradiction fun hnot => by
          simp [Construct.handle, Construct.direct?, hnot] at hdirect
      exact hattributes path hcontains
    simp [hpath]
  · rw [Resolution.failure?_eq_some_iff]
    cases hread : construct.handle.byName path with
    | ok value =>
      have hpath : Text.IsAttributePath path.toList :=
        Classical.byContradiction fun hnot => by
          have herror := (construct.byName_eq_error_iff path).mpr ⟨hnot, rfl⟩
          rw [hread] at herror
          cases herror
      change (Except.ok value : Except ResolveError Value) = .error e ↔ _
      simp [hpath]
    | error cause =>
      obtain ⟨hpath, rfl⟩ := (construct.byName_eq_error_iff path).mp hread
      change (Except.error (.unreadable resource path (.invalidName path)) :
        Except ResolveError Value) = .error e ↔ _
      simp [hpath, eq_comm]

/-- A string fails to resolve exactly if it offends, and for that reason. -/
theorem failure?_resolveString {s : String} {e : ResolveError} :
    (resolveString registry s).failure? = some e ↔ Offends (· ∈ registry.names) s e := by
  unfold resolveString
  cases hparse : Marker.parse? s with
  | none => exact iff_of_false (by simp) (not_offends (by simp [hparse]))
  | some marker =>
    cases marker with
    | secret key =>
      exact iff_of_false (by simp [Marker.resolve, Resolution.failure?])
        (not_offends (by simp [hparse]))
    | reference resource path =>
      rw [offends_reference_iff hparse]
      cases hfind : registry.find? resource with
      | none =>
        have hname : resource ∉ registry.names := (registry.find?_eq_none_iff _).mp hfind
        simp [Marker.resolve, hfind, Resolution.failure?, hname, eq_comm]
      | some handle =>
        have hname : resource ∈ registry.names :=
          Classical.byContradiction fun hnot => by
            have hnone := (registry.find?_eq_none_iff _).mpr hnot
            rw [hfind] at hnone
            cases hnone
        simp only [failure?_resolve_reference synthesized hfind, hname, not_true, false_and,
          true_and, false_or]

theorem failure?_resolveString_eq_none_iff {s : String} :
    (resolveString registry s).failure? = none ↔ ∀ e, ¬ Offends (· ∈ registry.names) s e := by
  simp only [← failure?_resolveString synthesized, Option.eq_none_iff_forall_ne_some]

theorem resolveEntries_eq_error_iff {entries : Object} {e : ResolveError} :
    (resolveEntries registry entries).result = .error e ↔
      FirstOffence (· ∈ registry.names) (entryStrings entries) e := by
  rw [← Resolution.failure?_eq_some_iff, failure?_resolveEntries, firstFailure?,
    List.findSome?_eq_some_iff]
  simp only [failure?_resolveString synthesized, failure?_resolveString_eq_none_iff synthesized,
    FirstOffence]

theorem resolveEntries_eq_ok_iff {entries : Object} :
    (∃ args, (resolveEntries registry entries).result = .ok args) ↔
      Resolvable (· ∈ registry.names) (entryStrings entries) := by
  rw [← Resolution.failure?_eq_none_iff, failure?_resolveEntries, firstFailure?,
    List.findSome?_eq_none_iff, resolvable_iff]
  simp only [failure?_resolveString_eq_none_iff synthesized]

end Synthesized

end StackSynth
