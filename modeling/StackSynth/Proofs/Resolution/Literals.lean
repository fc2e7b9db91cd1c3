import StackSynth.Proofs.Build.References
import StackSynth.Proofs.Resolution.Substitution

namespace StackSynth

def Value.IsLiteral (value : Value) : Prop :=
  ∀ s ∈ value.strings, Marker.parse? s = none

/-- Some stack has answered some request with the handle. -/
def Handle.FromStack (handle : Handle) : Prop :=
  ∃ kind request stack after, Stack.backend.materialize kind request stack = (.ok handle, after)

def Registry.FromStacks (registry : Registry) : Prop :=
  ∀ name handle, (name, handle) ∈ registry.handles → handle.FromStack

section Placeholders

/-- What opens like a placeholder is no marker, even if it goes on like one. -/
theorem Marker.parse?_placeholder (s : String) : parse? ("$\x7b" ++ s) = none := by
  have hlist : ("$\x7b" ++ s).toList = '$' :: '\x7b' :: s.toList := by simp
  have hsecret : "secret:".toList.isPrefixOf? ('$' :: '\x7b' :: s.toList) = none := rfl
  have href : "ref:".toList.isPrefixOf? ('$' :: '\x7b' :: s.toList) = none := rfl
  rw [parse?, hlist, hsecret, href]
  rfl

theorem Block.parse?_reference (block : Block) (path : String) :
    Marker.parse? (block.reference path) = none := by
  unfold reference
  cases block.kind with
  | resource =>
    simp only [String.append_assoc]
    exact Marker.parse?_placeholder _
  | dataSource =>
    simp only [String.append_assoc]
    exact Marker.parse?_placeholder _

theorem Handle.FromStack.exists_isFor {handle : Handle} (h : handle.FromStack) :
    ∃ block, handle.IsFor block := by
  obtain ⟨kind, request, stack, after, hanswer⟩ := h
  rw [Stack.materialize_backend] at hanswer
  obtain ⟨block, _, _, _, hisFor⟩ := Stack.isFor_of_insert (congrArg Prod.fst hanswer)
  exact ⟨block, hisFor⟩

end Placeholders

section Fixed

variable {registry : Registry}

theorem walked_eq_done {α : Type} {strings : List String}
    (h : ∀ s ∈ strings, Marker.parse? s = none) (a : α) : walked registry strings a = .done a := by
  have hnone : firstFailure? registry strings = none := by
    apply firstFailure?_eq_none_iff.mpr
    intro s hs marker hmarker
    rw [h s hs] at hmarker
    cases hmarker
  have hsilent : strings.flatMap (warningsAbout registry) = [] := by
    apply List.flatMap_eq_nil_iff.mpr
    intro s hs
    rw [warningsAbout, h s hs]
  rw [walked, readStrings_of_eq_none hnone, hsilent, hnone]
  rfl

theorem Value.IsLiteral.resolve_eq {value : Value} (h : value.IsLiteral) :
    value.resolve registry = .done value := by
  have hself : value.replaceStrings (replacement registry) = value := by
    apply replaceStrings_eq_self
    intro s hs
    rw [replacement, h s hs]
  rw [resolve_eq_walked, hself, walked_eq_done h]

end Fixed

section Strings

variable {registry : Registry} {P : String → Prop}

mutual

/-- The strings of a resolved value come from what its strings are replaced by. -/
theorem forall_mem_strings_resolve
    (h : ∀ s leaf, (resolveString registry s).result = .ok leaf → ∀ t ∈ leaf.strings, P t)
    (value : Value) {resolved : Value}
    (hresolve : (value.resolve registry).result = .ok resolved) : ∀ t ∈ resolved.strings, P t := by
  cases value with
  | string s => exact h s resolved hresolve
  | array items =>
    obtain ⟨values, hvalues, rfl⟩ := Resolution.map_eq_ok_iff.mp hresolve
    exact forall_mem_strings_resolveItems h items hvalues
  | object entries =>
    obtain ⟨values, hvalues, rfl⟩ := Resolution.map_eq_ok_iff.mp hresolve
    exact forall_mem_strings_resolveEntries h entries hvalues
  | null | boolean _ | integer _ | decimal _ =>
    obtain rfl := Except.ok.inj hresolve
    exact List.forall_mem_nil _
termination_by structural value

theorem forall_mem_strings_resolveItems
    (h : ∀ s leaf, (resolveString registry s).result = .ok leaf → ∀ t ∈ leaf.strings, P t)
    (items : List Value) {resolved : List Value}
    (hresolve : (resolveItems registry items).result = .ok resolved) :
    ∀ t ∈ itemStrings resolved, P t := by
  cases items with
  | nil =>
    obtain rfl := Except.ok.inj hresolve
    exact List.forall_mem_nil _
  | cons item rest =>
    obtain ⟨value, values, hvalue, hvalues, rfl⟩ := resolveItems_cons_eq_ok_iff.mp hresolve
    have hitem := forall_mem_strings_resolve h item hvalue
    have hrest := forall_mem_strings_resolveItems h rest hvalues
    exact List.forall_mem_append.mpr ⟨hitem, hrest⟩
termination_by structural items

theorem forall_mem_strings_resolveEntries
    (h : ∀ s leaf, (resolveString registry s).result = .ok leaf → ∀ t ∈ leaf.strings, P t)
    (entries : List (String × Value)) {resolved : Object}
    (hresolve : (resolveEntries registry entries).result = .ok resolved) :
    ∀ t ∈ entryStrings resolved, P t := by
  cases entries with
  | nil =>
    obtain rfl := Except.ok.inj hresolve
    exact List.forall_mem_nil _
  | cons entry rest =>
    obtain ⟨key, content⟩ := entry
    obtain ⟨value, values, hvalue, hvalues, rfl⟩ := resolveEntries_cons_eq_ok_iff.mp hresolve
    have hcontent := forall_mem_strings_resolve h content hvalue
    have hrest := forall_mem_strings_resolveEntries h rest hvalues
    exact List.forall_mem_append.mpr ⟨hcontent, hrest⟩
termination_by structural entries

end

end Strings

theorem isLiteral_of_resolveString {registry : Registry} (fromStacks : registry.FromStacks)
    {s : String} {leaf : Value} (h : (resolveString registry s).result = .ok leaf) :
    leaf.IsLiteral := by
  unfold resolveString at h
  cases hparse : Marker.parse? s with
  | none =>
    rw [hparse] at h
    obtain rfl := Except.ok.inj h
    exact List.forall_mem_singleton.mpr hparse
  | some marker =>
    rw [hparse] at h
    cases marker with
    | secret key =>
      obtain rfl := Except.ok.inj h
      have hplaceholder : Marker.parse? (secretPlaceholder key) = none := by
        rw [secretPlaceholder, String.append_assoc]
        exact Marker.parse?_placeholder _
      exact List.forall_mem_singleton.mpr hplaceholder
    | reference resource path =>
      cases hfind : registry.find? resource with
      | none => simp [Marker.resolve, hfind] at h
      | some handle =>
        have hmem : (resource, handle) ∈ registry.handles := Entries.mem_of_find?_eq_some hfind
        obtain ⟨block, hisFor⟩ := (fromStacks resource handle hmem).exists_isFor
        obtain rfl := hisFor.resolve_eq hfind h
        exact List.forall_mem_singleton.mpr (block.parse?_reference path)

/-- What a value resolves to against handles of stacks has no markers left, whatever the names and
keys in the markers were: it resolves to itself against all registries, and without a message. -/
theorem Value.resolve_idempotent {registry : Registry} (fromStacks : registry.FromStacks)
    {value resolved : Value} (h : (value.resolve registry).result = .ok resolved) :
    (∀ s ∈ resolved.strings, Marker.parse? s = none) ∧
      ∀ (other : Registry) (diagnostics : Diagnostics),
        (resolved.resolve other).result = .ok resolved ∧
        diagnostics.warnAll (resolved.resolve other).warnings = diagnostics := by
  have hleaf : ∀ s leaf, (resolveString registry s).result = .ok leaf → leaf.IsLiteral :=
    fun s leaf => isLiteral_of_resolveString fromStacks
  have hliteral : resolved.IsLiteral := forall_mem_strings_resolve hleaf value h
  refine ⟨hliteral, ?_⟩
  intro other diagnostics
  rw [hliteral.resolve_eq]
  exact ⟨rfl, rfl⟩

/-- A queue with a name that looks like a marker, and a secret with such a key. -/
theorem Value.resolve_idempotent_queue :
    let request : Request := ⟨"secret:ref:x", "core-x", ⟨"sqs_queue", "Queue"⟩, []⟩
    let queue : Handle := (Construct.mk "aws_sqs_queue.secret:ref:x"
      ⟨"sqs_queue", ["Queue"], "aws_sqs_queue", ["id", "arn", "url"], true⟩).handle
    let registry : Registry := ⟨[("secret:ref:x", queue)]⟩
    let value : Value :=
      .array [.string "secret:ref:x", .object [("ref:x", .string "ref:secret:ref:x.arn")]]
    let resolved : Value := .array [.string "$\x7bref:x\x7d",
      .object [("ref:x", .string "$\x7baws_sqs_queue.secret:ref:x.arn\x7d")]]
    (∃ after, Stack.backend.create request { region := "eu-west-1" } = (.ok queue, after)) ∧
      registry.FromStacks ∧ (value.resolve registry).result = .ok resolved ∧
      (∀ s ∈ resolved.strings, Marker.parse? s = none) ∧
      ∀ (other : Registry) (diagnostics : Diagnostics),
        (resolved.resolve other).result = .ok resolved ∧
        diagnostics.warnAll (resolved.resolve other).warnings = diagnostics := by
  intro request queue registry value resolved
  have hanswer : ∃ after, Stack.backend.create request { region := "eu-west-1" } =
      (.ok queue, after) := ⟨_, rfl⟩
  have hfrom : registry.FromStacks := by
    intro name handle hmem
    obtain ⟨rfl, rfl⟩ : name = "secret:ref:x" ∧ handle = queue := by
      simpa [registry] using hmem
    obtain ⟨after, hafter⟩ := hanswer
    exact ⟨.resource, request, _, after, hafter⟩
  have hresolves : (value.resolve registry).result = .ok resolved := by rfl
  exact ⟨hanswer, hfrom, hresolves, resolve_idempotent hfrom hresolves⟩

end StackSynth
