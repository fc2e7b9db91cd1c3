import StackSynth.Proofs.Build.Recording
import StackSynth.Proofs.Resolution.Places
import StackSynth.Proofs.Stack.Tokens

namespace StackSynth

/-- What must stand in a body for a string, if these constructs may be referred to. -/
inductive Rendered (available : Block → Prop) (s : String) : Value → Prop where
  | literal : Marker.parse? s = none → Rendered available s (.string s)
  | secret {key : String} : Marker.parse? s = some (.secret key) →
      Rendered available s (.string ("$\x7b" ++ key ++ "\x7d"))
  | reference {resource path : String} {block : Block} :
      Marker.parse? s = some (.reference resource path) → available block →
      block.label = resource → Rendered available s (.string (block.reference path))

def BuiltAt (outcomes : List Outcome) (i : Nat) (name : String) : Prop :=
  ∃ outcome, outcomes[i]? = some outcome ∧ outcome.name = name ∧
    ∃ built, outcome.result = .ok built

theorem builtAt_iff {outcomes : List Outcome} {i : Nat} {name : String} :
    BuiltAt outcomes i name ↔
      ∃ outcome ∈ outcomes[i]?, outcome.name = name ∧ failed outcome.result = false := by
  simp only [BuiltAt, Option.mem_def]
  refine exists_congr fun outcome => and_congr_right fun _ => and_congr_right fun _ => ?_
  cases outcome.result <;> simp [failed]

instance (outcomes : List Outcome) (i : Nat) (name : String) :
    Decidable (BuiltAt outcomes i name) :=
  decidable_of_iff _ builtAt_iff.symm

/-- A construct of a stack that an earlier declaration of a build has recorded. -/
def Earlier (context : Context) (declarations : List Declaration) (stack : Stack)
    (report : BuildReport) (final : Stack) (i : Nat) (block : Block) : Prop :=
  ∃ j < i, BuiltAt report.outcomes j block.label ∧
    RecordedAt context declarations stack j block ∧ block ∈ final.listing

theorem Handle.IsFor.resolve_eq {handle : Handle} {block : Block} (h : handle.IsFor block)
    {registry : Registry} {resource path : String} {value : Value}
    (hfind : registry.find? resource = some handle)
    (hresolve : ((Marker.reference resource path).resolve registry).result = .ok value) :
    value = .string (block.reference path) := by
  simp only [Marker.resolve, hfind] at hresolve
  split at hresolve
  · next direct hdirect =>
    obtain rfl := Except.ok.inj hresolve
    exact (h.direct?_eq hdirect).1
  · cases hread : handle.byName path with
    | error e => simp [hread, Except.mapError] at hresolve
    | ok found =>
      rw [hread] at hresolve
      obtain rfl := Except.ok.inj hresolve
      exact (h.byName_eq hread).1

theorem rendered_of_resolveString {registry : Registry} {available : Block → Prop} {s : String}
    {value : Value}
    (hconstructs : ∀ resource handle, registry.find? resource = some handle →
      ∃ block, available block ∧ block.label = resource ∧ handle.IsFor block)
    (h : (resolveString registry s).result = .ok value) : Rendered available s value := by
  unfold resolveString at h
  cases hparse : Marker.parse? s with
  | none =>
    rw [hparse] at h
    obtain rfl := Except.ok.inj h
    exact .literal hparse
  | some marker =>
    rw [hparse] at h
    cases marker with
    | secret key =>
      obtain rfl := Except.ok.inj h
      exact .secret hparse
    | reference resource path =>
      cases hfind : registry.find? resource with
      | none => simp [Marker.resolve, hfind] at h
      | some handle =>
        obtain ⟨block, havailable, hlabel, hisFor⟩ := hconstructs resource handle hfind
        rw [hisFor.resolve_eq hfind h]
        exact .reference hparse havailable hlabel

/-- Every handle is the one of a construct with the name that it is found by. -/
def Registry.FromConstructs (registry : Registry) : Prop :=
  ∀ resource handle, registry.find? resource = some handle →
    ∃ block : Block, block.label = resource ∧ handle.IsFor block

theorem Course.fromConstructs {context : Context} {start state : Stack} {attempts : List Attempt}
    (course : Course Stack.backend context start attempts state) (hstart : start.Reachable) :
    (builtBy attempts).FromConstructs := by
  intro resource handle hfind
  have hmem := Entries.mem_of_find?_eq_some hfind
  rw [← List.take_length (l := attempts)] at hmem
  obtain ⟨_, _, _, block, _, _, _, hlabel, hisFor, _⟩ := course.exists_of_mem_handles hstart hmem
  exact ⟨block, hlabel, hisFor⟩

section Arguments

variable {context : Context} {type : ResourceType} {args : Object}

theorem find?_withTags {key : String} {value : Value} (h : Entries.find? args key = some value) :
    Entries.find? (withTags context type args) key = some value := by
  unfold withTags
  split
  · next htags =>
    have hne : key ≠ tagsArgument := by
      rintro rfl
      simp [Entries.has, h] at htags
    split
    · rw [Entries.find?_insert_of_ne _ _ hne, h]
    · exact h
  · exact h

theorem nodup_keys_withTags (h : (Entries.keys args).Nodup) :
    (Entries.keys (withTags context type args)).Nodup := by
  unfold withTags
  split
  · split
    · exact Entries.nodup_keys_insert h _ _
    · exact h
  · exact h

/-- A body has all arguments of the declaration that it was recorded for. -/
theorem find?_bodyOf_request (declaration : Declaration) (h : (Entries.keys args).Nodup)
    {key : String} {value : Value} (hfind : Entries.find? args key = some value) :
    Entries.find? (Stack.bodyOf (declaration.request context args)) key = some value :=
  Entries.find?_insertAll _ (nodup_keys_withTags h) (find?_withTags hfind)

end Arguments

theorem builtAt_outcomes {context : Context} {attempts : List Attempt} {i : Nat}
    {attempted : Attempt} (hi : attempts[i]? = some attempted) {name : String} :
    BuiltAt (attempts.map (Attempt.outcome context)) i name ↔
      attempted.name = name ∧ attempted.built = true := by
  simp only [BuiltAt, List.getElem?_map, hi, Option.map_some, Option.some.injEq, exists_eq_left',
    Attempt.result_outcome_eq_ok_iff, exists_and_left, exists_eq', and_true]
  rfl

/-- In a build on a stack that calls have led to, the body of each construct that was recorded has,
at the place of each string among the arguments, what must stand there, and its references go to
constructs that earlier declarations of the build have recorded. -/
theorem build_references {stack : Stack} (reachable : stack.Reachable) (context : Context)
    (declarations : List Declaration) (diagnostics : Diagnostics) :
    let report := (build Stack.backend context declarations stack diagnostics).1
    let final := (build Stack.backend context declarations stack diagnostics).2.1
    ∀ i declaration, declarations[i]? = some declaration →
      BuiltAt report.outcomes i declaration.name → (Entries.keys declaration.args).Nodup →
      ∃ terraformType body,
        RecordedAt context declarations stack i
          ⟨declaration.kind, terraformType, declaration.name, body⟩ ∧
        final.body? declaration.kind terraformType declaration.name = some body ∧
        ∀ path s, (Value.object declaration.plainArgs).at? path = some (.string s) →
          ∃ value, (Value.object body).at? path = some value ∧
            Rendered (Earlier context declarations stack report final i) s value := by
  intro report final i declaration hi hbuiltAt hkeys
  have hfinal : final.Tidy := (reachable.build context declarations diagnostics).tidy
  obtain ⟨attempts, state, noted, rfl, course, hbuild⟩ :=
    build_course Stack.backend context declarations stack diagnostics
  have houtcomes : report.outcomes = attempts.map (Attempt.outcome context) := by
    simp only [report, hbuild]
  have hlisting : final.listing = state.listing := by
    obtain ⟨outputs, houtputs⟩ := publishAll_outputs (builtBy attempts).handles state
    simp only [final, hbuild, houtputs, Stack.listing_withOutputs]
  obtain ⟨attempted, hattempted, rfl⟩ : ∃ attempted, attempts[i]? = some attempted ∧
      attempted.declaration = declaration := by
    simpa using hi
  rw [houtcomes, builtAt_outcomes hattempted] at hbuiltAt
  obtain ⟨args, ⟨kind, terraformType, label, body⟩, _, hargs, rfl, rfl, rfl, _, _, hrecorded,
      hmem⟩ :=
    course.recordedAt reachable hattempted hbuiltAt.2
  refine ⟨terraformType, _, hrecorded, ?_, ?_⟩
  · rw [hfinal.body?_eq_some_iff, hlisting]
    exact hmem
  intro path s hplace
  have hresolve : ((Value.object attempted.declaration.plainArgs).resolve
      (builtBy (attempts.take i))).result = .ok (.object args) :=
    Resolution.map_eq_ok_iff.mpr ⟨args, hargs, rfl⟩
  obtain ⟨value, hat, hstring⟩ := Value.at?_resolve hresolve hplace
  -- with distinct keys, no argument is overwritten on its way into the body
  have hdistinct : (Entries.keys args).Nodup := by
    rw [keys_resolveEntries hargs, Declaration.plainArgs, Entries.keys_erase]
    exact hkeys.filter _
  refine ⟨value, ?_, ?_⟩
  · -- a string is no object, so its path has a first step
    cases path with
    | nil => simp [Value.at?] at hplace
    | cons step path =>
      exact Value.at?_object_of_find?
        (fun key part hpart => find?_bodyOf_request attempted.declaration hdistinct hpart) hat
  · -- what is found in the registry was put there by a declaration before this one
    refine rendered_of_resolveString ?_ hstring
    intro resource handle hfind
    obtain ⟨j, hlt, other, block, hother, hname, hbuilt, hlabel, hisFor, hblock, hpresent⟩ :=
      course.exists_of_mem_handles reachable (Entries.mem_of_find?_eq_some hfind)
    refine ⟨block, ⟨j, hlt, ?_, hblock, ?_⟩, hlabel, hisFor⟩
    · rw [houtcomes, builtAt_outcomes hother]
      exact ⟨hname.trans hlabel.symm, hbuilt⟩
    · rw [hlisting]
      exact hpresent

/-- A subnet with a reference to a network that is looked up, and with a secret inside its tags. -/
theorem build_references_network :
    let context : Context := ⟨"core", "shop", "dev", "eu-west-1", []⟩
    let vpc : Declaration := ⟨"main", "vpc.Vpc", [], none, true⟩
    let subnet : Declaration := ⟨"inner", "subnet.Subnet",
      [("vpc_id", .string "ref:main"), ("tags", .object [("key", .string "secret:net")])],
      none, false⟩
    let stack : Stack := { region := "eu-west-1" }
    let report := (build Stack.backend context [vpc, subnet] stack {}).1
    let final := (build Stack.backend context [vpc, subnet] stack {}).2.1
    stack.Reachable ∧ [vpc, subnet][1]? = some subnet ∧ BuiltAt report.outcomes 1 "inner" ∧
      (Entries.keys subnet.args).Nodup ∧
      (Value.object subnet.plainArgs).at? [.entry "vpc_id"] = some (.string "ref:main") ∧
      ∃ terraformType body,
        RecordedAt context [vpc, subnet] stack 1 ⟨.resource, terraformType, "inner", body⟩ ∧
        final.body? .resource terraformType "inner" = some body ∧
        ∀ path s, (Value.object subnet.plainArgs).at? path = some (.string s) →
          ∃ value, (Value.object body).at? path = some value ∧
            Rendered (Earlier context [vpc, subnet] stack report final 1) s value := by
  intro context vpc subnet stack report final
  have hnew : Stack.new "eu-west-1" = .ok stack := by rfl
  have hbuilt : BuiltAt report.outcomes 1 "inner" := by decide +kernel
  have hkeys : (Entries.keys subnet.args).Nodup := by decide
  have hplace : (Value.object subnet.plainArgs).at? [.entry "vpc_id"] =
      some (.string "ref:main") := by rfl
  exact ⟨.new hnew, rfl, hbuilt, hkeys, hplace,
    build_references (.new hnew) context [vpc, subnet] {} 1 subnet rfl hbuilt hkeys⟩

end StackSynth
