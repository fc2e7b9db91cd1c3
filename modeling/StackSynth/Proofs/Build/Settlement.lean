import StackSynth.Proofs.Build.OnStack
import StackSynth.Proofs.Configuration.Loading
import StackSynth.Proofs.Resolution.Offences
import StackSynth.Proofs.Stack.Tokens

namespace StackSynth

/-- One of the first outcomes is that a resource of the name was built. -/
def BuiltBefore (outcomes : List Outcome) (i : Nat) (name : String) : Prop :=
  ∃ j < i, ∃ outcome, outcomes[j]? = some outcome ∧ outcome.name = name ∧
    ∃ built, outcome.result = .ok built

/-- What must become of a declaration where resources of these names were built before it. -/
structure Settled (context : Context) (known : String → Prop) (declaration : Declaration)
    (outcome : Outcome) : Prop where
  name_eq : outcome.name = declaration.name
  ok_iff : (∃ built, outcome.result = .ok built) ↔
    (∃ entry, declaration.catalogEntry = .ok entry) ∧
      Resolvable known (entryStrings declaration.plainArgs)
  ok_eq : ∀ built, outcome.result = .ok built → built = declaration.materialized context
  /-- A reference that cannot be replaced is to blame whether or not the catalog has the type. -/
  resolve_iff : ∀ e, outcome.result = .error (.resolve e) ↔
    FirstOffence known (entryStrings declaration.plainArgs) e
  unresolved : ¬ Resolvable known (entryStrings declaration.plainArgs) →
    ∃ e, outcome.result = .error (.resolve e)
  unknownType : Resolvable known (entryStrings declaration.plainArgs) →
    (∀ entry, declaration.catalogEntry ≠ .ok entry) →
    outcome.result = .error (.backend (.unknownType
      ⟨declaration.kind, ResourceType.ofTag declaration.type⟩))
  /-- There is no other way to fail. -/
  cases : (∃ built, outcome.result = .ok built) ∨ (∃ e, outcome.result = .error (.resolve e)) ∨
    ∃ unknown, outcome.result = .error (.backend (.unknownType unknown))

/-- On a stack, all resources are constructs of types in the catalog. -/
theorem Course.synthesized {context : Context} {start state : Stack} {attempts : List Attempt}
    (course : Course Stack.backend context start attempts state) :
    (builtBy attempts).Synthesized := by
  induction course with
  | nil => simp [Registry.Synthesized, builtBy]
  | @snoc attempts state after declaration deed _ hattempt ih =>
    rw [builtBy_snoc]
    obtain ⟨hhandle, rfl⟩ | ⟨args, found, _, hfound, _, _, rfl, rfl⟩ :=
      Stack.attempt_cases hattempt
    · rw [hhandle]
      exact ih
    · intro name handle hmem
      rcases List.mem_append.mp hmem with hmem | hmem
      · exact ih name handle hmem
      · obtain ⟨_, rfl⟩ := Prod.mk.inj (List.mem_singleton.mp hmem)
        exact ⟨declaration.construct found, rfl, fun path hpath =>
          Catalog.isAttributePath_of_mem_attributes (Catalog.mem_entries_of_resolve hfound) hpath⟩

theorem settled_verdict (context : Context) {registry : Registry}
    (synthesized : registry.Synthesized) (declaration : Declaration) :
    Settled context (· ∈ registry.names) declaration
      (Attempt.outcome context ⟨declaration, verdict context registry declaration⟩) := by
  have hok := @resolveEntries_eq_ok_iff _ synthesized declaration.plainArgs
  have herror := @resolveEntries_eq_error_iff _ synthesized declaration.plainArgs
  cases hresult : (resolveEntries registry declaration.plainArgs).result with
  | error e =>
    -- the catalog is not asked
    have hverdict : verdict context registry declaration = .unresolved e := by
      rw [verdict, hresult]
    have hnot : ¬ Resolvable (· ∈ registry.names) (entryStrings declaration.plainArgs) := by
      rw [← hok, hresult]
      simp
    rw [hverdict]
    exact
      { name_eq := rfl
        ok_iff := iff_of_false (by simp [Deed.result]) fun h => hnot h.2
        ok_eq := by simp [Deed.result]
        resolve_iff := by
          intro other
          rw [← herror, hresult]
          simp [Deed.result]
        unresolved := fun _ => ⟨e, rfl⟩
        unknownType := fun h => absurd h hnot
        cases := Or.inr (Or.inl ⟨e, rfl⟩) }
  | ok args =>
    have hresolvable : Resolvable (· ∈ registry.names) (entryStrings declaration.plainArgs) :=
      hok.mp ⟨args, hresult⟩
    have hblameless : ∀ e,
        ¬ FirstOffence (· ∈ registry.names) (entryStrings declaration.plainArgs) e := by
      intro e
      rw [← herror, hresult]
      simp
    cases hfound : declaration.catalogEntry with
    | error unknown =>
      have hverdict : verdict context registry declaration =
          .asked (declaration.request context args) (.error (.unknownType unknown)) := by
        simp only [verdict, hresult, hfound]
      have hunknown : unknown = ⟨declaration.kind, ResourceType.ofTag declaration.type⟩ :=
        Catalog.resolve_eq_error hfound
      rw [hverdict]
      exact
        { name_eq := rfl
          ok_iff := iff_of_false (by simp [Deed.result]) fun h => by simp [hfound] at h
          ok_eq := by simp [Deed.result]
          resolve_iff := fun e => iff_of_false (by simp [Deed.result]) (hblameless e)
          unresolved := fun h => absurd hresolvable h
          unknownType := fun _ _ => by simp [Deed.result, hunknown]
          cases := Or.inr (Or.inr ⟨unknown, rfl⟩) }
    | ok found =>
      have hverdict : verdict context registry declaration =
          .asked (declaration.request context args)
            (.ok (declaration.construct found).handle) := by
        simp only [verdict, hresult, hfound]
      rw [hverdict]
      exact
        { name_eq := rfl
          ok_iff := iff_of_true ⟨_, rfl⟩ ⟨⟨found, hfound⟩, hresolvable⟩
          ok_eq := by simp [Deed.result, eq_comm]
          resolve_iff := fun e => iff_of_false (by simp [Deed.result]) (hblameless e)
          unresolved := fun h => absurd hresolvable h
          unknownType := fun _ h => absurd hfound (h found)
          cases := Or.inl ⟨_, rfl⟩ }

theorem builtBefore_outcomes (context : Context) (attempts : List Attempt) (i : Nat) :
    BuiltBefore (attempts.map (Attempt.outcome context)) i =
      (· ∈ (builtBy (attempts.take i)).names) := by
  funext name
  rw [mem_names_builtBy]
  simp only [BuiltBefore, List.getElem?_map, Option.map_eq_some_iff, List.mem_iff_getElem?,
    List.getElem?_take, eq_iff_iff]
  constructor
  · rintro ⟨j, hj, _, ⟨attempted, hattempted, rfl⟩, hname, built, hbuilt⟩
    exact ⟨attempted, ⟨j, by rw [if_pos hj, hattempted]⟩,
      (Attempt.result_outcome_eq_ok_iff.mp hbuilt).1, hname⟩
  · rintro ⟨attempted, ⟨j, hattempted⟩, hbuilt, hname⟩
    obtain ⟨hj, hattempted⟩ := Option.ite_none_right_eq_some.mp hattempted
    exact ⟨j, hj, _, ⟨attempted, hattempted, rfl⟩, hname, _,
      Attempt.result_outcome_eq_ok_iff.mpr ⟨hbuilt, rfl⟩⟩

/-- In a build of a configuration on a stack of its region, a declaration is built exactly if the
catalog has its type, and all its references go to resources that earlier declarations have built,
by paths of plain names. Else the first bad reference is to blame, or the type if there is none. -/
theorem build_settled {document : Document} {configuration : Configuration}
    (hdocument : Configuration.ofDocument document = .ok configuration)
    (hregion : Text.trim configuration.context.region ≠ "") (diagnostics : Diagnostics) :
    ∃ stack, Stack.new configuration.context.region = .ok stack ∧
      let report := (build Stack.backend configuration.context configuration.declarations stack
        diagnostics).1
      report.outcomes.length = configuration.declarations.length ∧
      ∀ i declaration outcome, configuration.declarations[i]? = some declaration →
        report.outcomes[i]? = some outcome →
        Settled configuration.context (BuiltBefore report.outcomes i) declaration outcome := by
  obtain ⟨context, declarations⟩ := configuration
  have hstack : Stack.new context.region = .ok { region := Text.trim context.region } :=
    Stack.new_eq_ok_iff.mpr ⟨hregion, rfl⟩
  refine ⟨_, hstack, ?_⟩
  have hnames : (declarations.map Declaration.name).Nodup := Configuration.names_nodup hdocument
  obtain ⟨attempts, state, noted, rfl, course, hbuild⟩ :=
    build_course Stack.backend context declarations
      ({ region := Text.trim context.region } : Stack) diagnostics
  dsimp only
  rw [hbuild]
  refine ⟨by simp, ?_⟩
  intro i declaration outcome hdeclaration houtcome
  obtain ⟨attempted, hattempted, rfl⟩ : ∃ attempted, attempts[i]? = some attempted ∧
      attempted.declaration = declaration := by
    simpa using hdeclaration
  obtain rfl : attempted.outcome context = outcome := by
    simpa [hattempted] using houtcome
  dsimp only
  rw [builtBefore_outcomes]
  obtain ⟨hi, hget⟩ := List.getElem?_eq_some_iff.mp hattempted
  -- the attempts before the one are those of the outcomes before its own
  have hsplit : attempts = attempts.take i ++ attempted :: attempts.drop (i + 1) := by
    rw [← hget, ← List.drop_eq_getElem_cons hi, List.take_append_drop]
  rw [List.map_map] at hnames
  rw [hsplit] at course hnames
  obtain ⟨_, _, hearlier, _⟩ := course.split
  have hdeed : attempted.deed =
      verdict context (builtBy (attempts.take i)) attempted.declaration :=
    course.deed_eq_verdict hnames List.not_mem_nil
  have hsettled := settled_verdict context hearlier.synthesized attempted.declaration
  rw [← hdeed] at hsettled
  exact hsettled

/-- A subnet that refers to its network, and a bucket that refers to what is not there. -/
theorem build_settled_network :
    let document : Document := .mapping [
      (.string "team", .string "core"), (.string "service", .string "shop"),
      (.string "environment", .string "dev"), (.string "region", .string "eu-west-1"),
      (.string "aws_resources", .sequence [
        .mapping [(.string "name", .string "main"), (.string "type", .string "vpc.Vpc")],
        .mapping [(.string "name", .string "inner"), (.string "type", .string "subnet.Subnet"),
          (.string "args", .mapping [(.string "vpc_id", .string "ref:main.id")])],
        .mapping [(.string "name", .string "files"), (.string "type", .string "s3.Bucket"),
          (.string "args", .mapping [(.string "bucket", .string "ref:other.arn")])]])]
    let configuration : Configuration := ⟨⟨"core", "shop", "dev", "eu-west-1", []⟩, [
      ⟨"main", "vpc.Vpc", [], none, false⟩,
      ⟨"inner", "subnet.Subnet", [("vpc_id", .string "ref:main.id")], none, false⟩,
      ⟨"files", "s3.Bucket", [("bucket", .string "ref:other.arn")], none, false⟩]⟩
    Configuration.ofDocument document = .ok configuration ∧
      ∃ stack, Stack.new configuration.context.region = .ok stack ∧
        let report := (build Stack.backend configuration.context configuration.declarations stack
          {}).1
        report.outcomes.length = configuration.declarations.length ∧
        ∀ i declaration outcome, configuration.declarations[i]? = some declaration →
          report.outcomes[i]? = some outcome →
          Settled configuration.context (BuiltBefore report.outcomes i) declaration outcome := by
  intro document configuration
  have hdocument : Configuration.ofDocument document = .ok configuration := by rfl
  have hregion : Text.trim configuration.context.region ≠ "" := by decide
  exact ⟨hdocument, build_settled hdocument hregion {}⟩

end StackSynth
