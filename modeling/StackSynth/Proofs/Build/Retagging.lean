import StackSynth.Proofs.Build.References
import StackSynth.Proofs.Text.Lowercase

namespace StackSynth

section Modules

theorem moduleOf_cases (service : String) :
    moduleOf service ∈ serviceModules.map Prod.snd ∨
      moduleOf service = Text.lowercase service ∧
        Entries.find? serviceModules (Text.lowercase service) = none := by
  simp only [moduleOf]
  cases hfind : Entries.find? serviceModules (Text.lowercase service) with
  | some moduleName => exact Or.inl (List.mem_map_of_mem (Entries.mem_of_find?_eq_some hfind))
  | none => exact Or.inr ⟨rfl, rfl⟩

theorem moduleOf_moduleOf (service : String) : moduleOf (moduleOf service) = moduleOf service := by
  have hplain : ∀ moduleName ∈ serviceModules.map Prod.snd,
      moduleName.toList.all Text.plainRanges.contains = true := by decide +kernel
  have hknown : ∀ moduleName ∈ serviceModules.map Prod.snd,
      (Entries.find? serviceModules moduleName).getD moduleName = moduleName := by decide +kernel
  obtain hmem | ⟨hmodule, hnone⟩ := moduleOf_cases service
  · have hlowercase := Text.lowercase_of_plain (hplain _ hmem)
    rw [moduleOf, hlowercase]
    exact hknown _ hmem
  · rw [hmodule, moduleOf, Text.lowercase_lowercase, hnone]
    rfl

theorem dot_notMem_moduleOf {service : String} (h : '.' ∉ service.toList) :
    '.' ∉ (moduleOf service).toList := by
  have hknown : ∀ moduleName ∈ serviceModules.map Prod.snd, '.' ∉ moduleName.toList := by
    decide +kernel
  obtain hmem | ⟨hmodule, _⟩ := moduleOf_cases service
  · exact hknown _ hmem
  · -- lower casing makes no dots
    rw [hmodule, Text.toList_lowercase]
    intro hdot
    obtain ⟨_, hold | ⟨hne, _⟩⟩ := Text.exists_of_mem_lowerFrom hdot
    · exact h hold
    · exact hne rfl

end Modules

namespace ResourceType

theorem exists_ofTag_eq (tag : String) :
    ∃ service className, '.' ∉ service.toList ∧ ofTag tag = ⟨moduleOf service, className⟩ := by
  unfold ofTag
  cases hcut : Text.cutFirst? '.' tag.toList with
  | none => exact ⟨defaultService, tag, by decide, rfl⟩
  | some pieces =>
    obtain ⟨service, className⟩ := pieces
    obtain ⟨_, hdot⟩ := Text.cutFirst?_eq_some hcut
    exact ⟨String.ofList service, String.ofList className, by simpa using hdot, rfl⟩

theorem ofTag_append_dot {service : String} (className : String) (h : '.' ∉ service.toList) :
    ofTag (service ++ "." ++ className) = ⟨moduleOf service, className⟩ := by
  have hlists : (service ++ "." ++ className).toList =
      service.toList ++ '.' :: className.toList := by simp
  rw [ofTag, hlists, Text.cutFirst?_append_cons _ h]
  simp only [String.ofList_toList]

/-- What is displayed for the type of a tag is a tag of this type. -/
theorem ofTag_display (tag : String) : ofTag (ofTag tag).display = ofTag tag := by
  obtain ⟨service, className, hdot, htype⟩ := exists_ofTag_eq tag
  rw [htype, display, ofTag_append_dot _ (dot_notMem_moduleOf hdot), moduleOf_moduleOf]

example : (ofTag "S3.Bucket.Versioned").display = "s3_bucket.Bucket.Versioned" := by decide +kernel

end ResourceType

/-- Two tags of one type, to the catalog and to the policy of tags as well. -/
structure Synonyms (tag other : String) : Prop where
  ofTag_eq : ResourceType.ofTag other = ResourceType.ofTag tag
  resolve_eq : ∀ kind, Catalog.builtin.resolve kind (ResourceType.ofTag other) =
    Catalog.builtin.resolve kind (ResourceType.ofTag tag)
  withTags_eq : ∀ context args, withTags context (ResourceType.ofTag other) args =
    withTags context (ResourceType.ofTag tag) args

theorem Synonyms.of_eq {tag other : String}
    (h : ResourceType.ofTag other = ResourceType.ofTag tag) : Synonyms tag other where
  ofTag_eq := h
  resolve_eq := fun _ => by rw [h]
  withTags_eq := fun _ _ => by rw [h]

theorem synonyms_display (tag : String) : Synonyms tag (ResourceType.ofTag tag).display :=
  .of_eq (ResourceType.ofTag_display tag)

def Stack.typeText? (body : Object) : Option Value :=
  (Value.object body).at? [.entry "//", .entry "metadata", .entry "type"]

/-- A declaration with another tag in place of a given one. -/
def Declaration.retagged (tag other : String) (declaration : Declaration) : Declaration :=
  if declaration.type = tag then { declaration with type := other } else declaration

/-- What the texts must be that are written for the type of a tag. -/
structure ReadsBack (tag : String) : Prop where
  display : Synonyms tag (ResourceType.ofTag tag).display
  report : ∀ {σ : Type} (backend : Backend σ) context declarations state diagnostics,
    let report := (build backend context declarations state diagnostics).1
    ∀ (i : Nat) (declaration : Declaration) (outcome : Outcome) (built : Materialized),
      declarations[i]? = some declaration → declaration.type = tag →
      report.outcomes[i]? = some outcome → outcome.result = .ok built →
      Synonyms tag built.type.display
  /-- The metadata of a construct has such a text, unless an argument took its place. -/
  metadata : ∀ (stack : Stack), stack.Reachable → ∀ context declarations diagnostics,
    let report := (build Stack.backend context declarations stack diagnostics).1
    let final := (build Stack.backend context declarations stack diagnostics).2.1
    ∀ (i : Nat) (declaration : Declaration),
      declarations[i]? = some declaration → declaration.type = tag →
      BuiltAt report.outcomes i declaration.name → "//" ∉ Entries.keys declaration.args →
      ∃ terraformType body text,
        final.body? declaration.kind terraformType declaration.name = some body ∧
        Stack.typeText? body = some (.string text) ∧ Synonyms tag text
  /-- A build does not change if such a text is declared in place of the tag. -/
  build : ∀ {σ : Type} (backend : Backend σ) context declarations state diagnostics,
    let given := build backend context declarations state diagnostics
    let retagged := declarations.map (Declaration.retagged tag (ResourceType.ofTag tag).display)
    let other := build backend context retagged state diagnostics
    other.1 = given.1 ∧ other.2.1 = given.2.1

theorem type_of_built {σ : Type} {backend : Backend σ} {context : Context}
    {declarations : List Declaration} {state : σ} {diagnostics : Diagnostics} {i : Nat}
    {declaration : Declaration} {outcome : Outcome} {built : Materialized}
    (hi : declarations[i]? = some declaration)
    (houtcome :
      (build backend context declarations state diagnostics).1.outcomes[i]? = some outcome)
    (hbuilt : outcome.result = .ok built) : built.type = ResourceType.ofTag declaration.type := by
  obtain ⟨attempts, _, _, rfl, _, hbuild⟩ :=
    build_course backend context declarations state diagnostics
  rw [hbuild, List.getElem?_map] at houtcome
  rw [List.getElem?_map] at hi
  obtain ⟨attempted, hattempted, rfl⟩ := Option.map_eq_some_iff.mp hi
  rw [hattempted, Option.map_some] at houtcome
  obtain rfl := Option.some.inj houtcome
  obtain ⟨_, rfl⟩ := Attempt.result_outcome_eq_ok_iff.mp hbuilt
  rfl

section Metadata

variable {context : Context} {args : Object}

theorem comment_notMem_withTags {type : ResourceType} (h : "//" ∉ Entries.keys args) :
    "//" ∉ Entries.keys (withTags context type args) := by
  have hne : "//" ≠ tagsArgument := by decide
  unfold withTags
  split
  · split
    · rw [Entries.keys_insert]
      split
      · exact h
      · intro hmem
        rcases List.mem_append.mp hmem with hmem | hmem
        · exact h hmem
        · exact hne (List.mem_singleton.mp hmem)
    · exact h
  · exact h

theorem typeText?_bodyOf (request : Request) (h : "//" ∉ Entries.keys request.args) :
    Stack.typeText? (Stack.bodyOf request) = some (.string request.type.display) := by
  have hfind : Entries.find? (Stack.bodyOf request) "//" = some (Stack.metadata request) :=
    Entries.find?_insertAll_of_notMem _ h
  simp [Stack.typeText?, Value.at?, hfind, Stack.metadata, Entries.find?]

theorem typeText?_of_builtAt {stack : Stack} (reachable : stack.Reachable)
    (declarations : List Declaration) (diagnostics : Diagnostics) {i : Nat}
    {declaration : Declaration} (hi : declarations[i]? = some declaration)
    (hbuilt : BuiltAt (build Stack.backend context declarations stack diagnostics).1.outcomes i
      declaration.name)
    (hcomment : "//" ∉ Entries.keys declaration.args) :
    ∃ terraformType body,
      (build Stack.backend context declarations stack diagnostics).2.1.body? declaration.kind
        terraformType declaration.name = some body ∧
      Stack.typeText? body = some (.string (ResourceType.ofTag declaration.type).display) := by
  have hfinal := (reachable.build context declarations diagnostics).tidy
  obtain ⟨attempts, state, noted, rfl, course, hbuild⟩ :=
    build_course Stack.backend context declarations stack diagnostics
  rw [hbuild] at hbuilt hfinal ⊢
  obtain ⟨attempted, hattempted, rfl⟩ : ∃ attempted, attempts[i]? = some attempted ∧
      attempted.declaration = declaration := by
    simpa using hi
  rw [builtAt_outcomes hattempted] at hbuilt
  obtain ⟨args, ⟨kind, terraformType, label, body⟩, _, hargs, rfl, rfl, rfl, _, _, _, hmem⟩ :=
    course.recordedAt reachable hattempted hbuilt.2
  have hplain : "//" ∉ Entries.keys args := by
    rw [keys_resolveEntries hargs, Declaration.plainArgs, Entries.keys_erase, List.mem_filter]
    exact fun hkey => hcomment hkey.1
  have htext := typeText?_bodyOf (attempted.declaration.request context args)
    (comment_notMem_withTags hplain)
  refine ⟨terraformType, _, ?_, htext⟩
  rw [hfinal.body?_eq_some_iff, Stack.listing_publishAll]
  exact hmem

example :
    let network : Declaration := ⟨"main", "VPC.Vpc", [], none, false⟩
    let context : Context := ⟨"core", "shop", "dev", "eu-west-1", []⟩
    let final := (build Stack.backend context [network] { region := "eu-west-1" } {}).2.1
    (final.body? .resource "aws_vpc" "main").bind Stack.typeText? = some (.string "vpc.Vpc") := by
  rfl

end Metadata

section Retagging

variable {tag other : String}

def Attempt.retagged (tag other : String) (attempted : Attempt) : Attempt :=
  ⟨attempted.declaration.retagged tag other, attempted.deed⟩

theorem Declaration.name_retagged (tag other : String) (declaration : Declaration) :
    (declaration.retagged tag other).name = declaration.name := by
  unfold retagged
  split <;> rfl

theorem builtBy_map_retagged (tag other : String) (attempts : List Attempt) :
    builtBy (attempts.map (Attempt.retagged tag other)) = builtBy attempts := by
  have hentry : ∀ attempted : Attempt,
      Attempt.entry? (attempted.retagged tag other) = Attempt.entry? attempted := by
    intro attempted
    simp only [Attempt.entry?, Attempt.name, Attempt.retagged, Declaration.name_retagged]
  simp only [builtBy, List.filterMap_map, Function.comp_def, hentry]

variable (h : ResourceType.ofTag other = ResourceType.ofTag tag)

include h

theorem Declaration.materialized_retagged (context : Context) (declaration : Declaration) :
    (declaration.retagged tag other).materialized context = declaration.materialized context := by
  unfold retagged
  split
  · next htag =>
    subst htag
    simp only [materialized, h]
    rfl
  · rfl

theorem outcome_retagged (context : Context) (attempted : Attempt) :
    (attempted.retagged tag other).outcome context = attempted.outcome context := by
  have hresult : attempted.deed.result context (attempted.declaration.retagged tag other) =
      attempted.deed.result context attempted.declaration := by
    obtain ⟨declaration, _ | _ | ⟨_, _ | _⟩⟩ := attempted
    · rfl
    · rfl
    · rfl
    · exact congrArg Except.ok (declaration.materialized_retagged h context)
  rw [Attempt.outcome, Attempt.outcome, Attempt.name, Attempt.name, Attempt.retagged, hresult,
    Declaration.name_retagged]

theorem attempt_retagged {σ : Type} (backend : Backend σ) (context : Context) (registry : Registry)
    (declaration : Declaration) (state : σ) :
    attempt backend context registry (declaration.retagged tag other) state =
      attempt backend context registry declaration state := by
  unfold Declaration.retagged
  split
  · next htag =>
    subst htag
    simp only [attempt, Declaration.request, h]
    rfl
  · rfl

theorem Course.retagged {σ : Type} {backend : Backend σ} {context : Context} {start state : σ}
    {attempts : List Attempt} (course : Course backend context start attempts state) :
    Course backend context start (attempts.map (Attempt.retagged tag other)) state := by
  induction course with
  | nil => exact .nil
  | @snoc attempts state after declaration deed _ hattempt ih =>
    rw [List.map_append]
    apply ih.snoc
    rw [builtBy_map_retagged, attempt_retagged h]
    exact hattempt

theorem build_retagged {σ : Type} (backend : Backend σ) (context : Context)
    (declarations : List Declaration) (state : σ) (diagnostics : Diagnostics) :
    let given := build backend context declarations state diagnostics
    let retagged := build backend context (declarations.map (Declaration.retagged tag other)) state
      diagnostics
    retagged.1 = given.1 ∧ retagged.2.1 = given.2.1 := by
  intro given retagged
  obtain ⟨attempts, state, noted, rfl, course, hgiven⟩ :=
    build_course backend context declarations state diagnostics
  obtain ⟨others, _, noted', hmap, course', hretagged⟩ := build_course backend context
    ((attempts.map Attempt.declaration).map (Declaration.retagged tag other)) _ diagnostics
  have hdeclarations : (attempts.map (Attempt.retagged tag other)).map Attempt.declaration =
      others.map Attempt.declaration := by
    rw [hmap, List.map_map, List.map_map]
    rfl
  -- the retagged attempts are a course of the retagged declarations, and these have only one
  obtain ⟨rfl, rfl⟩ := (course.retagged h).unique course' hdeclarations
  simp only [given, retagged, hgiven, hretagged, builtBy_map_retagged, List.map_map,
    Function.comp_def, outcome_retagged h, and_self]

end Retagging

/-- The texts that are written for the types of tags are tags of these types. -/
theorem tag_readsBack (tag : String) : ReadsBack tag where
  display := synonyms_display tag
  report := by
    intro σ backend context declarations state diagnostics report i declaration outcome built hi
      htag houtcome hbuilt
    rw [type_of_built hi houtcome hbuilt, htag]
    exact synonyms_display tag
  metadata := by
    intro stack reachable context declarations diagnostics report final i declaration hi htag hbuilt
      hcomment
    obtain ⟨terraformType, body, hbody, htext⟩ :=
      typeText?_of_builtAt reachable declarations diagnostics hi hbuilt hcomment
    rw [htag] at htext
    exact ⟨terraformType, body, _, hbody, htext, synonyms_display tag⟩
  build := fun backend context declarations state diagnostics =>
    build_retagged (ResourceType.ofTag_display tag) backend context declarations state diagnostics

end StackSynth
