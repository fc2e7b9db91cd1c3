import StackSynth.Proofs.Build.Course
import StackSynth.Proofs.Resolution.Leaves
import StackSynth.Proofs.Stack.Insertion

namespace StackSynth

def Declaration.construct (declaration : Declaration) (entry : CatalogEntry) : Construct :=
  ⟨Construct.addressOf declaration.kind entry.terraformType declaration.name, entry⟩

def Declaration.catalogEntry (declaration : Declaration) : Except UnknownType CatalogEntry :=
  Catalog.builtin.resolve declaration.kind (ResourceType.ofTag declaration.type)

/-- What is done about a declaration on a stack where its name is new. -/
def verdict (context : Context) (registry : Registry) (declaration : Declaration) : Deed :=
  match (resolveEntries registry declaration.plainArgs).result with
  | .error e => .unresolved e
  | .ok args =>
    .asked (declaration.request context args) <|
      match declaration.catalogEntry with
      | .error unknown => .error (.unknownType unknown)
      | .ok entry => .ok (declaration.construct entry).handle

/-- The body that an attempt has recorded, with its kind, its terraform type and its label. -/
def Attempt.recorded? (attempt : Attempt) : Option (BlockKind × String × String × Object) :=
  match attempt.deed, attempt.declaration.catalogEntry with
  | .asked request (.ok _), .ok entry =>
    some (attempt.declaration.kind, entry.terraformType, attempt.name, Stack.bodyOf request)
  | _, _ => none

def Attempt.recordedAs? (kind : BlockKind) (attempt : Attempt) :
    Option (String × String × Object) :=
  attempt.recorded?.bind fun recorded => if recorded.1 = kind then some recorded.2 else none

theorem verdict_congr {first second : Registry} (context : Context) (declaration : Declaration)
    (h : ∀ name ∈ declaration.references, first.find? name = second.find? name) :
    verdict context first declaration = verdict context second declaration := by
  rw [verdict, verdict, declaration.resolve_congr h]

namespace Attempt

theorem of_recorded?_eq_some {attempted : Attempt} {kind : BlockKind}
    {terraformType label : String} {body : Object}
    (h : attempted.recorded? = some (kind, terraformType, label, body)) :
    attempted.built = true ∧ attempted.name = label := by
  unfold recorded? at h
  split at h
  · next request handle entry hdeed hentry =>
    obtain ⟨rfl, rfl, rfl, rfl⟩ := by simpa using h
    exact ⟨built_iff.mpr ⟨request, handle, hdeed⟩, rfl⟩
  · cases h

theorem recorded?_eq_none {declaration : Declaration} {deed : Deed} (h : deed.handle? = none) :
    (⟨declaration, deed⟩ : Attempt).recorded? = none := by
  cases hrecorded : (⟨declaration, deed⟩ : Attempt).recorded? with
  | none => rfl
  | some recorded =>
    have hbuilt := (of_recorded?_eq_some hrecorded).1
    simp [built, h] at hbuilt

theorem recorded?_asked {declaration : Declaration} {entry : CatalogEntry} (request : Request)
    (handle : Handle) (h : declaration.catalogEntry = .ok entry) :
    (⟨declaration, .asked request (.ok handle)⟩ : Attempt).recorded? =
      some (declaration.kind, entry.terraformType, declaration.name, Stack.bodyOf request) := by
  simp only [recorded?, h]
  rfl

end Attempt

namespace Stack

variable {context : Context} {registry : Registry} {declaration : Declaration} {deed : Deed}
  {stack after : Stack}

/-- An attempt leaves a stack as it is, or records the body of a construct under a new name. -/
theorem attempt_cases
    (h : attempt Stack.backend context registry declaration stack = (deed, after)) :
    (deed.handle? = none ∧ after = stack) ∨
    (∃ args entry, (resolveEntries registry declaration.plainArgs).result = .ok args ∧
      declaration.catalogEntry = .ok entry ∧ declaration.name ∉ registry.names ∧
      declaration.name ∉ stack.names ∧
      deed = .asked (declaration.request context args) (.ok (declaration.construct entry).handle) ∧
      after = stack.record declaration.kind entry.terraformType
        (declaration.request context args)) := by
  obtain ⟨e, _, rfl, rfl⟩ | ⟨args, _, _, rfl, rfl⟩ | ⟨args, answer, hresult, hname, hask, rfl⟩ :=
    StackSynth.attempt_cases h
  · exact Or.inl ⟨rfl, rfl⟩
  · exact Or.inl ⟨rfl, rfl⟩
  · rw [materialize_backend] at hask
    obtain ⟨_, _, rfl, rfl⟩ | ⟨_, _, _, rfl, rfl⟩ | ⟨entry, hentry, hnew, rfl, rfl⟩ :=
      insert_cases hask
    · exact Or.inl ⟨rfl, rfl⟩
    · exact Or.inl ⟨rfl, rfl⟩
    · exact Or.inr ⟨args, entry, hresult, hentry, hname, hnew, rfl, rfl⟩

theorem attempt_eq_verdict
    (h : attempt Stack.backend context registry declaration stack = (deed, after))
    (hregistry : declaration.name ∉ registry.names) (hstack : declaration.name ∉ stack.names) :
    deed = verdict context registry declaration := by
  unfold verdict
  obtain ⟨e, hresult, rfl, _⟩ | ⟨_, _, hname, _, _⟩ | ⟨args, answer, hresult, _, hask, rfl⟩ :=
    StackSynth.attempt_cases h
  · rw [hresult]
  · exact absurd hname hregistry
  · rw [materialize_backend] at hask
    obtain ⟨unknown, hentry, rfl, _⟩ | ⟨_, _, hname, _, _⟩ | ⟨entry, hentry, _, rfl, _⟩ :=
      insert_cases hask
    · have hunknown : declaration.catalogEntry = .error unknown := hentry
      simp only [hresult, hunknown]
    · exact absurd hname hstack
    · have hknown : declaration.catalogEntry = .ok entry := hentry
      simp only [hresult, hknown]
      rfl

end Stack

namespace Course

variable {context : Context} {start state : Stack} {attempts : List Attempt}

theorem names_stack (course : Course Stack.backend context start attempts state) :
    state.names = start.names ++ (builtBy attempts).names := by
  induction course with
  | nil => simp [builtBy, Registry.names, Entries.keys]
  | snoc _ hattempt ih =>
    rw [builtBy_snoc]
    obtain ⟨hhandle, rfl⟩ | ⟨args, entry, _, _, _, _, rfl, rfl⟩ := Stack.attempt_cases hattempt
    · rw [hhandle, ih]
    · rw [Stack.names_record, ih, List.append_assoc]
      simp [Deed.handle?, Registry.names, Entries.keys, Declaration.request]

theorem outputs_stack (course : Course Stack.backend context start attempts state) :
    state.region = start.region ∧ state.outputs = start.outputs := by
  induction course with
  | nil => exact ⟨rfl, rfl⟩
  | snoc _ hattempt ih =>
    obtain ⟨_, rfl⟩ | ⟨args, entry, _, _, _, _, _, rfl⟩ := Stack.attempt_cases hattempt
    · exact ih
    · rw [Stack.region_record, Stack.outputs_record]
      exact ih

theorem labelled (course : Course Stack.backend context start attempts state)
    (h : start.Labelled) : state.Labelled := by
  induction course with
  | nil => exact h
  | snoc _ hattempt ih =>
    obtain ⟨_, rfl⟩ | ⟨args, entry, _, _, _, _, _, rfl⟩ := Stack.attempt_cases hattempt
    · exact ih
    · exact ih.record _ _ _

theorem body?_eq_some_iff (course : Course Stack.backend context start attempts state)
    (h : start.Labelled) {kind : BlockKind} {terraformType label : String} {body : Object} :
    state.body? kind terraformType label = some body ↔
      start.body? kind terraformType label = some body ∨
        ∃ attempted ∈ attempts,
          attempted.recorded? = some (kind, terraformType, label, body) := by
  induction course with
  | nil => simp
  | @snoc attempts state after declaration deed course hattempt ih =>
    simp only [List.mem_append, List.mem_singleton, or_and_right, exists_or, exists_eq_left,
      ← or_assoc, ← ih]
    obtain ⟨hhandle, rfl⟩ | ⟨args, entry, _, hentry, _, hnew, rfl, rfl⟩ :=
      Stack.attempt_cases hattempt
    · rw [Attempt.recorded?_eq_none hhandle]
      simp
    · -- the name is new, so the body hides none that was recorded before
      have hnone := (course.labelled h).body?_eq_none hnew declaration.kind entry.terraformType
      rw [Stack.body?_record, Attempt.recorded?_asked _ _ hentry]
      by_cases hsame : kind = declaration.kind ∧ terraformType = entry.terraformType ∧
          label = declaration.name
      · obtain ⟨rfl, rfl, rfl⟩ := hsame
        rw [if_pos ⟨rfl, rfl, rfl⟩]
        simp [hnone]
      · have hne : (declaration.request context args).name = declaration.name := rfl
        rw [hne, if_neg hsame]
        grind

/-- The constructs in a stack are those it had and those that were recorded. -/
theorem constructs_perm (course : Course Stack.backend context start attempts state)
    (h : start.Labelled) (kind : BlockKind) :
    (state.blocks kind).constructs.Perm
      ((start.blocks kind).constructs ++ attempts.filterMap (Attempt.recordedAs? kind)) := by
  induction course with
  | nil => simp
  | @snoc attempts state after declaration deed course hattempt ih =>
    rw [List.filterMap_append, ← List.append_assoc]
    obtain ⟨hhandle, rfl⟩ | ⟨args, entry, _, hentry, _, hnew, rfl, rfl⟩ :=
      Stack.attempt_cases hattempt
    · simpa [Attempt.recordedAs?, Attempt.recorded?_eq_none hhandle] using ih
    · have hnone := (course.labelled h).body?_eq_none hnew declaration.kind entry.terraformType
      rw [Stack.blocks_record]
      by_cases hkind : kind = declaration.kind
      · subst hkind
        rw [if_pos rfl]
        simp only [List.filterMap_cons, List.filterMap_nil, Attempt.recordedAs?,
          Attempt.recorded?_asked _ _ hentry, Option.bind_some, if_pos]
        calc
          List.Perm _ (_ :: (state.blocks declaration.kind).constructs) :=
            Blocks.constructs_add _ hnone
          List.Perm _ (_ :: (_ ++ attempts.filterMap (Attempt.recordedAs? declaration.kind))) :=
            ih.cons _
          List.Perm _ _ := (List.perm_append_singleton _ _).symm
      · have hne : declaration.kind ≠ kind := fun e => hkind e.symm
        simpa [Attempt.recordedAs?, Attempt.recorded?_asked _ _ hentry, hkind, hne] using ih

/-- Where names are distinct and new, what is done about a declaration is its verdict against the
resources built before it. -/
theorem deed_eq_verdict {earlier later : List Attempt} {attempted : Attempt}
    (course : Course Stack.backend context start (earlier ++ attempted :: later) state)
    (hnames : ((earlier ++ attempted :: later).map Attempt.name).Nodup)
    (hstart : attempted.name ∉ start.names) :
    attempted.deed = verdict context (builtBy earlier) attempted.declaration := by
  obtain ⟨before, after, hbefore, hattempt⟩ := course.split
  rw [List.map_append, List.map_cons, List.nodup_append] at hnames
  have hregistry : attempted.name ∉ (builtBy earlier).names := by
    rw [mem_names_builtBy]
    rintro ⟨other, hother, _, hname⟩
    exact hnames.2.2 _ (List.mem_map_of_mem hother) _ List.mem_cons_self hname
  have hstack : attempted.name ∉ before.names := by
    rw [hbefore.names_stack, List.mem_append]
    exact not_or.mpr ⟨hstart, hregistry⟩
  exact Stack.attempt_eq_verdict hattempt hregistry hstack

end Course

/-- What is done to publish the output of a resource on a stack where its name is new. -/
def Handle.notice (handle : Handle) : Notice :=
  match handle.id with
  | .error e => .unidentified e
  | .ok value => .asked value (.ok ())

def publicationOf (resource : String × Handle) : Publication :=
  ⟨resource.1, resource.2, resource.2.notice⟩

def output? (resource : String × Handle) : Option (String × Value) :=
  match resource.2.id with
  | .error _ => none
  | .ok value => some (outputName resource.1, value)

theorem outputName_inj {name other : String} :
    outputName name = outputName other ↔ name = other :=
  String.append_right_inj _

/-- Where all names are new, no output is refused. -/
theorem publishAll_stack (handles : List (String × Handle)) (stack : Stack)
    (distinct : (Entries.keys handles).Nodup)
    (free : ∀ name ∈ Entries.keys handles, outputName name ∉ Entries.keys stack.outputs) :
    publishAll Stack.backend handles stack =
      (handles.map publicationOf,
        { stack with outputs := stack.outputs ++ handles.filterMap output? }) := by
  induction handles generalizing stack with
  | nil => simp [publishAll]
  | cons resource rest ih =>
    obtain ⟨name, handle⟩ := resource
    obtain ⟨hname, hrest⟩ := List.nodup_cons.mp distinct
    have hfree : ∀ other ∈ Entries.keys rest, outputName other ∉ Entries.keys stack.outputs :=
      fun other hother => free other (List.mem_cons_of_mem _ hother)
    cases hid : handle.id with
    | error e =>
      simp [publishAll, notice, hid, ih stack hrest hfree, publicationOf, Handle.notice, output?]
    | ok value =>
      have hpublish : Stack.backend.publish (outputName name) value stack =
          (.ok (), { stack with outputs := stack.outputs ++ [(outputName name, value)] }) :=
        (Stack.publish_eq _ _ _).trans (if_neg (free name List.mem_cons_self))
      have hfree' : ∀ other ∈ Entries.keys rest,
          outputName other ∉ Entries.keys (stack.outputs ++ [(outputName name, value)]) := by
        intro other hother
        rw [Entries.keys_append, List.mem_append]
        refine not_or.mpr ⟨hfree other hother, ?_⟩
        have hne : other ≠ name := fun e => hname (e ▸ hother)
        simpa [Entries.keys, outputName_inj] using hne
      have hafter := ih { stack with outputs := stack.outputs ++ [(outputName name, value)] }
        hrest hfree'
      simp [publishAll, notice, hid, hpublish, hafter, publicationOf, Handle.notice, output?]

theorem keys_filterMap_output? (handles : List (String × Handle)) :
    (Entries.keys (handles.filterMap output?)).Sublist
      ((Entries.keys handles).map outputName) := by
  induction handles with
  | nil => exact List.Sublist.slnil
  | cons resource rest ih =>
    obtain ⟨name, handle⟩ := resource
    cases hid : handle.id with
    | error e =>
      have hnone : output? (name, handle) = none := by simp [output?, hid]
      rw [List.filterMap_cons_none hnone]
      exact ih.cons _
    | ok value =>
      have hsome : output? (name, handle) = some (outputName name, value) := by
        simp [output?, hid]
      rw [List.filterMap_cons_some hsome]
      exact ih.cons_cons _

theorem Course.publishAll_eq {context : Context} {start state : Stack} {attempts : List Attempt}
    (course : Course Stack.backend context start attempts state)
    (free : ∀ name ∈ (builtBy attempts).names, outputName name ∉ Entries.keys start.outputs) :
    publishAll Stack.backend (builtBy attempts).handles state =
      ((builtBy attempts).handles.map publicationOf,
        { state with
          outputs := start.outputs ++ (builtBy attempts).handles.filterMap output? }) := by
  have houtputs : state.outputs = start.outputs := course.outputs_stack.2
  have hfree : ∀ name ∈ Entries.keys (builtBy attempts).handles,
      outputName name ∉ Entries.keys state.outputs := by
    rw [houtputs]
    exact free
  rw [publishAll_stack _ _ course.names_nodup hfree, houtputs]

/-- On a stack without outputs, a build publishes exactly the outputs of its resources. -/
theorem build_course_stack (context : Context) (declarations : List Declaration) {stack : Stack}
    (hempty : stack.outputs = []) (diagnostics : Diagnostics) :
    ∃ attempts state noted, attempts.map Attempt.declaration = declarations ∧
      Course Stack.backend context stack attempts state ∧
      build Stack.backend context declarations stack diagnostics =
        (⟨attempts.map (Attempt.outcome context),
            ((builtBy attempts).handles.map publicationOf).map Publication.toExport,
            builtBy attempts⟩,
          { state with outputs := (builtBy attempts).handles.filterMap output? }, noted) := by
  obtain ⟨attempts, state, noted, hmap, course, hbuild⟩ :=
    build_course Stack.backend context declarations stack diagnostics
  refine ⟨attempts, state, noted, hmap, course, ?_⟩
  rw [hbuild, course.publishAll_eq (by simp [hempty, Entries.keys]), hempty, List.nil_append]

end StackSynth
