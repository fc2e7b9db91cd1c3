import StackSynth.Proofs.Stack.Reachable

namespace StackSynth

namespace Stack

/-- What holds of a stack and of every call that comes next. -/
structure Lawful (stack : Stack) : Prop where
  /-- A name is in use exactly if it labels a construct. -/
  mem_names_iff : ∀ name, name ∈ stack.names ↔ name ∈ stack.labels
  /-- It labels one of all constructs, of whatever kind and type. -/
  count_labels : ∀ name ∈ stack.names, stack.labels.count name = 1
  body?_iff : ∀ kind terraformType label body,
    stack.body? kind terraformType label = some body ↔
      ⟨kind, terraformType, label, body⟩ ∈ stack.listing
  /-- The type is to blame exactly if the catalog does not have it, also for a taken name. -/
  unknownType_iff : ∀ kind request unknown,
    (Stack.backend.materialize kind request stack).1 = .error (.unknownType unknown) ↔
      Catalog.builtin.resolve kind request.type = .error unknown
  /-- The name is to blame exactly if the catalog has the type and the name labels a construct. -/
  duplicate_iff : ∀ kind request name,
    (Stack.backend.materialize kind request stack).1 = .error (.duplicateConstruct name) ↔
      name = request.name ∧ (∃ entry, Catalog.builtin.resolve kind request.type = .ok entry) ∧
        request.name ∈ stack.labels
  /-- There is nothing else to blame. -/
  refusals : ∀ kind request e, (Stack.backend.materialize kind request stack).1 = .error e →
    (∃ unknown, e = .unknownType unknown) ∨ e = .duplicateConstruct request.name
  unchanged : ∀ kind request e, (Stack.backend.materialize kind request stack).1 = .error e →
    (Stack.backend.materialize kind request stack).2 = stack
  /-- A name that was refused can still be used for a known type, unless it is taken. -/
  retry : ∀ kind request e, (Stack.backend.materialize kind request stack).1 = .error e →
    request.name ∉ stack.labels → ∀ again other, again.name = request.name →
      (∃ entry, Catalog.builtin.resolve other again.type = .ok entry) →
      ∃ handle, (Stack.backend.materialize other again
        (Stack.backend.materialize kind request stack).2).1 = .ok handle
  recorded : ∀ kind request handle,
    (Stack.backend.materialize kind request stack).1 = .ok handle →
    ∃ entry before after, Catalog.builtin.resolve kind request.type = .ok entry ∧
      stack.listing = before ++ after ∧
      (Stack.backend.materialize kind request stack).2.listing =
        before ++ ⟨kind, entry.terraformType, request.name, bodyOf request⟩ :: after ∧
      (Stack.backend.materialize kind request stack).2.names = stack.names ++ [request.name] ∧
      (Stack.backend.materialize kind request stack).2.outputs = stack.outputs ∧
      (Stack.backend.materialize kind request stack).2.region = stack.region
  /-- An output is refused exactly if there is one of its name. -/
  publish_error_iff : ∀ output value e,
    (Stack.backend.publish output value stack).1 = .error e ↔
      e = .duplicateOutput output ∧ output ∈ Entries.keys stack.outputs
  publish_unchanged : ∀ output value e, (Stack.backend.publish output value stack).1 = .error e →
    (Stack.backend.publish output value stack).2 = stack
  published : ∀ output value, (Stack.backend.publish output value stack).1 = .ok () →
    (Stack.backend.publish output value stack).2 =
      { stack with outputs := stack.outputs ++ [(output, value)] }

variable {stack : Stack} {kind : BlockKind} {request : Request}

theorem insert_eq_unknown {unknown : UnknownType}
    (h : Catalog.builtin.resolve kind request.type = .error unknown) :
    insert kind request stack = (.error (.unknownType unknown), stack) := by
  rw [insert, h]

theorem insert_eq_duplicate {entry : CatalogEntry}
    (h : Catalog.builtin.resolve kind request.type = .ok entry)
    (hname : request.name ∈ stack.names) :
    insert kind request stack = (.error (.duplicateConstruct request.name), stack) := by
  rw [insert, h]
  exact if_pos (List.contains_iff_mem.mpr hname)

theorem insert_eq_record {entry : CatalogEntry}
    (h : Catalog.builtin.resolve kind request.type = .ok entry)
    (hname : request.name ∉ stack.names) :
    insert kind request stack =
      (.ok (Construct.mk (Construct.addressOf kind entry.terraformType request.name) entry).handle,
        stack.record kind entry.terraformType request) := by
  rw [insert, h]
  exact if_neg (mt List.contains_iff_mem.mp hname)

theorem unknownType_iff (kind : BlockKind) (request : Request) (unknown : UnknownType) :
    (insert kind request stack).1 = .error (.unknownType unknown) ↔
      Catalog.builtin.resolve kind request.type = .error unknown := by
  cases hresolve : Catalog.builtin.resolve kind request.type with
  | error other => simp [insert_eq_unknown hresolve]
  | ok entry =>
    by_cases hname : request.name ∈ stack.names
    · simp [insert_eq_duplicate hresolve hname]
    · simp [insert_eq_record hresolve hname]

theorem duplicateConstruct_iff (kind : BlockKind) (request : Request) (name : String) :
    (insert kind request stack).1 = .error (.duplicateConstruct name) ↔
      name = request.name ∧ (∃ entry, Catalog.builtin.resolve kind request.type = .ok entry) ∧
        request.name ∈ stack.names := by
  cases hresolve : Catalog.builtin.resolve kind request.type with
  | error unknown => simp [insert_eq_unknown hresolve]
  | ok entry =>
    by_cases hname : request.name ∈ stack.names
    · simp [insert_eq_duplicate hresolve hname, hname, eq_comm]
    · simp [insert_eq_record hresolve hname, hname]

/-- A request that is refused has an unknown type or a taken name, and changes nothing. -/
theorem insert_eq_error {e : BackendError} (h : (insert kind request stack).1 = .error e) :
    ((∃ unknown, e = .unknownType unknown) ∨
      e = .duplicateConstruct request.name ∧ request.name ∈ stack.names) ∧
      (insert kind request stack).2 = stack := by
  obtain ⟨unknown, _, hanswer, hafter⟩ | ⟨_, _, hname, hanswer, hafter⟩ | ⟨_, _, _, hanswer, _⟩ :=
    insert_cases (Prod.eta (insert kind request stack)).symm
  · rw [hanswer] at h
    exact ⟨Or.inl ⟨unknown, (Except.error.inj h).symm⟩, hafter⟩
  · rw [hanswer] at h
    exact ⟨Or.inr ⟨(Except.error.inj h).symm, hname⟩, hafter⟩
  · rw [hanswer] at h
    cases h

theorem Tidy.recorded (tidy : stack.Tidy) {handle : Handle}
    (h : (Stack.insert kind request stack).1 = .ok handle) :
    ∃ entry before after, Catalog.builtin.resolve kind request.type = .ok entry ∧
      stack.listing = before ++ after ∧
      (Stack.insert kind request stack).2.listing =
        before ++ ⟨kind, entry.terraformType, request.name, bodyOf request⟩ :: after ∧
      (Stack.insert kind request stack).2.names = stack.names ++ [request.name] ∧
      (Stack.insert kind request stack).2.outputs = stack.outputs ∧
      (Stack.insert kind request stack).2.region = stack.region := by
  obtain ⟨entry, hentry, hnew, _, hafter⟩ := insert_eq_ok h
  have hnone := tidy.labelled.body?_eq_none hnew kind entry.terraformType
  obtain ⟨before, after, hlisting, hrecorded⟩ := listing_record hnone
  refine ⟨entry, before, after, hentry, hlisting, ?_⟩
  rw [hafter]
  exact ⟨hrecorded, names_record _ _ _ _, outputs_record _ _ _ _, region_record _ _ _ _⟩

theorem publish_error_iff (output : String) (value : Value) (e : BackendError) :
    (publish output value stack).1 = .error e ↔
      e = .duplicateOutput output ∧ output ∈ Entries.keys stack.outputs := by
  rw [publish_eq]
  by_cases h : output ∈ Entries.keys stack.outputs
  · simp [h, eq_comm]
  · simp [h]

/-- Wherever calls have led, the names in use are the labels of the constructs, each of one, and
each further call is answered by them and the catalog, changes nothing if it is refused, and adds
one entry if it is not. -/
theorem Reachable.lawful (reachable : stack.Reachable) : stack.Lawful := by
  have tidy : stack.Tidy := reachable.tidy
  have hpublish : Stack.backend.publish = Stack.publish := rfl
  exact
    { mem_names_iff := fun _ => tidy.mem_names_iff
      count_labels := fun name hname =>
        List.count_eq_one_of_mem tidy.labels_nodup (tidy.mem_names_iff.mp hname)
      body?_iff := fun _ _ _ _ => tidy.body?_eq_some_iff
      unknownType_iff := by
        intro kind request unknown
        rw [materialize_backend]
        exact unknownType_iff kind request unknown
      duplicate_iff := by
        intro kind request name
        rw [materialize_backend, ← tidy.mem_names_iff]
        exact duplicateConstruct_iff kind request name
      refusals := by
        intro kind request e h
        rw [materialize_backend] at h
        exact (insert_eq_error h).1.imp_right And.left
      unchanged := by
        intro kind request e h
        rw [materialize_backend] at h ⊢
        exact (insert_eq_error h).2
      retry := by
        intro kind request e h hlabel again other hagain hknown
        obtain ⟨entry, hentry⟩ := hknown
        have hname : again.name ∉ stack.names := by
          rw [hagain, tidy.mem_names_iff]
          exact hlabel
        rw [materialize_backend] at h
        rw [materialize_backend, materialize_backend, (insert_eq_error h).2,
          insert_eq_record hentry hname]
        exact ⟨_, rfl⟩
      recorded := by
        intro kind request handle h
        rw [materialize_backend] at h ⊢
        exact tidy.recorded h
      publish_error_iff := by
        intro output value e
        rw [hpublish]
        exact publish_error_iff output value e
      publish_unchanged := by
        intro output value e h
        rw [hpublish] at h ⊢
        have houtput := ((publish_error_iff output value e).mp h).2
        rw [publish_eq, if_pos houtput]
      published := by
        intro output value h
        rw [hpublish] at h ⊢
        have houtput : output ∉ Entries.keys stack.outputs := by
          intro hmem
          rw [publish_eq, if_pos hmem] at h
          cases h
        rw [publish_eq, if_neg houtput] }

/-- A stack with a network that was created and a queue that was looked up, after a second network
of the same name was refused. -/
theorem lawful_network :
    let network : Request :=
      ⟨"main", "core-main", ⟨"vpc", "Vpc"⟩, [("cidr", .string "10.0.0.0/16")]⟩
    let queue : Request := ⟨"jobs", "core-jobs", ⟨"sqs_queue", "Queue"⟩, []⟩
    let first := (Stack.backend.create network { region := "eu-west-1" }).2
    let second := (Stack.backend.lookup network first).2
    let stack := (Stack.backend.lookup queue second).2
    stack.names = ["main", "jobs"] ∧ stack.Reachable ∧ stack.Lawful := by
  intro network queue first second stack
  have hnew : Stack.new "eu-west-1" = .ok { region := "eu-west-1" } := by rfl
  have reachable : stack.Reachable :=
    (((Reachable.new hnew).create network).lookup network).lookup queue
  exact ⟨by decide, reachable, reachable.lawful⟩

end Stack

end StackSynth
