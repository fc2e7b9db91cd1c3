import StackSynth.Proofs.Build.Recording
import StackSynth.Proofs.Build.Survivors

namespace StackSynth

/-- A stack and the reports of the builds into it, in their order. Between the builds constructs may
be asked for, but nothing is published. -/
inductive Session : Stack → List BuildReport → Prop where
  | new {region : String} {stack : Stack} : Stack.new region = .ok stack → Session stack []
  | create {stack : Stack} {reports : List BuildReport} (request : Request) :
      Session stack reports → Session (Stack.backend.create request stack).2 reports
  | lookup {stack : Stack} {reports : List BuildReport} (request : Request) :
      Session stack reports → Session (Stack.backend.lookup request stack).2 reports
  | build {stack : Stack} {reports : List BuildReport} (context : Context)
      (declarations : List Declaration) (diagnostics : Diagnostics) : Session stack reports →
      Session (StackSynth.build Stack.backend context declarations stack diagnostics).2.1
        (reports ++ [(StackSynth.build Stack.backend context declarations stack diagnostics).1])

def registeredNames (reports : List BuildReport) : List String :=
  reports.flatMap (·.registry.names)

/-- What holds of the outputs of a stack and of the builds that have published them. -/
structure Published (stack : Stack) (reports : List BuildReport) : Prop where
  /-- There is one output for each registered name, and none is refused. -/
  exports_eq : ∀ report ∈ reports, report.exports.map Export.name = report.registry.names
  exported : ∀ report ∈ reports, ∀ published ∈ report.exports,
    ∃ value, published.result = .ok value ∧ (published.output, value) ∈ stack.outputs
  names_eq : ∀ report ∈ reports, report.registry.names = report.successes.map Outcome.name
  names_nodup : (registeredNames reports).Nodup
  keys_eq : Entries.keys stack.outputs = (registeredNames reports).map outputName
  /-- An output is the `id` of the only construct with its name. -/
  value_eq : ∀ name value, (outputName name, value) ∈ stack.outputs →
    ∃ block ∈ stack.listing, block.label = name ∧
      (∀ other ∈ stack.listing, other.label = name → other = block) ∧
      value = .string (block.reference "id")
  values_nodup : (stack.outputs.map Prod.snd).Nodup

/-- What every step of a session keeps. -/
structure Accounted (stack : Stack) (reports : List BuildReport) : Prop where
  reachable : stack.Reachable
  exports_eq : ∀ report ∈ reports, report.exports.map Export.name = report.registry.names
  exported : ∀ report ∈ reports, ∀ published ∈ report.exports,
    ∃ value, published.result = .ok value ∧ (published.output, value) ∈ stack.outputs
  names_eq : ∀ report ∈ reports, report.registry.names = report.successes.map Outcome.name
  /-- What a build has registered cannot be registered again. -/
  names_used : registeredNames reports ⊆ stack.names
  names_nodup : (registeredNames reports).Nodup
  keys_eq : Entries.keys stack.outputs = (registeredNames reports).map outputName
  value_eq : ∀ name value, (outputName name, value) ∈ stack.outputs →
    ∃ block ∈ stack.listing, block.label = name ∧ (∃ handle : Handle, handle.IsFor block) ∧
      value = .string (block.reference "id")

@[simp] theorem registeredNames_snoc (reports : List BuildReport) (report : BuildReport) :
    registeredNames (reports ++ [report]) = registeredNames reports ++ report.registry.names := by
  simp [registeredNames]

theorem output?_eq {name : String} {handle : Handle} {block : Block} (h : handle.IsFor block) :
    output? (name, handle) = some (outputName name, .string (block.reference "id")) := by
  simp only [output?, h.id_eq]

theorem result_publicationOf {name : String} {handle : Handle} {block : Block}
    (h : handle.IsFor block) :
    (publicationOf (name, handle)).toExport =
      ⟨name, outputName name, .ok (.string (block.reference "id"))⟩ := by
  simp only [publicationOf, Publication.toExport, Handle.notice, h.id_eq, Notice.result]

section Courses

variable {context : Context} {start state : Stack} {attempts : List Attempt}

theorem Course.exists_block (course : Course Stack.backend context start attempts state)
    (hstart : start.Reachable) {name : String} {handle : Handle}
    (h : (name, handle) ∈ (builtBy attempts).handles) :
    ∃ block ∈ state.listing, block.label = name ∧ handle.IsFor block := by
  rw [← List.take_length (l := attempts)] at h
  obtain ⟨_, _, _, block, _, _, _, hlabel, hisFor, _, hmem⟩ := course.exists_of_mem_handles hstart h
  exact ⟨block, hmem, hlabel, hisFor⟩

theorem Course.keys_outputs (course : Course Stack.backend context start attempts state)
    (hstart : start.Reachable) :
    Entries.keys ((builtBy attempts).handles.filterMap output?) =
      (builtBy attempts).names.map outputName := by
  have hsome : ∀ resource ∈ (builtBy attempts).handles, ∃ value,
      output? resource = some (outputName resource.1, value) := by
    rintro ⟨name, handle⟩ hmem
    obtain ⟨block, _, _, hisFor⟩ := course.exists_block hstart hmem
    exact ⟨_, output?_eq hisFor⟩
  rw [Registry.names]
  generalize (builtBy attempts).handles = handles at hsome
  induction handles with
  | nil => rfl
  | cons resource rest ih =>
    obtain ⟨value, hvalue⟩ := hsome resource List.mem_cons_self
    have hrest := ih fun other hother => hsome other (List.mem_cons_of_mem _ hother)
    rw [List.filterMap_cons_some hvalue]
    simpa [Entries.keys] using hrest

theorem Course.listing_subset (course : Course Stack.backend context start attempts state)
    (hstart : start.Reachable) : start.listing ⊆ state.listing := by
  intro block hblock
  have hbody := hstart.tidy.body?_eq_some_iff.mpr hblock
  apply (course.reachable hstart).tidy.body?_eq_some_iff.mp
  exact (course.body?_eq_some_iff hstart.tidy.labelled).mpr (Or.inl hbody)

theorem Course.names_disjoint (course : Course Stack.backend context start attempts state)
    (hstart : start.Reachable) : start.names.Disjoint (builtBy attempts).names := by
  have hnames := (course.reachable hstart).tidy.names_nodup
  rw [course.names_stack] at hnames
  exact List.disjoint_of_nodup_append hnames

end Courses

namespace Accounted

variable {stack : Stack} {reports : List BuildReport}

theorem mem_names (accounted : Accounted stack reports) {name : String}
    (h : outputName name ∈ Entries.keys stack.outputs) : name ∈ stack.names := by
  rw [accounted.keys_eq, List.mem_map] at h
  obtain ⟨other, hother, heq⟩ := h
  obtain rfl := outputName_inj.mp heq
  exact accounted.names_used hother

theorem of_new {region : String} (h : Stack.new region = .ok stack) : Accounted stack [] where
  reachable := .new h
  exports_eq := by simp
  exported := by simp
  names_eq := by simp
  names_used := List.nil_subset _
  names_nodup := List.nodup_nil
  keys_eq := by
    rw [(Stack.new_eq_ok_iff.mp h).2]
    rfl
  value_eq := by
    rw [(Stack.new_eq_ok_iff.mp h).2]
    simp

theorem insert (accounted : Accounted stack reports) (kind : BlockKind) (request : Request) :
    Accounted (Stack.insert kind request stack).2 reports := by
  have houtputs : (Stack.insert kind request stack).2.outputs = stack.outputs := by
    obtain hafter | ⟨entry, _, hafter⟩ := Stack.insert_state_cases kind request stack
    · rw [hafter]
    · rw [hafter, Stack.outputs_record]
  have hlisting := accounted.reachable.tidy.listing_subset_insert kind request
  have reachable := accounted.reachable.materialize kind request
  rw [Stack.materialize_backend] at reachable
  have hnames : stack.names ⊆ (Stack.insert kind request stack).2.names := by
    intro name hname
    rw [accounted.reachable.tidy.mem_names_iff] at hname
    rw [reachable.tidy.mem_names_iff]
    exact List.map_subset _ hlisting hname
  exact
    { reachable := reachable
      exports_eq := accounted.exports_eq
      exported := by
        rw [houtputs]
        exact accounted.exported
      names_eq := accounted.names_eq
      names_used := fun _ hname => hnames (accounted.names_used hname)
      names_nodup := accounted.names_nodup
      keys_eq := by
        rw [houtputs]
        exact accounted.keys_eq
      value_eq := by
        rw [houtputs]
        intro name value hmem
        obtain ⟨block, hblock, hfacts⟩ := accounted.value_eq name value hmem
        exact ⟨block, hlisting hblock, hfacts⟩ }

theorem build (accounted : Accounted stack reports) (context : Context)
    (declarations : List Declaration) (diagnostics : Diagnostics) :
    Accounted (StackSynth.build Stack.backend context declarations stack diagnostics).2.1
      (reports ++ [(StackSynth.build Stack.backend context declarations stack diagnostics).1]) := by
  have hreachable := accounted.reachable
  have hfinal := hreachable.build context declarations diagnostics
  obtain ⟨attempts, state, noted, _, course, hbuild⟩ :=
    build_course Stack.backend context declarations stack diagnostics
  have hdisjoint := course.names_disjoint hreachable
  have hfree : ∀ name ∈ (builtBy attempts).names,
      outputName name ∉ Entries.keys stack.outputs :=
    fun name hname houtput => hdisjoint (accounted.mem_names houtput) hname
  -- the outputs are new, since the names of all outputs before are in use
  rw [course.publishAll_eq hfree] at hbuild
  rw [hbuild] at hfinal ⊢
  have hlisting : stack.listing ⊆ state.listing := course.listing_subset hreachable
  have hnames : registeredNames reports ⊆ stack.names := accounted.names_used
  refine
    { reachable := hfinal
      exports_eq := ?_
      exported := ?_
      names_eq := ?_
      names_used := ?_
      names_nodup := ?_
      keys_eq := ?_
      value_eq := ?_ }
  · intro report hreport
    rcases List.mem_append.mp hreport with hreport | hreport
    · exact accounted.exports_eq report hreport
    · obtain rfl := List.mem_singleton.mp hreport
      simp [Registry.names, Entries.keys, publicationOf, Publication.toExport]
  · intro report hreport published hpublished
    rcases List.mem_append.mp hreport with hreport | hreport
    · obtain ⟨value, hresult, hmem⟩ := accounted.exported report hreport published hpublished
      exact ⟨value, hresult, List.mem_append_left _ hmem⟩
    · obtain rfl := List.mem_singleton.mp hreport
      rw [List.map_map, List.mem_map] at hpublished
      obtain ⟨⟨name, handle⟩, hhandle, rfl⟩ := hpublished
      obtain ⟨block, _, _, hisFor⟩ := course.exists_block hreachable hhandle
      rw [Function.comp_apply, result_publicationOf hisFor]
      refine ⟨_, rfl, List.mem_append_right _ ?_⟩
      exact List.mem_filterMap.mpr ⟨_, hhandle, output?_eq hisFor⟩
  · intro report hreport
    rcases List.mem_append.mp hreport with hreport | hreport
    · exact accounted.names_eq report hreport
    · obtain rfl := List.mem_singleton.mp hreport
      simp only [BuildReport.successes, filter_failed_outcomes, names_builtBy, List.map_map]
      rfl
  · rw [registeredNames_snoc]
    change _ ⊆ state.names
    rw [course.names_stack]
    exact List.append_subset.mpr
      ⟨fun _ h => List.mem_append_left _ (hnames h), List.subset_append_right _ _⟩
  · rw [registeredNames_snoc, List.nodup_append]
    refine ⟨accounted.names_nodup, course.names_nodup, ?_⟩
    rintro name hname other hother rfl
    exact hdisjoint (hnames hname) hother
  · rw [registeredNames_snoc, List.map_append, Entries.keys_append, accounted.keys_eq,
      course.keys_outputs hreachable]
  · intro name value hmem
    rcases List.mem_append.mp hmem with hmem | hmem
    · obtain ⟨block, hblock, hfacts⟩ := accounted.value_eq name value hmem
      exact ⟨block, hlisting hblock, hfacts⟩
    · obtain ⟨⟨other, handle⟩, hhandle, houtput⟩ := List.mem_filterMap.mp hmem
      obtain ⟨block, hblock, hlabel, hisFor⟩ := course.exists_block hreachable hhandle
      rw [output?_eq hisFor] at houtput
      obtain ⟨hname, rfl⟩ := Prod.mk.inj (Option.some.inj houtput)
      obtain rfl := outputName_inj.mp hname
      exact ⟨block, hblock, hlabel, ⟨handle, hisFor⟩, rfl⟩

end Accounted

theorem Session.accounted {stack : Stack} {reports : List BuildReport}
    (session : Session stack reports) : Accounted stack reports := by
  induction session with
  | new h => exact .of_new h
  | create request _ ih => exact ih.insert .resource request
  | lookup request _ ih => exact ih.insert .dataSource request
  | build context declarations diagnostics _ ih => exact ih.build context declarations diagnostics

/-- However often a stack is built into, with constructs asked for in between, each build publishes
all of its resources, no name is built twice, and the outputs are references to the constructs of
the registered names, no two of them the same. -/
theorem Session.published {stack : Stack} {reports : List BuildReport}
    (session : Session stack reports) : Published stack reports := by
  have accounted := session.accounted
  have tidy := accounted.reachable.tidy
  have hkeys : (Entries.keys stack.outputs).Nodup := by
    rw [accounted.keys_eq]
    exact accounted.names_nodup.map fun _ _ => outputName_inj.mp
  refine
    { exports_eq := accounted.exports_eq
      exported := accounted.exported
      names_eq := accounted.names_eq
      names_nodup := accounted.names_nodup
      keys_eq := accounted.keys_eq
      value_eq := ?_
      values_nodup := ?_ }
  · intro name value hmem
    obtain ⟨block, hblock, rfl, _, hvalue⟩ := accounted.value_eq name value hmem
    exact ⟨block, hblock, rfl, fun other hother => tidy.eq_of_label_eq hblock hother, hvalue⟩
  · -- a value tells the label of its construct, and so the name of its output
    have hname : ∀ output ∈ stack.outputs, ∃ name, output.1 = outputName name := by
      intro output houtput
      have hkey : output.1 ∈ Entries.keys stack.outputs := List.mem_map_of_mem houtput
      rw [accounted.keys_eq, List.mem_map] at hkey
      obtain ⟨name, _, hname⟩ := hkey
      exact ⟨name, hname.symm⟩
    refine List.Nodup.map_on ?_ (List.Nodup.of_map Prod.fst hkeys)
    rintro ⟨key, value⟩ hmem ⟨key', value'⟩ hmem' rfl
    obtain ⟨name, rfl⟩ := hname _ hmem
    obtain ⟨name', rfl⟩ := hname _ hmem'
    obtain ⟨block, hblock, rfl, ⟨handle, hisFor⟩, hvalue⟩ := accounted.value_eq name _ hmem
    obtain ⟨other, hother, rfl, ⟨handle', hisFor'⟩, hvalue'⟩ := accounted.value_eq name' _ hmem'
    have hreference : block.reference "id" = other.reference "id" := by
      rw [hvalue] at hvalue'
      exact Value.string.inj hvalue'
    rw [(Block.reference_inj hisFor.type_plain hisFor'.type_plain hreference).2.2]

/-- A network that is declared twice, a bucket that is created directly, and a second build that
declares both names once more, and a queue that is looked up. -/
theorem published_queue :
    let context : Context := ⟨"core", "shop", "dev", "eu-west-1", []⟩
    let network : Declaration := ⟨"main", "vpc.Vpc", [], none, false⟩
    let bucket : Request := ⟨"store", "core-store", ⟨"s3_bucket", "Bucket"⟩, []⟩
    let store : Declaration := ⟨"store", "vpc.Vpc", [], none, false⟩
    let queue : Declaration := ⟨"jobs", "sqs_queue.Queue", [], none, true⟩
    let stack : Stack := { region := "eu-west-1" }
    let first := build Stack.backend context [network, network] stack {}
    let created := (Stack.backend.create bucket first.2.1).2
    let second := build Stack.backend context [network, store, queue] created {}
    created.names = ["main", "store"] ∧ registeredNames [first.1, second.1] = ["main", "jobs"] ∧
      Session second.2.1 [first.1, second.1] ∧ Published second.2.1 [first.1, second.1] := by
  intro context network bucket store queue stack first created second
  have hnew : Stack.new "eu-west-1" = .ok stack := by rfl
  have hfirst : build Stack.backend context [network, network] stack {} = first := rfl
  have hsecond : build Stack.backend context [network, store, queue] created {} = second := rfl
  have started := (Session.new hnew).build context [network, network] {}
  rw [hfirst, List.nil_append] at started
  have asked : Session created [first.1] := started.create bucket
  have session := asked.build context [network, store, queue] {}
  rw [hsecond, List.singleton_append] at session
  exact ⟨by decide +kernel, by decide +kernel, session, session.published⟩

end StackSynth
