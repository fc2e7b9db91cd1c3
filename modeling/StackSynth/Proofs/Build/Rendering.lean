import StackSynth.Proofs.Build.Outputs
import StackSynth.Proofs.Build.References
import StackSynth.Proofs.Json.Unambiguous
import StackSynth.Proofs.Stack.Sections

namespace StackSynth

/-- A stack, and the arguments and output values that were given to it and to the builds into it. -/
inductive Stack.Run : Stack → List Value → Prop where
  | new {region : String} {stack : Stack} : Stack.new region = .ok stack → Run stack []
  | create {stack : Stack} {given : List Value} (request : Request) : Run stack given →
      Run (Stack.backend.create request stack).2 (given ++ [.object request.args])
  | lookup {stack : Stack} {given : List Value} (request : Request) : Run stack given →
      Run (Stack.backend.lookup request stack).2 (given ++ [.object request.args])
  | publish {stack : Stack} {given : List Value} (output : String) (value : Value) :
      Run stack given → Run (Stack.backend.publish output value stack).2 (given ++ [value])
  /-- A build is given the arguments of its declarations, and the tags that go with them. -/
  | build {stack : Stack} {given : List Value} (context : Context)
      (declarations : List Declaration) (diagnostics : Diagnostics) : Run stack given →
      Run (StackSynth.build Stack.backend context declarations stack diagnostics).2.1
        (given ++ .object context.tags ::
          declarations.map fun declaration => .object declaration.plainArgs)

/-- A stack whose books are in order and that has recorded no decimals. -/
structure Stack.Exact (stack : Stack) : Prop where
  tidy : stack.Tidy
  bodies : ∀ block ∈ stack.listing, entryDecimals block.body = []
  outputs : ∀ output ∈ stack.outputs, output.2.decimals = []

section Resolution

variable {registry : Registry}

theorem decimals_resolveString (constructs : registry.FromConstructs) {s : String} {value : Value}
    (h : (resolveString registry s).result = .ok value) : value.decimals = [] := by
  have hrendered : Rendered (fun _ => True) s value := by
    refine rendered_of_resolveString ?_ h
    intro resource handle hfind
    obtain ⟨block, hlabel, hisFor⟩ := constructs resource handle hfind
    exact ⟨block, trivial, hlabel, hisFor⟩
  -- whatever stands for a string is text again
  cases hrendered with
  | literal => rfl
  | secret => rfl
  | reference => rfl

mutual

theorem decimals_resolve (constructs : registry.FromConstructs) (value : Value) {resolved : Value}
    (hvalue : value.decimals = []) (h : (value.resolve registry).result = .ok resolved) :
    resolved.decimals = [] := by
  cases value with
  | string s => exact decimals_resolveString constructs h
  | array items =>
    obtain ⟨values, hvalues, rfl⟩ := Resolution.map_eq_ok_iff.mp h
    exact itemDecimals_resolveItems constructs items hvalue hvalues
  | object entries =>
    obtain ⟨values, hvalues, rfl⟩ := Resolution.map_eq_ok_iff.mp h
    exact entryDecimals_resolveEntries constructs entries hvalue hvalues
  | decimal d => cases hvalue
  | null | boolean _ | integer _ =>
    obtain rfl := Except.ok.inj h
    rfl
termination_by structural value

theorem itemDecimals_resolveItems (constructs : registry.FromConstructs) (items : List Value)
    {resolved : List Value} (hitems : itemDecimals items = [])
    (h : (resolveItems registry items).result = .ok resolved) : itemDecimals resolved = [] := by
  cases items with
  | nil =>
    obtain rfl := Except.ok.inj h
    rfl
  | cons item rest =>
    obtain ⟨value, values, hvalue, hvalues, rfl⟩ := resolveItems_cons_eq_ok_iff.mp h
    obtain ⟨hitem, hrest⟩ := List.append_eq_nil_iff.mp hitems
    exact List.append_eq_nil_iff.mpr ⟨decimals_resolve constructs item hitem hvalue,
      itemDecimals_resolveItems constructs rest hrest hvalues⟩
termination_by structural items

theorem entryDecimals_resolveEntries (constructs : registry.FromConstructs)
    (entries : List (String × Value)) {resolved : Object} (hentries : entryDecimals entries = [])
    (h : (resolveEntries registry entries).result = .ok resolved) :
    entryDecimals resolved = [] := by
  cases entries with
  | nil =>
    obtain rfl := Except.ok.inj h
    rfl
  | cons entry rest =>
    obtain ⟨key, content⟩ := entry
    obtain ⟨value, values, hvalue, hvalues, rfl⟩ := resolveEntries_cons_eq_ok_iff.mp h
    obtain ⟨hcontent, hrest⟩ := List.append_eq_nil_iff.mp hentries
    exact List.append_eq_nil_iff.mpr ⟨decimals_resolve constructs content hcontent hvalue,
      entryDecimals_resolveEntries constructs rest hrest hvalues⟩
termination_by structural entries

end

theorem entryDecimals_withTags {context : Context} (type : ResourceType) {args : Object}
    (htags : entryDecimals context.tags = []) (hargs : entryDecimals args = []) :
    entryDecimals (withTags context type args) = [] := by
  unfold withTags
  split
  · split
    · -- tags are taken over from the context as they are
      next tags hdefault =>
      have hobject : tags = .object context.tags :=
        (Option.some.inj (Option.ite_none_left_eq_some.mp hdefault).2).symm
      exact entryDecimals_insert _ hargs (by rw [hobject]; exact htags)
    · exact hargs
  · exact hargs

end Resolution

namespace Stack.Exact

variable {stack : Stack}

theorem of_new {region : String} (h : Stack.new region = .ok stack) : stack.Exact where
  tidy := tidy_of_new h
  bodies := by
    obtain ⟨_, rfl⟩ := new_eq_ok_iff.mp h
    simp [listing, listingOf, blocks, Blocks.constructs]
  outputs := by
    obtain ⟨_, rfl⟩ := new_eq_ok_iff.mp h
    simp

theorem insert (exact : stack.Exact) (kind : BlockKind) (request : Request)
    (h : entryDecimals request.args = []) : (Stack.insert kind request stack).2.Exact := by
  have tidy := exact.tidy.insert kind request
  obtain hafter | ⟨entry, hnew, hafter⟩ := insert_state_cases kind request stack
  · rwa [hafter]
  · rw [hafter] at tidy ⊢
    have hnone := exact.tidy.labelled.body?_eq_none hnew kind entry.terraformType
    obtain ⟨before, after, hlisting, hrecorded⟩ := listing_record hnone
    have hbody : entryDecimals (bodyOf request) = [] := entryDecimals_insertAll rfl h
    have hbodies := exact.bodies
    rw [hlisting, List.forall_mem_append] at hbodies
    refine ⟨tidy, ?_, by rw [outputs_record]; exact exact.outputs⟩
    -- the new construct stands between the old ones
    rw [hrecorded, List.forall_mem_append, List.forall_mem_cons]
    exact ⟨hbodies.1, hbody, hbodies.2⟩

theorem publish (exact : stack.Exact) (output : String) {value : Value}
    (h : value.decimals = []) : (Stack.publish output value stack).2.Exact := by
  rw [publish_eq]
  split
  · exact exact
  · refine ⟨exact.tidy.withOutputs _, exact.bodies, ?_⟩
    rw [List.forall_mem_append, List.forall_mem_singleton]
    exact ⟨exact.outputs, h⟩

theorem decimals_toValue_eq_nil (exact : stack.Exact) : stack.toValue.decimals = [] := by
  have hbodies := List.flatMap_eq_nil_iff.mpr exact.bodies
  have houtputs := List.flatMap_eq_nil_iff.mpr exact.outputs
  rw [decimals_toValue, hbodies, houtputs, List.append_nil]

end Stack.Exact

section Courses

variable {context : Context} {start state : Stack} {attempts : List Attempt}

theorem Course.exact (course : Course Stack.backend context start attempts state)
    (hstart : start.Reachable) (exact : start.Exact) (htags : entryDecimals context.tags = [])
    (hargs : ∀ attempted ∈ attempts, entryDecimals attempted.declaration.plainArgs = []) :
    state.Exact := by
  induction course with
  | nil => exact exact
  | @snoc attempts state after declaration deed course hattempt ih =>
    have before := ih fun attempted hmem => hargs attempted (List.mem_append_left _ hmem)
    obtain ⟨_, _, _, rfl⟩ | ⟨_, _, _, _, rfl⟩ | ⟨args, answer, hresult, _, hask, _⟩ :=
      attempt_cases hattempt
    · exact before
    · exact before
    · -- the backend is asked with arguments that are resolved against constructs
      have hplain : entryDecimals declaration.plainArgs = [] := hargs ⟨declaration, deed⟩ (by simp)
      have hresolved : entryDecimals args = [] :=
        entryDecimals_resolveEntries (course.fromConstructs hstart) _ hplain hresult
      rw [Stack.materialize_backend] at hask
      have hinsert := before.insert declaration.kind (declaration.request context args)
        (entryDecimals_withTags _ htags hresolved)
      rwa [hask] at hinsert

end Courses

namespace Stack

/-- A build without decimals records none, as the outputs are references. -/
theorem Exact.build {stack : Stack} (exact : stack.Exact) (reachable : stack.Reachable)
    {context : Context} {declarations : List Declaration} (diagnostics : Diagnostics)
    (htags : entryDecimals context.tags = [])
    (hargs : ∀ declaration ∈ declarations, entryDecimals declaration.plainArgs = []) :
    (StackSynth.build Stack.backend context declarations stack diagnostics).2.1.Exact := by
  obtain ⟨attempts, state, noted, rfl, course, hbuild⟩ :=
    build_course Stack.backend context declarations stack diagnostics
  have hstate := course.exact reachable exact htags
    fun attempted hmem => hargs _ (List.mem_map_of_mem hmem)
  rw [hbuild]
  refine publishAll_invariant (P := Exact) _ ?_ hstate
  intro resource hresource value hid published hpublished
  obtain ⟨block, _, _, hisFor⟩ := course.exists_block reachable hresource
  obtain rfl := Except.ok.inj (hid.symm.trans hisFor.id_eq)
  exact hpublished.publish _ rfl

variable {stack : Stack} {given : List Value}

theorem Run.reachable (run : stack.Run given) : stack.Reachable := by
  induction run with
  | new h => exact .new h
  | create request _ ih => exact ih.create request
  | lookup request _ ih => exact ih.lookup request
  | publish output value _ ih => exact ih.publish output value
  | build context declarations diagnostics _ ih => exact ih.build context declarations diagnostics

theorem Run.exact (run : stack.Run given) (h : ∀ value ∈ given, value.decimals = []) :
    stack.Exact := by
  induction run with
  | new hnew => exact .of_new hnew
  | create request _ ih =>
    obtain ⟨hbefore, hrequest⟩ := List.forall_mem_append.mp h
    have hargs : entryDecimals request.args = [] := hrequest _ (List.mem_singleton_self _)
    exact (ih hbefore).insert .resource request hargs
  | lookup request _ ih =>
    obtain ⟨hbefore, hrequest⟩ := List.forall_mem_append.mp h
    have hargs : entryDecimals request.args = [] := hrequest _ (List.mem_singleton_self _)
    exact (ih hbefore).insert .dataSource request hargs
  | publish output value _ ih =>
    obtain ⟨hbefore, hvalue⟩ := List.forall_mem_append.mp h
    exact (ih hbefore).publish output (hvalue _ (List.mem_singleton_self _))
  | build context declarations diagnostics run ih =>
    obtain ⟨hbefore, hbuild⟩ := List.forall_mem_append.mp h
    obtain ⟨htags, hargs⟩ := List.forall_mem_cons.mp hbuild
    rw [List.forall_mem_map] at hargs
    exact (ih hbefore).build run.reachable diagnostics htags hargs

/-- Two stacks that were run without decimals and have the same json text have the same region and
have recorded the same data sources, resources and outputs in the same order. -/
theorem Run.render_json_inj {one two : Stack} {given others : List Value} (run : one.Run given)
    (other : two.Run others) (hgiven : ∀ value ∈ given, value.decimals = [])
    (hothers : ∀ value ∈ others, value.decimals = []) (h : one.render .json = two.render .json) :
    one.region = two.region ∧ one.data = two.data ∧ one.resources = two.resources ∧
      one.outputs = two.outputs := by
  have htext : Json.renderPretty one.toValue = Json.renderPretty two.toValue := Except.ok.inj h
  have hone := (run.exact hgiven).decimals_toValue_eq_nil
  have htwo := (other.exact hothers).decimals_toValue_eq_nil
  exact eq_of_toValue_eq (Json.renderPretty_inj hone htwo htext)

/-- A network and a queue that are asked for one by one, and the same two in a build, the queue
first. -/
theorem render_json_inj_queue :
    let port : Object := [("port", .integer 80), ("note", .string "80\"\\\n")]
    let network : Request := ⟨"main", "core-main", ⟨"vpc", "Vpc"⟩, port⟩
    let queue : Request := ⟨"jobs", "core-jobs", ⟨"sqs_queue", "Queue"⟩, []⟩
    let created := (Stack.backend.create network { region := "eu-west-1" }).2
    let asked := (Stack.backend.lookup queue created).2
    let published := (Stack.backend.publish "output_jobs"
      (.string "$\x7bdata.aws_sqs_queue.jobs.id\x7d") asked).2
    let one :=
      (Stack.backend.publish "output_main" (.string "$\x7baws_vpc.main.id\x7d") published).2
    let context : Context := ⟨"core", "shop", "dev", "eu-west-1", []⟩
    let declarations : List Declaration :=
      [⟨"jobs", "sqs_queue.Queue", [], some "core-jobs", true⟩,
        ⟨"main", "vpc.Vpc", port, some "core-main", false⟩]
    let two := (build Stack.backend context declarations { region := "eu-west-1" } {}).2.1
    one.names = ["main", "jobs"] ∧ two.names = ["jobs", "main"] ∧
      (∃ given, one.Run given ∧ ∀ value ∈ given, value.decimals = []) ∧
      (∃ given, two.Run given ∧ ∀ value ∈ given, value.decimals = []) ∧
      one.render .json = two.render .json ∧ one.region = two.region ∧ one.data = two.data ∧
      one.resources = two.resources ∧ one.outputs = two.outputs := by
  intro port network queue created asked published one context declarations two
  have hnew : Stack.new "eu-west-1" = .ok { region := "eu-west-1" } := by rfl
  have run := ((((Run.new hnew).create network).lookup queue).publish "output_jobs"
    (.string "$\x7bdata.aws_sqs_queue.jobs.id\x7d")).publish "output_main"
    (.string "$\x7baws_vpc.main.id\x7d")
  have other := (Run.new hnew).build context declarations {}
  have hgiven : ∀ value ∈ [.object network.args, .object queue.args,
      .string "$\x7bdata.aws_sqs_queue.jobs.id\x7d", .string "$\x7baws_vpc.main.id\x7d"],
      Value.decimals value = [] := by
    simp [network, queue, port, Value.decimals, entryDecimals]
  have hothers : ∀ value ∈ .object context.tags ::
      declarations.map fun declaration => .object declaration.plainArgs,
      Value.decimals value = [] := by
    simp [context, declarations, port, Declaration.plainArgs, Entries.erase, Value.decimals,
      entryDecimals]
  have hone : one.names = ["main", "jobs"] := by decide +kernel
  have htwo : two.names = ["jobs", "main"] := by decide +kernel
  have hvalue : one.toValue = two.toValue := by
    dsimp only [one, two, published, asked, created, network, queue, port, declarations, context]
    rfl
  have hrender : one.render .json = two.render .json :=
    congrArg (fun value => Except.ok (Json.renderPretty value)) hvalue
  exact ⟨hone, htwo, ⟨_, run, hgiven⟩, ⟨_, other, hothers⟩, hrender,
    run.render_json_inj other hgiven hothers hrender⟩

end Stack

end StackSynth
