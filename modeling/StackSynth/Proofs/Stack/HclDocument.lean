import StackSynth.Proofs.Stack.Reachable
import StackSynth.Stack.Render

namespace StackSynth

namespace Hcl

def fault? (names : List String) : Option Error :=
  (names.find? fun name => !Text.isIdentifier name).map .invalidIdentifier

/-- What there is if all of some names are identifiers. -/
def checked {α : Type} (names : List String) (a : α) : Except Error α :=
  match fault? names with
  | none => .ok a
  | some e => .error e

section Checked

variable {α β : Type} {names more : List String} {a : α} {e : Error}

theorem fault?_append : fault? (names ++ more) = (fault? names).or (fault? more) := by
  unfold fault?
  rw [List.find?_append]
  cases names.find? fun name => !Text.isIdentifier name <;> rfl

theorem fault?_eq_none_iff :
    fault? names = none ↔ ∀ name ∈ names, Text.isIdentifier name = true := by
  simp [fault?]

/-- What comes behind the first bad name does not matter. -/
theorem fault?_eq_some_iff :
    fault? names = some e ↔ ∃ before name after, names = before ++ name :: after ∧
      (∀ other ∈ before, Text.isIdentifier other = true) ∧ Text.isIdentifier name = false ∧
      e = .invalidIdentifier name := by
  rw [fault?, Option.map_eq_some_iff]
  constructor
  · rintro ⟨name, hfind, rfl⟩
    obtain ⟨hname, before, after, hnames, hbefore⟩ := List.find?_eq_some_iff_append.mp hfind
    exact ⟨before, name, after, hnames, by simpa using hbefore, by simpa using hname, rfl⟩
  · rintro ⟨before, name, after, hnames, hbefore, hname, rfl⟩
    refine ⟨name, List.find?_eq_some_iff_append.mpr ⟨?_, before, after, hnames, ?_⟩, rfl⟩
    · simpa using hname
    · simpa using hbefore

theorem checked_eq_ok_iff {b : α} : checked names a = .ok b ↔ fault? names = none ∧ a = b := by
  cases h : fault? names <;> simp [checked, h]

theorem checked_eq_error_iff : checked names a = .error e ↔ fault? names = some e := by
  cases h : fault? names <;> simp [checked, h]

theorem checked_of_identifiers (a : α) (h : ∀ name ∈ names, Text.isIdentifier name = true) :
    checked names a = .ok a :=
  checked_eq_ok_iff.mpr ⟨fault?_eq_none_iff.mpr h, rfl⟩

theorem map_checked (f : α → β) : (checked names a).map f = checked names (f a) := by
  unfold checked
  cases fault? names <;> rfl

/-- The names that are checked first are to blame first. -/
theorem checked_bind (f : α → β) :
    (checked names a >>= fun b => checked more (f b)) = checked (names ++ more) (f a) := by
  unfold checked
  rw [fault?_append]
  cases fault? names <;> rfl

theorem mapM_eq_checked {f : α → Except Error β} {namesOf : α → List String} {result : α → β}
    (h : ∀ item, f item = checked (namesOf item) (result item)) (items : List α) :
    items.mapM f = checked (items.flatMap namesOf) (items.map result) := by
  induction items with
  | nil => rfl
  | cons item rest ih =>
    rw [List.mapM_cons, h, ih]
    change (checked (namesOf item) (result item) >>= fun b =>
      (checked (rest.flatMap namesOf) (rest.map result)).map (b :: ·)) = _
    simp only [map_checked]
    exact checked_bind fun b => b :: rest.map result

end Checked

theorem Structure.argument?_eq_checked (name : String) (value : Expression) :
    argument? name value = checked [name] (.argument name value) := by
  cases h : Text.isIdentifier name <;> simp [argument?, checked, fault?, h]

end Hcl

namespace Stack

def argumentNames (body : Object) : List String :=
  (Entries.keys body).filter (· ≠ "//")

def argumentsOf (body : Object) : List Hcl.Structure :=
  (body.filter (·.1 ≠ "//")).map fun (name, value) => .argument name (.ofValue value)

end Stack

def BlockKind.word : BlockKind → String
  | .resource => "resource"
  | .dataSource => "data"

def Block.toStructure (block : Block) : Hcl.Structure :=
  .block block.kind.word [block.terraformType, block.label] (Stack.argumentsOf block.body)

namespace Stack

def outputStructure (output : String × Value) : Hcl.Structure :=
  .block "output" [output.1] [.argument "value" (.ofValue output.2)]

/-- What terraform is told about the provider in hcl. -/
def settingsStructure : Hcl.Structure :=
  .block "terraform" [] [.block "required_providers" []
    [.argument "aws" (.ofValue (.object [("source", .string "hashicorp/aws")]))]]

def providerStructure (region : String) : Hcl.Structure :=
  .block "provider" ["aws"] [.argument "region" (.ofValue (.string region))]

/-- A stack in hcl: a block for each construct and for each output, behind those of terraform and
the provider. -/
def document (stack : Stack) : List Hcl.Structure :=
  settingsStructure :: providerStructure stack.region ::
    (stack.listing.map Block.toStructure ++ stack.outputs.map outputStructure)

/-- The names of the arguments of all constructs, in the order of the document. -/
def allArgumentNames (stack : Stack) : List String :=
  stack.listing.flatMap fun block => argumentNames block.body

theorem arguments_eq_checked (body : Object) :
    arguments body = Hcl.checked (argumentNames body) (argumentsOf body) := by
  have hnames : argumentNames body = (Entries.erase body "//").flatMap fun entry => [entry.1] := by
    rw [argumentNames, ← Entries.keys_erase, Entries.keys, List.map_eq_flatMap]
  rw [hnames]
  exact Hcl.mapM_eq_checked (fun entry => Hcl.Structure.argument?_eq_checked _ _) _

theorem blockOf_eq_checked (kind : String) (labels : List String) (body : Object) :
    blockOf kind labels body =
      Hcl.checked (argumentNames body) (.block kind labels (argumentsOf body)) := by
  rw [blockOf, arguments_eq_checked, Hcl.map_checked]

theorem constructBlocks_eq_checked (kind : BlockKind) (stack : Stack) :
    constructBlocks kind.word (stack.blocks kind) =
      Hcl.checked ((stack.listingOf kind).flatMap fun block => argumentNames block.body)
        ((stack.listingOf kind).map Block.toStructure) := by
  have hentries : ((stack.blocks kind).flatMap fun entry =>
      entry.2.map fun construct => ([entry.1, construct.1], construct.2)) =
      (stack.blocks kind).constructs.map fun entry => ([entry.1, entry.2.1], entry.2.2) := by
    simp [Blocks.constructs, List.map_flatMap, Function.comp_def]
  have hblock : ∀ entry : String × String × Object,
      blockOf kind.word [entry.1, entry.2.1] entry.2.2 =
        Hcl.checked (argumentNames entry.2.2) (Block.ofEntry kind entry).toStructure :=
    fun entry => blockOf_eq_checked _ _ _
  have hblocks : constructBlocks kind.word (stack.blocks kind) =
      ((stack.blocks kind).flatMap fun entry =>
        entry.2.map fun construct => ([entry.1, construct.1], construct.2)).mapM
          fun construct => blockOf kind.word construct.1 construct.2 := rfl
  rw [hblocks, hentries, List.mapM_map, listingOf, List.flatMap_map, List.map_map]
  exact Hcl.mapM_eq_checked hblock _

theorem blockOf_singleton {name : String} (kind : String) (labels : List String) (value : Value)
    (hname : Text.isIdentifier name = true) (hcomment : name ≠ "//") :
    blockOf kind labels [(name, value)] =
      .ok (.block kind labels [.argument name (.ofValue value)]) := by
  have hnames : argumentNames [(name, value)] = [name] := by
    simp [argumentNames, Entries.keys, hcomment]
  have harguments : argumentsOf [(name, value)] = [.argument name (.ofValue value)] := by
    simp [argumentsOf, hcomment]
  rw [blockOf_eq_checked, hnames, harguments, Hcl.checked_of_identifiers]
  simpa using hname

/-- Only the names in the bodies of constructs can be bad: a stack does not choose the others. -/
theorem toHcl_eq_checked (stack : Stack) :
    stack.toHcl = Hcl.checked stack.allArgumentNames stack.document := by
  have hsettings : blockOf "required_providers" [] requiredProviders = .ok _ :=
    blockOf_singleton _ _ _ (by decide) (by decide)
  have hprovider : blockOf "provider" [providerName] [("region", .string stack.region)] = .ok _ :=
    blockOf_singleton _ _ _ (by decide) (by decide)
  have houtput : ∀ output : String × Value, blockOf "output" [output.1] (outputBody output.2) =
      .ok (outputStructure output) :=
    fun output => blockOf_singleton _ _ _ (by decide) (by decide)
  have houtputs : (stack.outputs.mapM fun (name, value) =>
      blockOf "output" [name] (outputBody value)) = .ok (stack.outputs.map outputStructure) := by
    simp only [houtput]
    exact List.mapM_pure
  have hdata := constructBlocks_eq_checked .dataSource stack
  have hresources := constructBlocks_eq_checked .resource stack
  calc
    stack.toHcl = constructBlocks "data" stack.data >>= fun data =>
        constructBlocks "resource" stack.resources >>= fun resources =>
        Hcl.checked [] (settingsStructure :: providerStructure stack.region ::
          (data ++ resources ++ stack.outputs.map outputStructure)) := by
      rw [toHcl, hsettings, hprovider, houtputs]
      rfl
    _ = Hcl.checked stack.allArgumentNames stack.document := by
      rw [allArgumentNames, document, listing, List.flatMap_append, List.map_append]
      change (constructBlocks BlockKind.dataSource.word (stack.blocks .dataSource) >>= fun data =>
        constructBlocks BlockKind.resource.word (stack.blocks .resource) >>= fun resources => _) = _
      rw [hdata, hresources]
      simp only [Hcl.checked_bind, List.append_nil]

structure RendersHcl (stack : Stack) : Prop where
  /-- There is a text exactly if all names of arguments are identifiers, but for the comments. -/
  exists_iff : (∃ text, stack.render .hcl = .ok text) ↔
    ∀ block ∈ stack.listing, ∀ name ∈ Entries.keys block.body, name ≠ "//" →
      Text.isIdentifier name = true
  /-- If there is none, the first name in the order of the document that is no identifier is to
  blame. -/
  error_iff : ∀ e, stack.render .hcl = .error e ↔
    ∃ before name after, stack.allArgumentNames = before ++ name :: after ∧
      (∀ other ∈ before, Text.isIdentifier other = true) ∧ Text.isIdentifier name = false ∧
      e = .invalidIdentifier name
  text_eq : ∀ text, stack.render .hcl = .ok text →
    stack.toHcl = .ok stack.document ∧ text = Hcl.render stack.document
  /-- The document lists what was recorded, -/
  body?_iff : ∀ kind terraformType label body,
    stack.body? kind terraformType label = some body ↔
      ⟨kind, terraformType, label, body⟩ ∈ stack.listing
  /-- and nothing of it twice. -/
  labels_nodup : (stack.listing.map Block.label).Nodup

variable {stack : Stack}

theorem render_hcl_eq_checked (stack : Stack) :
    stack.render .hcl = Hcl.checked stack.allArgumentNames (Hcl.render stack.document) := by
  rw [render, toHcl_eq_checked, Hcl.map_checked]

/-- Stacks fail to be written in hcl for the names of their arguments only. -/
theorem Reachable.rendersHcl (reachable : stack.Reachable) : stack.RendersHcl where
  exists_iff := by
    have hnames : (∀ name ∈ stack.allArgumentNames, Text.isIdentifier name = true) ↔
        ∀ block ∈ stack.listing, ∀ name ∈ Entries.keys block.body, name ≠ "//" →
          Text.isIdentifier name = true := by
      simp only [allArgumentNames, argumentNames, List.mem_flatMap, List.mem_filter,
        decide_eq_true_eq]
      constructor
      · intro h block hblock name hname hcomment
        exact h name ⟨block, hblock, hname, hcomment⟩
      · rintro h name ⟨block, hblock, hname, hcomment⟩
        exact h block hblock name hname hcomment
    rw [render_hcl_eq_checked, ← hnames, ← Hcl.fault?_eq_none_iff]
    simp only [Hcl.checked_eq_ok_iff, exists_and_left, exists_eq', and_true]
  error_iff := by
    intro e
    rw [render_hcl_eq_checked, Hcl.checked_eq_error_iff, Hcl.fault?_eq_some_iff]
  text_eq := by
    intro text h
    rw [render_hcl_eq_checked, Hcl.checked_eq_ok_iff] at h
    rw [toHcl_eq_checked, Hcl.checked_eq_ok_iff]
    exact ⟨⟨h.1, rfl⟩, h.2.symm⟩
  body?_iff := fun _ _ _ _ => reachable.tidy.body?_eq_some_iff
  labels_nodup := reachable.tidy.labels_nodup

/-- A network whose label and nested keys are no identifiers, and a queue with an argument that is
none. -/
theorem rendersHcl_queue :
    let network : Request := ⟨"main net", "core-main", ⟨"vpc", "Vpc"⟩,
      [("//", .string "note"), ("filter", .object [("my key", .null)])]⟩
    let queue : Request := ⟨"jobs", "core-jobs", ⟨"sqs_queue", "Queue"⟩,
      [("delay", .integer 1), ("my key", .integer 1), ("", .null)]⟩
    let first := (Stack.backend.lookup network { region := "eu-west-1" }).2
    let second := (Stack.backend.create queue first).2
    first.Reachable ∧ first.RendersHcl ∧ first.toHcl = .ok first.document ∧
      second.Reachable ∧ second.RendersHcl ∧
      second.render .hcl = .error (.invalidIdentifier "my key") := by
  intro network queue first second
  have hnew : Stack.new "eu-west-1" = .ok { region := "eu-west-1" } := by rfl
  have hfirst : first.Reachable := (Reachable.new hnew).lookup network
  have hsecond : second.Reachable := hfirst.create queue
  have hnames : ∀ name ∈ first.allArgumentNames, Text.isIdentifier name = true := by
    decide +kernel
  refine ⟨hfirst, hfirst.rendersHcl, ?_, hsecond, hsecond.rendersHcl, ?_⟩
  · rw [toHcl_eq_checked, Hcl.checked_of_identifiers _ hnames]
  · rw [render_hcl_eq_checked, Hcl.checked_eq_error_iff]
    decide +kernel

end Stack

end StackSynth
