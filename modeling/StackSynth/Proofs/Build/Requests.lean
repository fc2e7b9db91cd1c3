import Mathlib.Tactic.ByContra
import StackSynth.Proofs.Build.References

namespace StackSynth

/-- A value that does not set a flag. -/
inductive Value.Unset : Value → Prop where
  | null : Unset .null
  | boolean : Unset (.boolean false)
  | integer : Unset (.integer 0)
  | decimal (negative : Bool) : Unset (.decimal (.ofParts negative 0))
  | string : Unset (.string "")
  | array : Unset (.array [])
  | object : Unset (.object [])

namespace Declaration

/-- A declaration of what exists already. -/
def IsFlagged (declaration : Declaration) : Prop :=
  declaration.existing = true ∨
    ∃ flag, Entries.find? declaration.args "existing" = some flag ∧ ¬ flag.Unset

/-- A declaration that is given the tags of the context. -/
def TakesTags (context : Context) (declaration : Declaration) : Prop :=
  (ResourceType.ofTag declaration.type).moduleName ∈ taggableModules ∧
    "tags" ∉ Entries.keys declaration.args ∧ context.tags ≠ []

/-- A declaration that leads to a call of the backend. -/
def Reaches (registry : Registry) (declaration : Declaration) : Prop :=
  (∃ args, (resolveEntries registry declaration.plainArgs).result = .ok args) ∧
    declaration.name ∉ registry.names

/-- The declaration with its flag where flags belong, and with no argument `existing`. -/
def hoisted (declaration : Declaration) : Declaration :=
  { declaration with args := declaration.plainArgs, existing := declaration.isExisting }

structure Requests (context : Context) (registry : Registry) (declaration : Declaration)
    (request : Request) : Prop where
  name_eq : request.name = declaration.name
  identifier_of_custom : ∀ name, declaration.customName = some name → request.identifier = name
  identifier_of_none : declaration.customName = none →
    request.identifier = context.generateName declaration.name
  type_eq : request.type = ResourceType.ofTag declaration.type
  /-- The declared keys stay in order, and nothing comes in front of them or between them. -/
  keys_of_takesTags : declaration.TakesTags context → Entries.keys request.args =
    (Entries.keys declaration.args).filter (· ≠ "existing") ++ ["tags"]
  keys_of_not_takesTags : ¬ declaration.TakesTags context → Entries.keys request.args =
    (Entries.keys declaration.args).filter (· ≠ "existing")
  /-- Declared values are resolved and nothing else, those of tags too. -/
  find?_declared : ∀ key value, key ≠ "existing" →
    Entries.find? declaration.args key = some value → ∃ resolved,
      (value.resolve registry).result = .ok resolved ∧
      Entries.find? request.args key = some resolved
  /-- The tags of the context are taken as they are, with what looks like a marker in them. -/
  find?_tags : declaration.TakesTags context →
    Entries.find? request.args "tags" = some (.object context.tags)

structure Consults (context : Context) (registry : Registry) (declaration : Declaration)
    (calls : List Call) : Prop where
  of_not_reaches : ¬ declaration.Reaches registry → calls = []
  of_reaches : declaration.Reaches registry → ∃ request,
    declaration.Requests context registry request ∧
    (declaration.IsFlagged → calls = [.lookup request]) ∧
    (¬ declaration.IsFlagged → calls = [.create request])

end Declaration

section Flags

theorem Value.isTruthy_iff {value : Value} : value.isTruthy = true ↔ ¬ value.Unset := by
  have hof : value.Unset → value.isTruthy = false := by
    rintro (_ | _ | _ | negative | _ | _ | _)
    case decimal =>
      have hzero := Decimal.isZero_iff.mpr ⟨negative, rfl⟩
      rw [isTruthy, hzero]
      rfl
    all_goals rfl
  have hunset : value.isTruthy = false → value.Unset := by
    intro h
    cases value with
    | null => exact .null
    | boolean b =>
      obtain rfl : b = false := h
      exact .boolean
    | integer n =>
      obtain rfl : n = 0 := by simpa [isTruthy] using h
      exact .integer
    | decimal d =>
      obtain ⟨negative, rfl⟩ := Decimal.isZero_iff.mp (by simpa [isTruthy] using h)
      exact .decimal negative
    | string s =>
      obtain rfl : s = "" := by simpa [isTruthy] using h
      exact .string
    | array items =>
      obtain rfl : items = [] := by simpa [isTruthy] using h
      exact .array
    | object entries =>
      obtain rfl : entries = [] := by simpa [isTruthy] using h
      exact .object
  constructor
  · intro h hvalue
    rw [hof hvalue] at h
    cases h
  · intro h
    exact Bool.not_eq_false _ ▸ mt hunset h

theorem Declaration.isExisting_iff {declaration : Declaration} :
    declaration.isExisting = true ↔ declaration.IsFlagged := by
  unfold isExisting IsFlagged
  rw [Bool.or_eq_true]
  apply or_congr_right
  cases hflag : Entries.find? declaration.args "existing" with
  | none => simp
  | some flag => simp [Value.isTruthy_iff]

end Flags

section Arguments

variable {context : Context} {declaration : Declaration} {args : Object}

theorem tags_mem_keys_iff (h : Entries.keys args = Entries.keys declaration.plainArgs) :
    tagsArgument ∈ Entries.keys args ↔ "tags" ∈ Entries.keys declaration.args := by
  have hne : "tags" ≠ "existing" := by decide
  rw [h, Declaration.plainArgs, Entries.keys_erase, List.mem_filter]
  simp [tagsArgument, hne]

theorem withTags_of_takesTags (h : Entries.keys args = Entries.keys declaration.plainArgs)
    (htakes : declaration.TakesTags context) :
    withTags context (ResourceType.ofTag declaration.type) args =
      Entries.insert args tagsArgument (.object context.tags) := by
  obtain ⟨hmodule, hundeclared, htags⟩ := htakes
  have hsupports : (ResourceType.ofTag declaration.type).supportsTags = true :=
    List.contains_iff_mem.mpr hmodule
  have hnew : tagsArgument ∉ Entries.keys args := mt (tags_mem_keys_iff h).mp hundeclared
  have hdefault : context.defaultTags? = some (.object context.tags) :=
    if_neg (by simpa using htags)
  rw [withTags, if_pos ⟨hsupports, mt (Entries.has_iff_mem_keys _ _).mp hnew⟩, hdefault]

theorem withTags_of_not_takesTags (h : Entries.keys args = Entries.keys declaration.plainArgs)
    (htakes : ¬ declaration.TakesTags context) :
    withTags context (ResourceType.ofTag declaration.type) args = args := by
  unfold withTags
  split
  · next hcond =>
    -- the type takes tags and none are declared, so the context must have none
    have hmodule : (ResourceType.ofTag declaration.type).moduleName ∈ taggableModules :=
      List.contains_iff_mem.mp hcond.1
    have hnew : tagsArgument ∉ Entries.keys args :=
      mt (Entries.has_iff_mem_keys _ _).mpr hcond.2
    have hundeclared : "tags" ∉ Entries.keys declaration.args := mt (tags_mem_keys_iff h).mpr hnew
    have htags : context.tags = [] := by
      by_contra hne
      exact htakes ⟨hmodule, hundeclared, hne⟩
    rw [Context.defaultTags?, htags]
    rfl
  · rfl

theorem Declaration.requests {registry : Registry} (context : Context)
    (h : (resolveEntries registry declaration.plainArgs).result = .ok args) :
    declaration.Requests context registry (declaration.request context args) := by
  have hkeys : Entries.keys args = Entries.keys declaration.plainArgs := keys_resolveEntries h
  have hplain : Entries.keys declaration.plainArgs =
      (Entries.keys declaration.args).filter (· ≠ "existing") := Entries.keys_erase _ _
  have hargs : (declaration.request context args).args =
      withTags context (ResourceType.ofTag declaration.type) args := rfl
  refine
    { name_eq := rfl
      identifier_of_custom := ?_
      identifier_of_none := ?_
      type_eq := rfl
      keys_of_takesTags := ?_
      keys_of_not_takesTags := ?_
      find?_declared := ?_
      find?_tags := ?_ }
  · intro name hname
    change declaration.customName.getD _ = name
    rw [hname, Option.getD_some]
  · intro hnone
    change declaration.customName.getD _ = _
    rw [hnone, Option.getD_none]
  · intro htakes
    have hnew : tagsArgument ∉ Entries.keys args := mt (tags_mem_keys_iff hkeys).mp htakes.2.1
    rw [hargs, withTags_of_takesTags hkeys htakes, Entries.keys_insert, if_neg hnew, hkeys, hplain]
    rfl
  · intro htakes
    rw [hargs, withTags_of_not_takesTags hkeys htakes, hkeys, hplain]
  · intro key value hne hfind
    rw [← Entries.find?_erase_of_ne declaration.args hne] at hfind
    obtain ⟨resolved, hresolved, hvalue⟩ := find?_resolveEntries h hfind
    -- no tags are added over those that are declared
    exact ⟨resolved, hvalue, find?_withTags hresolved⟩
  · intro htakes
    rw [hargs, withTags_of_takesTags hkeys htakes]
    exact Entries.find?_insert_self _ _ _

end Arguments

section Calls

variable {σ : Type} {backend : Backend σ} {context : Context} {registry : Registry}
  {declaration : Declaration}

def Call.ofKind (kind : BlockKind) (request : Request) : Call :=
  match kind with
  | .resource => .create request
  | .dataSource => .lookup request

def Declaration.calls (context : Context) (registry : Registry) (declaration : Declaration) :
    List Call :=
  match (resolveEntries registry declaration.plainArgs).result with
  | .error _ => []
  | .ok args =>
    if registry.has declaration.name then []
    else [Call.ofKind declaration.kind (declaration.request context args)]

theorem materialize_recorded (kind : BlockKind) (request : Request) (state : σ)
    (calls : List Call) :
    backend.recorded.materialize kind request (state, calls) =
      ((backend.materialize kind request state).1, (backend.materialize kind request state).2,
        calls ++ [Call.ofKind kind request]) := by
  cases kind <;> rfl

/-- Keeping the calls of a backend changes nothing but the list of them. -/
theorem buildDeclaration_recorded (state : σ) (calls : List Call) (diagnostics : Diagnostics) :
    let plain := buildDeclaration backend context declaration ⟨state, registry, diagnostics⟩
    buildDeclaration backend.recorded context declaration ⟨(state, calls), registry, diagnostics⟩ =
      (plain.1, ⟨(plain.2.state, calls ++ declaration.calls context registry),
        plain.2.registry, plain.2.diagnostics⟩) := by
  intro plain
  simp only [plain, buildDeclaration, Declaration.calls]
  cases (resolveEntries registry declaration.plainArgs).result with
  | error e => simp
  | ok args =>
    cases hname : registry.has declaration.name with
    | true => simp
    | false =>
      simp only [materialize_recorded, Bool.false_eq_true, if_false]
      cases (backend.materialize declaration.kind (declaration.request context args) state).1 with
      | error e => rfl
      | ok handle =>
        dsimp only
        cases registry.register declaration.name handle <;> rfl

theorem Declaration.consults (context : Context) (registry : Registry)
    (declaration : Declaration) :
    declaration.Consults context registry (declaration.calls context registry) where
  of_not_reaches := by
    intro hreaches
    unfold calls
    split
    · rfl
    · next args hresult =>
      apply if_pos
      rw [registry.has_iff_mem_names]
      by_contra hname
      exact hreaches ⟨⟨args, hresult⟩, hname⟩
  of_reaches := by
    rintro ⟨⟨args, hresult⟩, hname⟩
    have hfree : ¬ registry.has declaration.name = true :=
      mt (registry.has_iff_mem_names _).mp hname
    have hcalls : declaration.calls context registry =
        [Call.ofKind declaration.kind (declaration.request context args)] := by
      simp only [calls, hresult]
      exact if_neg hfree
    refine ⟨declaration.request context args, requests context hresult, ?_, ?_⟩
    · intro hflagged
      rw [hcalls, kind, if_pos (isExisting_iff.mpr hflagged)]
      rfl
    · intro hflagged
      rw [hcalls, kind, if_neg (mt isExisting_iff.mp hflagged)]
      rfl

/-- A bucket that exists already, by an argument that looks like a reference. -/
example :
    let context : Context := ⟨"core", "shop", "dev", "eu-west-1", [("owner", .string "ref:core")]⟩
    let bucket : Declaration := ⟨"logs", "S3.Bucket",
      [("existing", .string "ref:gone"), ("acl", .string "secret:acl")], some "core-logs", false⟩
    bucket.calls context {} = [.lookup ⟨"logs", "core-logs", ⟨"s3_bucket", "Bucket"⟩,
      [("acl", .string "$\x7bacl\x7d"), ("tags", .object [("owner", .string "ref:core")])]⟩] := by
  rfl

/-- The argument `existing` is read as a flag and for nothing else. -/
theorem buildDeclaration_hoisted (backend : Backend σ) (context : Context)
    (declaration : Declaration) (progress : Progress σ) :
    buildDeclaration backend context declaration.hoisted progress =
      buildDeclaration backend context declaration progress := by
  have hplain : declaration.hoisted.plainArgs = declaration.plainArgs := by
    simp [Declaration.plainArgs, Declaration.hoisted, Entries.erase]
  have hexisting : declaration.hoisted.isExisting = declaration.isExisting := by
    have hnone : Entries.find? declaration.plainArgs "existing" = none :=
      Entries.find?_erase_self _ _
    simp [Declaration.hoisted, Declaration.isExisting, hnone]
  have hkind : declaration.hoisted.kind = declaration.kind := by
    rw [Declaration.kind, hexisting, Declaration.kind]
  have hmaterialized : declaration.hoisted.materialized context =
      declaration.materialized context := by
    rw [Declaration.materialized, hexisting]
    rfl
  simp only [buildDeclaration, hplain, hkind, hmaterialized]
  rfl

end Calls

/-- Whatever the backend does and whatever was built before, a declaration is put to the backend in
at most one call, which has what it must have. A list of the calls can be kept without changing
anything, and it makes no difference whether the flag of the declaration stands on it or among its
arguments: a marker there leads to no error and to no warning. -/
theorem buildDeclaration_consults {σ : Type} (backend : Backend σ) (context : Context)
    (registry : Registry) (declaration : Declaration) (state : σ) (diagnostics : Diagnostics) :
    let plain := buildDeclaration backend context declaration ⟨state, registry, diagnostics⟩
    (∃ calls, declaration.Consults context registry calls ∧
      buildDeclaration backend.recorded context declaration ⟨(state, []), registry, diagnostics⟩ =
        (plain.1, ⟨(plain.2.state, calls), plain.2.registry, plain.2.diagnostics⟩)) ∧
    buildDeclaration backend context declaration.hoisted ⟨state, registry, diagnostics⟩ =
      plain := by
  intro plain
  refine ⟨⟨declaration.calls context registry, declaration.consults context registry, ?_⟩, ?_⟩
  · exact buildDeclaration_recorded state [] diagnostics
  · exact buildDeclaration_hoisted backend context declaration _

end StackSynth
