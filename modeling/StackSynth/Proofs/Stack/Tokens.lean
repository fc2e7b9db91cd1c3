import StackSynth.Proofs.Stack.Reachable

namespace StackSynth

/-- A reference to an attribute of a construct, as terraform reads it. -/
def Block.reference (block : Block) (path : String) : String :=
  match block.kind with
  | .resource => "$\x7b" ++ block.terraformType ++ "." ++ block.label ++ "." ++ path ++ "\x7d"
  | .dataSource =>
    "$\x7b" ++ "data." ++ block.terraformType ++ "." ++ block.label ++ "." ++ path ++ "\x7d"

namespace Construct

theorem token_addressOf (block : Block) (entry : CatalogEntry) (path : String) :
    (Construct.mk (addressOf block.kind block.terraformType block.label) entry).token path =
      .string (block.reference path) := by
  obtain ⟨kind, terraformType, label, body⟩ := block
  cases kind <;>
    simp only [token, addressOf, Block.reference, String.append_assoc, String.empty_append]

variable {construct : Construct} {path : String} {value : Value}

theorem eq_token_of_direct? (h : construct.handle.direct? path = some value) :
    value = construct.token path ∧ path ∈ construct.entry.attributes := by
  simp only [handle, direct?] at h
  split at h
  · next hpath => exact ⟨(Option.some.inj h).symm, List.contains_iff_mem.mp hpath⟩
  · cases h

theorem eq_token_of_byName (h : construct.handle.byName path = .ok value) :
    value = construct.token path ∧ Text.IsAttributePath path.toList := by
  simp only [handle, byName] at h
  split at h
  · next hpath => exact ⟨(Except.ok.inj h).symm, Text.isAttributePath_iff.mp hpath⟩
  · cases h

end Construct

namespace Catalog

theorem isReferencePath_of_mem_attributes {found : CatalogEntry} {path : String}
    (h : found ∈ entries) (hpath : path ∈ found.attributes) :
    Text.IsReferencePath path.toList := by
  have hall : ∀ found ∈ entries, ∀ path ∈ found.attributes,
      Text.isReferencePath path.toList = true := by decide +kernel
  exact Text.isReferencePath_iff.mp (hall found h path hpath)

theorem isAttributePath_of_mem_attributes {found : CatalogEntry} {path : String}
    (h : found ∈ entries) (hpath : path ∈ found.attributes) :
    Text.IsAttributePath path.toList :=
  (isReferencePath_of_mem_attributes h hpath).isAttributePath

/-- The types of the catalog are plain names, and none is the word in front of data sources. -/
theorem terraformType_plain {found : CatalogEntry} (h : found ∈ entries) :
    Text.isReferenceSegment found.terraformType.toList = true ∧ found.terraformType ≠ "data" := by
  have hall : ∀ found ∈ entries, Text.isReferenceSegment found.terraformType.toList = true ∧
      found.terraformType ≠ "data" := by decide +kernel
  exact hall found h

end Catalog

/-- A handle is the one of a construct of a type in the catalog. -/
def Handle.IsFor (handle : Handle) (block : Block) : Prop :=
  ∃ entry ∈ Catalog.entries, entry.terraformType = block.terraformType ∧
    handle = (Construct.mk
      (Construct.addressOf block.kind block.terraformType block.label) entry).handle

namespace Handle.IsFor

variable {handle : Handle} {block : Block} {path : String} {value : Value}

theorem direct?_eq (h : handle.IsFor block) (hread : handle.direct? path = some value) :
    value = .string (block.reference path) ∧ Text.IsReferencePath path.toList := by
  obtain ⟨entry, hentry, _, rfl⟩ := h
  obtain ⟨hvalue, hpath⟩ := Construct.eq_token_of_direct? hread
  rw [Construct.token_addressOf] at hvalue
  exact ⟨hvalue, Catalog.isReferencePath_of_mem_attributes hentry hpath⟩

theorem byName_eq (h : handle.IsFor block) (hread : handle.byName path = .ok value) :
    value = .string (block.reference path) ∧ Text.IsAttributePath path.toList := by
  obtain ⟨entry, _, _, rfl⟩ := h
  obtain ⟨hvalue, hpath⟩ := Construct.eq_token_of_byName hread
  rw [Construct.token_addressOf] at hvalue
  exact ⟨hvalue, hpath⟩

theorem direct?_id (h : handle.IsFor block) :
    handle.direct? defaultAttribute = some (.string (block.reference "id")) := by
  obtain ⟨entry, hentry, _, rfl⟩ := h
  rw [← Construct.token_addressOf block entry]
  exact if_pos (List.contains_iff_mem.mpr (Catalog.id_mem_attributes hentry))

theorem id_eq (h : handle.IsFor block) : handle.id = .ok (.string (block.reference "id")) := by
  have hdirect := h.direct?_id
  obtain ⟨entry, _, _, rfl⟩ := h
  change identify (Construct.handle _).direct? = _
  rw [identify, hdirect]

theorem byName_of_isAttributePath (h : handle.IsFor block)
    (hpath : Text.IsAttributePath path.toList) :
    handle.byName path = .ok (.string (block.reference path)) := by
  obtain ⟨entry, _, _, rfl⟩ := h
  rw [← Construct.token_addressOf block entry]
  exact if_pos (Text.isAttributePath_iff.mpr hpath)

theorem type_plain (h : handle.IsFor block) :
    Text.isReferenceSegment block.terraformType.toList = true ∧ block.terraformType ≠ "data" := by
  obtain ⟨entry, hentry, htype, _⟩ := h
  rw [← htype]
  exact Catalog.terraformType_plain hentry

end Handle.IsFor

section References

theorem append_dot_inj {first other rest more : String} (hfirst : '.' ∉ first.toList)
    (hother : '.' ∉ other.toList) (h : first ++ ("." ++ rest) = other ++ ("." ++ more)) :
    first = other ∧ rest = more := by
  have hlists : first.toList ++ '.' :: rest.toList = other.toList ++ '.' :: more.toList := by
    simpa using congrArg String.toList h
  have hcut := congrArg (Text.cutFirst? '.') hlists
  rw [Text.cutFirst?_append_cons _ hfirst, Text.cutFirst?_append_cons _ hother] at hcut
  obtain ⟨hsame, hrest⟩ := Prod.mk.inj (Option.some.inj hcut)
  exact ⟨String.toList_inj.mp hsame, String.toList_inj.mp hrest⟩

/-- A reference tells the kind and the type of its construct, and the label and the path together:
where the one ends and the other starts, it does not tell. -/
theorem Block.reference_eq_reference {block other : Block} {path more : String}
    (hblock : Text.isReferenceSegment block.terraformType.toList = true ∧
      block.terraformType ≠ "data")
    (hother : Text.isReferenceSegment other.terraformType.toList = true ∧
      other.terraformType ≠ "data")
    (h : block.reference path = other.reference more) :
    block.kind = other.kind ∧ block.terraformType = other.terraformType ∧
      block.label ++ "." ++ path = other.label ++ "." ++ more := by
  obtain ⟨kind, type, label, body⟩ := block
  obtain ⟨kind', type', label', body'⟩ := other
  have hdot : '.' ∉ type.toList := Text.dot_notMem_of_isReferenceSegment hblock.1
  have hdot' : '.' ∉ type'.toList := Text.dot_notMem_of_isReferenceSegment hother.1
  have hdata : '.' ∉ "data".toList := by decide
  have hword : "data." = "data" ++ "." := rfl
  have hclose : label ++ ("." ++ (path ++ "\x7d")) = label' ++ ("." ++ (more ++ "\x7d")) →
      label ++ "." ++ path = label' ++ "." ++ more := by
    intro heq
    simpa only [← String.append_assoc, String.append_left_inj] using heq
  -- the first part of a reference is a type or the word `data`, which no type is
  cases kind <;> cases kind' <;>
    simp only [reference, String.append_assoc, String.append_right_inj] at h
  case resource.resource =>
    obtain ⟨rfl, hrest⟩ := append_dot_inj hdot hdot' h
    exact ⟨rfl, rfl, hclose hrest⟩
  case resource.dataSource =>
    rw [hword, String.append_assoc] at h
    exact absurd (append_dot_inj hdot hdata h).1 hblock.2
  case dataSource.resource =>
    rw [hword, String.append_assoc] at h
    exact absurd (append_dot_inj hdata hdot' h).1.symm hother.2
  case dataSource.dataSource =>
    obtain ⟨rfl, hrest⟩ := append_dot_inj hdot hdot' h
    exact ⟨rfl, rfl, hclose hrest⟩

/-- References to the same attribute are the same only if they go to the same place. -/
theorem Block.reference_inj {block other : Block} {path : String}
    (hblock : Text.isReferenceSegment block.terraformType.toList = true ∧
      block.terraformType ≠ "data")
    (hother : Text.isReferenceSegment other.terraformType.toList = true ∧
      other.terraformType ≠ "data")
    (h : block.reference path = other.reference path) :
    block.kind = other.kind ∧ block.terraformType = other.terraformType ∧
      block.label = other.label := by
  obtain ⟨hkind, htype, hlabel⟩ := reference_eq_reference hblock hother h
  simp only [String.append_left_inj] at hlabel
  exact ⟨hkind, htype, hlabel⟩

end References

namespace Stack

variable {stack : Stack}

theorem Tidy.listing_subset_insert (tidy : stack.Tidy) (kind : BlockKind) (request : Request) :
    stack.listing ⊆ (Stack.insert kind request stack).2.listing := by
  obtain hafter | ⟨entry, hnew, hafter⟩ := insert_state_cases kind request stack
  · rw [hafter]
    exact List.Subset.refl _
  · have hnone := tidy.labelled.body?_eq_none hnew kind entry.terraformType
    obtain ⟨before, after, hlisting, hrecorded⟩ := listing_record hnone
    rw [hafter, hlisting, hrecorded]
    grind

/-- The handle that a request is answered with is the one of the construct it has recorded. -/
theorem isFor_of_insert {kind : BlockKind} {request : Request} {handle : Handle}
    (h : (insert kind request stack).1 = .ok handle) :
    ∃ block : Block, block.kind = kind ∧ block.label = request.name ∧
      block.body = bodyOf request ∧ handle.IsFor block := by
  obtain ⟨entry, hentry, _, hhandle, _⟩ := insert_eq_ok h
  exact ⟨⟨kind, entry.terraformType, request.name, bodyOf request⟩, rfl, rfl, rfl, entry,
    Catalog.mem_entries_of_resolve hentry, rfl, hhandle⟩

end Stack

end StackSynth
