import Mathlib.Data.List.Nodup
import StackSynth.Proofs.Stack.Insertion
/-!
Stacks that calls have led to, in any order and with any arguments. Main statement: the names in use
are the labels of the constructs, none of them twice, and by them and the catalog alone a call is
accepted or refused; a call that is refused changes nothing, one that is accepted adds one entry and
leaves all others in their order.
-/
namespace StackSynth

/-- A construct where it stands in a stack. -/
structure Block where
  kind : BlockKind
  terraformType : String
  label : String
  body : Object

def Block.ofEntry (kind : BlockKind) (entry : String × String × Object) : Block :=
  ⟨kind, entry.1, entry.2.1, entry.2.2⟩

namespace Blocks

theorem map_label_constructs (blocks : Blocks) :
    (constructs blocks).map (·.2.1) = blocks.flatMap fun table => Entries.keys table.2 := by
  simp only [constructs, List.map_flatMap, List.map_map]
  rfl

theorem mem_constructs_of_body?_eq_some {blocks : Blocks} {terraformType label : String}
    {body : Object} (h : blocks.body? terraformType label = some body) :
    (terraformType, label, body) ∈ blocks.constructs := by
  obtain ⟨table, htable, hbody⟩ := Option.bind_eq_some_iff.mp h
  have hmem : (terraformType, table) ∈ blocks := Entries.mem_of_find?_eq_some htable
  have hentry : (label, body) ∈ table := Entries.mem_of_find?_eq_some hbody
  exact List.mem_flatMap.mpr ⟨_, hmem, List.mem_map.mpr ⟨_, hentry, rfl⟩⟩

theorem body?_eq_some_of_mem {blocks : Blocks} {terraformType label : String} {body : Object}
    (htypes : (Entries.keys blocks).Nodup) (hlabels : (blocks.constructs.map (·.2.1)).Nodup)
    (h : (terraformType, label, body) ∈ blocks.constructs) :
    blocks.body? terraformType label = some body := by
  obtain ⟨⟨type, table⟩, htable, hentry⟩ := List.mem_flatMap.mp h
  obtain ⟨⟨name, content⟩, hmem, heq⟩ := List.mem_map.mp hentry
  obtain ⟨rfl, rfl, rfl⟩ : type = terraformType ∧ name = label ∧ content = body := by
    simpa using heq
  have hkeys : (Entries.keys table).Nodup := by
    rw [map_label_constructs, List.nodup_flatMap] at hlabels
    exact hlabels.1 _ htable
  have hfind : Entries.find? blocks type = some table :=
    Entries.find?_eq_some_of_mem htypes htable
  rw [body?, hfind, Option.bind_some]
  exact Entries.find?_eq_some_of_mem hkeys hmem

theorem nodup_keys_add {blocks : Blocks} (h : (Entries.keys blocks).Nodup)
    (terraformType name : String) (body : Object) :
    (Entries.keys (blocks.add terraformType name body)).Nodup :=
  Entries.nodup_keys_insert h _ _

end Blocks

namespace Stack

def listingOf (stack : Stack) (kind : BlockKind) : List Block :=
  (stack.blocks kind).constructs.map (Block.ofEntry kind)

/-- All constructs in the order of a configuration, data sources first. -/
def listing (stack : Stack) : List Block :=
  stack.listingOf .dataSource ++ stack.listingOf .resource

def labels (stack : Stack) : List String :=
  stack.listing.map Block.label

/-- Stacks that calls lead to. -/
inductive Reachable : Stack → Prop where
  | new {region : String} {stack : Stack} : Stack.new region = .ok stack → Reachable stack
  | create {stack : Stack} (request : Request) :
      Reachable stack → Reachable (Stack.backend.create request stack).2
  | lookup {stack : Stack} (request : Request) :
      Reachable stack → Reachable (Stack.backend.lookup request stack).2
  | publish {stack : Stack} (output : String) (value : Value) :
      Reachable stack → Reachable (Stack.backend.publish output value stack).2

/-- The books of a stack are in order: it uses the names that label its constructs, each for one,
and keeps one table for each type. -/
structure Tidy (stack : Stack) : Prop where
  labels_perm : stack.labels.Perm stack.names
  names_nodup : stack.names.Nodup
  types_nodup : ∀ kind, (Entries.keys (stack.blocks kind)).Nodup

variable {stack : Stack}

theorem mem_listing {block : Block} :
    block ∈ stack.listing ↔
      (block.terraformType, block.label, block.body) ∈ (stack.blocks block.kind).constructs := by
  obtain ⟨kind, terraformType, label, body⟩ := block
  cases kind <;> simp [listing, listingOf, Block.ofEntry]

/-- A new construct is put between the others of its kind. -/
theorem listing_record {kind : BlockKind} {terraformType : String} {request : Request}
    (h : stack.body? kind terraformType request.name = none) :
    ∃ before after, stack.listing = before ++ after ∧
      (stack.record kind terraformType request).listing =
        before ++ ⟨kind, terraformType, request.name, bodyOf request⟩ :: after := by
  obtain ⟨before, after, hconstructs, hadded⟩ := Blocks.constructs_add_eq (bodyOf request) h
  have hkind : stack.listingOf kind =
      before.map (Block.ofEntry kind) ++ after.map (Block.ofEntry kind) := by
    rw [listingOf, hconstructs, List.map_append]
  have hrecorded : (stack.record kind terraformType request).listingOf kind =
      before.map (Block.ofEntry kind) ++
        ⟨kind, terraformType, request.name, bodyOf request⟩ :: after.map (Block.ofEntry kind) := by
    rw [listingOf, blocks_record, if_pos rfl, hadded, List.map_append, List.map_cons]
    rfl
  have hother : ∀ other, other ≠ kind →
      (stack.record kind terraformType request).listingOf other = stack.listingOf other := by
    intro other hne
    rw [listingOf, blocks_record, if_neg hne, listingOf]
  -- the constructs of the other kind stand behind those of the new one, or before them
  cases kind with
  | dataSource =>
    refine ⟨before.map (Block.ofEntry .dataSource),
      after.map (Block.ofEntry .dataSource) ++ stack.listingOf .resource, ?_, ?_⟩
    · rw [listing, hkind, List.append_assoc]
    · rw [listing, hrecorded, hother .resource (by decide), List.append_assoc, List.cons_append]
  | resource =>
    refine ⟨stack.listingOf .dataSource ++ before.map (Block.ofEntry .resource),
      after.map (Block.ofEntry .resource), ?_, ?_⟩
    · rw [listing, hkind, List.append_assoc]
    · rw [listing, hrecorded, hother .dataSource (by decide), List.append_assoc]

namespace Tidy

theorem mem_names_iff (tidy : stack.Tidy) {name : String} :
    name ∈ stack.names ↔ name ∈ stack.labels :=
  tidy.labels_perm.mem_iff.symm

theorem labels_nodup (tidy : stack.Tidy) : stack.labels.Nodup :=
  tidy.labels_perm.nodup_iff.mpr tidy.names_nodup

theorem body?_eq_some_iff (tidy : stack.Tidy) {kind : BlockKind} {terraformType label : String}
    {body : Object} :
    stack.body? kind terraformType label = some body ↔
      ⟨kind, terraformType, label, body⟩ ∈ stack.listing := by
  -- labels are distinct over all kinds, so they are within one
  have hlabels : ((stack.blocks kind).constructs.map (·.2.1)).Nodup := by
    have hsub : (stack.listingOf kind).Sublist stack.listing := by
      cases kind
      · exact List.sublist_append_right _ _
      · exact List.sublist_append_left _ _
    have hkind : ((stack.listingOf kind).map Block.label).Nodup :=
      (hsub.map _).nodup tidy.labels_nodup
    rwa [listingOf, List.map_map] at hkind
  rw [mem_listing]
  exact ⟨Blocks.mem_constructs_of_body?_eq_some,
    Blocks.body?_eq_some_of_mem (tidy.types_nodup kind) hlabels⟩

theorem labelled (tidy : stack.Tidy) : stack.Labelled := by
  intro kind terraformType label body hbody
  have hmem := tidy.body?_eq_some_iff.mp hbody
  exact tidy.mem_names_iff.mpr (List.mem_map_of_mem hmem)

/-- No two constructs have the same label, of whatever kind and type they are. -/
theorem eq_of_label_eq (tidy : stack.Tidy) {block other : Block} (hblock : block ∈ stack.listing)
    (hother : other ∈ stack.listing) (hlabel : other.label = block.label) : other = block :=
  List.inj_on_of_nodup_map tidy.labels_nodup hother hblock hlabel

theorem record (tidy : stack.Tidy) (kind : BlockKind) (terraformType : String) {request : Request}
    (h : request.name ∉ stack.names) : (stack.record kind terraformType request).Tidy where
  labels_perm := by
    have hnone := tidy.labelled.body?_eq_none h kind terraformType
    obtain ⟨before, after, hlisting, hrecorded⟩ := listing_record hnone
    have hperm := tidy.labels_perm
    rw [labels, hlisting, List.map_append] at hperm
    rw [labels, hrecorded, names_record, List.map_append, List.map_cons]
    -- the label comes somewhere in the middle, the name at the end
    calc
      List.Perm _ (request.name :: (before.map Block.label ++ after.map Block.label)) :=
        List.perm_middle
      List.Perm _ (request.name :: stack.names) := hperm.cons _
      List.Perm _ _ := (List.perm_append_singleton _ _).symm
  names_nodup := by
    rw [names_record]
    exact List.nodup_append.mpr ⟨tidy.names_nodup, by simp, by grind⟩
  types_nodup := by
    intro other
    rw [blocks_record]
    split
    · exact Blocks.nodup_keys_add (tidy.types_nodup kind) _ _ _
    · exact tidy.types_nodup other

theorem insert (tidy : stack.Tidy) (kind : BlockKind) (request : Request) :
    (Stack.insert kind request stack).2.Tidy := by
  obtain hafter | ⟨entry, hnew, hafter⟩ := insert_state_cases kind request stack
  · rw [hafter]
    exact tidy
  · rw [hafter]
    exact tidy.record kind _ hnew

theorem withOutputs (tidy : stack.Tidy) (outputs : Entries Value) :
    ({ stack with outputs } : Stack).Tidy :=
  ⟨tidy.labels_perm, tidy.names_nodup, by simpa using tidy.types_nodup⟩

end Tidy

theorem tidy_of_new {region : String} (h : Stack.new region = .ok stack) : stack.Tidy := by
  obtain ⟨_, rfl⟩ := new_eq_ok_iff.mp h
  refine ⟨List.Perm.refl _, List.nodup_nil, ?_⟩
  intro kind
  cases kind <;> exact List.nodup_nil

namespace Reachable

theorem tidy (reachable : stack.Reachable) : stack.Tidy := by
  induction reachable with
  | new h => exact tidy_of_new h
  | create request _ ih => exact ih.insert .resource request
  | lookup request _ ih => exact ih.insert .dataSource request
  | @publish stack output value _ ih =>
    change (Stack.publish output value stack).2.Tidy
    rw [publish_eq]
    split
    · exact ih
    · exact ih.withOutputs _

theorem materialize (reachable : stack.Reachable) (kind : BlockKind) (request : Request) :
    (Stack.backend.materialize kind request stack).2.Reachable := by
  cases kind with
  | resource => exact reachable.create request
  | dataSource => exact reachable.lookup request

end Reachable

end Stack

end StackSynth
