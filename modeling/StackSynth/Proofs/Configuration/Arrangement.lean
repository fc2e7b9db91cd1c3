import Mathlib.Data.List.Forall2
import StackSynth.Proofs.Configuration.Fields
import StackSynth.Proofs.Configuration.Loading

namespace StackSynth

/-- Entries are put in another order, and some with names that are not known are left out. -/
def Rearranged (known : List String) (entries others : List (Document × Document)) : Prop :=
  ∃ dropped, entries.Perm (others ++ dropped) ∧
    ∀ entry ∈ dropped, ∃ name, entry.1.untagged = .string name ∧ name ∉ known

/-- The entries of a declaration are rearranged, if it has any. -/
inductive DeclarationRearranged : Document → Document → Prop where
  | same (document : Document) : DeclarationRearranged document document
  | mapping {entries others : List (Document × Document)} :
      Rearranged declarationFieldNames entries others →
      DeclarationRearranged (.mapping entries) (.mapping others)
  | tagged (tag : String) {document other : Document} : DeclarationRearranged document other →
      DeclarationRearranged (.tagged tag document) (.tagged tag other)

inductive DeclarationsRearranged : Document → Document → Prop where
  | same (document : Document) : DeclarationsRearranged document document
  | sequence {items others : List Document} : List.Forall₂ DeclarationRearranged items others →
      DeclarationsRearranged (.sequence items) (.sequence others)
  | tagged (tag : String) {document other : Document} : DeclarationsRearranged document other →
      DeclarationsRearranged (.tagged tag document) (.tagged tag other)

/-- The content of an entry of a root is rearranged, if it is the list of declarations. -/
inductive EntryRearranged : Document × Document → Document × Document → Prop where
  | same (entry : Document × Document) : EntryRearranged entry entry
  | declarations {key content other : Document} : key.untagged = .string declarationsKey →
      DeclarationsRearranged content other → EntryRearranged (key, content) (key, other)

/-- A root is rearranged, and the declarations in it. -/
inductive RootRearranged : Document → Document → Prop where
  | mapping {entries mid others : List (Document × Document)} :
      List.Forall₂ EntryRearranged entries mid → Rearranged rootFieldNames mid others →
      RootRearranged (.mapping entries) (.mapping others)

namespace Rearranged

variable {known names : List String} {entries others : List (Document × Document)}

theorem mem_of_mem (h : Rearranged known entries others) {entry : Document × Document}
    (hentry : entry ∈ others) : entry ∈ entries := by
  obtain ⟨dropped, hperm, _⟩ := h
  exact hperm.mem_iff.mpr (List.mem_append_left _ hentry)

theorem contentsOf (h : Rearranged known entries others) (hnames : names ⊆ known) :
    (contentsOf names entries).Perm (contentsOf names others) := by
  obtain ⟨dropped, hperm, hdropped⟩ := h
  have hnone : StackSynth.contentsOf names dropped = [] := by
    apply List.filterMap_eq_nil_iff.mpr
    intro entry hentry
    obtain ⟨name, hname, hunknown⟩ := hdropped entry hentry
    have hother : name ∉ names := fun hmem => hunknown (hnames hmem)
    simp [hname, hother]
  calc
    List.Perm _ (StackSynth.contentsOf names (others ++ dropped)) := hperm.filterMap _
    _ = StackSynth.contentsOf names others ++ StackSynth.contentsOf names dropped :=
      List.filterMap_append
    _ = StackSynth.contentsOf names others := by rw [hnone, List.append_nil]

theorem named (h : Rearranged known entries others) (hnamed : Named entries) : Named others :=
  fun entry hentry => hnamed entry (h.mem_of_mem hentry)

theorem untagged (h : Rearranged known entries others) (huntagged : Untagged entries) :
    Untagged others :=
  fun entry hentry => huntagged entry (h.mem_of_mem hentry)

theorem hasKey (h : Rearranged known entries others) {key : String} (hkey : key ∈ known)
    (hhas : Document.hasKey entries key = true) : Document.hasKey others key = true := by
  obtain ⟨dropped, hperm, hdropped⟩ := h
  unfold Document.hasKey at hhas ⊢
  rw [List.any_eq_true] at hhas ⊢
  obtain ⟨entry, hentry, heq⟩ := hhas
  have hname : entry.1 = .string key := by
    split at heq
    · next hstring =>
      rw [hstring]
      simpa using heq
    · cases heq
  rcases List.mem_append.mp (hperm.mem_iff.mp hentry) with hmem | hmem
  · exact ⟨entry, hmem, heq⟩
  · obtain ⟨name, hother, hunknown⟩ := hdropped entry hmem
    rw [hname] at hother
    obtain rfl := Document.string.inj hother
    exact absurd hkey hunknown

end Rearranged

theorem DeclarationFields.Fills.rearranged {before after : DeclarationFields}
    {entries others : List (Document × Document)} (h : Fills before entries after)
    (hothers : Rearranged declarationFieldNames entries others) : Fills before others after where
  named := hothers.named h.named
  name := h.name.perm (hothers.contentsOf (by decide))
  type := h.type.perm (hothers.contentsOf (by decide))
  args := h.args.perm (hothers.contentsOf (by decide))
  customName := h.customName.perm (hothers.contentsOf (by decide))
  existing := h.existing.perm (hothers.contentsOf (by decide))

theorem ContextFields.Fills.rearranged {before after : ContextFields}
    {entries others : List (Document × Document)} (h : Fills before entries after)
    (hothers : Rearranged rootFieldNames entries others) : Fills before others after where
  named := hothers.named h.named
  team := h.team.perm (hothers.contentsOf (by decide))
  service := h.service.perm (hothers.contentsOf (by decide))
  environment := h.environment.perm (hothers.contentsOf (by decide))
  region := h.region.perm (hothers.contentsOf (by decide))
  tags := h.tags.perm (hothers.contentsOf (by decide))

theorem DeclarationRearranged.readDeclaration {document other : Document}
    (h : DeclarationRearranged document other) {declaration : Declaration}
    (hread : document.readDeclaration = .ok declaration) :
    other.readDeclaration = .ok declaration := by
  induction h with
  | same => exact hread
  | tagged tag _ ih => exact ih hread
  | @mapping entries others hothers =>
    change (DeclarationFields.addAll {} entries >>= DeclarationFields.declaration) =
      .ok declaration at hread
    change (DeclarationFields.addAll {} others >>= DeclarationFields.declaration) = .ok declaration
    obtain ⟨fields, hfields, hdeclaration⟩ := bind_eq_ok_iff.mp hread
    have hfills : DeclarationFields.Fills {} entries fields :=
      DeclarationFields.addAll_eq_ok_iff.mp hfields
    apply bind_eq_ok_iff.mpr
    exact ⟨fields, DeclarationFields.addAll_eq_ok_iff.mpr (hfills.rearranged hothers), hdeclaration⟩

/-- Items that read as before, one by one, read as before together. -/
theorem mapM_eq_ok_of_forall₂ {ε α β : Type} {read : α → Except ε β} {items others : List α}
    (h : List.Forall₂ (fun item other => ∀ b, read item = .ok b → read other = .ok b) items others)
    {values : List β} (hitems : items.mapM read = .ok values) : others.mapM read = .ok values := by
  induction h generalizing values with
  | nil => exact hitems
  | cons hfirst _ ih =>
    simp only [List.mapM_cons, bind_eq_ok_iff] at hitems ⊢
    obtain ⟨b, hb, rest, hrest, hvalues⟩ := hitems
    exact ⟨b, hfirst b hb, rest, ih hrest, hvalues⟩

theorem DeclarationsRearranged.readDeclarations {document other : Document}
    (h : DeclarationsRearranged document other) {declarations : List Declaration}
    (hread : document.readDeclarations = .ok declarations) :
    other.readDeclarations = .ok declarations := by
  induction h with
  | same => exact hread
  | tagged tag _ ih => exact ih hread
  | sequence hitems =>
    exact mapM_eq_ok_of_forall₂ (hitems.imp fun _ _ h _ => h.readDeclaration) hread

theorem Filled.of_forall₂ {α : Type} {read : Document → Except ShapeError α}
    {before after : Option α} {contents others : List Document}
    (h : Filled read before contents after)
    (hothers : List.Forall₂ (fun content other => ∀ value, read content = .ok value →
      read other = .ok value) contents others) : Filled read before others after := by
  cases hothers with
  | nil => exact h
  | cons hfirst hrest =>
    cases hrest with
    | nil =>
      obtain ⟨hbefore, value, hvalue, hafter⟩ := h
      exact ⟨hbefore, value, hfirst value hvalue, hafter⟩
    | cons => exact h.elim

section Entries

variable {entries mid : List (Document × Document)}

theorem fst_of_entryRearranged {entry other : Document × Document}
    (h : EntryRearranged entry other) : other.1 = entry.1 := by
  cases h <;> rfl

theorem hasKey_of_forall₂ (h : List.Forall₂ EntryRearranged entries mid) (key : String) :
    Document.hasKey mid key = Document.hasKey entries key := by
  induction h with
  | nil => rfl
  | cons hfirst _ ih =>
    simp only [Document.hasKey, List.any_cons] at ih ⊢
    rw [fst_of_entryRearranged hfirst, ih]

theorem named_of_forall₂ (h : List.Forall₂ EntryRearranged entries mid) (hnamed : Named entries) :
    Named mid := by
  induction h with
  | nil => exact hnamed
  | cons hfirst _ ih =>
    obtain ⟨hentry, hrest⟩ := List.forall_mem_cons.mp hnamed
    refine List.forall_mem_cons.mpr ⟨?_, ih hrest⟩
    rw [fst_of_entryRearranged hfirst]
    exact hentry

theorem untagged_of_forall₂ (h : List.Forall₂ EntryRearranged entries mid)
    (huntagged : Untagged entries) : Untagged mid := by
  induction h with
  | nil => exact huntagged
  | cons hfirst _ ih =>
    obtain ⟨hentry, hrest⟩ := List.forall_mem_cons.mp huntagged
    refine List.forall_mem_cons.mpr ⟨?_, ih hrest⟩
    cases hfirst with
    | same => exact hentry
    | declarations hkey _ =>
      intro hother
      exact absurd hkey hother

theorem contentsOf_of_forall₂ (h : List.Forall₂ EntryRearranged entries mid) {names : List String}
    (hnames : declarationsKey ∉ names) : contentsOf names mid = contentsOf names entries := by
  induction h with
  | nil => rfl
  | @cons entry other rest others hfirst _ ih =>
    unfold contentsOf at ih ⊢
    cases hfirst with
    | same => rw [List.filterMap_cons, List.filterMap_cons, ih]
    | declarations hkey _ => simp [hkey, hnames, ih]

theorem forall₂_contentsOf (h : List.Forall₂ EntryRearranged entries mid) :
    List.Forall₂ DeclarationsRearranged (contentsOf [declarationsKey] entries)
      (contentsOf [declarationsKey] mid) := by
  unfold contentsOf
  refine List.rel_filterMap ?_ h
  have hrefl : ∀ content? : Option Document,
      Option.Rel DeclarationsRearranged content? content? := by
    intro content?
    cases content? with
    | none => exact .none
    | some content => exact .some (.same content)
  intro entry other hentry
  cases hentry with
  | declarations hkey hcontent => simpa [hkey] using hcontent
  | same => exact hrefl _

theorem ContextFields.Fills.of_forall₂ {before after : ContextFields}
    (fills : Fills before entries after) (h : List.Forall₂ EntryRearranged entries mid) :
    Fills before mid after where
  named := named_of_forall₂ h fills.named
  team := by
    rw [contentsOf_of_forall₂ h (by decide)]
    exact fills.team
  service := by
    rw [contentsOf_of_forall₂ h (by decide)]
    exact fills.service
  environment := by
    rw [contentsOf_of_forall₂ h (by decide)]
    exact fills.environment
  region := by
    rw [contentsOf_of_forall₂ h (by decide)]
    exact fills.region
  tags := by
    rw [contentsOf_of_forall₂ h (by decide)]
    exact fills.tags

end Entries

/-- Both readings of a root, of its declarations and of its context, are the same for a rearranged
one. -/
theorem readRoot_of_rearranged {entries mid others : List (Document × Document)}
    (hmid : List.Forall₂ EntryRearranged entries mid)
    (hothers : Rearranged rootFieldNames mid others) {configuration : Configuration}
    (h : readRoot entries = .ok configuration) : readRoot others = .ok configuration := by
  unfold readRoot at h ⊢
  simp only [bind_eq_ok_iff] at h ⊢
  obtain ⟨declarations, hresources, fields, hfields, context, hcontext, hconfiguration⟩ := h
  refine ⟨declarations, ?_, fields, ?_, context, hcontext, hconfiguration⟩
  · obtain ⟨hnamed, huntagged, hfilled⟩ := readResources_eq_ok_iff.mp hresources
    have hread : Filled Document.readDeclarations none (contentsOf [declarationsKey] mid)
        declarations :=
      hfilled.of_forall₂ ((forall₂_contentsOf hmid).imp fun _ _ h _ => h.readDeclarations)
    apply readResources_eq_ok_iff.mpr
    exact ⟨hothers.named (named_of_forall₂ hmid hnamed),
      hothers.untagged (untagged_of_forall₂ hmid huntagged),
      hread.perm (hothers.contentsOf (by decide))⟩
  · have hfills : ContextFields.Fills {} entries fields :=
      ContextFields.addAll_eq_ok_iff.mp hfields
    exact ContextFields.addAll_eq_ok_iff.mpr ((hfills.of_forall₂ hmid).rearranged hothers)

/-- A document that is a configuration stays the same one if the entries of its root and of its
declarations are put in another order, and unknown ones are left out. -/
theorem Configuration.ofDocument_rearranged {document other : Document}
    (hother : RootRearranged document other) {configuration : Configuration}
    (h : Configuration.ofDocument document = .ok configuration) :
    Configuration.ofDocument other = .ok configuration := by
  cases hother with
  | @mapping entries mid others hmid hothers =>
    obtain ⟨loaded, hloaded, hkeys, hread, hrepeated⟩ := ofDocument_eq_ok_iff.mp h
    obtain rfl := Document.mapping.inj hloaded
    have hkeys' : ∀ key ∈ requiredKeys, Document.hasKey others key = true := by
      intro key hkey
      apply hothers.hasKey (List.mem_append_left _ hkey)
      rw [hasKey_of_forall₂ hmid]
      exact hkeys key hkey
    apply ofDocument_eq_ok_iff.mpr
    exact ⟨others, rfl, hkeys', readRoot_of_rearranged hmid hothers hread, hrepeated⟩

/-- A network, first with its last entries in front and with an owner and a note that nothing reads,
then without these and in the usual order. -/
theorem Configuration.ofDocument_rearranged_network :
    let unusual : Document := .mapping [
      (.string "owner", .string "platform"),
      (.string "aws_resources", .sequence [.mapping [
        (.string "note", .null), (.string "customName", .string "backbone"),
        (.string "type", .string "vpc.Vpc"), (.string "name", .string "main")]]),
      (.string "region", .string "eu-west-1"), (.string "environment", .string "dev"),
      (.string "service", .string "shop"), (.string "team", .string "core")]
    let usual : Document := .mapping [
      (.string "team", .string "core"), (.string "service", .string "shop"),
      (.string "environment", .string "dev"), (.string "region", .string "eu-west-1"),
      (.string "aws_resources", .sequence [.mapping [
        (.string "name", .string "main"), (.string "type", .string "vpc.Vpc"),
        (.string "customName", .string "backbone")]])]
    let configuration : Configuration := ⟨⟨"core", "shop", "dev", "eu-west-1", []⟩,
      [⟨"main", "vpc.Vpc", [], some "backbone", false⟩]⟩
    Configuration.ofDocument unusual = .ok configuration ∧ RootRearranged unusual usual ∧
      Configuration.ofDocument usual = .ok configuration := by
  intro unusual usual configuration
  have hunusual : Configuration.ofDocument unusual = .ok configuration := by rfl
  have hreverse : ∀ entries others : List (Document × Document), entries = others.reverse →
      entries.Perm others := by
    intro entries others h
    rw [h]
    exact List.reverse_perm others
  have hitem : DeclarationRearranged
      (.mapping [(.string "note", .null), (.string "customName", .string "backbone"),
        (.string "type", .string "vpc.Vpc"), (.string "name", .string "main")])
      (.mapping [(.string "name", .string "main"), (.string "type", .string "vpc.Vpc"),
        (.string "customName", .string "backbone")]) :=
    .mapping ⟨[(.string "note", .null)], hreverse _ _ rfl,
      by simp [Document.untagged, declarationFieldNames]⟩
  have hrearranged : RootRearranged unusual usual := by
    refine .mapping (.cons (.same _) (.cons (.declarations rfl (.sequence (.cons hitem .nil)))
      (.cons (.same _) (.cons (.same _) (.cons (.same _) (.cons (.same _) .nil))))))
      ⟨[(.string "owner", .string "platform")], hreverse _ _ rfl, ?_⟩
    simp [Document.untagged, rootFieldNames, requiredKeys, declarationsKey]
  exact ⟨hunusual, hrearranged, Configuration.ofDocument_rearranged hrearranged hunusual⟩

end StackSynth
