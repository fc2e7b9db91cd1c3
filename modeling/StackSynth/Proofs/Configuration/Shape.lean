import Mathlib.Data.List.Forall2
import StackSynth.Proofs.Configuration.Fields
import StackSynth.Proofs.Document.Conversion

namespace StackSynth

/-- What a field is: what its only content is, or its default if it has no content. A field that
stands there twice is nothing. -/
def FieldIs {α : Type} (names : List String) (is : Document → α → Prop) (default : Option α)
    (entries : List (Document × Document)) (value : α) : Prop :=
  (contentsOf names entries = [] ∧ default = some value) ∨
    ∃ content, contentsOf names entries = [content] ∧ is content value

namespace Document

def IsText (document : Document) (s : String) : Prop :=
  document.untagged = .string s

def IsFlag (document : Document) (b : Bool) : Prop :=
  document.untagged = .boolean b

/-- A text, or a `null` without tags, which is none. -/
def IsOptionalText (document : Document) (text : Option String) : Prop :=
  (document = .null ∧ text = none) ∨ ∃ s, document.IsText s ∧ text = some s

/-- An object. At its top, all keys are texts. -/
structure IsTable (document : Document) (object : Object) : Prop where
  named : ∃ entries, document.untagged = .mapping entries ∧ Named entries
  faultless : document.Faultless
  mirrors : (Value.object object).Mirrors document

def IsOptionalTable (document : Document) (object : Object) : Prop :=
  (document.untagged = .null ∧ object = []) ∨ document.IsTable object

end Document

/-- What a declaration has in its fields. Fields with other names do not matter. -/
structure Declares (entries : List (Document × Document)) (declaration : Declaration) : Prop where
  named : Named entries
  name : FieldIs ["name"] Document.IsText none entries declaration.name
  type : FieldIs ["type"] Document.IsText none entries declaration.type
  args : FieldIs ["args"] Document.IsOptionalTable (some []) entries declaration.args
  customName : FieldIs ["custom_name", "customName"] Document.IsOptionalText (some none) entries
    declaration.customName
  existing : FieldIs ["existing"] Document.IsFlag (some false) entries declaration.existing

namespace Document

def IsDeclaration (document : Document) (declaration : Declaration) : Prop :=
  ∃ entries, document.untagged = .mapping entries ∧ Declares entries declaration

/-- A list of declarations, one for each item in order, which `null` leaves empty. -/
def IsDeclarations (document : Document) (declarations : List Declaration) : Prop :=
  (document.untagged = .null ∧ declarations = []) ∨
    ∃ items, document.untagged = .sequence items ∧ List.Forall₂ IsDeclaration items declarations

end Document

/-- What a root has in its fields. Those that are not declarations have no tags in them. -/
structure IsRoot (entries : List (Document × Document)) (configuration : Configuration) :
    Prop where
  named : Named entries
  untagged : Untagged entries
  team : FieldIs ["team"] Document.IsText none entries configuration.context.team
  service : FieldIs ["service"] Document.IsText none entries configuration.context.service
  environment : FieldIs ["environment"] Document.IsText none entries
    configuration.context.environment
  region : FieldIs ["region"] Document.IsText none entries configuration.context.region
  tags : FieldIs ["tags"] Document.IsTable (some []) entries configuration.context.tags
  declarations : FieldIs [declarationsKey] Document.IsDeclarations (some []) entries
    configuration.declarations

/-- No field of a root has a wrong shape: each is something. -/
structure WellShaped (entries : List (Document × Document)) : Prop where
  named : Named entries
  untagged : Untagged entries
  team : ∃ s, FieldIs ["team"] Document.IsText none entries s
  service : ∃ s, FieldIs ["service"] Document.IsText none entries s
  environment : ∃ s, FieldIs ["environment"] Document.IsText none entries s
  region : ∃ s, FieldIs ["region"] Document.IsText none entries s
  tags : ∃ object, FieldIs ["tags"] Document.IsTable (some []) entries object
  declarations : ∃ declarations,
    FieldIs [declarationsKey] Document.IsDeclarations (some []) entries declarations

/-- A document is read as what it is, and not at all if it is nothing. -/
def Reads {α : Type} (read : Document → Except ShapeError α) (is : Document → α → Prop) : Prop :=
  ∀ document value, read document = .ok value ↔ is document value

theorem wellShaped_iff {entries : List (Document × Document)} :
    WellShaped entries ↔ ∃ configuration, IsRoot entries configuration := by
  constructor
  · rintro ⟨named, untagged, ⟨team, hteam⟩, ⟨service, hservice⟩, ⟨environment, henvironment⟩,
      ⟨region, hregion⟩, ⟨tags, htags⟩, ⟨declarations, hdeclarations⟩⟩
    exact ⟨⟨⟨team, service, environment, region, tags⟩, declarations⟩, named, untagged, hteam,
      hservice, henvironment, hregion, htags, hdeclarations⟩
  · rintro ⟨configuration, h⟩
    exact ⟨h.named, h.untagged, ⟨_, h.team⟩, ⟨_, h.service⟩, ⟨_, h.environment⟩, ⟨_, h.region⟩,
      ⟨_, h.tags⟩, ⟨_, h.declarations⟩⟩

theorem Reads.fieldIs_iff {α : Type} {read : Document → Except ShapeError α}
    {is : Document → α → Prop} (reads : Reads read is) {names : List String} {default : Option α}
    {entries : List (Document × Document)} {value : α} :
    FieldIs names is default entries value ↔
      ∃ after, Filled read none (contentsOf names entries) after ∧
        after.or default = some value := by
  unfold FieldIs
  match contentsOf names entries with
  | [] => simp [Filled]
  | [content] => simp [Filled, ← reads content]
  | _ :: _ :: _ => simp [Filled]

section Readers

theorem reads_text : Reads Document.readString Document.IsText := by
  intro document s
  unfold Document.readString Document.IsText
  cases document.untagged <;> simp

theorem reads_flag : Reads Document.readBoolean Document.IsFlag := by
  intro document b
  unfold Document.readBoolean Document.IsFlag
  cases document.untagged <;> simp

theorem reads_optionalText : Reads Document.readOptionalString Document.IsOptionalText := by
  intro document text
  -- only a bare `null` is no text: one with tags is asked for a text like any other document
  by_cases hnull : document = .null
  · subst hnull
    have htext : ∀ s, ¬ Document.null.IsText s := fun _ h => nomatch h
    simp [Document.readOptionalString, Document.IsOptionalText, htext, eq_comm]
  · have hread : document.readOptionalString = document.readString.map some := by
      cases document <;> first | rfl | exact absurd rfl hnull
    rw [hread, Document.IsOptionalText]
    simp only [hnull, false_and, false_or, ← reads_text document]
    cases document.readString <;> simp [Except.map, eq_comm]

theorem keyText_of_isText (key : Document) {name : String} (h : key.IsText name) :
    key.keyText = .ok name := by
  cases key with
  | tagged tag content => exact keyText_of_isText content h
  | string s =>
    obtain rfl := Document.string.inj h
    rfl
  | null | boolean _ | integer _ | decimal _ | sequence _ | mapping _ => cases h
termination_by structural key

theorem readEntries_eq_ok_iff {entries : List (Document × Document)} {object result : Object} :
    Document.readEntries object entries = .ok result ↔
      Named entries ∧ Document.entryValues object entries = .ok result := by
  induction entries generalizing object with
  | nil => simp [Document.readEntries, Document.entryValues, Named]
  | cons entry rest ih =>
    obtain ⟨key, content⟩ := entry
    have hvalue : ∀ value, content.toValue.mapError ShapeError.value = .ok value ↔
        content.toValue = .ok value := by
      intro value
      cases content.toValue <;> simp [Except.mapError]
    rw [Document.readEntries, bind_eq_ok_iff]
    -- the two walks differ in how they take a key, and agree on keys that are texts
    simp only [bind_eq_ok_iff, hvalue, reads_text key, ih]
    rw [entryValues_cons_eq_ok_iff]
    constructor
    · rintro ⟨name, hname, value, hcontent, hnamed, hrest⟩
      exact ⟨(named_cons hname).mpr hnamed, name, value, keyText_of_isText key hname, hcontent,
        hrest⟩
    · rintro ⟨hnamed, name, value, htext, hcontent, hrest⟩
      obtain ⟨other, hother⟩ := hnamed _ List.mem_cons_self
      obtain rfl : other = name :=
        Except.ok.inj ((keyText_of_isText key hother).symm.trans htext)
      exact ⟨other, hother, value, hcontent, (named_cons hother).mp hnamed, hrest⟩

theorem toValue_untagged (document : Document) : document.untagged.toValue = document.toValue := by
  cases document with
  | tagged tag content => exact toValue_untagged content
  | null | boolean _ | integer _ | decimal _ | string _ | sequence _ | mapping _ => rfl
termination_by structural document

theorem untagged_untagged (document : Document) :
    document.untagged.untagged = document.untagged := by
  cases document with
  | tagged tag content => exact untagged_untagged content
  | null | boolean _ | integer _ | decimal _ | string _ | sequence _ | mapping _ => rfl
termination_by structural document

theorem isTable_iff {document : Document} {entries : List (Document × Document)} {object : Object}
    (h : document.untagged = .mapping entries) :
    document.IsTable object ↔ Named entries ∧ Document.entryValues [] entries = .ok object := by
  have hvalue : document.toValue = .ok (.object object) ↔
      Document.entryValues [] entries = .ok object := by
    rw [← toValue_untagged, h, Document.toValue]
    cases Document.entryValues [] entries <;> simp [Except.map]
  rw [← hvalue, toValue_eq_ok_iff]
  constructor
  · rintro ⟨⟨others, hothers, hnamed⟩, hfaultless, hmirrors⟩
    obtain rfl := Document.mapping.inj (h.symm.trans hothers)
    exact ⟨hnamed, hfaultless, hmirrors⟩
  · rintro ⟨hnamed, hfaultless, hmirrors⟩
    exact ⟨⟨entries, h, hnamed⟩, hfaultless, hmirrors⟩

theorem reads_table : Reads Document.readObject Document.IsTable := by
  intro document object
  unfold Document.readObject
  split
  · next entries h => rw [readEntries_eq_ok_iff, isTable_iff h]
  · next h =>
    refine iff_of_false (by simp) ?_
    rintro ⟨⟨entries, hentries, _⟩, _, _⟩
    exact h entries hentries

theorem reads_optionalTable : Reads Document.readArgs Document.IsOptionalTable := by
  intro document object
  unfold Document.readArgs
  split
  · next h =>
    have htable : ¬ document.IsTable object := by
      rintro ⟨⟨entries, hentries, _⟩, _, _⟩
      rw [h] at hentries
      cases hentries
    simp [Document.IsOptionalTable, h, htable, eq_comm]
  · next h =>
    have hread : document.untagged.readObject = document.readObject := by
      rw [Document.readObject, Document.readObject, untagged_untagged]
    have hnull : document.untagged ≠ .null := h
    rw [hread, reads_table]
    simp [Document.IsOptionalTable, hnull]

theorem declaration_eq_ok_iff {fields : DeclarationFields} {declaration : Declaration} :
    fields.declaration = .ok declaration ↔
      fields.name.or none = some declaration.name ∧
      fields.type.or none = some declaration.type ∧
      fields.args.or (some []) = some declaration.args ∧
      fields.customName.or (some none) = some declaration.customName ∧
      fields.existing.or (some false) = some declaration.existing := by
  obtain ⟨name, type, args, customName, existing⟩ := fields
  obtain ⟨name', type', args', customName', existing'⟩ := declaration
  cases name <;> cases type <;> cases args <;> cases customName <;> cases existing <;>
    simp [DeclarationFields.declaration, required, bind, Except.bind, pure, Except.pure]

theorem reads_declaration : Reads Document.readDeclaration Document.IsDeclaration := by
  intro document declaration
  unfold Document.readDeclaration Document.IsDeclaration
  split
  · next entries h =>
    simp only [h, Document.mapping.injEq, exists_eq_left', bind_eq_ok_iff,
      DeclarationFields.addAll_eq_ok_iff, declaration_eq_ok_iff]
    constructor
    · rintro ⟨fields, hfills, hname, htype, hargs, hcustomName, hexisting⟩
      exact
        { named := hfills.named
          name := reads_text.fieldIs_iff.mpr ⟨_, hfills.name, hname⟩
          type := reads_text.fieldIs_iff.mpr ⟨_, hfills.type, htype⟩
          args := reads_optionalTable.fieldIs_iff.mpr ⟨_, hfills.args, hargs⟩
          customName := reads_optionalText.fieldIs_iff.mpr ⟨_, hfills.customName, hcustomName⟩
          existing := reads_flag.fieldIs_iff.mpr ⟨_, hfills.existing, hexisting⟩ }
    · intro hdeclares
      obtain ⟨name, hname, hname'⟩ := reads_text.fieldIs_iff.mp hdeclares.name
      obtain ⟨type, htype, htype'⟩ := reads_text.fieldIs_iff.mp hdeclares.type
      obtain ⟨args, hargs, hargs'⟩ := reads_optionalTable.fieldIs_iff.mp hdeclares.args
      obtain ⟨customName, hcustomName, hcustomName'⟩ :=
        reads_optionalText.fieldIs_iff.mp hdeclares.customName
      obtain ⟨existing, hexisting, hexisting'⟩ := reads_flag.fieldIs_iff.mp hdeclares.existing
      exact ⟨⟨name, type, args, customName, existing⟩,
        ⟨hdeclares.named, hname, htype, hargs, hcustomName, hexisting⟩,
        hname', htype', hargs', hcustomName', hexisting'⟩
  · next h =>
    -- without fields there is no name
    refine iff_of_false ?_ (by simp [h])
    rw [declaration_eq_ok_iff]
    simp
  · next hmapping _ =>
    refine iff_of_false (by simp) ?_
    rintro ⟨entries, hentries, _⟩
    exact hmapping entries hentries

theorem mapM_eq_ok_iff {α β : Type} {read : α → Except ShapeError β} {items : List α}
    {values : List β} :
    items.mapM read = .ok values ↔ List.Forall₂ (fun item value => read item = .ok value)
      items values := by
  induction items generalizing values with
  | nil => cases values <;> simp [pure, Except.pure]
  | cons item rest ih =>
    simp only [List.mapM_cons, bind_eq_ok_iff, ih, List.forall₂_cons_left_iff]
    constructor
    · rintro ⟨value, hvalue, others, hrest, h⟩
      exact ⟨value, others, hvalue, hrest, (Except.ok.inj h).symm⟩
    · rintro ⟨value, others, hvalue, hrest, rfl⟩
      exact ⟨value, hvalue, others, hrest, rfl⟩

theorem reads_declarations : Reads Document.readDeclarations Document.IsDeclarations := by
  intro document declarations
  have hread : (fun item declaration => Document.readDeclaration item = .ok declaration) =
      Document.IsDeclaration := by
    funext item declaration
    exact propext (reads_declaration item declaration)
  unfold Document.readDeclarations Document.IsDeclarations
  split
  · next items h => simp [h, mapM_eq_ok_iff, hread]
  · next h => simp [h, eq_comm]
  · next hsequence hnull =>
    refine iff_of_false (by simp) ?_
    rintro (⟨h, _⟩ | ⟨items, h, _⟩)
    · exact hnull h
    · exact hsequence items h

end Readers

theorem context_eq_ok_iff {fields : ContextFields} {context : Context} :
    fields.context = .ok context ↔
      fields.team.or none = some context.team ∧
      fields.service.or none = some context.service ∧
      fields.environment.or none = some context.environment ∧
      fields.region.or none = some context.region ∧
      fields.tags.or (some []) = some context.tags := by
  obtain ⟨team, service, environment, region, tags⟩ := fields
  obtain ⟨team', service', environment', region', tags'⟩ := context
  cases team <;> cases service <;> cases environment <;> cases region <;> cases tags <;>
    simp [ContextFields.context, required, bind, Except.bind, pure, Except.pure]

/-- A root is read as what it has in its fields. -/
theorem readRoot_eq_ok_iff {entries : List (Document × Document)} {configuration : Configuration} :
    readRoot entries = .ok configuration ↔ IsRoot entries configuration := by
  unfold readRoot
  simp only [bind_eq_ok_iff, readResources_eq_ok_iff, ContextFields.addAll_eq_ok_iff,
    context_eq_ok_iff]
  constructor
  · rintro ⟨resources, hresources, fields, hfills, context,
      ⟨hteam, hservice, henvironment, hregion, htags⟩, h⟩
    obtain rfl := Except.ok.inj h
    have hdeclarations : resources.or (some []) = some (resources.getD []) := by
      cases resources <;> rfl
    exact
      { named := hfills.named
        untagged := hresources.untagged
        team := reads_text.fieldIs_iff.mpr ⟨_, hfills.team, hteam⟩
        service := reads_text.fieldIs_iff.mpr ⟨_, hfills.service, hservice⟩
        environment := reads_text.fieldIs_iff.mpr ⟨_, hfills.environment, henvironment⟩
        region := reads_text.fieldIs_iff.mpr ⟨_, hfills.region, hregion⟩
        tags := reads_table.fieldIs_iff.mpr ⟨_, hfills.tags, htags⟩
        declarations := reads_declarations.fieldIs_iff.mpr ⟨_, hresources.filled, hdeclarations⟩ }
  · intro hroot
    obtain ⟨team, hteam, hteam'⟩ := reads_text.fieldIs_iff.mp hroot.team
    obtain ⟨service, hservice, hservice'⟩ := reads_text.fieldIs_iff.mp hroot.service
    obtain ⟨environment, henvironment, henvironment'⟩ :=
      reads_text.fieldIs_iff.mp hroot.environment
    obtain ⟨region, hregion, hregion'⟩ := reads_text.fieldIs_iff.mp hroot.region
    obtain ⟨tags, htags, htags'⟩ := reads_table.fieldIs_iff.mp hroot.tags
    obtain ⟨resources, hresources, hresources'⟩ :=
      reads_declarations.fieldIs_iff.mp hroot.declarations
    refine ⟨resources, ⟨hroot.named, hroot.untagged, hresources⟩,
      ⟨team, service, environment, region, tags⟩,
      ⟨hroot.named, hteam, hservice, henvironment, hregion, htags⟩, configuration.context,
      ⟨hteam', hservice', henvironment', hregion', htags'⟩, ?_⟩
    have hdeclarations : resources.getD [] = configuration.declarations := by
      cases resources <;> simpa using hresources'
    rw [hdeclarations]
    rfl

end StackSynth
