import StackSynth.Proofs.Configuration.Fields
import StackSynth.Proofs.Configuration.Loading

namespace StackSynth

namespace Document

mutual

/-- A document without any tags, in keys neither. -/
def withoutTags : Document → Document
  | tagged _ content => content.withoutTags
  | sequence items => sequence (itemsWithoutTags items)
  | mapping entries => mapping (entriesWithoutTags entries)
  | null => null
  | boolean b => boolean b
  | integer n => integer n
  | decimal d => decimal d
  | string s => string s
termination_by structural document => document

def itemsWithoutTags : List Document → List Document
  | [] => []
  | item :: rest => item.withoutTags :: itemsWithoutTags rest
termination_by structural items => items

def entriesWithoutTags : List (Document × Document) → List (Document × Document)
  | [] => []
  | (key, value) :: rest => (key.withoutTags, value.withoutTags) :: entriesWithoutTags rest
termination_by structural entries => entries

end

/-- Changes what stands below the tags around a document. -/
def belowTags (change : Document → Document) : Document → Document
  | tagged tag content => tagged tag (content.belowTags change)
  | document => change document

def changeItems (change : Document → Document) : Document → Document
  | sequence items => sequence (items.map change)
  | document => document

/-- Changes the content of an entry, if it has a name. -/
def changeEntry (field : String) (change : Document → Document) (entry : Document × Document) :
    Document × Document :=
  match entry.1.untagged with
  | string name => if name = field then (entry.1, change entry.2) else entry
  | _ => entry

def changeField (field : String) (change : Document → Document) : Document → Document
  | mapping entries => mapping (entries.map (changeEntry field change))
  | document => document

def declarationsWithoutArgsTags : Document → Document :=
  belowTags <| changeItems <| belowTags <| changeField "args" withoutTags

/-- A root without tags in the arguments of its declarations. -/
def withoutArgsTags : Document → Document :=
  changeField declarationsKey declarationsWithoutArgsTags

/-- A root without tags in the tags of its context and in the arguments of its declarations. -/
def withoutValueTags (document : Document) : Document :=
  (document.changeField "tags" withoutTags).withoutArgsTags

/-- There is a yaml tag among the tags of the context. -/
def HasTaggedTags (document : Document) : Prop :=
  ∃ entries, document = mapping entries ∧
    ∃ content ∈ contentsOf ["tags"] entries, content.hasTag = true

theorem keyText_withoutTags (key : Document) : key.withoutTags.keyText = key.keyText := by
  cases key with
  | tagged tag content => exact keyText_withoutTags content
  | null | boolean _ | integer _ | decimal _ | string _ | sequence _ | mapping _ => rfl
termination_by structural key

mutual

theorem toValue_withoutTags (document : Document) :
    document.withoutTags.toValue = document.toValue := by
  cases document with
  | tagged tag content => exact toValue_withoutTags content
  | sequence items => rw [withoutTags, toValue, toValue, itemValues_withoutTags items]
  | mapping entries => rw [withoutTags, toValue, toValue, entryValues_withoutTags entries]
  | null | boolean _ | integer _ | decimal _ | string _ => rfl
termination_by structural document

theorem itemValues_withoutTags (items : List Document) :
    itemValues (itemsWithoutTags items) = itemValues items := by
  cases items with
  | nil => rfl
  | cons item rest =>
    rw [itemsWithoutTags, itemValues, itemValues, toValue_withoutTags item,
      itemValues_withoutTags rest]
termination_by structural items

theorem entryValues_withoutTags (entries : List (Document × Document)) (object : Object) :
    entryValues object (entriesWithoutTags entries) = entryValues object entries := by
  cases entries with
  | nil => rfl
  | cons entry rest =>
    obtain ⟨key, content⟩ := entry
    simp only [entriesWithoutTags, entryValues, keyText_withoutTags key,
      toValue_withoutTags content, entryValues_withoutTags rest]
termination_by structural entries

end

mutual

theorem withoutTags_eq_self (document : Document) (h : document.hasTag = false) :
    document.withoutTags = document := by
  cases document with
  | tagged tag content => cases h
  | sequence items => rw [withoutTags, itemsWithoutTags_eq_self items h]
  | mapping entries => rw [withoutTags, entriesWithoutTags_eq_self entries h]
  | null | boolean _ | integer _ | decimal _ | string _ => rfl
termination_by structural document

theorem itemsWithoutTags_eq_self (items : List Document) (h : itemsHaveTag items = false) :
    itemsWithoutTags items = items := by
  cases items with
  | nil => rfl
  | cons item rest =>
    obtain ⟨hitem, hrest⟩ := Bool.or_eq_false_iff.mp h
    rw [itemsWithoutTags, withoutTags_eq_self item hitem, itemsWithoutTags_eq_self rest hrest]
termination_by structural items

theorem entriesWithoutTags_eq_self (entries : List (Document × Document))
    (h : entriesHaveTag entries = false) : entriesWithoutTags entries = entries := by
  cases entries with
  | nil => rfl
  | cons entry rest =>
    obtain ⟨key, content⟩ := entry
    obtain ⟨hentry, hrest⟩ := Bool.or_eq_false_iff.mp h
    obtain ⟨hkey, hcontent⟩ := Bool.or_eq_false_iff.mp hentry
    rw [entriesWithoutTags, withoutTags_eq_self key hkey, withoutTags_eq_self content hcontent,
      entriesWithoutTags_eq_self rest hrest]
termination_by structural entries

end

theorem readString_withoutTags (document : Document) :
    document.withoutTags.readString = document.readString := by
  cases document with
  | tagged tag content => exact readString_withoutTags content
  | null | boolean _ | integer _ | decimal _ | string _ | sequence _ | mapping _ => rfl
termination_by structural document

theorem readEntries_withoutTags (entries : List (Document × Document)) (object : Object) :
    readEntries object (entriesWithoutTags entries) = readEntries object entries := by
  induction entries generalizing object with
  | nil => rfl
  | cons entry rest ih =>
    obtain ⟨key, content⟩ := entry
    simp only [entriesWithoutTags, readEntries, readString_withoutTags, toValue_withoutTags, ih]

theorem readObject_withoutTags (document : Document) :
    document.withoutTags.readObject = document.readObject := by
  cases document with
  | tagged tag content => exact readObject_withoutTags content
  | mapping entries => exact readEntries_withoutTags entries []
  | null | boolean _ | integer _ | decimal _ | string _ | sequence _ => rfl
termination_by structural document

theorem readArgs_withoutTags (document : Document) :
    document.withoutTags.readArgs = document.readArgs := by
  cases document with
  | tagged tag content => exact readArgs_withoutTags content
  | mapping entries => exact readEntries_withoutTags entries []
  | null | boolean _ | integer _ | decimal _ | string _ | sequence _ => rfl
termination_by structural document

/-- A reading that passes over tags sees no change below them that it does not see itself. -/
theorem apply_belowTags {α : Type} {read : Document → α} {change : Document → Document}
    (htagged : ∀ tag content, read (tagged tag content) = read content)
    (hchange : ∀ document, read (change document) = read document) (document : Document) :
    read (document.belowTags change) = read document := by
  cases document with
  | tagged tag content =>
    rw [belowTags, htagged, htagged, apply_belowTags htagged hchange content]
  | null | boolean _ | integer _ | decimal _ | string _ | sequence _ | mapping _ =>
    exact hchange _
termination_by structural document

theorem exists_changeEntry_eq (field : String) (change : Document → Document)
    (key content : Document) : ∃ changed, changeEntry field change (key, content) = (key, changed) ∧
      ∀ name, key.untagged = string name →
        changed = if name = field then change content else content := by
  unfold changeEntry
  split
  · next name hkey =>
    have hname : ∀ other, key.untagged = string other → other = name := by
      intro other hother
      exact string.inj (hother.symm.trans hkey)
    by_cases h : name = field
    · refine ⟨change content, if_pos h, ?_⟩
      intro other hother
      rw [hname other hother, if_pos h]
    · refine ⟨content, if_neg h, ?_⟩
      intro other hother
      rw [hname other hother, if_neg h]
  · next hkey => exact ⟨content, rfl, fun name hname => absurd hname (hkey name)⟩

theorem hasKey_map_changeEntry (field : String) (change : Document → Document)
    (entries : List (Document × Document)) (key : String) :
    hasKey (entries.map (changeEntry field change)) key = hasKey entries key := by
  induction entries with
  | nil => rfl
  | cons entry rest ih =>
    obtain ⟨entryKey, content⟩ := entry
    obtain ⟨changed, hentry, _⟩ := exists_changeEntry_eq field change entryKey content
    simp only [hasKey, List.map_cons, List.any_cons, hentry] at ih ⊢
    rw [ih]

end Document

/-- A record sees no change of a field that it reads as before. -/
theorem ReadsByName.map_changeEntry {φ : Type} {add : φ → String → Document → Except ShapeError φ}
    {addAll : φ → List (Document × Document) → Except ShapeError φ}
    (reads : ReadsByName add addAll) {field : String} {change : Document → Document}
    (h : ∀ fields content, add fields field (change content) = add fields field content)
    (fields : φ) (entries : List (Document × Document)) :
    addAll fields (entries.map (Document.changeEntry field change)) = addAll fields entries := by
  induction entries generalizing fields with
  | nil => rfl
  | cons entry rest ih =>
    obtain ⟨key, content⟩ := entry
    obtain ⟨changed, hentry, hchanged⟩ := Document.exists_changeEntry_eq field change key content
    rw [List.map_cons, hentry, reads.cons, reads.cons]
    simp only [ih]
    cases hkey : key.readFieldName with
    | error e => rfl
    | ok name =>
      have hadd : add fields name changed = add fields name content := by
        rw [hchanged name (readFieldName_eq_ok_iff.mp hkey)]
        split
        · next hname => rw [hname, h]
        · rfl
      change (add fields name changed >>= _) = (add fields name content >>= _)
      rw [hadd]

section Declarations

open Document

theorem DeclarationFields.add_args_withoutTags (fields : DeclarationFields) (content : Document) :
    fields.add "args" content.withoutTags = fields.add "args" content := by
  simp only [add, readArgs_withoutTags]

theorem ContextFields.add_tags_withoutTags (fields : ContextFields) (content : Document) :
    fields.add "tags" content.withoutTags = fields.add "tags" content := by
  simp only [add, readObject_withoutTags]

theorem Document.readDeclaration_withoutArgsTags (document : Document) :
    (document.belowTags (changeField "args" withoutTags)).readDeclaration =
      document.readDeclaration := by
  refine apply_belowTags (fun _ _ => rfl) ?_ document
  intro document
  cases document with
  | mapping entries =>
    have hfields := DeclarationFields.readsByName.map_changeEntry
      DeclarationFields.add_args_withoutTags {} entries
    change (DeclarationFields.addAll {} (entries.map _) >>= _) =
      (DeclarationFields.addAll {} entries >>= _)
    rw [hfields]
  | null | boolean _ | integer _ | decimal _ | string _ | sequence _ | tagged _ _ => rfl

theorem Document.readDeclarations_withoutArgsTags (document : Document) :
    document.declarationsWithoutArgsTags.readDeclarations = document.readDeclarations := by
  refine apply_belowTags (fun _ _ => rfl) ?_ document
  intro document
  cases document with
  | sequence items =>
    change (items.map _).mapM readDeclaration = items.mapM readDeclaration
    rw [List.mapM_map]
    simp only [Function.comp_def, readDeclaration_withoutArgsTags]
  | null | boolean _ | integer _ | decimal _ | string _ | mapping _ | tagged _ _ => rfl

end Declarations

section Root

open Document

variable {entries : List (Document × Document)}

theorem mem_contentsOf {field : String} {content : Document} :
    content ∈ contentsOf [field] entries ↔
      ∃ key, (key, content) ∈ entries ∧ key.untagged = .string field := by
  unfold contentsOf
  rw [List.mem_filterMap]
  constructor
  · rintro ⟨⟨key, other⟩, hentry, hsome⟩
    split at hsome
    · next name hkey =>
      obtain ⟨hname, hother⟩ : name = field ∧ other = content := by simpa using hsome
      subst hname hother
      exact ⟨key, hentry, hkey⟩
    · cases hsome
  · rintro ⟨key, hentry, hkey⟩
    exact ⟨(key, content), hentry, by simp [hkey]⟩

/-- A document is what it was as a configuration if its root reads as it did. -/
theorem Configuration.ofDocument_congr {others : List (Document × Document)}
    (hkeys : ∀ key, hasKey others key = hasKey entries key)
    (hroot : readRoot others = readRoot entries) :
    Configuration.ofDocument (.mapping others) = Configuration.ofDocument (.mapping entries) := by
  simp only [ofDocument, hkeys, hroot]

theorem addResources_declarationsKey_withoutArgsTags (declarations : Option (List Declaration))
    (content : Document) :
    addResources declarations declarationsKey content.declarationsWithoutArgsTags =
      addResources declarations declarationsKey content := by
  simp only [addResources, readDeclarations_withoutArgsTags, if_true]

theorem readRoot_withoutArgsTags (entries : List (Document × Document)) :
    readRoot (entries.map (changeEntry declarationsKey declarationsWithoutArgsTags)) =
      readRoot entries := by
  have hresources : readResources none
      (entries.map (changeEntry declarationsKey declarationsWithoutArgsTags)) =
        readResources none entries :=
    readsByName_resources.map_changeEntry addResources_declarationsKey_withoutArgsTags none entries
  -- a context passes over the declarations
  have hadd : ∀ (fields : ContextFields) (content : Document),
      fields.add declarationsKey content.declarationsWithoutArgsTags =
        fields.add declarationsKey content :=
    fun _ _ => rfl
  have hcontext : ContextFields.addAll {}
      (entries.map (changeEntry declarationsKey declarationsWithoutArgsTags)) =
        ContextFields.addAll {} entries :=
    ContextFields.readsByName.map_changeEntry hadd {} entries
  simp only [readRoot, hresources, hcontext]

theorem Configuration.ofDocument_withoutArgsTags (document : Document) :
    Configuration.ofDocument document.withoutArgsTags = Configuration.ofDocument document := by
  cases document with
  | mapping entries =>
    exact ofDocument_congr (hasKey_map_changeEntry _ _ entries) (readRoot_withoutArgsTags entries)
  | null | boolean _ | integer _ | decimal _ | string _ | sequence _ | tagged _ _ => rfl

/-- A root is refused for a tag unless it reads as it does without the tags in its field `tags`. -/
theorem readResources_withoutTags (declarations : Option (List Declaration))
    (entries : List (Document × Document)) :
    readResources declarations entries = .error .taggedField ∨
      readResources declarations (entries.map (changeEntry "tags" withoutTags)) =
        readResources declarations entries := by
  induction entries generalizing declarations with
  | nil => exact .inr rfl
  | cons entry rest ih =>
    obtain ⟨key, content⟩ := entry
    obtain ⟨changed, hentry, hchanged⟩ := exists_changeEntry_eq "tags" withoutTags key content
    rw [List.map_cons, hentry, readsByName_resources.cons, readsByName_resources.cons]
    cases hkey : key.readFieldName with
    | error e => exact .inr rfl
    | ok name =>
      -- content that has a tag is refused, and other content is not changed
      have hadd : addResources declarations name content = .error .taggedField ∨
          addResources declarations name changed = addResources declarations name content := by
        rw [hchanged name (readFieldName_eq_ok_iff.mp hkey)]
        split
        · next hname =>
          cases htag : content.hasTag with
          | true => exact .inl (by simp [addResources, hname, htag, declarationsKey])
          | false => exact .inr (by rw [withoutTags_eq_self content htag])
        · exact .inr rfl
      change (addResources declarations name content >>= fun fields => readResources fields rest) =
          _ ∨ (addResources declarations name changed >>= fun fields => readResources fields _) =
            (addResources declarations name content >>= fun fields => readResources fields rest)
      rcases hadd with hadd | hadd
      · exact .inl (by rw [hadd]; rfl)
      · rw [hadd]
        cases addResources declarations name content with
        | error e => exact .inr rfl
        | ok fields => exact ih fields

theorem readRoot_withoutTags (entries : List (Document × Document)) :
    readRoot entries = .error .taggedField ∨
      readRoot (entries.map (changeEntry "tags" withoutTags)) = readRoot entries := by
  have hcontext : ContextFields.addAll {} (entries.map (changeEntry "tags" withoutTags)) =
      ContextFields.addAll {} entries :=
    ContextFields.readsByName.map_changeEntry ContextFields.add_tags_withoutTags {} entries
  rcases readResources_withoutTags none entries with h | h
  · exact .inl (by simp only [readRoot, h]; rfl)
  · exact .inr (by simp only [readRoot, h, hcontext])

theorem Configuration.ofDocument_withoutTags (document : Document) :
    Configuration.ofDocument document = .error (.malformed .taggedField) ∨
      Configuration.ofDocument (document.changeField "tags" withoutTags) =
        Configuration.ofDocument document := by
  cases document with
  | mapping entries =>
    have hkeys := hasKey_map_changeEntry "tags" withoutTags entries
    rcases readRoot_withoutTags entries with h | h
    · cases hmissing : requiredKeys.find? fun key => !hasKey entries key with
      | some key => exact .inr (by simp only [changeField, ofDocument, hkeys, hmissing])
      | none => exact .inl (by simp only [ofDocument, hmissing, h])
    · exact .inr (ofDocument_congr hkeys h)
  | null | boolean _ | integer _ | decimal _ | string _ | sequence _ | tagged _ _ => exact .inr rfl

/-- No configuration has tags among the tags of its context. -/
theorem Configuration.not_hasTaggedTags {document : Document} {configuration : Configuration}
    (h : Configuration.ofDocument document = .ok configuration) : ¬ document.HasTaggedTags := by
  rintro ⟨entries, rfl, content, hcontent, htag⟩
  obtain ⟨loaded, hloaded, _, hread, _⟩ := ofDocument_eq_ok_iff.mp h
  obtain rfl := Document.mapping.inj hloaded
  obtain ⟨declarations, hresources, _⟩ := bind_eq_ok_iff.mp hread
  obtain ⟨_, huntagged, _⟩ := readResources_eq_ok_iff.mp hresources
  obtain ⟨key, hentry, hkey⟩ := mem_contentsOf.mp hcontent
  have hother : key.untagged ≠ .string declarationsKey := by simp [hkey, declarationsKey]
  have hnone : content.hasTag = false := huntagged _ hentry hother
  rw [hnone] at htag
  cases htag

theorem Document.changeField_tags_eq_self {document : Document} (h : ¬ document.HasTaggedTags) :
    document.changeField "tags" withoutTags = document := by
  cases document with
  | mapping entries =>
    have hentry : ∀ entry ∈ entries, changeEntry "tags" withoutTags entry = entry := by
      intro entry hentry
      obtain ⟨key, content⟩ := entry
      have hnone : key.untagged = string "tags" → content.hasTag = false := by
        intro hkey
        apply Bool.eq_false_iff.mpr
        intro htag
        exact h ⟨entries, rfl, content, mem_contentsOf.mpr ⟨key, hentry, hkey⟩, htag⟩
      unfold changeEntry
      split
      · next name hkey =>
        split
        · next hname =>
          rw [hname] at hkey
          rw [withoutTags_eq_self content (hnone hkey)]
        · rfl
      · rfl
    rw [changeField, List.map_congr_left hentry, List.map_id']
  | null | boolean _ | integer _ | decimal _ | string _ | sequence _ | tagged _ _ => rfl

/-- Tags in the arguments of declarations do not matter to a configuration, and without a tag among
the tags of the context none matters. With one, a document is no configuration: it is refused for a
tag, unless it is refused before for what is wrong with it without the tags too. -/
theorem Configuration.ofDocument_withoutValueTags (document : Document) :
    Configuration.ofDocument document.withoutArgsTags = Configuration.ofDocument document ∧
      (¬ document.HasTaggedTags →
        Configuration.ofDocument document.withoutValueTags = Configuration.ofDocument document) ∧
      (document.HasTaggedTags → ∃ e, Configuration.ofDocument document = .error e ∧
        (e = .malformed .taggedField ∨
          Configuration.ofDocument document.withoutValueTags = .error e)) := by
  refine ⟨ofDocument_withoutArgsTags document, ?_, ?_⟩
  · intro hnone
    rw [withoutValueTags, ofDocument_withoutArgsTags, changeField_tags_eq_self hnone]
  · intro htagged
    cases h : Configuration.ofDocument document with
    | ok configuration => exact absurd htagged (not_hasTaggedTags h)
    | error e =>
      refine ⟨e, rfl, ?_⟩
      rcases ofDocument_withoutTags document with htag | hsame
      · rw [htag] at h
        exact .inl (Except.error.inj h).symm
      · rw [withoutValueTags, ofDocument_withoutArgsTags, hsame, h]
        exact .inr rfl

/-- An owner with a tag, which is refused as a tag of the context, and loads without its own tag. In
an argument it loads with its tag. -/
theorem Configuration.ofDocument_tagged_owner :
    let owner : Document := .mapping [(.string "Owner", .tagged "!Ref" (.string "core"))]
    let root (tags args : Document) : Document := .mapping [
      (.string "team", .string "core"), (.string "service", .string "shop"),
      (.string "environment", .string "dev"), (.string "region", .string "eu-west-1"),
      (.string "tags", tags),
      (.string "aws_resources", .sequence [.mapping [(.string "name", .string "main"),
        (.string "type", .string "vpc.Vpc"), (.string "args", args)]])]
    let loaded (tags : Object) : Configuration := ⟨⟨"core", "shop", "dev", "eu-west-1", tags⟩,
      [⟨"main", "vpc.Vpc", [("Owner", .string "core")], none, false⟩]⟩
    Configuration.ofDocument (root owner owner) = .error (.malformed .taggedField) ∧
      Configuration.ofDocument (root owner owner).withoutValueTags =
        .ok (loaded [("Owner", .string "core")]) ∧
      Configuration.ofDocument (root (.mapping []) owner) = .ok (loaded []) := by
  intro owner root loaded
  exact ⟨rfl, rfl, rfl⟩

end Root

end StackSynth
