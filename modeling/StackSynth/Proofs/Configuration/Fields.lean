import StackSynth.Configuration.Load
/-!
What it takes for entries to be the fields of a record: all keys are texts, and each known field
stands there at most once, with a content that can be read. Main statements: these conditions
decide, for declarations, for contexts and for the root around them, whether entries are taken in,
and to what.
-/
namespace StackSynth

def declarationFieldNames : List String :=
  ["name", "type", "args", "custom_name", "customName", "existing"]

def rootFieldNames : List String :=
  requiredKeys ++ ["tags", declarationsKey]

/-- All keys are texts, whatever their tags. -/
def Named (entries : List (Document × Document)) : Prop :=
  ∀ entry ∈ entries, ∃ name, entry.1.untagged = .string name

/-- The contents of the entries that have one of some names, in their order. -/
def contentsOf (names : List String) (entries : List (Document × Document)) : List Document :=
  entries.filterMap fun entry => match entry.1.untagged with
    | .string name => if name ∈ names then some entry.2 else none
    | _ => none

/-- A field is as it was before if it has no content, and if it was empty, it holds what its only
content reads as. -/
def Filled {α : Type} (read : Document → Except ShapeError α) (before : Option α) :
    List Document → Option α → Prop
  | [], after => after = before
  | [content], after => before = none ∧ ∃ value, read content = .ok value ∧ after = some value
  | _ :: _ :: _, _ => False

/-- A field of a record takes in an entry if it is one of its own. -/
def Takes {α : Type} (names : List String) (read : Document → Except ShapeError α) (name : String)
    (content : Document) (before after : Option α) : Prop :=
  if name ∈ names then before = none ∧ ∃ value, read content = .ok value ∧ after = some value
  else after = before

/-- Entries are taken in one after another, by the texts of their keys. -/
structure ReadsByName {φ : Type} (add : φ → String → Document → Except ShapeError φ)
    (addAll : φ → List (Document × Document) → Except ShapeError φ) : Prop where
  nil : ∀ fields, addAll fields [] = .ok fields
  cons : ∀ fields key content rest, addAll fields ((key, content) :: rest) = do
    let name ← key.readFieldName
    let fields ← add fields name content
    addAll fields rest

theorem readFieldName_eq_ok_iff {key : Document} {name : String} :
    key.readFieldName = .ok name ↔ key.untagged = .string name := by
  unfold Document.readFieldName
  cases key.untagged <;> simp

theorem named_cons {key content : Document} {name : String} {rest : List (Document × Document)}
    (h : key.untagged = .string name) : Named ((key, content) :: rest) ↔ Named rest := by
  simp [Named, h]

theorem contentsOf_cons {key content : Document} {name : String} (names : List String)
    (rest : List (Document × Document)) (h : key.untagged = .string name) :
    contentsOf names ((key, content) :: rest) =
      if name ∈ names then content :: contentsOf names rest else contentsOf names rest := by
  unfold contentsOf
  split
  · next hmem => simp [h, hmem]
  · next hmem => simp [h, hmem]

theorem bind_eq_ok_iff {ε α β : Type} {first : Except ε α} {next : α → Except ε β} {b : β} :
    (first >>= next) = .ok b ↔ ∃ a, first = .ok a ∧ next a = .ok b := by
  cases first <;> simp [bind, Except.bind]

theorem setOnce_eq_ok_iff {α : Type} {name : String} {field after : Option α}
    {value : Except ShapeError α} :
    setOnce name field value = .ok after ↔ field = none ∧ ∃ a, value = .ok a ∧ after = some a := by
  unfold setOnce
  cases field <;> cases value <;> simp [Except.map, eq_comm]

theorem map_setOnce_eq_ok_iff {α β : Type} {name : String} {field : Option α}
    {value : Except ShapeError α} {f : Option α → β} {b : β} :
    (setOnce name field value).map f = .ok b ↔
      field = none ∧ ∃ a, value = .ok a ∧ f (some a) = b := by
  unfold setOnce
  cases field <;> cases value <;> simp [Except.map]

section Filling

variable {α : Type} {read : Document → Except ShapeError α} {before after : Option α}

theorem filled_cons {content : Document} {rest : List Document} :
    Filled read before (content :: rest) after ↔
      ∃ mid, (before = none ∧ ∃ value, read content = .ok value ∧ mid = some value) ∧
        Filled read mid rest after := by
  cases rest with
  | nil => simp [Filled, and_assoc]
  | cons other rest =>
    -- a field that holds something takes in nothing more
    have hfull : ∀ value : α, ¬ Filled read (some value) (other :: rest) after := by
      intro value h
      cases rest with
      | nil => simp [Filled] at h
      | cons => exact h
    constructor
    · intro h
      exact h.elim
    · rintro ⟨_, ⟨_, value, _, rfl⟩, h⟩
      exact (hfull value h).elim

theorem filled_contentsOf_cons {names : List String} {key content : Document} {name : String}
    {rest : List (Document × Document)} (h : key.untagged = .string name) :
    Filled read before (contentsOf names ((key, content) :: rest)) after ↔
      ∃ mid, Takes names read name content before mid ∧
        Filled read mid (contentsOf names rest) after := by
  rw [contentsOf_cons names rest h]
  unfold Takes
  split
  · exact filled_cons
  · simp

theorem Filled.perm {contents others : List Document} (h : Filled read before contents after)
    (perm : contents.Perm others) : Filled read before others after := by
  match contents with
  | [] =>
    obtain rfl := List.nil_perm.mp perm
    exact h
  | [content] =>
    obtain rfl := List.singleton_perm.mp perm
    exact h
  | _ :: _ :: _ => exact h.elim

end Filling

/-- What entries lead to is described by a relation that has the same cases. -/
theorem ReadsByName.eq_ok_iff {φ : Type} {add : φ → String → Document → Except ShapeError φ}
    {addAll : φ → List (Document × Document) → Except ShapeError φ}
    (reads : ReadsByName add addAll) (fills : φ → List (Document × Document) → φ → Prop)
    (named : ∀ {before entries after}, fills before entries after → Named entries)
    (nil : ∀ {before after}, fills before [] after ↔ after = before)
    (cons : ∀ {before after key content name rest}, key.untagged = .string name →
      (fills before ((key, content) :: rest) after ↔
        ∃ mid, add before name content = .ok mid ∧ fills mid rest after))
    {before after : φ} {entries : List (Document × Document)} :
    addAll before entries = .ok after ↔ fills before entries after := by
  induction entries generalizing before with
  | nil => rw [reads.nil, nil, Except.ok.injEq, eq_comm]
  | cons entry rest ih =>
    obtain ⟨key, content⟩ := entry
    rw [reads.cons, bind_eq_ok_iff]
    simp only [bind_eq_ok_iff, readFieldName_eq_ok_iff, ih]
    constructor
    · rintro ⟨name, hkey, hrest⟩
      exact (cons hkey).mpr hrest
    · intro h
      obtain ⟨name, hkey⟩ := named h _ List.mem_cons_self
      exact ⟨name, hkey, (cons hkey).mp h⟩

namespace DeclarationFields

structure Fills (before : DeclarationFields) (entries : List (Document × Document))
    (after : DeclarationFields) : Prop where
  named : Named entries
  name : Filled Document.readString before.name (contentsOf ["name"] entries) after.name
  type : Filled Document.readString before.type (contentsOf ["type"] entries) after.type
  args : Filled Document.readArgs before.args (contentsOf ["args"] entries) after.args
  customName : Filled Document.readOptionalString before.customName
    (contentsOf ["custom_name", "customName"] entries) after.customName
  existing : Filled Document.readBoolean before.existing (contentsOf ["existing"] entries)
    after.existing

theorem readsByName : ReadsByName add addAll :=
  ⟨fun _ => rfl, fun _ _ _ _ => rfl⟩

theorem add_eq_ok_iff {before after : DeclarationFields} {name : String} {content : Document} :
    before.add name content = .ok after ↔
      Takes ["name"] Document.readString name content before.name after.name ∧
      Takes ["type"] Document.readString name content before.type after.type ∧
      Takes ["args"] Document.readArgs name content before.args after.args ∧
      Takes ["custom_name", "customName"] Document.readOptionalString name content
        before.customName after.customName ∧
      Takes ["existing"] Document.readBoolean name content before.existing after.existing := by
  obtain ⟨name₁, type₁, args₁, customName₁, existing₁⟩ := before
  obtain ⟨name₂, type₂, args₂, customName₂, existing₂⟩ := after
  unfold add Takes
  split
  case h_7 =>
    -- the name of no field
    simp [*]
    grind
  all_goals
    rw [map_setOnce_eq_ok_iff]
    simp
    grind

theorem fills_nil {before after : DeclarationFields} : Fills before [] after ↔ after = before := by
  constructor
  · intro h
    obtain ⟨name, type, args, customName, existing⟩ := before
    obtain ⟨_, _, _, _, _⟩ := after
    obtain rfl : _ = name := h.name
    obtain rfl : _ = type := h.type
    obtain rfl : _ = args := h.args
    obtain rfl : _ = customName := h.customName
    obtain rfl : _ = existing := h.existing
    rfl
  · rintro rfl
    exact ⟨by simp [Named], rfl, rfl, rfl, rfl, rfl⟩

theorem fills_cons {before after : DeclarationFields} {key content : Document} {name : String}
    {rest : List (Document × Document)} (hkey : key.untagged = .string name) :
    Fills before ((key, content) :: rest) after ↔
      ∃ mid, before.add name content = .ok mid ∧ Fills mid rest after := by
  simp only [add_eq_ok_iff]
  constructor
  · intro h
    obtain ⟨name, hname, hname'⟩ := (filled_contentsOf_cons hkey).mp h.name
    obtain ⟨type, htype, htype'⟩ := (filled_contentsOf_cons hkey).mp h.type
    obtain ⟨args, hargs, hargs'⟩ := (filled_contentsOf_cons hkey).mp h.args
    obtain ⟨customName, hcustom, hcustom'⟩ := (filled_contentsOf_cons hkey).mp h.customName
    obtain ⟨existing, hexisting, hexisting'⟩ := (filled_contentsOf_cons hkey).mp h.existing
    exact ⟨⟨name, type, args, customName, existing⟩,
      ⟨hname, htype, hargs, hcustom, hexisting⟩,
      ⟨(named_cons hkey).mp h.named, hname', htype', hargs', hcustom', hexisting'⟩⟩
  · rintro ⟨mid, ⟨hname, htype, hargs, hcustom, hexisting⟩, hrest⟩
    exact
      { named := (named_cons hkey).mpr hrest.named
        name := (filled_contentsOf_cons hkey).mpr ⟨_, hname, hrest.name⟩
        type := (filled_contentsOf_cons hkey).mpr ⟨_, htype, hrest.type⟩
        args := (filled_contentsOf_cons hkey).mpr ⟨_, hargs, hrest.args⟩
        customName := (filled_contentsOf_cons hkey).mpr ⟨_, hcustom, hrest.customName⟩
        existing := (filled_contentsOf_cons hkey).mpr ⟨_, hexisting, hrest.existing⟩ }

theorem addAll_eq_ok_iff {before after : DeclarationFields}
    {entries : List (Document × Document)} :
    before.addAll entries = .ok after ↔ Fills before entries after :=
  readsByName.eq_ok_iff Fills Fills.named fills_nil fills_cons

end DeclarationFields

namespace ContextFields

structure Fills (before : ContextFields) (entries : List (Document × Document))
    (after : ContextFields) : Prop where
  named : Named entries
  team : Filled Document.readString before.team (contentsOf ["team"] entries) after.team
  service : Filled Document.readString before.service (contentsOf ["service"] entries)
    after.service
  environment : Filled Document.readString before.environment (contentsOf ["environment"] entries)
    after.environment
  region : Filled Document.readString before.region (contentsOf ["region"] entries) after.region
  tags : Filled Document.readObject before.tags (contentsOf ["tags"] entries) after.tags

theorem readsByName : ReadsByName add addAll :=
  ⟨fun _ => rfl, fun _ _ _ _ => rfl⟩

theorem add_eq_ok_iff {before after : ContextFields} {name : String} {content : Document} :
    before.add name content = .ok after ↔
      Takes ["team"] Document.readString name content before.team after.team ∧
      Takes ["service"] Document.readString name content before.service after.service ∧
      Takes ["environment"] Document.readString name content before.environment
        after.environment ∧
      Takes ["region"] Document.readString name content before.region after.region ∧
      Takes ["tags"] Document.readObject name content before.tags after.tags := by
  obtain ⟨team₁, service₁, environment₁, region₁, tags₁⟩ := before
  obtain ⟨team₂, service₂, environment₂, region₂, tags₂⟩ := after
  unfold add Takes
  split
  case h_6 =>
    -- the name of no field
    simp [*]
    grind
  all_goals
    rw [map_setOnce_eq_ok_iff]
    simp
    grind

theorem fills_nil {before after : ContextFields} : Fills before [] after ↔ after = before := by
  constructor
  · intro h
    obtain ⟨team, service, environment, region, tags⟩ := before
    obtain ⟨_, _, _, _, _⟩ := after
    obtain rfl : _ = team := h.team
    obtain rfl : _ = service := h.service
    obtain rfl : _ = environment := h.environment
    obtain rfl : _ = region := h.region
    obtain rfl : _ = tags := h.tags
    rfl
  · rintro rfl
    exact ⟨by simp [Named], rfl, rfl, rfl, rfl, rfl⟩

theorem fills_cons {before after : ContextFields} {key content : Document} {name : String}
    {rest : List (Document × Document)} (hkey : key.untagged = .string name) :
    Fills before ((key, content) :: rest) after ↔
      ∃ mid, before.add name content = .ok mid ∧ Fills mid rest after := by
  simp only [add_eq_ok_iff]
  constructor
  · intro h
    obtain ⟨team, hteam, hteam'⟩ := (filled_contentsOf_cons hkey).mp h.team
    obtain ⟨service, hservice, hservice'⟩ := (filled_contentsOf_cons hkey).mp h.service
    obtain ⟨environment, henvironment, henvironment'⟩ :=
      (filled_contentsOf_cons hkey).mp h.environment
    obtain ⟨region, hregion, hregion'⟩ := (filled_contentsOf_cons hkey).mp h.region
    obtain ⟨tags, htags, htags'⟩ := (filled_contentsOf_cons hkey).mp h.tags
    exact ⟨⟨team, service, environment, region, tags⟩,
      ⟨hteam, hservice, henvironment, hregion, htags⟩,
      ⟨(named_cons hkey).mp h.named, hteam', hservice', henvironment', hregion', htags'⟩⟩
  · rintro ⟨mid, ⟨hteam, hservice, henvironment, hregion, htags⟩, hrest⟩
    exact
      { named := (named_cons hkey).mpr hrest.named
        team := (filled_contentsOf_cons hkey).mpr ⟨_, hteam, hrest.team⟩
        service := (filled_contentsOf_cons hkey).mpr ⟨_, hservice, hrest.service⟩
        environment := (filled_contentsOf_cons hkey).mpr ⟨_, henvironment, hrest.environment⟩
        region := (filled_contentsOf_cons hkey).mpr ⟨_, hregion, hrest.region⟩
        tags := (filled_contentsOf_cons hkey).mpr ⟨_, htags, hrest.tags⟩ }

theorem addAll_eq_ok_iff {before after : ContextFields} {entries : List (Document × Document)} :
    before.addAll entries = .ok after ↔ Fills before entries after :=
  readsByName.eq_ok_iff Fills Fills.named fills_nil fills_cons

end ContextFields

/-- The fields of a root that are not declarations have no tags in them. -/
def Untagged (entries : List (Document × Document)) : Prop :=
  ∀ entry ∈ entries, entry.1.untagged ≠ .string declarationsKey → entry.2.hasTag = false

def addResources (declarations : Option (List Declaration)) (name : String) (content : Document) :
    Except ShapeError (Option (List Declaration)) :=
  if name = declarationsKey then setOnce name declarations content.readDeclarations
  else if content.hasTag then .error .taggedField
  else .ok declarations

structure ResourcesFilled (before : Option (List Declaration))
    (entries : List (Document × Document)) (after : Option (List Declaration)) : Prop where
  named : Named entries
  untagged : Untagged entries
  filled : Filled Document.readDeclarations before (contentsOf [declarationsKey] entries) after

theorem readsByName_resources : ReadsByName addResources readResources where
  nil _ := rfl
  cons declarations key content rest := by
    rw [readResources]
    congr 1
    funext name
    unfold addResources
    by_cases hname : name = declarationsKey
    · rw [if_pos hname, if_pos hname]
    · rw [if_neg hname, if_neg hname]
      cases content.hasTag <;> rfl

theorem addResources_eq_ok_iff {before after : Option (List Declaration)} {name : String}
    {content : Document} :
    addResources before name content = .ok after ↔
      (name ≠ declarationsKey → content.hasTag = false) ∧
        Takes [declarationsKey] Document.readDeclarations name content before after := by
  unfold addResources Takes
  by_cases hname : name = declarationsKey
  · simp [hname, setOnce_eq_ok_iff]
  · cases content.hasTag <;> simp [hname, eq_comm]

theorem readResources_eq_ok_iff {before after : Option (List Declaration)}
    {entries : List (Document × Document)} :
    readResources before entries = .ok after ↔ ResourcesFilled before entries after := by
  refine readsByName_resources.eq_ok_iff ResourcesFilled ResourcesFilled.named ?_ ?_
  · intro before after
    constructor
    · intro h
      exact h.filled
    · intro h
      exact ⟨by simp [Named], by simp [Untagged], h⟩
  · intro before after key content name rest hkey
    have huntagged : Untagged ((key, content) :: rest) ↔
        (name ≠ declarationsKey → content.hasTag = false) ∧ Untagged rest := by
      simp [Untagged, hkey]
    simp only [addResources_eq_ok_iff]
    constructor
    · intro h
      obtain ⟨hcontent, hrest⟩ := huntagged.mp h.untagged
      obtain ⟨mid, htakes, hfilled⟩ := (filled_contentsOf_cons hkey).mp h.filled
      exact ⟨mid, ⟨hcontent, htakes⟩, (named_cons hkey).mp h.named, hrest, hfilled⟩
    · rintro ⟨mid, ⟨hcontent, htakes⟩, hrest⟩
      exact
        { named := (named_cons hkey).mpr hrest.named
          untagged := huntagged.mpr ⟨hcontent, hrest.untagged⟩
          filled := (filled_contentsOf_cons hkey).mpr ⟨mid, htakes, hrest.filled⟩ }

end StackSynth
