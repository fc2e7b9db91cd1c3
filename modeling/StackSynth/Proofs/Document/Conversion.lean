import StackSynth.Document.ToValue

namespace StackSynth

/-- What a walk through a document looks at. -/
inductive Place where
  | key (key : Document)
  /-- A whole number that is no key. -/
  | number (n : Int)

/-- The fault of a place: a collection as a key, or a number too great for 64 bits with a sign. -/
def Place.fault? : Place → Option ValueError
  | key document =>
    match document.untagged with
    | .sequence _ => some (.unsupportedKey .sequence)
    | .mapping _ => some (.unsupportedKey .mapping)
    | _ => none
  | number n =>
    if -9223372036854775808 ≤ n ∧ n ≤ 9223372036854775807 then none
    else some (.numberOutOfRange n)

namespace Document

mutual

/-- The places of a document in the order of a walk through it. -/
def walk : Document → List Place
  | integer n => [.number n]
  | sequence items => itemsWalk items
  | mapping entries => entriesWalk entries
  | tagged _ content => walk content
  | null | boolean _ | decimal _ | string _ => []
termination_by structural document => document

def itemsWalk : List Document → List Place
  | [] => []
  | item :: rest => walk item ++ itemsWalk rest
termination_by structural items => items

/-- The places of entries, a key before its content. -/
def entriesWalk : List (Document × Document) → List Place
  | [] => []
  | (key, content) :: rest => .key key :: (walk content ++ entriesWalk rest)
termination_by structural entries => entries

end

def Faultless (document : Document) : Prop :=
  ∀ place ∈ document.walk, place.fault? = none

def keyTexts (entries : List (Document × Document)) : List String :=
  entries.filterMap fun entry => entry.1.keyText.toOption

/-- The content of the last entry whose key has a text. -/
def lastContent? : List (Document × Document) → String → Option Document
  | [], _ => none
  | (key, content) :: rest, name =>
    (lastContent? rest name).or (if key.keyText.toOption = some name then some content else none)

end Document

mutual

/-- A value has the form of a document without its tags. -/
def Value.Mirrors : Value → Document → Prop
  | .null, document => document.untagged = .null
  | .boolean b, document => document.untagged = .boolean b
  | .integer n, document => document.untagged = .integer n
  | .decimal d, document => document.untagged = .decimal d
  | .string s, document => document.untagged = .string s
  | .array values, document =>
    ∃ items, document.untagged = .sequence items ∧ itemsMirror values items
  | .object object, document => ∃ entries, document.untagged = .mapping entries ∧
    Entries.keys object = (Document.keyTexts entries).eraseDups ∧ entriesMirror object entries
termination_by structural value => value

def itemsMirror : List Value → List Document → Prop
  | [], items => items = []
  | value :: values, items =>
    ∃ item rest, items = item :: rest ∧ value.Mirrors item ∧ itemsMirror values rest
termination_by structural values => values

/-- Each entry has the form of the last content that stands under its key. -/
def entriesMirror : List (String × Value) → List (Document × Document) → Prop
  | [], _ => True
  | (name, value) :: rest, entries =>
    (∃ content, Document.lastContent? entries name = some content ∧ value.Mirrors content) ∧
      entriesMirror rest entries
termination_by structural object => object

end

def conversionFault? {α : Type} : Except ValueError α → Option ValueError
  | .error e => some e
  | .ok _ => none

section Faults

variable {α β : Type}

theorem conversionFault?_eq_some_iff {result : Except ValueError α} {e : ValueError} :
    conversionFault? result = some e ↔ result = .error e := by
  cases result <;> simp [conversionFault?]

@[simp] theorem conversionFault?_map (f : α → β) (result : Except ValueError α) :
    conversionFault? (result.map f) = conversionFault? result := by
  cases result <;> rfl

theorem inRange_iff (n : Int) :
    inRange n = true ↔ -9223372036854775808 ≤ n ∧ n ≤ 9223372036854775807 := by
  have hpow : Nat.pow 2 63 = 9223372036854775808 := by decide
  rw [inRange, hpow, Bool.and_eq_true, decide_eq_true_eq, decide_eq_true_eq]
  omega

theorem Place.eq_number_of_fault? {place : Place} {n : Int}
    (h : place.fault? = some (.numberOutOfRange n)) :
    place = .number n ∧ ¬ (-9223372036854775808 ≤ n ∧ n ≤ 9223372036854775807) := by
  cases place with
  | key key =>
    simp only [fault?] at h
    split at h <;> cases h
  | number m =>
    simp only [fault?] at h
    split at h
    · cases h
    · next hout =>
      obtain rfl : m = n := by simpa using h
      exact ⟨rfl, hout⟩

theorem conversionFault?_keyText (key : Document) :
    conversionFault? key.keyText = (Place.key key).fault? := by
  cases key with
  | tagged tag content => exact conversionFault?_keyText content
  | null | boolean _ | integer _ | decimal _ | string _ | sequence _ | mapping _ => rfl
termination_by structural key

mutual

/-- A conversion stops at the first fault of the walk. -/
theorem conversionFault?_toValue (document : Document) :
    conversionFault? document.toValue = document.walk.findSome? Place.fault? := by
  cases document with
  | integer n =>
    rw [Document.toValue, Document.walk, List.findSome?_singleton, Place.fault?]
    by_cases h : -9223372036854775808 ≤ n ∧ n ≤ 9223372036854775807
    · rw [if_pos h, if_pos ((inRange_iff n).mpr h)]
      rfl
    · rw [if_neg h, if_neg (mt (inRange_iff n).mp h)]
      rfl
  | sequence items =>
    rw [Document.toValue, Document.walk, conversionFault?_map, conversionFault?_itemValues items]
  | mapping entries =>
    rw [Document.toValue, Document.walk, conversionFault?_map,
      conversionFault?_entryValues entries []]
  | tagged tag content => exact conversionFault?_toValue content
  | null | boolean _ | decimal _ | string _ => rfl
termination_by structural document

theorem conversionFault?_itemValues (items : List Document) :
    conversionFault? (Document.itemValues items) =
      (Document.itemsWalk items).findSome? Place.fault? := by
  cases items with
  | nil => rfl
  | cons item rest =>
    rw [Document.itemsWalk, List.findSome?_append, ← conversionFault?_toValue item,
      ← conversionFault?_itemValues rest, Document.itemValues]
    cases item.toValue with
    | error e => rfl
    | ok value => exact conversionFault?_map _ _
termination_by structural items

theorem conversionFault?_entryValues (entries : List (Document × Document)) (object : Object) :
    conversionFault? (Document.entryValues object entries) =
      (Document.entriesWalk entries).findSome? Place.fault? := by
  cases entries with
  | nil => rfl
  | cons entry rest =>
    obtain ⟨key, content⟩ := entry
    rw [Document.entriesWalk, List.findSome?_cons, List.findSome?_append,
      ← conversionFault?_keyText key, ← conversionFault?_toValue content, Document.entryValues]
    cases key.keyText with
    | error e => rfl
    | ok name =>
      cases content.toValue with
      | error e => rfl
      | ok value => exact conversionFault?_entryValues rest _
termination_by structural entries

end

theorem toValue_eq_error_iff {document : Document} {e : ValueError} :
    document.toValue = .error e ↔ document.walk.findSome? Place.fault? = some e := by
  rw [← conversionFault?_toValue, conversionFault?_eq_some_iff]

theorem exists_toValue_iff {document : Document} :
    (∃ value, document.toValue = .ok value) ↔ document.Faultless := by
  rw [Document.Faultless, ← List.findSome?_eq_none_iff, ← conversionFault?_toValue]
  cases document.toValue <;> simp [conversionFault?]

end Faults

section Form

theorem entriesMirror_iff {object : Object} {entries : List (Document × Document)} :
    entriesMirror object entries ↔ ∀ name value, (name, value) ∈ object →
      ∃ content, Document.lastContent? entries name = some content ∧ value.Mirrors content := by
  induction object with
  | nil => simp [entriesMirror]
  | cons entry rest ih =>
    obtain ⟨name, value⟩ := entry
    rw [entriesMirror, ih]
    constructor
    · rintro ⟨hfirst, hrest⟩ other content hmem
      rcases List.mem_cons.mp hmem with heq | hmem
      · obtain ⟨rfl, rfl⟩ := Prod.mk.inj heq
        exact hfirst
      · exact hrest other content hmem
    · intro h
      exact ⟨h name value List.mem_cons_self,
        fun other content hmem => h other content (List.mem_cons_of_mem _ hmem)⟩

theorem entryValues_cons_eq_ok_iff {object result : Object} {key content : Document}
    {rest : List (Document × Document)} :
    Document.entryValues object ((key, content) :: rest) = .ok result ↔
      ∃ name value, key.keyText = .ok name ∧ content.toValue = .ok value ∧
        Document.entryValues (Entries.insert object name value) rest = .ok result := by
  rw [Document.entryValues]
  cases key.keyText with
  | error e => simp
  | ok name => cases content.toValue <;> simp

theorem keyTexts_cons {key : Document} {name : String} (content : Document)
    (rest : List (Document × Document)) (h : key.keyText = .ok name) :
    Document.keyTexts ((key, content) :: rest) = name :: Document.keyTexts rest := by
  simp [Document.keyTexts, h, Except.toOption]

theorem lastContent?_cons {key : Document} {text : String} (content : Document)
    (rest : List (Document × Document)) (name : String) (h : key.keyText = .ok text) :
    Document.lastContent? ((key, content) :: rest) name =
      (Document.lastContent? rest name).or (if text = name then some content else none) := by
  simp [Document.lastContent?, h, Except.toOption]

/-- The texts that an object does not have yet come behind its keys, where they stand first. -/
theorem keys_entryValues {object result : Object} {entries : List (Document × Document)}
    (h : Document.entryValues object entries = .ok result) :
    Entries.keys result = Entries.keys object ++
      ((Document.keyTexts entries).filter (· ∉ Entries.keys object)).eraseDups := by
  induction entries generalizing object with
  | nil =>
    obtain rfl := Except.ok.inj h
    simp [Document.keyTexts]
  | cons entry rest ih =>
    obtain ⟨key, content⟩ := entry
    obtain ⟨name, value, hname, _, hrest⟩ := entryValues_cons_eq_ok_iff.mp h
    rw [ih hrest, keyTexts_cons content rest hname, Entries.keys_insert]
    -- a text that has a place keeps it, a new one gets the next and is not counted again
    by_cases hmem : name ∈ Entries.keys object
    · simp [hmem]
    · have hfilter : (Document.keyTexts rest).filter (· ∉ Entries.keys object ++ [name]) =
          ((Document.keyTexts rest).filter (· ∉ Entries.keys object)).filter (!· == name) := by
        rw [List.filter_filter]
        congr 1
        funext other
        by_cases hother : other = name <;> simp [hother]
      have hcons : (name :: Document.keyTexts rest).filter (· ∉ Entries.keys object) =
          name :: (Document.keyTexts rest).filter (· ∉ Entries.keys object) :=
        List.filter_cons_of_pos (by simpa using hmem)
      rw [if_neg hmem, hfilter, hcons, List.eraseDups_cons, List.append_assoc,
        List.singleton_append]

theorem nodup_keys_entryValues {object result : Object} {entries : List (Document × Document)}
    (h : Document.entryValues object entries = .ok result)
    (distinct : (Entries.keys object).Nodup) :
    (Entries.keys result).Nodup := by
  induction entries generalizing object with
  | nil =>
    obtain rfl := Except.ok.inj h
    exact distinct
  | cons entry rest ih =>
    obtain ⟨name, value, _, _, hrest⟩ := entryValues_cons_eq_ok_iff.mp h
    exact ih hrest (Entries.nodup_keys_insert distinct name value)

/-- What stands under a key is what its last entry holds, or what stood there before. -/
theorem find?_entryValues {object result : Object} {entries : List (Document × Document)}
    (h : Document.entryValues object entries = .ok result) {name : String} {value : Value}
    (hfind : Entries.find? result name = some value) :
    (∃ content, Document.lastContent? entries name = some content ∧ content.toValue = .ok value) ∨
      (Document.lastContent? entries name = none ∧ Entries.find? object name = some value) := by
  induction entries generalizing object with
  | nil =>
    obtain rfl := Except.ok.inj h
    exact Or.inr ⟨rfl, hfind⟩
  | cons entry rest ih =>
    obtain ⟨key, content⟩ := entry
    obtain ⟨text, first, htext, hfirst, hrest⟩ := entryValues_cons_eq_ok_iff.mp h
    rw [lastContent?_cons content rest name htext]
    -- if the rest has an entry of the name, this one was overwritten
    rcases ih hrest with ⟨last, hlast, hvalue⟩ | ⟨hnone, hinserted⟩
    · exact Or.inl ⟨last, by rw [hlast, Option.some_or], hvalue⟩
    · rw [hnone, Option.none_or]
      by_cases hname : text = name
      · subst hname
        rw [Entries.find?_insert_self] at hinserted
        obtain rfl := Option.some.inj hinserted
        exact Or.inl ⟨content, if_pos rfl, hfirst⟩
      · rw [Entries.find?_insert_of_ne _ _ (Ne.symm hname)] at hinserted
        exact Or.inr ⟨if_neg hname, hinserted⟩

theorem mirrors_tagged (value : Value) (tag : String) (content : Document) :
    value.Mirrors (.tagged tag content) ↔ value.Mirrors content := by
  cases value <;> rfl

mutual

theorem mirrors_of_toValue (document : Document) {value : Value}
    (h : document.toValue = .ok value) : value.Mirrors document := by
  cases document with
  | tagged tag content =>
    exact (mirrors_tagged value tag content).mpr (mirrors_of_toValue content h)
  | integer n =>
    rw [Document.toValue] at h
    split at h
    · obtain rfl := Except.ok.inj h
      rfl
    · cases h
  | sequence items =>
    rw [Document.toValue] at h
    cases hitems : Document.itemValues items with
    | error e =>
      rw [hitems] at h
      cases h
    | ok values =>
      rw [hitems] at h
      obtain rfl := Except.ok.inj h
      exact ⟨items, rfl, mirrors_of_itemValues items hitems⟩
  | mapping entries =>
    rw [Document.toValue] at h
    cases hentries : Document.entryValues [] entries with
    | error e =>
      rw [hentries] at h
      cases h
    | ok object =>
      rw [hentries] at h
      obtain rfl := Except.ok.inj h
      have hkeys : Entries.keys object = (Document.keyTexts entries).eraseDups := by
        have hnone : (Document.keyTexts entries).filter (· ∉ Entries.keys ([] : Object)) =
            Document.keyTexts entries := by simp [Entries.keys]
        rw [keys_entryValues hentries, hnone]
        rfl
      refine ⟨entries, rfl, hkeys, ?_⟩
      have hdistinct : (Entries.keys object).Nodup :=
        nodup_keys_entryValues hentries List.nodup_nil
      rw [entriesMirror_iff]
      intro name value hmem
      have hfind := Entries.find?_eq_some_of_mem hdistinct hmem
      rcases find?_entryValues hentries hfind with ⟨content, hlast, hvalue⟩ | ⟨_, hnone⟩
      · exact ⟨content, hlast, mirrors_of_lastContent? entries hlast hvalue⟩
      · cases hnone
  | null | boolean _ | decimal _ | string _ =>
    obtain rfl := Except.ok.inj h
    rfl
termination_by structural document

theorem mirrors_of_itemValues (items : List Document) {values : List Value}
    (h : Document.itemValues items = .ok values) : itemsMirror values items := by
  cases items with
  | nil =>
    obtain rfl := Except.ok.inj h
    rfl
  | cons item rest =>
    rw [Document.itemValues] at h
    cases hitem : item.toValue with
    | error e =>
      rw [hitem] at h
      cases h
    | ok value =>
      cases hrest : Document.itemValues rest with
      | error e =>
        simp [hitem, hrest, Except.map] at h
      | ok others =>
        simp only [hitem, hrest] at h
        obtain rfl := Except.ok.inj h
        exact ⟨item, rest, rfl, mirrors_of_toValue item hitem, mirrors_of_itemValues rest hrest⟩
termination_by structural items

theorem mirrors_of_lastContent? (entries : List (Document × Document)) {name : String}
    {content : Document} {value : Value} (hlast : Document.lastContent? entries name = some content)
    (h : content.toValue = .ok value) : value.Mirrors content := by
  cases entries with
  | nil => cases hlast
  | cons entry rest =>
    obtain ⟨key, first⟩ := entry
    rw [Document.lastContent?, Option.or_eq_some_iff] at hlast
    rcases hlast with hlast | ⟨_, hfirst⟩
    · exact mirrors_of_lastContent? rest hlast h
    · obtain rfl : first = content := by
        split at hfirst
        · exact Option.some.inj hfirst
        · cases hfirst
      exact mirrors_of_toValue first h
termination_by structural entries

end

mutual

/-- A document is the form of one value only. -/
theorem mirrors_unique (value : Value) {other : Value} {document : Document}
    (h : value.Mirrors document) (hother : other.Mirrors document) : value = other := by
  cases value with
  | array values =>
    obtain ⟨items, huntagged, hitems⟩ := h
    cases other with
    | array others =>
      obtain ⟨_, huntagged', hothers⟩ := hother
      obtain rfl := Document.sequence.inj (huntagged.symm.trans huntagged')
      rw [itemsMirror_unique values hitems hothers]
    | _ => simp [Value.Mirrors, huntagged] at hother
  | object object =>
    obtain ⟨entries, huntagged, hkeys, hentries⟩ := h
    cases other with
    | object others =>
      obtain ⟨_, huntagged', hkeys', hothers⟩ := hother
      obtain rfl := Document.mapping.inj (huntagged.symm.trans huntagged')
      rw [entriesMirror_unique object (hkeys.trans hkeys'.symm) hentries hothers]
    | _ => simp [Value.Mirrors, huntagged] at hother
  | null | boolean _ | integer _ | decimal _ | string _ =>
    cases other <;> simp_all [Value.Mirrors]
termination_by structural value

theorem itemsMirror_unique (values : List Value) {others : List Value} {items : List Document}
    (h : itemsMirror values items) (hothers : itemsMirror others items) : values = others := by
  cases values with
  | nil =>
    obtain rfl : items = [] := h
    cases others with
    | nil => rfl
    | cons other others => simp [itemsMirror] at hothers
  | cons value values =>
    obtain ⟨item, rest, rfl, hvalue, hvalues⟩ := h
    cases others with
    | nil => cases hothers
    | cons other others =>
      obtain ⟨_, _, heq, hother, hrest⟩ := hothers
      obtain ⟨rfl, rfl⟩ := List.cons.inj heq
      rw [mirrors_unique value hvalue hother, itemsMirror_unique values hvalues hrest]
termination_by structural values

theorem entriesMirror_unique (object : List (String × Value)) {others : Object}
    {entries : List (Document × Document)} (hkeys : Entries.keys object = Entries.keys others)
    (h : entriesMirror object entries) (hothers : entriesMirror others entries) :
    object = others := by
  cases object with
  | nil => exact (List.map_eq_nil_iff.mp hkeys.symm).symm
  | cons entry rest =>
    obtain ⟨name, value⟩ := entry
    cases others with
    | nil => cases hkeys
    | cons other others =>
      obtain ⟨otherName, otherValue⟩ := other
      obtain ⟨hname, hkeys'⟩ := List.cons.inj hkeys
      obtain rfl : name = otherName := hname
      obtain ⟨⟨content, hlast, hvalue⟩, hrest⟩ := h
      obtain ⟨⟨_, hlast', hvalue'⟩, hrest'⟩ := hothers
      obtain rfl := Option.some.inj (hlast.symm.trans hlast')
      rw [mirrors_unique value hvalue hvalue', entriesMirror_unique rest hkeys' hrest hrest']
termination_by structural object

end

theorem toValue_eq_ok_iff {document : Document} {value : Value} :
    document.toValue = .ok value ↔ document.Faultless ∧ value.Mirrors document := by
  constructor
  · intro h
    exact ⟨exists_toValue_iff.mp ⟨value, h⟩, mirrors_of_toValue document h⟩
  · rintro ⟨hfaultless, hmirrors⟩
    -- there is a value, and it cannot be another one
    obtain ⟨other, hother⟩ := exists_toValue_iff.mpr hfaultless
    rw [mirrors_unique value hmirrors (mirrors_of_toValue document hother), hother]

end Form

/-- A document is no value for the first fault in a walk through it, and one if there is none,
namely the only one that has its form. A number can only be at fault for being too great. -/
theorem Document.toValue_decided (document : Document) :
    (∀ e, document.toValue = .error e ↔ ∃ before place after,
      document.walk = before ++ place :: after ∧ place.fault? = some e ∧
        ∀ earlier ∈ before, earlier.fault? = none) ∧
    (∀ value, document.toValue = .ok value ↔ document.Faultless ∧ value.Mirrors document) ∧
    ((∀ n, Place.number n ∈ document.walk → -9223372036854775808 ≤ n) →
      ∀ n, document.toValue = .error (.numberOutOfRange n) → 9223372036854775807 < n) := by
  refine ⟨fun e => ?_, fun value => toValue_eq_ok_iff, fun hleast n h => ?_⟩
  · rw [toValue_eq_error_iff, List.findSome?_eq_some_iff]
  · obtain ⟨place, hplace, hfault⟩ := List.exists_of_findSome?_eq_some (toValue_eq_error_iff.mp h)
    obtain ⟨rfl, hout⟩ := Place.eq_number_of_fault? hfault
    have hn : -9223372036854775808 ≤ n := hleast n hplace
    omega

/-- The key `1` stands first as a number, and last with a tag. -/
example : (Document.mapping [(.integer 1, .null), (.string "x", .tagged "!t" (.boolean true)),
      (.string "1", .null), (.tagged "!t" (.integer 1), .string "last")]).toValue =
    .ok (.object [("1", .string "last"), ("x", .boolean true)]) := by
  rfl

end StackSynth
