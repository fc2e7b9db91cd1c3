import StackSynth.Proofs.Resolution.Leaves

namespace StackSynth

/-- A step from a list or an object to a part of it. -/
inductive PathStep where
  | item (index : Nat)
  | entry (key : String)
deriving DecidableEq, Repr

/-- The part of a value at the end of a path. -/
def Value.at? : Value → List PathStep → Option Value
  | value, [] => some value
  | .array items, .item index :: path => (items[index]?).bind (·.at? path)
  | .object entries, .entry key :: path => (Entries.find? entries key).bind (·.at? path)
  | _, _ :: _ => none
termination_by structural _ path => path

namespace Resolution

variable {α β : Type}

theorem andThen_eq_ok_iff {r : Resolution α} {next : α → Resolution β} {b : β} :
    (r.andThen next).result = .ok b ↔ ∃ a, r.result = .ok a ∧ (next a).result = .ok b := by
  obtain ⟨warnings, e | a⟩ := r <;> simp [andThen]

theorem map_eq_ok_iff {r : Resolution α} {f : α → β} {b : β} :
    (r.map f).result = .ok b ↔ ∃ a, r.result = .ok a ∧ f a = b := by
  obtain ⟨warnings, e | a⟩ := r <;> simp [map, Except.map]

end Resolution

variable {registry : Registry}

theorem resolveItems_cons_eq_ok_iff {item : Value} {rest resolved : List Value} :
    (resolveItems registry (item :: rest)).result = .ok resolved ↔
      ∃ value values, (item.resolve registry).result = .ok value ∧
        (resolveItems registry rest).result = .ok values ∧ resolved = value :: values := by
  simp only [resolveItems, Resolution.andThen_eq_ok_iff, Resolution.map_eq_ok_iff]
  constructor
  · rintro ⟨value, hvalue, values, hvalues, rfl⟩
    exact ⟨value, values, hvalue, hvalues, rfl⟩
  · rintro ⟨value, values, hvalue, hvalues, rfl⟩
    exact ⟨value, hvalue, values, hvalues, rfl⟩

theorem resolveEntries_cons_eq_ok_iff {key : String} {content : Value} {rest resolved : Object} :
    (resolveEntries registry ((key, content) :: rest)).result = .ok resolved ↔
      ∃ value values, (content.resolve registry).result = .ok value ∧
        (resolveEntries registry rest).result = .ok values ∧ resolved = (key, value) :: values := by
  simp only [resolveEntries, Resolution.andThen_eq_ok_iff, Resolution.map_eq_ok_iff]
  constructor
  · rintro ⟨value, hvalue, values, hvalues, rfl⟩
    exact ⟨value, values, hvalue, hvalues, rfl⟩
  · rintro ⟨value, values, hvalue, hvalues, rfl⟩
    exact ⟨value, hvalue, values, hvalues, rfl⟩

theorem getElem?_resolveItems {items resolved : List Value} {index : Nat} {item : Value}
    (h : (resolveItems registry items).result = .ok resolved) (hitem : items[index]? = some item) :
    ∃ value, resolved[index]? = some value ∧ (item.resolve registry).result = .ok value := by
  induction items generalizing resolved index with
  | nil => simp at hitem
  | cons first rest ih =>
    obtain ⟨value, values, hvalue, hvalues, rfl⟩ := resolveItems_cons_eq_ok_iff.mp h
    cases index with
    | zero =>
      obtain rfl : first = item := by simpa using hitem
      exact ⟨value, by simp, hvalue⟩
    | succ index =>
      have hrest : rest[index]? = some item := by simpa using hitem
      simpa using ih hvalues hrest

theorem find?_resolveEntries {entries resolved : Object} {key : String} {content : Value}
    (h : (resolveEntries registry entries).result = .ok resolved)
    (hcontent : Entries.find? entries key = some content) :
    ∃ value, Entries.find? resolved key = some value ∧
      (content.resolve registry).result = .ok value := by
  induction entries generalizing resolved with
  | nil => cases hcontent
  | cons entry rest ih =>
    obtain ⟨k, first⟩ := entry
    obtain ⟨value, values, hvalue, hvalues, rfl⟩ := resolveEntries_cons_eq_ok_iff.mp h
    by_cases hk : k = key
    · rw [Entries.find?, if_pos hk] at hcontent
      obtain rfl := Option.some.inj hcontent
      exact ⟨value, by rw [Entries.find?, if_pos hk], hvalue⟩
    · rw [Entries.find?, if_neg hk] at hcontent
      rw [Entries.find?, if_neg hk]
      exact ih hvalues hcontent

theorem keys_resolveEntries {entries resolved : Object}
    (h : (resolveEntries registry entries).result = .ok resolved) :
    Entries.keys resolved = Entries.keys entries := by
  induction entries generalizing resolved with
  | nil =>
    obtain rfl := Except.ok.inj h
    rfl
  | cons entry rest ih =>
    obtain ⟨key, content⟩ := entry
    obtain ⟨value, values, _, hvalues, rfl⟩ := resolveEntries_cons_eq_ok_iff.mp h
    have hrest : Entries.keys values = Entries.keys rest := ih hvalues
    simpa [Entries.keys] using hrest

/-- At the place of a string, a resolved value holds what the string is replaced by. -/
theorem Value.at?_resolve {value resolved : Value} {path : List PathStep} {s : String}
    (h : (value.resolve registry).result = .ok resolved)
    (hplace : value.at? path = some (.string s)) :
    ∃ leaf, resolved.at? path = some leaf ∧ (resolveString registry s).result = .ok leaf := by
  induction path generalizing value resolved with
  | nil =>
    obtain rfl : value = .string s := by simpa [Value.at?] using hplace
    exact ⟨resolved, by simp [Value.at?], h⟩
  | cons step path ih =>
    cases value with
    | array items =>
      cases step with
      | entry key => simp [Value.at?] at hplace
      | item index =>
        obtain ⟨item, hitem, hleaf⟩ := Option.bind_eq_some_iff.mp hplace
        obtain ⟨values, hvalues, rfl⟩ := Resolution.map_eq_ok_iff.mp h
        obtain ⟨part, hpart, hresolve⟩ := getElem?_resolveItems hvalues hitem
        obtain ⟨leaf, hat, hstring⟩ := ih hresolve hleaf
        exact ⟨leaf, by simp [Value.at?, hpart, hat], hstring⟩
    | object entries =>
      cases step with
      | item index => simp [Value.at?] at hplace
      | entry key =>
        obtain ⟨content, hcontent, hleaf⟩ := Option.bind_eq_some_iff.mp hplace
        obtain ⟨values, hvalues, rfl⟩ := Resolution.map_eq_ok_iff.mp h
        obtain ⟨part, hpart, hresolve⟩ := find?_resolveEntries hvalues hcontent
        obtain ⟨leaf, hat, hstring⟩ := ih hresolve hleaf
        exact ⟨leaf, by simp [Value.at?, hpart, hat], hstring⟩
    | null | boolean _ | integer _ | decimal _ | string _ => simp [Value.at?] at hplace

theorem Value.at?_object_of_find? {entries others : Object} {step : PathStep}
    {path : List PathStep} {part : Value}
    (h : ∀ key value,
      Entries.find? entries key = some value → Entries.find? others key = some value)
    (hplace : (Value.object entries).at? (step :: path) = some part) :
    (Value.object others).at? (step :: path) = some part := by
  cases step with
  | item index => simp [Value.at?] at hplace
  | entry key =>
    obtain ⟨content, hcontent, hpart⟩ := Option.bind_eq_some_iff.mp hplace
    simp [Value.at?, h key content hcontent, hpart]

end StackSynth
