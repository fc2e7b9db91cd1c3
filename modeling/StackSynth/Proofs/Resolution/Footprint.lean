import Mathlib.Data.List.Induction
import StackSynth.Proofs.Resolution.Leaves

namespace StackSynth

/-- Handles that answer alike when attributes are read, whatever identifies their resources. -/
structure Handle.Alike (one other : Handle) : Prop where
  direct_eq : ∀ path, one.direct? path = other.direct? path
  byName_eq : ∀ path, one.byName path = other.byName path

theorem Handle.Alike.refl (handle : Handle) : handle.Alike handle :=
  ⟨fun _ => rfl, fun _ => rfl⟩

/-- Registries that both lack a resource, or have handles for it that answer alike. -/
inductive Registry.AgreeOn (first second : Registry) (name : String) : Prop where
  | absent : first.find? name = none → second.find? name = none → AgreeOn first second name
  | alike {one other : Handle} : first.find? name = some one → second.find? name = some other →
      one.Alike other → AgreeOn first second name

/-- A registry after further registrations. Those that are refused leave it as it is. -/
def Registry.registerAll (registry : Registry) : List (String × Handle) → Registry
  | [] => registry
  | (name, handle) :: further =>
    match registry.register name handle with
    | .ok grown => grown.registerAll further
    | .error _ => registry.registerAll further

/-- What the result of resolving a value says of the names that the value refers to. -/
structure Blames (registry : Registry) (names : List String) (result : Except ResolveError Value) :
    Prop where
  names_nodup : names.Nodup
  registered_of_ok : ∀ resolved, result = .ok resolved → ∀ name ∈ names, name ∈ registry.names
  /-- What is reported missing is the first name that is. -/
  first_of_missing : ∀ name, result = .error (.referenceNotFound name) →
    name ∉ registry.names ∧ ∃ earlier later, names = earlier ++ name :: later ∧
      ∀ other ∈ earlier, other ∈ registry.names
  /-- Where an attribute is to blame, no name is missing up to the one of its resource. -/
  registered_of_unreadable : ∀ resource path cause,
    result = .error (.unreadable resource path cause) →
      resource ∈ registry.names ∧ ∃ earlier later, names = earlier ++ resource :: later ∧
        ∀ other ∈ earlier, other ∈ registry.names

theorem Registry.AgreeOn.resolve_eq {first second : Registry} {name : String}
    (h : first.AgreeOn second name) (path : String) :
    (Marker.reference name path).resolve first = (Marker.reference name path).resolve second := by
  cases h with
  | absent hfirst hsecond => simp only [Marker.resolve, hfirst, hsecond]
  | alike hfirst hsecond halike =>
    simp only [Marker.resolve, hfirst, hsecond, halike.direct_eq, halike.byName_eq]

section Registrations

variable {registry : Registry} {name : String} {handle : Handle}

theorem Registry.find?_registerAll (further : List (String × Handle))
    (h : registry.find? name = some handle) :
    (registry.registerAll further).find? name = some handle := by
  induction further generalizing registry with
  | nil => exact h
  | cons entry further ih =>
    obtain ⟨other, added⟩ := entry
    rw [registerAll]
    split
    · next grown hgrown => exact ih (Registry.find?_register hgrown h)
    · exact ih h

end Registrations

section Names

theorem exists_addName_eq (names : List String) (name : String) :
    ∃ more, addName names name = names ++ more := by
  unfold addName
  split
  · exact ⟨[], (List.append_nil names).symm⟩
  · exact ⟨[name], rfl⟩

theorem nodup_addName {names : List String} (distinct : names.Nodup) (name : String) :
    (addName names name).Nodup := by
  unfold addName
  split
  · exact distinct
  · next h =>
    have hnew : name ∉ names := by simpa using h
    exact List.nodup_append.mpr ⟨distinct, by simp, by grind⟩

theorem referencedNames_snoc (strings : List String) (s : String) :
    referencedNames (strings ++ [s]) =
      match Marker.parse? s with
      | some (.reference resource _) => addName (referencedNames strings) resource
      | _ => referencedNames strings := by
  rw [referencedNames, List.foldl_append]
  rfl

theorem exists_referencedNames_append (strings later : List String) :
    ∃ more, referencedNames (strings ++ later) = referencedNames strings ++ more := by
  induction later generalizing strings with
  | nil => exact ⟨[], by simp⟩
  | cons s later ih =>
    obtain ⟨added, hadded⟩ :
        ∃ added, referencedNames (strings ++ [s]) = referencedNames strings ++ added := by
      rw [referencedNames_snoc]
      split
      · exact exists_addName_eq _ _
      · exact ⟨[], (List.append_nil _).symm⟩
    obtain ⟨more, hmore⟩ := ih (strings ++ [s])
    refine ⟨added ++ more, ?_⟩
    rw [← List.append_assoc, ← hadded, ← hmore, List.append_assoc, List.singleton_append]

theorem nodup_referencedNames (strings : List String) : (referencedNames strings).Nodup := by
  induction strings using List.reverseRecOn with
  | nil => exact List.nodup_nil
  | append_singleton strings s ih =>
    rw [referencedNames_snoc]
    split
    · exact nodup_addName ih _
    · exact ih

/-- In front of a name there are only names that the strings before a reference to it have. -/
theorem exists_referencedNames_eq {before after : List String} {s resource path : String}
    (hparse : Marker.parse? s = some (.reference resource path)) :
    ∃ earlier later, referencedNames (before ++ s :: after) = earlier ++ resource :: later ∧
      ∀ name ∈ earlier, name ∈ referencedNames before := by
  have hsnoc : referencedNames (before ++ [s]) = addName (referencedNames before) resource := by
    rw [referencedNames_snoc, hparse]
  obtain ⟨more, hmore⟩ := exists_referencedNames_append (before ++ [s]) after
  rw [List.append_assoc, List.singleton_append, hsnoc] at hmore
  by_cases hmem : resource ∈ referencedNames before
  · -- the name is there already, so it keeps the place of an earlier reference
    have hsame : addName (referencedNames before) resource = referencedNames before :=
      if_pos (List.contains_iff_mem.mpr hmem)
    obtain ⟨earlier, later, hsplit⟩ := List.append_of_mem hmem
    refine ⟨earlier, later ++ more, ?_, ?_⟩
    · rw [hmore, hsame, hsplit, List.append_assoc, List.cons_append]
    · intro name hname
      rw [hsplit]
      exact List.mem_append_left _ hname
  · have hnew : addName (referencedNames before) resource = referencedNames before ++ [resource] :=
      if_neg (mt List.contains_iff_mem.mp hmem)
    refine ⟨referencedNames before, more, ?_, fun name hname => hname⟩
    rw [hmore, hnew, List.append_assoc, List.singleton_append]

end Names

section Failures

variable {registry : Registry}

theorem reference_of_failure? {s : String} {e : ResolveError}
    (h : (resolveString registry s).failure? = some e) :
    ∃ resource path, Marker.parse? s = some (.reference resource path) ∧
      ((resource ∉ registry.names ∧ e = .referenceNotFound resource) ∨
        (resource ∈ registry.names ∧ ∃ cause, e = .unreadable resource path cause)) := by
  unfold resolveString at h
  cases hparse : Marker.parse? s with
  | none => simp [hparse] at h
  | some marker =>
    rw [hparse] at h
    cases marker with
    | secret key => simp [Marker.resolve, Resolution.failure?] at h
    | reference resource path =>
      refine ⟨resource, path, rfl, ?_⟩
      cases hfind : registry.find? resource with
      | none =>
        have hmissing : resource ∉ registry.names := (registry.find?_eq_none_iff _).mp hfind
        have he : e = .referenceNotFound resource := by
          simpa [Marker.resolve, hfind, Resolution.failure?, eq_comm] using h
        exact Or.inl ⟨hmissing, he⟩
      | some handle =>
        refine Or.inr ⟨Registry.mem_names_of_find? hfind, ?_⟩
        cases hdirect : handle.direct? path with
        | some value => simp [Marker.resolve, hfind, hdirect] at h
        | none =>
          cases hread : handle.byName path with
          | ok value =>
            simp [Marker.resolve, hfind, hdirect, hread, Except.mapError, Resolution.failure?] at h
          | error cause =>
            refine ⟨cause, ?_⟩
            simpa [Marker.resolve, hfind, hdirect, hread, Except.mapError, Resolution.failure?,
              eq_comm] using h

theorem exists_handle_of_mem_referencedNames {strings : List String}
    (h : firstFailure? registry strings = none) {name : String}
    (hname : name ∈ referencedNames strings) : ∃ handle, registry.find? name = some handle := by
  obtain ⟨s, hs, path, hparse⟩ := mem_referencedNames.mp hname
  have hresolves : (resolveString registry s).failure? = none :=
    List.findSome?_eq_none_iff.mp h s hs
  cases hfind : registry.find? name with
  | some handle => exact ⟨handle, rfl⟩
  | none => simp [resolveString, hparse, Marker.resolve, hfind, Resolution.failure?] at hresolves

theorem exists_handle_of_mem_references {value resolved : Value}
    (h : (value.resolve registry).result = .ok resolved) {name : String}
    (hname : name ∈ value.references) : ∃ handle, registry.find? name = some handle := by
  apply exists_handle_of_mem_referencedNames _ hname
  rw [← failure?_resolve, Resolution.failure?_eq_none_iff]
  exact ⟨resolved, h⟩

/-- A value that does not resolve has a name to blame, and all names in front of it are there. -/
theorem exists_name_of_error {value : Value} {e : ResolveError}
    (h : (value.resolve registry).result = .error e) :
    ∃ resource path earlier later, value.references = earlier ++ resource :: later ∧
      (∀ other ∈ earlier, other ∈ registry.names) ∧
      ((resource ∉ registry.names ∧ e = .referenceNotFound resource) ∨
        (resource ∈ registry.names ∧ ∃ cause, e = .unreadable resource path cause)) := by
  rw [← Resolution.failure?_eq_some_iff, failure?_resolve, firstFailure?,
    List.findSome?_eq_some_iff] at h
  obtain ⟨before, s, after, hstrings, hfails, hbefore⟩ := h
  obtain ⟨resource, path, hparse, hblame⟩ := reference_of_failure? hfails
  obtain ⟨earlier, later, hnames, hearlier⟩ := exists_referencedNames_eq hparse
  have hresolves : firstFailure? registry before = none := List.findSome?_eq_none_iff.mpr hbefore
  refine ⟨resource, path, earlier, later, ?_, ?_, hblame⟩
  · rw [Value.references, hstrings, hnames]
  · intro other hother
    obtain ⟨handle, hfind⟩ :=
      exists_handle_of_mem_referencedNames hresolves (hearlier other hother)
    exact Registry.mem_names_of_find? hfind

end Failures

/-- Registries that agree on the names that a value refers to resolve it with the same result and
the same warnings. If it resolves, no further registration changes anything about that. -/
theorem Value.resolve_footprint (value : Value) (first : Registry) :
    (∀ second : Registry, (∀ name ∈ value.references, first.AgreeOn second name) →
      value.resolve second = value.resolve first) ∧
    (∀ resolved, (value.resolve first).result = .ok resolved → ∀ further,
      value.resolve (first.registerAll further) = value.resolve first) := by
  have hcongr : ∀ second : Registry, (∀ name ∈ value.references, first.AgreeOn second name) →
      value.resolve second = value.resolve first := by
    intro second h
    apply resolve_congr
    intro s hs
    apply resolveString_congr
    intro name path hparse
    exact ((h name (mem_referencedNames.mpr ⟨s, hs, path, hparse⟩)).resolve_eq path).symm
  constructor
  · exact hcongr
  · intro resolved hresolved further
    apply hcongr
    intro name hname
    -- no name is missing, so no registration gets in the way of what is found
    obtain ⟨handle, hfind⟩ := exists_handle_of_mem_references hresolved hname
    exact .alike hfind (Registry.find?_registerAll further hfind) (.refl handle)

/-- A network under two handles that answer alike, in registries that otherwise have nothing in
common; and a list that resolves, whatever is registered later, even under the same name. -/
theorem Value.resolve_footprint_network :
    let network : Handle :=
      { direct? := fun path => if path = "id" then some (.string "vpc-1") else none
        byName := .error ∘ .missing }
    let twin : Handle :=
      { direct? := fun path => if "id" = path then some (.string "vpc-1") else none
        byName := fun path => .error (.missing path)
        id := .ok (.string "vpc-2") }
    let queue : Handle := { direct? := fun _ => none, byName := fun path => .ok (.string path) }
    let first : Registry := ⟨[("main", network)]⟩
    let second : Registry := ⟨[("jobs", queue), ("main", twin)]⟩
    let dangling : Value := .array [.string "ref:main.arn", .string "ref:gone"]
    let list : Value := .array [.string "ref:main", .object [("key", .string "secret:net")]]
    (∀ name ∈ dangling.references, first.AgreeOn second name) ∧
      dangling.resolve second = dangling.resolve first ∧
      (list.resolve first).result =
        .ok (.array [.string "vpc-1", .object [("key", .string "$\x7bnet\x7d")]]) ∧
      list.resolve (first.registerAll [("main", queue), ("jobs", queue)]) = list.resolve first := by
  intro network twin queue first second dangling list
  have halike : network.Alike twin := by
    constructor
    · intro path
      simp only [network, twin, eq_comm]
    · intro path
      rfl
  have hnames : dangling.references = ["main", "gone"] := by decide
  have hagree : ∀ name ∈ dangling.references, first.AgreeOn second name := by
    rw [hnames, List.forall_mem_cons, List.forall_mem_singleton]
    exact ⟨.alike rfl rfl halike, .absent rfl rfl⟩
  have hresolves : (list.resolve first).result =
      .ok (.array [.string "vpc-1", .object [("key", .string "$\x7bnet\x7d")]]) := by rfl
  exact ⟨hagree, (dangling.resolve_footprint first).1 second hagree, hresolves,
    (list.resolve_footprint first).2 _ hresolves _⟩

/-- Of a value, the names that it refers to are all there if it resolves. If not, the first one that
is missing is reported, unless an attribute of a resource before it cannot be read. -/
theorem Value.resolve_blames (value : Value) (registry : Registry) :
    Blames registry value.references (value.resolve registry).result where
  names_nodup := nodup_referencedNames _
  registered_of_ok := by
    intro resolved h name hname
    obtain ⟨handle, hfind⟩ := exists_handle_of_mem_references h hname
    exact Registry.mem_names_of_find? hfind
  first_of_missing := by
    intro name h
    obtain ⟨resource, path, earlier, later, hnames, hearlier, hblame⟩ := exists_name_of_error h
    obtain ⟨hmissing, he⟩ | ⟨_, cause, he⟩ := hblame
    · obtain rfl : name = resource := ResolveError.referenceNotFound.inj he
      exact ⟨hmissing, earlier, later, hnames, hearlier⟩
    · cases he
  registered_of_unreadable := by
    intro name read cause h
    obtain ⟨resource, path, earlier, later, hnames, hearlier, hblame⟩ := exists_name_of_error h
    obtain ⟨_, he⟩ | ⟨hpresent, found, he⟩ := hblame
    · cases he
    · obtain ⟨rfl, _, _⟩ := ResolveError.unreadable.inj he
      exact ⟨hpresent, earlier, later, hnames, hearlier⟩

end StackSynth
