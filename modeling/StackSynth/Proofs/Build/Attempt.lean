import StackSynth.Build
/-!
What a build does about one declaration, apart from its messages: the arguments do not resolve, the
name is taken, or the backend is asked. Main statements: the three cases with their conditions, and
that a step of a build is such an attempt between its messages.
-/
namespace StackSynth

/-- What is done about a declaration. -/
inductive Deed where
  | unresolved (cause : ResolveError)
  /-- A resource of its name was built before. -/
  | repeated
  | asked (request : Request) (answer : Except BackendError Handle)

namespace Deed

def result (context : Context) (declaration : Declaration) :
    Deed → Except DeclarationError Materialized
  | unresolved cause => .error (.resolve cause)
  | repeated => .error .alreadyRegistered
  | asked _ (.error e) => .error (.backend e)
  | asked _ (.ok _) => .ok (declaration.materialized context)

def handle? : Deed → Option Handle
  | asked _ (.ok handle) => some handle
  | _ => none

end Deed

/-- A declaration and what was done about it. -/
structure Attempt where
  declaration : Declaration
  deed : Deed

namespace Attempt

def name (attempt : Attempt) : String :=
  attempt.declaration.name

def outcome (context : Context) (attempt : Attempt) : Outcome :=
  ⟨attempt.name, attempt.deed.result context attempt.declaration⟩

def built (attempt : Attempt) : Bool :=
  attempt.deed.handle?.isSome

def entry? (attempt : Attempt) : Option (String × Handle) :=
  attempt.deed.handle?.map (attempt.name, ·)

end Attempt

def builtBy (attempts : List Attempt) : Registry :=
  ⟨attempts.filterMap Attempt.entry?⟩

/-- What is done about a declaration against the resources built before it, and the state after. -/
def attempt {σ : Type} (backend : Backend σ) (context : Context) (registry : Registry)
    (declaration : Declaration) (state : σ) : Deed × σ :=
  match (resolveEntries registry declaration.plainArgs).result with
  | .error e => (.unresolved e, state)
  | .ok args =>
    if registry.has declaration.name then (.repeated, state)
    else
      let request := declaration.request context args
      let (answer, after) := backend.materialize declaration.kind request state
      (.asked request answer, after)

theorem handles_builtBy (attempts : List Attempt) :
    (builtBy attempts).handles = attempts.filterMap Attempt.entry? := rfl

theorem names_builtBy (attempts : List Attempt) :
    (builtBy attempts).names = (attempts.filter Attempt.built).map Attempt.name := by
  induction attempts with
  | nil => rfl
  | cons attempt rest ih =>
    have hrest : Entries.keys (rest.filterMap Attempt.entry?) =
        (rest.filter Attempt.built).map Attempt.name := ih
    cases hdeed : attempt.deed.handle? with
    | none => simpa [builtBy, Registry.names, Attempt.entry?, Attempt.built, hdeed] using hrest
    | some handle =>
      simpa [builtBy, Registry.names, Attempt.entry?, Attempt.built, hdeed, Entries.keys]
        using hrest

theorem mem_names_builtBy {attempts : List Attempt} {name : String} :
    name ∈ (builtBy attempts).names ↔
      ∃ other ∈ attempts, other.built = true ∧ other.name = name := by
  simp [names_builtBy, and_assoc]

theorem find?_builtBy_eq_some_iff {attempts : List Attempt}
    (distinct : (builtBy attempts).names.Nodup) {name : String} {handle : Handle} :
    (builtBy attempts).find? name = some handle ↔
      ∃ attempted ∈ attempts, attempted.name = name ∧ attempted.deed.handle? = some handle := by
  have hmem : (name, handle) ∈ (builtBy attempts).handles ↔
      ∃ attempted ∈ attempts, attempted.name = name ∧ attempted.deed.handle? = some handle := by
    simp only [handles_builtBy, List.mem_filterMap, Attempt.entry?, Option.map_eq_some_iff,
      Prod.mk.injEq]
    constructor
    · rintro ⟨attempted, hattempted, found, hfound, hname, rfl⟩
      exact ⟨attempted, hattempted, hname, hfound⟩
    · rintro ⟨attempted, hattempted, hname, hfound⟩
      exact ⟨attempted, hattempted, handle, hfound, hname, rfl⟩
  rw [← hmem]
  exact ⟨Entries.mem_of_find?_eq_some, Entries.find?_eq_some_of_mem distinct⟩

namespace Attempt

theorem built_iff {attempt : Attempt} :
    attempt.built = true ↔ ∃ request handle, attempt.deed = .asked request (.ok handle) := by
  obtain ⟨declaration, _ | _ | ⟨request, _ | handle⟩⟩ := attempt <;> simp [built, Deed.handle?]

@[simp] theorem name_mk (declaration : Declaration) (deed : Deed) :
    (Attempt.mk declaration deed).name = declaration.name := rfl

@[simp] theorem result_outcome_mk (context : Context) (declaration : Declaration) (deed : Deed) :
    (Attempt.outcome context ⟨declaration, deed⟩).result = deed.result context declaration := rfl

theorem failed_outcome (context : Context) (attempt : Attempt) :
    failed (attempt.outcome context).result = !attempt.built := by
  obtain ⟨declaration, _ | _ | ⟨request, _ | handle⟩⟩ := attempt <;> rfl

theorem result_outcome_eq_ok_iff {context : Context} {attempt : Attempt} {built : Materialized} :
    (attempt.outcome context).result = .ok built ↔
      attempt.built = true ∧ attempt.declaration.materialized context = built := by
  obtain ⟨declaration, _ | _ | ⟨request, _ | handle⟩⟩ := attempt <;>
    simp [outcome, Deed.result, Attempt.built, Deed.handle?]

end Attempt

theorem builtBy_snoc (attempts : List Attempt) (declaration : Declaration) (deed : Deed) :
    builtBy (attempts ++ [⟨declaration, deed⟩]) =
      match deed.handle? with
      | some handle => ⟨(builtBy attempts).handles ++ [(declaration.name, handle)]⟩
      | none => builtBy attempts := by
  cases h : deed.handle? <;> simp [builtBy, Attempt.entry?, Attempt.name, h]

variable {σ : Type} {backend : Backend σ} {context : Context}

section Cases

variable {registry : Registry} {declaration : Declaration} {state : σ}

theorem attempt_eq_unresolved {e : ResolveError}
    (h : (resolveEntries registry declaration.plainArgs).result = .error e) :
    attempt backend context registry declaration state = (.unresolved e, state) := by
  rw [attempt, h]

theorem attempt_eq_repeated {args : Object}
    (h : (resolveEntries registry declaration.plainArgs).result = .ok args)
    (hname : declaration.name ∈ registry.names) :
    attempt backend context registry declaration state = (.repeated, state) := by
  rw [attempt, h]
  exact if_pos ((registry.has_iff_mem_names _).mpr hname)

theorem attempt_eq_asked {args : Object} {answer : Except BackendError Handle} {after : σ}
    (h : (resolveEntries registry declaration.plainArgs).result = .ok args)
    (hname : declaration.name ∉ registry.names)
    (hask : backend.materialize declaration.kind (declaration.request context args) state =
      (answer, after)) :
    attempt backend context registry declaration state =
      (.asked (declaration.request context args) answer, after) := by
  simp only [attempt, h, hask]
  exact if_neg (mt (registry.has_iff_mem_names _).mp hname)

theorem attempt_cases {deed : Deed} {after : σ}
    (h : attempt backend context registry declaration state = (deed, after)) :
    (∃ e, (resolveEntries registry declaration.plainArgs).result = .error e ∧
      deed = .unresolved e ∧ after = state) ∨
    (∃ args, (resolveEntries registry declaration.plainArgs).result = .ok args ∧
      declaration.name ∈ registry.names ∧ deed = .repeated ∧ after = state) ∨
    (∃ args answer, (resolveEntries registry declaration.plainArgs).result = .ok args ∧
      declaration.name ∉ registry.names ∧
      backend.materialize declaration.kind (declaration.request context args) state =
        (answer, after) ∧
      deed = .asked (declaration.request context args) answer) := by
  cases hresult : (resolveEntries registry declaration.plainArgs).result with
  | error e =>
    obtain ⟨rfl, rfl⟩ := Prod.mk.inj (h.symm.trans (attempt_eq_unresolved hresult))
    exact Or.inl ⟨e, rfl, rfl, rfl⟩
  | ok args =>
    by_cases hname : declaration.name ∈ registry.names
    · obtain ⟨rfl, rfl⟩ := Prod.mk.inj (h.symm.trans (attempt_eq_repeated hresult hname))
      exact Or.inr (Or.inl ⟨args, rfl, hname, rfl, rfl⟩)
    · obtain ⟨rfl, rfl⟩ := Prod.mk.inj (h.symm.trans (attempt_eq_asked hresult hname rfl))
      exact Or.inr (Or.inr ⟨args, _, rfl, hname, rfl, rfl⟩)

end Cases

/-- Building a declaration does what the attempt says, and leaves the warnings of its arguments. -/
theorem buildDeclaration_eq {attempts : List Attempt} {declaration : Declaration} {deed : Deed}
    {state after : σ} (diagnostics : Diagnostics)
    (h : attempt backend context (builtBy attempts) declaration state = (deed, after)) :
    buildDeclaration backend context declaration ⟨state, builtBy attempts, diagnostics⟩ =
      (deed.result context declaration,
        ⟨after, builtBy (attempts ++ [⟨declaration, deed⟩]), diagnostics.warnAll
          (resolveEntries (builtBy attempts) declaration.plainArgs).warnings⟩) := by
  rw [builtBy_snoc]
  obtain ⟨e, hresult, rfl, rfl⟩ | ⟨args, hresult, hname, rfl, rfl⟩ |
    ⟨args, answer, hresult, hname, hask, rfl⟩ := attempt_cases h
  · simp [buildDeclaration, hresult, Deed.result, Deed.handle?]
  · have hhas := ((builtBy attempts).has_iff_mem_names _).mpr hname
    simp [buildDeclaration, hresult, hhas, Deed.result, Deed.handle?]
  · have hhas : (builtBy attempts).has declaration.name = false := by
      simpa using mt ((builtBy attempts).has_iff_mem_names _).mp hname
    cases answer with
    | error e => simp [buildDeclaration, hresult, hhas, hask, Deed.result, Deed.handle?]
    | ok handle =>
      -- the name was free before the call, so the registry cannot refuse the handle after it
      have hregister : (builtBy attempts).register declaration.name handle =
          .ok ⟨(builtBy attempts).handles ++ [(declaration.name, handle)]⟩ := by
        rw [Registry.register, hhas]
        rfl
      simp [buildDeclaration, hresult, hhas, hask, hregister, Deed.result, Deed.handle?]

theorem buildStep_eq {attempts : List Attempt} {declaration : Declaration} {deed : Deed}
    {state next : σ} (before after : List Declaration) (diagnostics : Diagnostics)
    (h : attempt backend context (builtBy attempts) declaration state = (deed, next)) :
    buildStep backend context before declaration after ⟨state, builtBy attempts, diagnostics⟩ =
      (Attempt.outcome context ⟨declaration, deed⟩,
        ⟨next, builtBy (attempts ++ [⟨declaration, deed⟩]),
          (((diagnostics.setSubject declaration.name).warnAll
              (resolveEntries (builtBy attempts) declaration.plainArgs).warnings).log
            (closingMessage before declaration after (deed.result context declaration)).1
            (closingMessage before declaration after
              (deed.result context declaration)).2).clearSubject⟩) := by
  simp only [buildStep, buildDeclaration_eq _ h]
  rfl

end StackSynth
