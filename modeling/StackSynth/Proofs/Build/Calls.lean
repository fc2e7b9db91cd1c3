import StackSynth.Proofs.Build.Course

namespace StackSynth

inductive Exchange where
  | create (request : Request) (answer : Except BackendError Handle)
  | lookup (request : Request) (answer : Except BackendError Handle)
  | publish (output : String) (value : Value) (answer : Except BackendError Unit)

/-- A backend that behaves as the given one and keeps a list of all calls with their answers. -/
def Backend.traced {σ : Type} (backend : Backend σ) : Backend (σ × List Exchange) where
  create request state :=
    let (answer, after) := backend.create request state.1
    (answer, after, state.2 ++ [.create request answer])
  lookup request state :=
    let (answer, after) := backend.lookup request state.1
    (answer, after, state.2 ++ [.lookup request answer])
  publish output value state :=
    let (answer, after) := backend.publish output value state.1
    (answer, after, state.2 ++ [.publish output value answer])

/-- The call that was made for a declaration: a look-up if the resource exists already. -/
def Attempt.exchange? (attempt : Attempt) : Option Exchange :=
  match attempt.deed with
  | .asked request answer =>
    some (if attempt.declaration.isExisting then .lookup request answer
      else .create request answer)
  | _ => none

def Publication.exchange? (publication : Publication) : Option Exchange :=
  match publication.notice with
  | .asked value answer => some (.publish (outputName publication.name) value answer)
  | .unidentified _ => none

/-- How an attempt must go behind the earlier ones. -/
structure Attempt.Regular (context : Context) (earlier : List Attempt) (attempt : Attempt) :
    Prop where
  /-- The backend is asked exactly if the arguments resolve against the resources built before, and
  every earlier declaration of the name failed. -/
  asked_iff : (∃ request answer, attempt.deed = .asked request answer) ↔
    (∃ args, (resolveEntries (builtBy earlier) attempt.declaration.plainArgs).result = .ok args) ∧
      ∀ other ∈ earlier, other.name = attempt.name → failed (other.outcome context).result
  request_eq : ∀ request answer, attempt.deed = .asked request answer → ∃ args,
    (resolveEntries (builtBy earlier) attempt.declaration.plainArgs).result = .ok args ∧
      request = attempt.declaration.request context args
  built_iff : (∃ built, (attempt.outcome context).result = .ok built) ↔
    ∃ request handle, attempt.deed = .asked request (.ok handle)
  refused_iff : ∀ e, (attempt.outcome context).result = .error (.backend e) ↔
    ∃ request, attempt.deed = .asked request (.error e)
  unresolved_iff : ∀ e, (attempt.outcome context).result = .error (.resolve e) ↔
    (resolveEntries (builtBy earlier) attempt.declaration.plainArgs).result = .error e
  /-- Its name is to blame exactly if its arguments resolve and an earlier declaration of the name
  was built; no call is made then. -/
  repeated_iff : (attempt.outcome context).result = .error .alreadyRegistered ↔
    (∃ args, (resolveEntries (builtBy earlier) attempt.declaration.plainArgs).result = .ok args) ∧
      ∃ other ∈ earlier, other.name = attempt.name ∧
        ∃ built, (other.outcome context).result = .ok built

structure Publication.Regular (publication : Publication) : Prop where
  /-- The backend is asked exactly if the resource has the attribute that identifies it, and for the
  value of that. -/
  asked_iff : ∀ value, (∃ answer, publication.notice = .asked value answer) ↔
    publication.handle.id = .ok value
  unidentified_iff : ∀ e, publication.notice = .unidentified e ↔ publication.handle.id = .error e

/-- How a build of declarations must go: what it reports and the list of its calls. -/
structure History (context : Context) (declarations : List Declaration) (report : BuildReport)
    (calls : List Exchange) (attempts : List Attempt) (publications : List Publication) :
    Prop where
  declarations_eq : attempts.map Attempt.declaration = declarations
  outcomes_eq : report.outcomes = attempts.map (Attempt.outcome context)
  /-- All resources are asked for before the first output is. -/
  calls_eq : calls =
    attempts.filterMap Attempt.exchange? ++ publications.filterMap Publication.exchange?
  regular : ∀ earlier attempt later, attempts = earlier ++ attempt :: later →
    attempt.Regular context earlier
  handles_eq : report.registry.handles = attempts.filterMap Attempt.entry?
  names_nodup : report.registry.names.Nodup
  names_eq : report.registry.names =
    (report.outcomes.filter fun outcome => !failed outcome.result).map Outcome.name
  /-- There is one publication for each registered name, in order. -/
  published_eq : publications.map (fun publication => (publication.name, publication.handle)) =
    report.registry.handles
  exports_eq : report.exports = publications.map Publication.toExport
  published : ∀ publication ∈ publications, publication.Regular

variable {σ : Type} {backend : Backend σ} {context : Context} {start : σ}

theorem attempt_traced {registry : Registry} {declaration : Declaration} {deed : Deed}
    {state after : σ} (calls : List Exchange)
    (h : attempt backend context registry declaration state = (deed, after)) :
    attempt backend.traced context registry declaration (state, calls) =
      (deed, after, calls ++ [(⟨declaration, deed⟩ : Attempt)].filterMap Attempt.exchange?) := by
  obtain ⟨e, hresult, rfl, rfl⟩ | ⟨args, hresult, hname, rfl, rfl⟩ |
    ⟨args, answer, hresult, hname, hask, rfl⟩ := attempt_cases h
  · rw [attempt_eq_unresolved hresult]
    simp [Attempt.exchange?]
  · rw [attempt_eq_repeated hresult hname]
    simp [Attempt.exchange?]
  · refine attempt_eq_asked hresult hname ?_
    unfold Declaration.kind at hask ⊢
    cases hexisting : declaration.isExisting <;>
      simp_all [Backend.materialize, Backend.traced, Attempt.exchange?]

theorem Course.traced {attempts : List Attempt} {state : σ}
    (course : Course backend context start attempts state) :
    Course backend.traced context (start, []) attempts
      (state, attempts.filterMap Attempt.exchange?) := by
  induction course with
  | nil => exact .nil
  | snoc _ hattempt ih =>
    rw [List.filterMap_append]
    exact ih.snoc (attempt_traced _ hattempt)

theorem notice_traced (name : String) (handle : Handle) (state : σ) (calls : List Exchange) :
    notice backend.traced name handle (state, calls) =
      ((notice backend name handle state).1, (notice backend name handle state).2,
        calls ++ [(⟨name, handle, (notice backend name handle state).1⟩ : Publication)].filterMap
          Publication.exchange?) := by
  cases hid : handle.id with
  | error e => simp [notice, hid, Publication.exchange?]
  | ok value => simp [notice, hid, Publication.exchange?, Backend.traced]

theorem publishAll_traced (handles : List (String × Handle)) (state : σ) (calls : List Exchange) :
    publishAll backend.traced handles (state, calls) =
      ((publishAll backend handles state).1, (publishAll backend handles state).2,
        calls ++ (publishAll backend handles state).1.filterMap Publication.exchange?) := by
  induction handles generalizing state calls with
  | nil => simp [publishAll]
  | cons entry rest ih =>
    obtain ⟨name, handle⟩ := entry
    simp only [publishAll, notice_traced, ih]
    rw [List.append_assoc, ← List.filterMap_append]
    rfl

theorem regular_publishAll {handles : List (String × Handle)} {state : σ}
    {publication : Publication}
    (h : publication ∈ (publishAll backend handles state).1) : publication.Regular := by
  induction handles generalizing state with
  | nil => simp [publishAll] at h
  | cons entry rest ih =>
    obtain ⟨name, handle⟩ := entry
    rcases List.mem_cons.mp h with rfl | h
    · cases hid : handle.id with
      | error e => exact ⟨by simp [hid], by simp [hid]⟩
      | ok value => exact ⟨by simp [hid], by simp [hid]⟩
    · exact ih h

theorem published_publishAll (handles : List (String × Handle)) (state : σ) :
    (publishAll backend handles state).1.map
      (fun publication => (publication.name, publication.handle)) = handles := by
  induction handles generalizing state with
  | nil => rfl
  | cons entry rest ih => simp [publishAll, ih]

theorem Course.regular {earlier later : List Attempt} {attempted : Attempt} {state : σ}
    (course : Course backend context start (earlier ++ attempted :: later) state) :
    attempted.Regular context earlier := by
  obtain ⟨before, after, _, hattempt⟩ := course.split
  obtain ⟨declaration, deed⟩ := attempted
  dsimp only at hattempt
  have hfailed : declaration.name ∉ (builtBy earlier).names ↔ ∀ other ∈ earlier,
      other.name = declaration.name → failed (other.outcome context).result := by
    rw [mem_names_builtBy]
    simp only [Attempt.failed_outcome, Bool.not_eq_true']
    grind
  have hbuilt : declaration.name ∈ (builtBy earlier).names ↔ ∃ other ∈ earlier,
      other.name = declaration.name ∧ ∃ built, (other.outcome context).result = .ok built := by
    simp [mem_names_builtBy, Attempt.result_outcome_eq_ok_iff, and_comm]
  obtain ⟨e, hresult, rfl, _⟩ | ⟨args, hresult, hname, rfl, _⟩ |
    ⟨args, answer, hresult, hname, _, rfl⟩ := attempt_cases hattempt
  · constructor <;> simp [hresult, Deed.result]
  · have hnot := mt hfailed.mpr (not_not_intro hname)
    exact
      { asked_iff := iff_of_false (by simp) fun h => hnot h.2
        request_eq := by simp
        built_iff := by simp [Deed.result]
        refused_iff := by simp [Deed.result]
        unresolved_iff := by simp [hresult, Deed.result]
        repeated_iff := iff_of_true rfl ⟨⟨args, hresult⟩, hbuilt.mp hname⟩ }
  · have hnot := mt hbuilt.mpr hname
    exact
      { asked_iff := iff_of_true ⟨_, _, rfl⟩ ⟨⟨args, hresult⟩, hfailed.mp hname⟩
        request_eq := by
          intro request answer h
          cases h
          exact ⟨args, hresult, rfl⟩
        built_iff := by cases answer <;> simp [Deed.result]
        refused_iff := by cases answer <;> simp [Deed.result]
        unresolved_iff := by cases answer <;> simp [hresult, Deed.result]
        repeated_iff := iff_of_false (by cases answer <;> simp [Deed.result]) fun h => hnot h.2 }

/-- Of a backend that does anything at all, a build asks at most once for each declaration, in
order: exactly if its arguments resolve and no resource of its name was built. It is built exactly
if the call succeeds, and registered with the handle that was returned; then, and only then, the
outputs are published, one for each resource. -/
theorem build_calls (backend : Backend σ) (context : Context) (declarations : List Declaration)
    (start : σ) (diagnostics : Diagnostics) :
    ∃ calls attempts publications,
      (build backend.traced context declarations (start, []) diagnostics).1 =
        (build backend context declarations start diagnostics).1 ∧
      (build backend.traced context declarations (start, []) diagnostics).2.1 =
        ((build backend context declarations start diagnostics).2.1, calls) ∧
      History context declarations (build backend context declarations start diagnostics).1
        calls attempts publications := by
  obtain ⟨attempts, state, noted, hmap, course, hbuild⟩ :=
    build_course backend context declarations start diagnostics
  obtain ⟨attempts', state', noted', hmap', course', htraced⟩ :=
    build_course backend.traced context declarations (start, []) diagnostics
  -- the two builds attempt the same, so one list of attempts describes both
  obtain ⟨rfl, rfl⟩ := course.traced.unique course' (hmap.trans hmap'.symm)
  rw [publishAll_traced] at htraced
  have hnames : (builtBy attempts).names =
      ((attempts.map (Attempt.outcome context)).filter
        fun outcome => !failed outcome.result).map Outcome.name := by
    rw [names_builtBy, List.filter_map, List.map_map]
    simp only [Function.comp_def, Attempt.failed_outcome, Bool.not_not]
    rfl
  refine ⟨_, attempts, (publishAll backend (builtBy attempts).handles state).1,
    by rw [htraced, hbuild], by rw [htraced, hbuild], ?_⟩
  rw [hbuild]
  exact
    { declarations_eq := hmap
      outcomes_eq := rfl
      calls_eq := rfl
      regular := by
        rintro earlier attempted later rfl
        exact course.regular
      handles_eq := rfl
      names_nodup := course.names_nodup
      names_eq := hnames
      published_eq := published_publishAll _ _
      exports_eq := rfl
      published := fun _ => regular_publishAll }

end StackSynth
