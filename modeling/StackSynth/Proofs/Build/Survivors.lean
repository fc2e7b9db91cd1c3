import StackSynth.Proofs.Build.OnStack

namespace StackSynth

/-- A backend on which a refused request leaves no trace. -/
def Backend.Atomic {σ : Type} (backend : Backend σ) : Prop :=
  ∀ kind request state e after,
    backend.materialize kind request state = (.error e, after) → after = state

/-- The declarations that were built, by the outcomes of a build of all. -/
def survivors (declarations : List Declaration) (outcomes : List Outcome) : List Declaration :=
  ((declarations.zip outcomes).filter fun pair => !failed pair.2.result).map Prod.fst

def BuildReport.successes (report : BuildReport) : List Outcome :=
  report.outcomes.filter (!failed ·.result)

theorem Stack.backend_atomic : Stack.backend.Atomic := by
  intro kind request stack e after h
  rw [Stack.materialize_backend] at h
  obtain ⟨_, _, _, rfl⟩ | ⟨_, _, _, _, rfl⟩ | ⟨_, _, _, hanswer, _⟩ := Stack.insert_cases h
  · rfl
  · rfl
  · cases hanswer

theorem builtBy_filter_built (attempts : List Attempt) :
    builtBy (attempts.filter Attempt.built) = builtBy attempts := by
  induction attempts with
  | nil => rfl
  | cons attempted rest ih =>
    have hrest : (rest.filter Attempt.built).filterMap Attempt.entry? =
        rest.filterMap Attempt.entry? := congrArg Registry.handles ih
    cases hhandle : attempted.deed.handle? with
    | none => simp [builtBy, Attempt.built, Attempt.entry?, hhandle, hrest]
    | some handle => simp [builtBy, Attempt.built, Attempt.entry?, hhandle, hrest]

theorem survivors_outcomes (context : Context) (attempts : List Attempt) :
    survivors (attempts.map Attempt.declaration) (attempts.map (Attempt.outcome context)) =
      (attempts.filter Attempt.built).map Attempt.declaration := by
  rw [survivors, List.zip_map', List.filter_map, List.map_map]
  simp only [Function.comp_def, Attempt.failed_outcome, Bool.not_not]

theorem filter_failed_outcomes (context : Context) (attempts : List Attempt) :
    (attempts.map (Attempt.outcome context)).filter (!failed ·.result) =
      (attempts.filter Attempt.built).map (Attempt.outcome context) := by
  rw [List.filter_map]
  simp only [Function.comp_def, Attempt.failed_outcome, Bool.not_not]

variable {σ : Type} {backend : Backend σ} {context : Context} {start : σ}

theorem attempt_of_handle?_eq_none (atomic : backend.Atomic) {registry : Registry}
    {declaration : Declaration} {deed : Deed} {state after : σ}
    (h : attempt backend context registry declaration state = (deed, after))
    (hdeed : deed.handle? = none) : after = state := by
  obtain ⟨_, _, _, rfl⟩ | ⟨_, _, _, _, rfl⟩ | ⟨args, answer, _, _, hask, rfl⟩ := attempt_cases h
  · rfl
  · rfl
  · cases answer with
    | error e => exact atomic _ _ _ _ _ hask
    | ok handle => cases hdeed

/-- The attempts that built something are a course of their own, to the same state. -/
theorem Course.filter_built (atomic : backend.Atomic) {attempts : List Attempt} {state : σ}
    (course : Course backend context start attempts state) :
    Course backend context start (attempts.filter Attempt.built) state := by
  induction course with
  | nil => exact .nil
  | @snoc attempts state after declaration deed _ hattempt ih =>
    rw [List.filter_append]
    cases hdeed : deed.handle? with
    | none =>
      obtain rfl := attempt_of_handle?_eq_none atomic hattempt hdeed
      simpa [Attempt.built, hdeed] using ih
    | some handle =>
      have hlast : [(⟨declaration, deed⟩ : Attempt)].filter Attempt.built =
          [⟨declaration, deed⟩] := by simp [Attempt.built, hdeed]
      rw [hlast]
      -- what failed before is not in the registry, so the attempt finds the same there
      rw [← builtBy_filter_built] at hattempt
      exact ih.snoc hattempt

theorem build_survivors_of_atomic (atomic : backend.Atomic) (context : Context)
    (declarations : List Declaration) (start : σ) (diagnostics others : Diagnostics) :
    let all := build backend context declarations start diagnostics
    let alone := build backend context (survivors declarations all.1.outcomes) start others
    alone.1.outcomes = all.1.successes ∧ alone.1.registry = all.1.registry ∧
      alone.1.exports = all.1.exports ∧ alone.2.1 = all.2.1 := by
  intro all alone
  obtain ⟨attempts, state, noted, hmap, course, hall⟩ :=
    build_course backend context declarations start diagnostics
  obtain ⟨attempts', state', noted', hmap', course', halone⟩ :=
    build_course backend context (survivors declarations all.1.outcomes) start others
  have hsurvivors : survivors declarations all.1.outcomes =
      (attempts.filter Attempt.built).map Attempt.declaration := by
    rw [← survivors_outcomes context, hmap]
    simp only [all, hall]
  obtain ⟨rfl, rfl⟩ := (course.filter_built atomic).unique course'
    (hsurvivors.symm.trans hmap'.symm)
  rw [builtBy_filter_built] at halone
  simp only [all, alone, hall, halone, BuildReport.successes, filter_failed_outcomes, and_self]

/-- On any stack, a declaration that fails leaves no trace: without those that fail, all others are
built with the same outcomes, into the same registry, with the same exports, and the stack ends
the same. -/
theorem build_survivors (stack : Stack) (context : Context) (declarations : List Declaration)
    (diagnostics others : Diagnostics) :
    let all := build Stack.backend context declarations stack diagnostics
    let alone := build Stack.backend context (survivors declarations all.1.outcomes) stack others
    (∀ outcome ∈ alone.1.outcomes, ∃ built, outcome.result = .ok built) ∧
      alone.1.outcomes = all.1.successes ∧ alone.1.registry = all.1.registry ∧
      alone.1.exports = all.1.exports ∧ alone.2.1 = all.2.1 := by
  intro all alone
  have hsame := build_survivors_of_atomic Stack.backend_atomic context declarations stack
    diagnostics others
  refine ⟨?_, hsame⟩
  intro outcome houtcome
  rw [hsame.1, BuildReport.successes, List.mem_filter] at houtcome
  cases hresult : outcome.result with
  | error e => simp [hresult, failed] at houtcome
  | ok built => exact ⟨built, rfl⟩

end StackSynth
