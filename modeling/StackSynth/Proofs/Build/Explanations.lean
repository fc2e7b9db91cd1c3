import StackSynth.Proofs.Build.Journal
import StackSynth.Proofs.Resolution.Footprint
import StackSynth.Stack.Basic

namespace StackSynth

inductive Explanation where
  /-- The resource is its own. -/
  | itself
  | later
  | failed
  /-- There is nothing to say. -/
  | none
deriving DecidableEq, Repr

namespace Explanation

def text (missing : String) : Explanation → String
  | itself => " (a resource cannot reference itself)"
  | later => " ('" ++ missing ++ "' is declared later, references must point to earlier resources)"
  | failed => " ('" ++ missing ++ "' failed to build)"
  | none => ""

/-- When an explanation is to be given to a declaration that stands between others. -/
def Holds (before : List Declaration) (declaration : Declaration) (after : List Declaration)
    (missing : String) : Explanation → Prop
  | itself => declaration.name = missing
  | later => declaration.name ≠ missing ∧ ∃ other ∈ after, other.name = missing
  | failed => declaration.name ≠ missing ∧ (∀ other ∈ after, other.name ≠ missing) ∧
      ∃ other ∈ before, other.name = missing
  | none => ∀ other ∈ before ++ declaration :: after, other.name ≠ missing

end Explanation

/-- The message about a declaration that refers to a missing resource, up to the explanation. -/
def notFoundMessage (declaration : Declaration) (missing : String) : String :=
  "Error creating resource of type '" ++ declaration.type ++ "': " ++
    ("Unable to resolve arguments" ++ ": " ++
      ("Referenced resource '" ++ missing ++ "' not found"))

/-- What must be said about a declaration that stands between others and refers to a missing
resource, if the declarations have these outcomes. -/
structure Explained (outcomes : List Outcome) (before : List Declaration)
    (declaration : Declaration) (after : List Declaration) (missing closing : String) : Prop where
  says_iff : ∀ explanation : Explanation,
    closing = notFoundMessage declaration missing ++ explanation.text missing ↔
      explanation.Holds before declaration after missing
  /-- No declaration is blamed that was built. -/
  failed_before : ∀ (i : Nat) (other : Declaration), before[i]? = some other →
    other.name = missing → ∃ e, outcomes[i]? = some ⟨missing, .error e⟩

namespace Explanation

/-- How the words of an explanation end, backwards. -/
def ending : Explanation → List Char
  | itself => [')', 'f']
  | later => [')', 's']
  | failed => [')', 'd']
  | none => []

theorem take_two_reverse_text (missing : String) (explanation : Explanation) :
    (explanation.text missing).toList.reverse.take 2 = explanation.ending := by
  cases explanation with
  | itself =>
    change " (a resource cannot reference itself)".toList.reverse.take 2 = [')', 'f']
    decide
  | later =>
    have hwords : "' is declared later, references must point to earlier resources)".toList =
      "' is declared later, references must point to earlier resource".toList ++ ['s', ')'] := by
      rfl
    simp only [text, String.toList_append, hwords, List.reverse_append]
    rfl
  | failed =>
    have hwords : "' failed to build)".toList = "' failed to buil".toList ++ ['d', ')'] := by rfl
    simp only [text, String.toList_append, hwords, List.reverse_append]
    rfl
  | none => rfl

/-- Explanations are told apart by how they end, whatever the name in them is. -/
theorem text_inj {missing : String} {one other : Explanation}
    (h : one.text missing = other.text missing) : one = other := by
  have hending : one.ending = other.ending := by
    rw [← take_two_reverse_text missing, h, take_two_reverse_text]
  cases one <;> cases other <;> first | rfl | cases hending

variable {before after : List Declaration} {declaration : Declaration} {missing : String}

theorem exists_holds (before : List Declaration) (declaration : Declaration)
    (after : List Declaration) (missing : String) :
    ∃ explanation : Explanation, explanation.Holds before declaration after missing ∧
      missingReferenceHint missing before declaration after = explanation.text missing := by
  unfold missingReferenceHint
  by_cases hitself : declaration.name = missing
  · exact ⟨itself, hitself, if_pos hitself⟩
  rw [if_neg hitself]
  by_cases hlater : ∃ other ∈ after, other.name = missing
  · exact ⟨later, ⟨hitself, hlater⟩, if_pos (by simpa using hlater)⟩
  rw [if_neg (by simpa using hlater)]
  have hafter : ∀ other ∈ after, other.name ≠ missing :=
    fun other hother hname => hlater ⟨other, hother, hname⟩
  by_cases hfailed : ∃ other ∈ before, other.name = missing
  · exact ⟨failed, ⟨hitself, hafter, hfailed⟩, if_pos (by simpa using hfailed)⟩
  rw [if_neg (by simpa using hfailed)]
  have hbefore : ∀ other ∈ before, other.name ≠ missing :=
    fun other hother hname => hfailed ⟨other, hother, hname⟩
  exact ⟨none, List.forall_mem_append.mpr ⟨hbefore, List.forall_mem_cons.mpr ⟨hitself, hafter⟩⟩,
    rfl⟩

theorem Holds.unique {one other : Explanation} (h : one.Holds before declaration after missing)
    (h' : other.Holds before declaration after missing) : one = other := by
  cases one <;> cases other <;> simp only [Holds] at h h' <;> grind

theorem missingReferenceHint_eq_iff {explanation : Explanation} :
    missingReferenceHint missing before declaration after = explanation.text missing ↔
      explanation.Holds before declaration after missing := by
  obtain ⟨given, hholds, hhint⟩ := exists_holds before declaration after missing
  rw [hhint]
  constructor
  · intro h
    exact text_inj h ▸ hholds
  · intro h
    rw [hholds.unique h]

end Explanation

theorem closingMessage_referenceNotFound (before : List Declaration) (declaration : Declaration)
    (after : List Declaration) (missing : String) :
    (closingMessage before declaration after (.error (.resolve (.referenceNotFound missing)))).2 =
      notFoundMessage declaration missing ++
        missingReferenceHint missing before declaration after := by
  have hmessage : (closingMessage before declaration after
      (.error (.resolve (.referenceNotFound missing)))).2 =
      "Error creating resource of type '" ++ declaration.type ++ "': " ++
        chainText "Unable to resolve arguments"
          [ResolveError.message (.referenceNotFound missing)] ++
        missingReferenceHint missing before declaration after := rfl
  have hchain : ∀ message cause : String, chainText message [cause] = message ++ ": " ++ cause :=
    fun _ _ => rfl
  rw [hmessage, hchain]
  rfl

theorem not_mem_names_of_referenceNotFound {registry : Registry} {entries : Object}
    {missing : String}
    (h : (resolveEntries registry entries).result = .error (.referenceNotFound missing)) :
    missing ∉ registry.names := by
  rw [← Resolution.failure?_eq_some_iff, failure?_resolveEntries, firstFailure?,
    List.findSome?_eq_some_iff] at h
  obtain ⟨_, s, _, _, hfails, _⟩ := h
  obtain ⟨resource, path, _, ⟨hmissing, he⟩ | ⟨_, cause, he⟩⟩ := reference_of_failure? hfails
  · obtain rfl : missing = resource := ResolveError.referenceNotFound.inj he
    exact hmissing
  · cases he

variable {σ : Type} {backend : Backend σ} {context : Context} {start : σ}

theorem Attempt.outcome_of_not_built (context : Context) (attempt : Attempt)
    (h : attempt.built = false) : ∃ e, attempt.outcome context = ⟨attempt.name, .error e⟩ := by
  have hfailed : failed (attempt.outcome context).result = true := by
    rw [Attempt.failed_outcome, h]
    rfl
  cases hresult : (attempt.outcome context).result with
  | ok built => simp [hresult, failed] at hfailed
  | error e => exact ⟨e, congrArg (Outcome.mk attempt.name) hresult⟩

theorem Course.not_built_of_referenceNotFound {earlier later : List Attempt} {attempted : Attempt}
    {state : σ} (course : Course backend context start (earlier ++ attempted :: later) state)
    {missing : String}
    (h : (attempted.outcome context).result = .error (.resolve (.referenceNotFound missing))) :
    ∀ other ∈ earlier, other.name = missing → other.built = false := by
  obtain ⟨before, after, _, hattempt⟩ := course.split
  -- the attempt ended at a reference, so the resources of that moment lack the name
  have hmissing : missing ∉ (builtBy earlier).names := by
    rw [Attempt.outcome] at h
    obtain ⟨e, hresult, hdeed, _⟩ | ⟨_, _, _, hdeed, _⟩ | ⟨_, answer, _, _, _, hdeed⟩ :=
      attempt_cases hattempt
    · obtain rfl : e = .referenceNotFound missing := by simpa [hdeed, Deed.result] using h
      exact not_mem_names_of_referenceNotFound hresult
    · simp [hdeed, Deed.result] at h
    · cases answer <;> simp [hdeed, Deed.result] at h
  intro other hother hname
  apply Bool.eq_false_iff.mpr
  intro hbuilt
  exact hmissing (mem_names_builtBy.mpr ⟨other, hother, hbuilt, hname⟩)

theorem Course.failed_of_referenceNotFound {earlier later : List Attempt} {attempted : Attempt}
    {state : σ} (course : Course backend context start (earlier ++ attempted :: later) state)
    {missing : String}
    (h : (attempted.outcome context).result = .error (.resolve (.referenceNotFound missing)))
    {i : Nat} {other : Declaration} (hother : (earlier.map Attempt.declaration)[i]? = some other)
    (hname : other.name = missing) :
    ∃ e, ((earlier ++ attempted :: later).map (Attempt.outcome context))[i]? =
      some ⟨missing, .error e⟩ := by
  rw [List.getElem?_map, Option.map_eq_some_iff] at hother
  obtain ⟨tried, htried, rfl⟩ := hother
  have hlabel : tried.name = missing := hname
  have hbuilt : tried.built = false :=
    course.not_built_of_referenceNotFound h tried (List.mem_of_getElem? htried) hlabel
  obtain ⟨e, he⟩ := tried.outcome_of_not_built context hbuilt
  have hi : i < earlier.length := (List.getElem?_eq_some_iff.mp htried).1
  refine ⟨e, ?_⟩
  rw [List.getElem?_map, List.getElem?_append_left hi, htried, Option.map_some, he, hlabel]

theorem getElem?_allRemarks_length (context : Context) (earlier : List Attempt)
    (attempted : Attempt) (later : List Attempt) :
    (allRemarks context [] (earlier ++ attempted :: later))[earlier.length]? =
      some (remarksOn context earlier attempted later) := by
  have hattempted : (earlier ++ attempted :: later)[earlier.length]? = some attempted := by simp
  simpa using getElem?_allRemarks context [] hattempted

/-- Whatever the backend does, the explanation that a build gives of a missing reference is true. -/
theorem build_explained (backend : Backend σ) (context : Context) (declarations : List Declaration)
    (start : σ) (diagnostics : Diagnostics) :
    let report := (build backend context declarations start diagnostics).1
    let log := (build backend context declarations start diagnostics).2.2
    ∃ remarks : List Remarks,
      log.entries = diagnostics.entries ++ remarks.flatMap Remarks.entries ++
        report.exports.filterMap Export.complaint? ∧
      remarks.map Remarks.outcome = report.outcomes ∧
      ∀ before declaration after missing, declarations = before ++ declaration :: after →
        report.outcomes[before.length]? =
          some ⟨declaration.name, .error (.resolve (.referenceNotFound missing))⟩ →
        ∃ remark, remarks[before.length]? = some remark ∧
          Explained report.outcomes before declaration after missing remark.closing := by
  obtain ⟨attempts, state, _, rfl, course, _⟩ :=
    build_course backend context declarations start diagnostics
  obtain ⟨exports, _, _, hbuild, _, hentries⟩ := entries_build course diagnostics
  rw [hbuild]
  intro report log
  have houtcomes : report.outcomes = attempts.map (Attempt.outcome context) := rfl
  refine ⟨allRemarks context [] attempts, hentries, ?_, ?_⟩
  · rw [map_outcome_allRemarks, houtcomes]
  intro before declaration after missing hsplit hmissing
  obtain ⟨earlier, rest, rfl, rfl, hrest⟩ := List.map_eq_append_iff.mp hsplit
  obtain ⟨attempted, later, rfl, rfl, rfl⟩ := List.map_eq_cons_iff.mp hrest
  rw [List.length_map] at hmissing ⊢
  refine ⟨_, getElem?_allRemarks_length context earlier attempted later, ?_⟩
  rw [houtcomes] at hmissing ⊢
  -- the declaration is the one of the attempt, and its outcome that of the attempt
  have hresult : (attempted.outcome context).result =
      .error (.resolve (.referenceNotFound missing)) := by
    have houtcome : attempted.outcome context =
        ⟨attempted.declaration.name, .error (.resolve (.referenceNotFound missing))⟩ := by
      simpa using hmissing
    rw [houtcome]
  constructor
  · intro explanation
    rw [remarksOn, hresult, closingMessage_referenceNotFound, String.append_right_inj,
      Explanation.missingReferenceHint_eq_iff]
  · intro i other hother hname
    exact course.failed_of_referenceNotFound hresult hother hname

/-- Three declarations refer to `main`, which is the second of them. -/
example :
    let context : Context := ⟨"core", "shop", "dev", "eu-west-1", []⟩
    let args : Object := [("vpc_id", .string "ref:main")]
    let declarations : List Declaration :=
      [⟨"a", "subnet.Subnet", args, none, false⟩, ⟨"main", "vpc.Vpc", args, none, false⟩,
        ⟨"b", "subnet.Subnet", args, none, false⟩]
    (build Stack.backend context declarations { region := "eu-west-1" } {}).2.2.errors.map
        Diagnostic.message =
      [notFoundMessage declarations[0] "main" ++ Explanation.later.text "main",
        notFoundMessage declarations[1] "main" ++ Explanation.itself.text "main",
        notFoundMessage declarations[2] "main" ++ Explanation.failed.text "main"] := by
  decide +kernel

end StackSynth
