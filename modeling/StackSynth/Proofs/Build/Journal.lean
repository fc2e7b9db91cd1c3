import StackSynth.Proofs.Build.Standing

namespace StackSynth

/-- What is logged about a declaration: the warnings of its arguments, then how it ended. -/
structure Remarks where
  outcome : Outcome
  warnings : List String
  closing : String

def Remarks.entries (remarks : Remarks) : List Diagnostic :=
  remarks.warnings.map (⟨.warning, some remarks.outcome.name, ·⟩) ++
    [⟨if failed remarks.outcome.result then .error else .info, some remarks.outcome.name,
      remarks.closing⟩]

/-- What is logged about an output: an error without a subject, if it was not published. -/
def Export.complaint? (output : Export) : Option Diagnostic :=
  match output.result with
  | .ok _ => none
  | .error e =>
    some ⟨.error, none,
      s!"Failed to export resource '{output.name}': {chainText e.message e.causes}"⟩

structure Journal {σ : Type} (backend : Backend σ) (context : Context)
    (declarations : List Declaration) (start : σ) (before : Diagnostics) (report : BuildReport)
    (after : Diagnostics) (remarks : List Remarks) : Prop where
  entries_eq : after.entries =
    before.entries ++ remarks.flatMap Remarks.entries ++ report.exports.filterMap Export.complaint?
  outcomes_eq : remarks.map Remarks.outcome = report.outcomes
  names_eq : report.outcomes.map Outcome.name = declarations.map Declaration.name
  /-- The warnings are those of the arguments against the resources built before, also if the
  arguments do not resolve in the end. -/
  warnings_eq : ∀ i declaration, declarations[i]? = some declaration →
    remarks[i]?.map Remarks.warnings = some (resolveEntries
      (registryAfter backend context declarations start i) declaration.plainArgs).warnings
  closing_eq : ∀ i declaration remark, declarations[i]? = some declaration →
    remarks[i]? = some remark → remark.closing = (closingMessage (declarations.take i) declaration
      (declarations.drop (i + 1)) remark.outcome.result).2
  exports_eq : report.exports.map Export.name = report.registry.names
  errors_length : after.errors.length =
    before.errors.length + report.failures.length + report.failedExports.length
  isSuccess_iff : before.errors = [] → (report.isSuccess = true ↔ after.errors = [])

def remarksOn (context : Context) (earlier : List Attempt) (attempted : Attempt)
    (later : List Attempt) : Remarks :=
  ⟨attempted.outcome context,
    (resolveEntries (builtBy earlier) attempted.declaration.plainArgs).warnings,
    (closingMessage (earlier.map Attempt.declaration) attempted.declaration
      (later.map Attempt.declaration) (attempted.outcome context).result).2⟩

def allRemarks (context : Context) (earlier : List Attempt) : List Attempt → List Remarks
  | [] => []
  | attempted :: later =>
    remarksOn context earlier attempted later :: allRemarks context (earlier ++ [attempted]) later

theorem closingMessage_severity (before : List Declaration) (declaration : Declaration)
    (after : List Declaration) (result : Except DeclarationError Materialized) :
    (closingMessage before declaration after result).1 =
      if failed result then .error else .info := by
  cases result <;> rfl

theorem map_outcome_allRemarks (context : Context) (earlier later : List Attempt) :
    (allRemarks context earlier later).map Remarks.outcome =
      later.map (Attempt.outcome context) := by
  induction later generalizing earlier with
  | nil => rfl
  | cons attempted later ih =>
    rw [allRemarks, List.map_cons, ih, List.map_cons]
    rfl

theorem getElem?_allRemarks (context : Context) (earlier : List Attempt) {later : List Attempt}
    {i : Nat} {attempted : Attempt} (h : later[i]? = some attempted) :
    (allRemarks context earlier later)[i]? =
      some (remarksOn context (earlier ++ later.take i) attempted (later.drop (i + 1))) := by
  induction later generalizing earlier i with
  | nil => cases h
  | cons first later ih =>
    cases i with
    | zero =>
      obtain rfl : first = attempted := by simpa using h
      simp [allRemarks]
    | succ i =>
      have hrest := ih (earlier ++ [first]) (by simpa using h)
      simpa [allRemarks] using hrest

theorem remarksOn_of_getElem? (context : Context) {attempts : List Attempt} {i : Nat}
    {declaration : Declaration} (h : (attempts.map Attempt.declaration)[i]? = some declaration) :
    ∃ attempted, Attempt.declaration attempted = declaration ∧
      (allRemarks context [] attempts)[i]? =
        some (remarksOn context (attempts.take i) attempted (attempts.drop (i + 1))) := by
  rw [List.getElem?_map, Option.map_eq_some_iff] at h
  obtain ⟨attempted, hattempted, hdeclaration⟩ := h
  have hremarks := getElem?_allRemarks context [] hattempted
  exact ⟨attempted, hdeclaration, hremarks⟩

variable {σ : Type} {backend : Backend σ} {context : Context} {start : σ}

/-- A step of a build appends the remarks on its declaration and leaves no subject behind. -/
theorem entries_buildStep {earlier : List Attempt} {declaration : Declaration} {deed : Deed}
    {state next : σ} (later : List Attempt) (diagnostics : Diagnostics)
    (h : attempt backend context (builtBy earlier) declaration state = (deed, next)) :
    ∃ closed, buildStep backend context (earlier.map Attempt.declaration) declaration
        (later.map Attempt.declaration) ⟨state, builtBy earlier, diagnostics⟩ =
        (Attempt.outcome context ⟨declaration, deed⟩,
          ⟨next, builtBy (earlier ++ [⟨declaration, deed⟩]), closed⟩) ∧
      closed.subject = none ∧ closed.entries =
        diagnostics.entries ++ (remarksOn context earlier ⟨declaration, deed⟩ later).entries := by
  refine ⟨_, buildStep_eq _ _ diagnostics h, Diagnostics.subject_clearSubject _, ?_⟩
  simp only [Diagnostics.entries_clearSubject, Diagnostics.entries_log, Diagnostics.subject_warnAll,
    Diagnostics.entries_warnAll, Diagnostics.entries_setSubject, Diagnostics.subject_setSubject,
    closingMessage_severity, List.append_assoc]
  rfl

theorem entries_buildAll {earlier later : List Attempt} {state last : σ} (diagnostics : Diagnostics)
    (course : Course backend context start earlier state)
    (whole : Course backend context start (earlier ++ later) last) :
    ∃ noted, buildAll backend context (earlier.map Attempt.declaration)
        (later.map Attempt.declaration) ⟨state, builtBy earlier, diagnostics⟩ =
        (later.map (Attempt.outcome context), ⟨last, builtBy (earlier ++ later), noted⟩) ∧
      (diagnostics.subject = none ∨ later ≠ [] → noted.subject = none) ∧ noted.entries =
        diagnostics.entries ++ (allRemarks context earlier later).flatMap Remarks.entries := by
  induction later generalizing earlier state diagnostics with
  | nil =>
    -- nothing is logged, so a subject from before the build may still be set
    rw [List.append_nil] at whole ⊢
    obtain ⟨_, rfl⟩ := course.unique whole rfl
    exact ⟨diagnostics, rfl, by simp, by simp [allRemarks]⟩
  | cons attempted later ih =>
    obtain ⟨declaration, deed⟩ := attempted
    -- the attempt starts where the earlier ones have ended
    obtain ⟨before, after, hearlier, hattempt⟩ := whole.split
    obtain ⟨_, rfl⟩ := course.unique hearlier rfl
    obtain ⟨closed, hstep, hclosed, hremarks⟩ := entries_buildStep later diagnostics hattempt
    rw [List.append_cons] at whole ⊢
    obtain ⟨noted, hall, hsubject, hentries⟩ := ih closed (course.snoc hattempt) whole
    refine ⟨noted, ?_, fun _ => hsubject (Or.inl hclosed), ?_⟩
    · rw [List.map_append] at hall
      simp only [List.map_cons, buildAll, hstep]
      exact congrArg (fun rest => (_ :: rest.1, rest.2)) hall
    · rw [hentries, hremarks, allRemarks, List.flatMap_cons, List.append_assoc]

/-- Publishing appends the complaints, which have no subject as none is set. -/
theorem entries_exportAll (backend : Backend σ) (handles : List (String × Handle)) (state : σ)
    (diagnostics : Diagnostics) (h : diagnostics.subject = none ∨ handles = []) :
    (exportAll backend handles state diagnostics).2.2.entries = diagnostics.entries ++
      (exportAll backend handles state diagnostics).1.filterMap Export.complaint? := by
  induction handles generalizing state diagnostics with
  | nil => simp [exportAll]
  | cons resource rest ih =>
    obtain ⟨name, handle⟩ := resource
    have hnone : diagnostics.subject = none := by simpa using h
    rcases hone : exportOne backend name handle state with ⟨e | value, after⟩
    · simp only [exportAll, hone]
      have hrest := ih after (diagnostics.error
        s!"Failed to export resource '{name}': {chainText e.message e.causes}") (Or.inl hnone)
      rw [Diagnostics.error, Diagnostics.entries_log, hnone, List.append_assoc] at hrest
      exact hrest
    · simp only [exportAll, hone]
      exact ih after _ (Or.inl hnone)

theorem map_name_exportAll (handles : List (String × Handle)) (state : σ)
    (diagnostics : Diagnostics) :
    (exportAll backend handles state diagnostics).1.map Export.name = Entries.keys handles := by
  induction handles generalizing state diagnostics with
  | nil => rfl
  | cons resource rest ih =>
    simp only [exportAll, List.map_cons, ih]
    rfl

section Errors

def errorsOf (entries : List Diagnostic) : List Diagnostic :=
  entries.filter (·.severity = .error)

theorem errorsOf_append (entries others : List Diagnostic) :
    errorsOf (entries ++ others) = errorsOf entries ++ errorsOf others :=
  List.filter_append ..

/-- Warnings aside, a declaration leaves an error exactly if it fails. -/
theorem map_subject_errorsOf_entries (remarks : Remarks) :
    (errorsOf remarks.entries).map Diagnostic.subject =
      if failed remarks.outcome.result then [some remarks.outcome.name] else [] := by
  have hwarnings :
      errorsOf (remarks.warnings.map (⟨.warning, some remarks.outcome.name, ·⟩)) = [] := by
    simp [errorsOf]
  rw [Remarks.entries, errorsOf_append, hwarnings]
  cases failed remarks.outcome.result <;> rfl

theorem map_subject_errorsOf_remarks (remarks : List Remarks) :
    (errorsOf (remarks.flatMap Remarks.entries)).map Diagnostic.subject =
      ((remarks.map Remarks.outcome).filter (failed ·.result)).map (some ·.name) := by
  induction remarks with
  | nil => rfl
  | cons first rest ih =>
    rw [List.flatMap_cons, errorsOf_append, List.map_append, map_subject_errorsOf_entries, ih,
      List.map_cons, List.filter_cons]
    split <;> rfl

theorem length_errorsOf_remarks (remarks : List Remarks) :
    (errorsOf (remarks.flatMap Remarks.entries)).length =
      ((remarks.map Remarks.outcome).filter (failed ·.result)).length := by
  simpa using congrArg List.length (map_subject_errorsOf_remarks remarks)

theorem length_errorsOf_complaints (exports : List Export) :
    (errorsOf (exports.filterMap Export.complaint?)).length =
      (exports.filter (failed ·.result)).length := by
  induction exports with
  | nil => rfl
  | cons first rest ih =>
    obtain ⟨name, output, e | value⟩ := first
    · simpa [Export.complaint?, failed, errorsOf] using ih
    · simpa [List.filterMap_cons, Export.complaint?, failed] using ih

theorem length_errors_of_entries {before after : Diagnostics} {remarks : List Remarks}
    {exports : List Export}
    (h : after.entries = before.entries ++ remarks.flatMap Remarks.entries ++
      exports.filterMap Export.complaint?) :
    after.errors.length = before.errors.length +
      ((remarks.map Remarks.outcome).filter (failed ·.result)).length +
      (exports.filter (failed ·.result)).length := by
  have herrors : ∀ diagnostics : Diagnostics,
    diagnostics.errors = errorsOf diagnostics.entries := fun _ => rfl
  rw [herrors, herrors, h, errorsOf_append, errorsOf_append, List.length_append,
    List.length_append, length_errorsOf_remarks, length_errorsOf_complaints]

end Errors

theorem BuildReport.isSuccess_iff (report : BuildReport) :
    report.isSuccess = true ↔ report.failures.length + report.failedExports.length = 0 := by
  simp [isSuccess]

/-- A build appends the remarks on its attempts, and then the complaints about its outputs. -/
theorem entries_build {attempts : List Attempt} {state : σ}
    (course : Course backend context start attempts state) (diagnostics : Diagnostics) :
    ∃ exports next after,
      build backend context (attempts.map Attempt.declaration) start diagnostics =
        (⟨attempts.map (Attempt.outcome context), exports, builtBy attempts⟩, next, after) ∧
      exports.map Export.name = (builtBy attempts).names ∧
      after.entries = diagnostics.entries ++
        (allRemarks context [] attempts).flatMap Remarks.entries ++
          exports.filterMap Export.complaint? := by
  obtain ⟨noted, hall, hsubject, hnoted⟩ := entries_buildAll diagnostics Course.nil course
  rw [List.nil_append] at hall
  -- a subject that is set at the start is gone, unless there is nothing to build
  have hclosed : noted.subject = none ∨ (builtBy attempts).handles = [] := by
    rcases attempts with _ | _
    · exact Or.inr rfl
    · exact Or.inl (hsubject (by simp))
  have hempty : ({} : Registry) = builtBy [] := rfl
  have hbuild : build backend context (attempts.map Attempt.declaration) start diagnostics =
      (⟨attempts.map (Attempt.outcome context),
        (exportAll backend (builtBy attempts).handles state noted).1, builtBy attempts⟩,
        (exportAll backend (builtBy attempts).handles state noted).2) := by
    rw [List.map_nil] at hall
    rw [build, hempty, hall]
  have hentries := entries_exportAll backend (builtBy attempts).handles state noted hclosed
  rw [hnoted] at hentries
  exact ⟨_, _, _, hbuild, map_name_exportAll _ _ _, hentries⟩

/-- If all outputs are published, the errors of a build are about the declarations that failed. -/
theorem map_subject_errors_build {declarations : List Declaration} {report : BuildReport}
    {next : σ} {after : Diagnostics}
    (h : build backend context declarations start {} = (report, next, after))
    (hexports : report.failedExports = []) :
    after.errors.map Diagnostic.subject = report.failures.map (some ·.name) := by
  obtain ⟨attempts, state, _, rfl, course, _⟩ :=
    build_course backend context declarations start {}
  obtain ⟨exports, _, last, hbuild, _, hentries⟩ := entries_build course {}
  obtain ⟨rfl, hrest⟩ := Prod.mk.inj (hbuild.symm.trans h)
  obtain rfl : after = last := (Prod.mk.inj hrest).2.symm
  have hcomplaints : errorsOf (exports.filterMap Export.complaint?) = [] := by
    rw [← List.length_eq_zero_iff, length_errorsOf_complaints, List.length_eq_zero_iff]
    exact hexports
  calc after.errors.map Diagnostic.subject
      = (errorsOf after.entries).map Diagnostic.subject := rfl
    _ = (errorsOf ((allRemarks context [] attempts).flatMap Remarks.entries)).map
          Diagnostic.subject := by
      rw [hentries, errorsOf_append, hcomplaints, List.append_nil]
      rfl
    _ = (((allRemarks context [] attempts).map Remarks.outcome).filter (failed ·.result)).map
          (some ·.name) := map_subject_errorsOf_remarks _
    _ = _ := by
      rw [map_outcome_allRemarks]
      rfl

/-- Whatever the backend does and whatever was logged before, a build appends the remarks on each
declaration in turn and then a complaint about each output that was not published. -/
theorem build_journal (backend : Backend σ) (context : Context) (declarations : List Declaration)
    (start : σ) (diagnostics : Diagnostics) :
    ∃ remarks, Journal backend context declarations start diagnostics
      (build backend context declarations start diagnostics).1
      (build backend context declarations start diagnostics).2.2 remarks := by
  obtain ⟨attempts, state, _, rfl, course, _⟩ :=
    build_course backend context declarations start diagnostics
  obtain ⟨exports, _, _, hbuild, hexports, hentries⟩ := entries_build course diagnostics
  rw [hbuild]
  have hlength := length_errors_of_entries hentries
  rw [map_outcome_allRemarks] at hlength
  refine ⟨allRemarks context [] attempts, ?_⟩
  exact
    { entries_eq := hentries
      outcomes_eq := map_outcome_allRemarks context [] attempts
      names_eq := by
        rw [List.map_map, List.map_map]
        rfl
      warnings_eq := by
        intro i declaration hi
        obtain ⟨attempted, rfl, hremarks⟩ := remarksOn_of_getElem? context hi
        rw [hremarks, course.registryAfter_eq]
        rfl
      closing_eq := by
        intro i declaration remark hi hremark
        obtain ⟨attempted, rfl, hremarks⟩ := remarksOn_of_getElem? context hi
        obtain rfl := Option.some.inj (hremark.symm.trans hremarks)
        rw [← List.map_take, ← List.map_drop]
        rfl
      exports_eq := hexports
      errors_length := hlength
      isSuccess_iff := by
        intro hbefore
        rw [BuildReport.isSuccess_iff, ← List.length_eq_zero_iff, hlength, hbefore,
          List.length_nil, Nat.zero_add]
        rfl }

end StackSynth
