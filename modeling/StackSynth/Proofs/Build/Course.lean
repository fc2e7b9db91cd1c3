import StackSynth.Proofs.Build.Attempt
import StackSynth.Proofs.Build.Publication
/-!
The course of a build without its messages: what was done about each declaration in turn, against
the resources built before it. Main statements: every build has exactly one course, each attempt of
which starts from what the earlier ones left, and its report and its final state are read off it.
-/
namespace StackSynth

/-- A build from a state: its attempts so far in order, and the state after them. -/
inductive Course {σ : Type} (backend : Backend σ) (context : Context) (start : σ) :
    List Attempt → σ → Prop where
  | nil : Course backend context start [] start
  | snoc {attempts : List Attempt} {state after : σ} {declaration : Declaration} {deed : Deed} :
      Course backend context start attempts state →
      attempt backend context (builtBy attempts) declaration state = (deed, after) →
      Course backend context start (attempts ++ [⟨declaration, deed⟩]) after

variable {σ : Type} {backend : Backend σ} {context : Context} {start : σ}

namespace Course

/-- An attempt starts from the resources and the state that the earlier ones left. -/
theorem split {earlier later : List Attempt} {attempted : Attempt} {state : σ}
    (course : Course backend context start (earlier ++ attempted :: later) state) :
    ∃ before after, Course backend context start earlier before ∧
      attempt backend context (builtBy earlier) attempted.declaration before =
        (attempted.deed, after) := by
  generalize hall : earlier ++ attempted :: later = attempts at course
  -- either the attempt is the last one, or it is one of the course before
  induction course generalizing later with
  | nil => simp at hall
  | @snoc attempts before after declaration deed course hattempt ih =>
    rcases List.eq_nil_or_concat later with rfl | ⟨later, last, rfl⟩
    · obtain ⟨rfl, hlast⟩ := List.append_inj' hall rfl
      obtain rfl := (List.cons.inj hlast).1
      exact ⟨before, after, course, hattempt⟩
    · rw [List.concat_eq_append, ← List.cons_append, ← List.append_assoc] at hall
      exact ih (List.append_inj' hall rfl).1

theorem unique {first second : List Attempt} {state other : σ}
    (one : Course backend context start first state)
    (two : Course backend context start second other)
    (h : first.map Attempt.declaration = second.map Attempt.declaration) :
    first = second ∧ state = other := by
  induction one generalizing second other with
  | nil =>
    cases two with
    | nil => exact ⟨rfl, rfl⟩
    | snoc => simp at h
  | snoc course hattempt ih =>
    cases two with
    | nil => simp at h
    | snoc course' hattempt' =>
      simp only [List.map_append, List.map_cons, List.map_nil] at h
      obtain ⟨hinit, hlast⟩ := List.append_inj' h rfl
      -- the last attempts start from the same resources and the same state
      obtain ⟨rfl, rfl⟩ := ih course' hinit
      obtain rfl := (List.cons.inj hlast).1
      obtain ⟨rfl, rfl⟩ := Prod.mk.inj (hattempt.symm.trans hattempt')
      exact ⟨rfl, rfl⟩

/-- The names of the resources are pairwise distinct: none is built twice. -/
theorem names_nodup {attempts : List Attempt} {state : σ}
    (course : Course backend context start attempts state) :
    (builtBy attempts).names.Nodup := by
  induction course with
  | nil => exact List.nodup_nil
  | @snoc attempts state after declaration deed _ hattempt ih =>
    rw [builtBy_snoc]
    split
    · next handle hhandle =>
      have hname : declaration.name ∉ (builtBy attempts).names := by
        obtain ⟨_, _, rfl, _⟩ | ⟨_, _, _, rfl, _⟩ | ⟨_, _, _, hname, _, _⟩ := attempt_cases hattempt
        · cases hhandle
        · cases hhandle
        · exact hname
      have hlast : Entries.keys [(declaration.name, handle)] = [declaration.name] := rfl
      rw [Registry.names, Entries.keys_append, hlast, List.nodup_append]
      refine ⟨ih, by simp, ?_⟩
      intro other hother name hmem
      rw [List.mem_singleton] at hmem
      rintro rfl
      exact hname (hmem ▸ hother)
    · exact ih

end Course

theorem buildAll_course (declarations before : List Declaration) (diagnostics : Diagnostics)
    {earlier : List Attempt} {state : σ}
    (course : Course backend context start earlier state) :
    ∃ attempts last noted, attempts.map Attempt.declaration = declarations ∧
      Course backend context start (earlier ++ attempts) last ∧
      buildAll backend context before declarations ⟨state, builtBy earlier, diagnostics⟩ =
        (attempts.map (Attempt.outcome context), ⟨last, builtBy (earlier ++ attempts), noted⟩) := by
  induction declarations generalizing before earlier state diagnostics with
  | nil => exact ⟨[], state, diagnostics, rfl, by simpa using course, by simp [buildAll]⟩
  | cons declaration after ih =>
    obtain ⟨deed, next, hattempt⟩ :
        ∃ deed next, attempt backend context (builtBy earlier) declaration state = (deed, next) :=
      ⟨_, _, rfl⟩
    obtain ⟨closed, hstep⟩ :
        ∃ closed, buildStep backend context before declaration after
            ⟨state, builtBy earlier, diagnostics⟩ =
          (Attempt.outcome context ⟨declaration, deed⟩,
            ⟨next, builtBy (earlier ++ [⟨declaration, deed⟩]), closed⟩) :=
      ⟨_, buildStep_eq before after diagnostics hattempt⟩
    -- the course grows by one attempt where the declarations lose their first one
    obtain ⟨attempts, last, noted, hmap, hcourse, hall⟩ :=
      ih (before ++ [declaration]) closed (course.snoc hattempt)
    refine ⟨⟨declaration, deed⟩ :: attempts, last, noted, by simp [hmap], ?_, ?_⟩
    · simpa using hcourse
    · simp [buildAll, hstep, hall]

/-- Every build has a course, from which its report and its final state are read off. -/
theorem build_course (backend : Backend σ) (context : Context) (declarations : List Declaration)
    (start : σ) (diagnostics : Diagnostics) :
    ∃ attempts state noted, attempts.map Attempt.declaration = declarations ∧
      Course backend context start attempts state ∧
      build backend context declarations start diagnostics =
        (⟨attempts.map (Attempt.outcome context),
            (publishAll backend (builtBy attempts).handles state).1.map Publication.toExport,
            builtBy attempts⟩,
          (publishAll backend (builtBy attempts).handles state).2, noted) := by
  obtain ⟨attempts, state, noted, hmap, hcourse, hall⟩ :=
    buildAll_course declarations [] diagnostics
      (Course.nil : Course backend context start [] start)
  obtain ⟨hexports, hstate⟩ :=
    exportAll_eq backend (builtBy attempts).handles state noted
  refine ⟨attempts, state,
    (exportAll backend (builtBy attempts).handles state noted).2.2, hmap, hcourse, ?_⟩
  -- a build starts with the registry of no attempts
  have hempty : ({} : Registry) = builtBy [] := rfl
  rw [build, hempty, hall]
  simp only [List.nil_append, hexports, hstate]

end StackSynth
