import StackSynth.Proofs.Build.Course

namespace StackSynth

variable {σ : Type} {backend : Backend σ} {context : Context} {start : σ}

def registryAfter (backend : Backend σ) (context : Context) (declarations : List Declaration)
    (start : σ) (count : Nat) : Registry :=
  (buildAll backend context [] (declarations.take count) ⟨start, {}, {}⟩).2.registry

namespace Course

variable {attempts : List Attempt} {state : σ}

theorem take (course : Course backend context start attempts state) (count : Nat) :
    ∃ before, Course backend context start (attempts.take count) before := by
  by_cases hcount : count < attempts.length
  · have hsplit : attempts =
        attempts.take count ++ attempts[count] :: attempts.drop (count + 1) := by
      rw [← List.drop_eq_getElem_cons hcount, List.take_append_drop]
    rw [hsplit] at course
    obtain ⟨before, _, hearlier, _⟩ := course.split
    exact ⟨before, hearlier⟩
  · rw [List.take_of_length_le (by omega)]
    exact ⟨state, course⟩

theorem buildAll_eq (course : Course backend context start attempts state) :
    ∃ noted, buildAll backend context [] (attempts.map Attempt.declaration) ⟨start, {}, {}⟩ =
      (attempts.map (Attempt.outcome context), ⟨state, builtBy attempts, noted⟩) := by
  obtain ⟨others, last, noted, hmap, hcourse, hall⟩ :=
    buildAll_course (attempts.map Attempt.declaration) [] {}
      (Course.nil : Course backend context start [] start)
  -- the run is a course as well, and there is only one course for the declarations
  obtain ⟨rfl, rfl⟩ := course.unique hcourse hmap.symm
  exact ⟨noted, hall⟩

theorem registryAfter_eq (course : Course backend context start attempts state) (count : Nat) :
    registryAfter backend context (attempts.map Attempt.declaration) start count =
      builtBy (attempts.take count) := by
  obtain ⟨before, hearlier⟩ := course.take count
  obtain ⟨noted, hall⟩ := hearlier.buildAll_eq
  rw [registryAfter, ← List.map_take, hall]

end Course

end StackSynth
