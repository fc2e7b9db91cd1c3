import StackSynth.Proofs.Build.OnStack
import StackSynth.Proofs.Build.Standing
import StackSynth.Proofs.Stack.Tokens

namespace StackSynth

def stackAfter (context : Context) (declarations : List Declaration) (stack : Stack) (count : Nat) :
    Stack :=
  (buildAll Stack.backend context [] (declarations.take count) ⟨stack, {}, {}⟩).2.state

/-- The declaration at a place of a build has recorded a construct. -/
structure RecordedAt (context : Context) (declarations : List Declaration) (stack : Stack) (i : Nat)
    (block : Block) : Prop where
  new : block.label ∉ (stackAfter context declarations stack i).labels
  recorded : block ∈ (stackAfter context declarations stack (i + 1)).listing

theorem publishAll_outputs (handles : List (String × Handle)) (stack : Stack) :
    ∃ outputs, (publishAll Stack.backend handles stack).2 = { stack with outputs } := by
  refine publishAll_invariant (P := fun state => ∃ outputs, state = { stack with outputs })
    handles ?_ ⟨stack.outputs, rfl⟩
  rintro resource _ value _ state ⟨outputs, rfl⟩
  change ∃ outputs, (Stack.publish (outputName resource.1) value _).2 = { stack with outputs }
  rw [Stack.publish_eq]
  split
  · exact ⟨outputs, rfl⟩
  · exact ⟨_, rfl⟩

theorem Stack.listing_withOutputs (stack : Stack) (outputs : Entries Value) :
    ({ stack with outputs } : Stack).listing = stack.listing := rfl

theorem Stack.listing_publishAll (handles : List (String × Handle)) (stack : Stack) :
    (publishAll Stack.backend handles stack).2.listing = stack.listing := by
  obtain ⟨outputs, houtputs⟩ := publishAll_outputs handles stack
  rw [houtputs, listing_withOutputs]

variable {context : Context} {start state : Stack} {attempts : List Attempt}

theorem Stack.Reachable.publishAll {stack : Stack} (reachable : stack.Reachable)
    (handles : List (String × Handle)) :
    (StackSynth.publishAll Stack.backend handles stack).2.Reachable :=
  publishAll_invariant handles (fun _ _ value _ _ h => h.publish _ value) reachable

namespace Course

theorem reachable (course : Course Stack.backend context start attempts state)
    (h : start.Reachable) : state.Reachable := by
  induction course with
  | nil => exact h
  | @snoc attempts state after declaration deed _ hattempt ih =>
    obtain ⟨_, _, _, rfl⟩ | ⟨_, _, _, _, rfl⟩ | ⟨args, answer, _, _, hask, _⟩ :=
      attempt_cases hattempt
    · exact ih
    · exact ih
    · have hnext := ih.materialize declaration.kind (declaration.request context args)
      rw [hask] at hnext
      exact hnext

theorem stackAfter_eq (course : Course Stack.backend context start attempts state)
    {declarations : List Declaration} {count : Nat}
    (h : declarations.take count = attempts.map Attempt.declaration) :
    stackAfter context declarations start count = state := by
  obtain ⟨noted, hall⟩ := course.buildAll_eq
  rw [stackAfter, h, hall]

/-- An attempt that built a resource has recorded what its arguments resolve to. -/
theorem record_of_built {earlier later : List Attempt} {attempted : Attempt}
    (course : Course Stack.backend context start (earlier ++ attempted :: later) state)
    (hbuilt : attempted.built = true) :
    ∃ before args entry, Course Stack.backend context start earlier before ∧
      Course Stack.backend context start (earlier ++ [attempted])
        (before.record attempted.declaration.kind entry.terraformType
          (attempted.declaration.request context args)) ∧
      (resolveEntries (builtBy earlier) attempted.declaration.plainArgs).result = .ok args ∧
      attempted.declaration.catalogEntry = .ok entry ∧ attempted.name ∉ before.names ∧
      attempted.deed = .asked (attempted.declaration.request context args)
        (.ok (attempted.declaration.construct entry).handle) := by
  obtain ⟨before, after, hearlier, hattempt⟩ := course.split
  obtain ⟨hhandle, _⟩ | ⟨args, entry, hargs, hentry, _, hnew, hdeed, rfl⟩ :=
    Stack.attempt_cases hattempt
  · simp [Attempt.built, hhandle] at hbuilt
  · exact ⟨before, args, entry, hearlier, hearlier.snoc hattempt, hargs, hentry, hnew, hdeed⟩

/-- A declaration that was built has recorded a construct for its resolved arguments, under a label
that nothing had; its handle is the one of the construct, and the construct stays. -/
theorem recordedAt (course : Course Stack.backend context start attempts state)
    (hstart : start.Reachable) {i : Nat} {attempted : Attempt} (hi : attempts[i]? = some attempted)
    (hbuilt : attempted.built = true) :
    ∃ args block handle,
      (resolveEntries (builtBy (attempts.take i)) attempted.declaration.plainArgs).result =
        .ok args ∧
      block.kind = attempted.declaration.kind ∧ block.label = attempted.name ∧
      block.body = Stack.bodyOf (attempted.declaration.request context args) ∧
      attempted.deed.handle? = some handle ∧ handle.IsFor block ∧
      RecordedAt context (attempts.map Attempt.declaration) start i block ∧
      block ∈ state.listing := by
  obtain ⟨hlt, hget⟩ := List.getElem?_eq_some_iff.mp hi
  have hsplit : attempts = attempts.take i ++ attempted :: attempts.drop (i + 1) := by
    rw [← hget, ← List.drop_eq_getElem_cons hlt, List.take_append_drop]
  have hcourse := course
  rw [hsplit] at hcourse
  obtain ⟨before, args, entry, hearlier, hnext, hargs, hentry, hnew, hdeed⟩ :=
    hcourse.record_of_built hbuilt
  have hbefore : stackAfter context (attempts.map Attempt.declaration) start i = before :=
    hearlier.stackAfter_eq (List.map_take).symm
  have htake : (attempts.map Attempt.declaration).take (i + 1) =
      (attempts.take i ++ [attempted]).map Attempt.declaration := by
    rw [← List.map_take, List.take_add_one, hi, Option.toList_some]
  have hafter := hnext.stackAfter_eq htake
  have hisFor : (attempted.declaration.construct entry).handle.IsFor
      ⟨attempted.declaration.kind, entry.terraformType, attempted.name,
        Stack.bodyOf (attempted.declaration.request context args)⟩ :=
    ⟨entry, Catalog.mem_entries_of_resolve hentry, rfl, rfl⟩
  have hhandle : attempted.deed.handle? = some (attempted.declaration.construct entry).handle := by
    rw [hdeed]
    rfl
  refine ⟨args, _, _, hargs, rfl, rfl, rfl, hhandle, hisFor, ⟨?_, ?_⟩, ?_⟩
  · rw [hbefore]
    intro hmem
    exact hnew ((hearlier.reachable hstart).tidy.mem_names_iff.mpr hmem)
  · rw [hafter]
    apply ((hnext.reachable hstart).tidy.body?_eq_some_iff).mp
    rw [Stack.body?_record]
    exact if_pos ⟨rfl, rfl, rfl⟩
  · apply ((course.reachable hstart).tidy.body?_eq_some_iff).mp
    apply (course.body?_eq_some_iff hstart.tidy.labelled).mpr
    have hrecorded : attempted.recorded? = some (attempted.declaration.kind, entry.terraformType,
        attempted.name, Stack.bodyOf (attempted.declaration.request context args)) := by
      simp only [Attempt.recorded?, hdeed, hentry]
    exact Or.inr ⟨attempted, List.mem_of_getElem? hi, hrecorded⟩

theorem exists_of_mem_handles (course : Course Stack.backend context start attempts state)
    (hstart : start.Reachable) {i : Nat} {name : String} {handle : Handle}
    (h : (name, handle) ∈ (builtBy (attempts.take i)).handles) :
    ∃ j < i, ∃ attempted block, attempts[j]? = some attempted ∧ attempted.name = name ∧
      attempted.built = true ∧ block.label = name ∧ handle.IsFor block ∧
      RecordedAt context (attempts.map Attempt.declaration) start j block ∧
      block ∈ state.listing := by
  obtain ⟨attempted, hattempted, hentry⟩ := List.mem_filterMap.mp h
  obtain ⟨found, hfound, heq⟩ := Option.map_eq_some_iff.mp hentry
  obtain ⟨rfl, rfl⟩ := Prod.mk.inj heq
  obtain ⟨j, hj⟩ := List.mem_iff_getElem?.mp hattempted
  rw [List.getElem?_take] at hj
  obtain ⟨hlt, hj⟩ := Option.ite_none_right_eq_some.mp hj
  have hbuilt : attempted.built = true := by simp [Attempt.built, hfound]
  obtain ⟨args, block, handle, _, _, hlabel, _, hhandle, hisFor, hrecorded, hmem⟩ :=
    course.recordedAt hstart hj hbuilt
  rw [hfound] at hhandle
  obtain rfl := Option.some.inj hhandle
  exact ⟨j, hlt, attempted, block, hj, rfl, hbuilt, hlabel, hisFor, hrecorded, hmem⟩

end Course

theorem Stack.Reachable.build {stack : Stack} (reachable : stack.Reachable) (context : Context)
    (declarations : List Declaration) (diagnostics : Diagnostics) :
    (StackSynth.build Stack.backend context declarations stack diagnostics).2.1.Reachable := by
  obtain ⟨attempts, state, noted, _, course, hbuild⟩ :=
    build_course Stack.backend context declarations stack diagnostics
  rw [hbuild]
  exact (course.reachable reachable).publishAll _

end StackSynth
