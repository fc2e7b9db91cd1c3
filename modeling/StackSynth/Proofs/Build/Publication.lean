import StackSynth.Build

namespace StackSynth

/-- What is done to publish the output of a resource. -/
inductive Notice where
  | unidentified (cause : AttributeError)
  | asked (value : Value) (answer : Except BackendError Unit)

def Notice.result : Notice → Except ExportError Value
  | unidentified cause => .error (.unidentified cause)
  | asked _ (.error e) => .error (.rejected e)
  | asked value (.ok ()) => .ok value

/-- A resource and what was done to publish its output. -/
structure Publication where
  name : String
  handle : Handle
  notice : Notice

def Publication.toExport (publication : Publication) : Export :=
  ⟨publication.name, outputName publication.name, publication.notice.result⟩

variable {σ : Type} {backend : Backend σ}

def notice (backend : Backend σ) (name : String) (handle : Handle) (state : σ) : Notice × σ :=
  match handle.id with
  | .error e => (.unidentified e, state)
  | .ok value =>
    let (answer, after) := backend.publish (outputName name) value state
    (.asked value answer, after)

def publishAll (backend : Backend σ) : List (String × Handle) → σ → List Publication × σ
  | [], state => ([], state)
  | (name, handle) :: rest, state =>
    let (noticed, state) := notice backend name handle state
    let (publications, state) := publishAll backend rest state
    (⟨name, handle, noticed⟩ :: publications, state)

theorem exportOne_eq (name : String) (handle : Handle) (state : σ) :
    exportOne backend name handle state =
      ((notice backend name handle state).1.result, (notice backend name handle state).2) := by
  cases hid : handle.id with
  | error e => simp [exportOne, notice, hid, Notice.result]
  | ok value =>
    rcases hpublish : backend.publish (outputName name) value state with ⟨_ | _, after⟩ <;>
      simp [exportOne, notice, hid, hpublish, Notice.result]

theorem exportAll_eq (backend : Backend σ) (handles : List (String × Handle)) (state : σ)
    (diagnostics : Diagnostics) :
    (exportAll backend handles state diagnostics).1 =
        (publishAll backend handles state).1.map Publication.toExport ∧
      (exportAll backend handles state diagnostics).2.1 = (publishAll backend handles state).2 := by
  induction handles generalizing state diagnostics with
  | nil => exact ⟨rfl, rfl⟩
  | cons entry rest ih =>
    obtain ⟨name, handle⟩ := entry
    simp [exportAll, exportOne_eq, publishAll, ih, Publication.toExport]

/-- What the publication of each `id` keeps is kept by publishing all outputs. -/
theorem publishAll_invariant {P : σ → Prop} (handles : List (String × Handle))
    (h : ∀ resource ∈ handles, ∀ value, resource.2.id = .ok value →
      ∀ state, P state → P (backend.publish (outputName resource.1) value state).2)
    {state : σ} (hstate : P state) : P (publishAll backend handles state).2 := by
  induction handles generalizing state with
  | nil => exact hstate
  | cons resource rest ih =>
    obtain ⟨name, handle⟩ := resource
    have hnotice : P (notice backend name handle state).2 := by
      unfold notice
      split
      · exact hstate
      · next value hid => exact h _ List.mem_cons_self value hid _ hstate
    exact ih (fun other hother => h other (List.mem_cons_of_mem _ hother)) hnotice

end StackSynth
