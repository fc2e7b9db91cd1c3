import StackSynth.CommandLine.FileTree
import StackSynth.Proofs.Build.Journal
import StackSynth.Proofs.Build.Outputs
import StackSynth.Proofs.CommandLine.Options

namespace StackSynth

/-- Building a configuration into a fresh stack gives a report, a stack and messages. -/
def Configuration.BuildsTo (configuration : Configuration) (report : BuildReport) (stack : Stack)
    (diagnostics : Diagnostics) : Prop :=
  ∃ empty, Stack.new configuration.context.region = .ok empty ∧
    build Stack.backend configuration.context configuration.declarations empty {} =
      (report, stack, diagnostics)

namespace Configuration

variable {configuration : Configuration} {report : BuildReport} {stack : Stack}
  {diagnostics : Diagnostics}

/-- What is built into a fresh stack is published, each resource under its own name. -/
theorem BuildsTo.failedExports (h : configuration.BuildsTo report stack diagnostics) :
    report.failedExports = [] := by
  obtain ⟨empty, hnew, hbuild⟩ := h
  -- no output is taken in a fresh stack, and every resource on a stack has an `id`
  have hempty : empty.outputs = [] := by rw [(Stack.new_eq_ok_iff.mp hnew).2]
  obtain ⟨attempts, state, noted, _, course, hcourse⟩ :=
    build_course_stack configuration.context configuration.declarations hempty {}
  obtain rfl : _ = report := (Prod.mk.inj (hcourse.symm.trans hbuild)).1
  apply List.filter_eq_nil_iff.mpr
  intro published hpublished
  simp only [List.map_map, List.mem_map, Function.comp_apply] at hpublished
  obtain ⟨⟨name, handle⟩, hhandle, rfl⟩ := hpublished
  obtain ⟨block, _, _, hisFor⟩ := course.exists_block (.new hnew) hhandle
  rw [result_publicationOf hisFor]
  simp [failed]

theorem BuildsTo.names (h : configuration.BuildsTo report stack diagnostics) :
    report.outcomes.map Outcome.name = configuration.declarations.map Declaration.name := by
  obtain ⟨empty, _, hbuild⟩ := h
  obtain ⟨attempts, state, noted, hmap, _, hcourse⟩ :=
    build_course Stack.backend configuration.context configuration.declarations empty {}
  obtain rfl : _ = report := (Prod.mk.inj (hcourse.symm.trans hbuild)).1
  rw [← hmap, List.map_map, List.map_map]
  rfl

theorem BuildsTo.errors (h : configuration.BuildsTo report stack diagnostics) :
    diagnostics.errors.map Diagnostic.subject = report.failures.map (some ·.name) := by
  have hexports := h.failedExports
  obtain ⟨empty, _, hbuild⟩ := h
  exact map_subject_errors_build hbuild hexports

end Configuration

namespace CommandLine

def Log.IsOff (log : Log) : Prop :=
  ∀ severity, log.shows severity = false

theorem Log.IsOff.text_eq {log : Log} (h : log.IsOff) (entries : List Diagnostic) :
    log.text entries = "" := by
  have hnone : entries.filter (log.shows ·.severity) = [] := by
    simp [h _]
  rw [Log.text, hnone]
  rfl

section Synth

variable {log : Log} {configuration : Configuration} {report : BuildReport} {stack : Stack}
  {diagnostics : Diagnostics} {format : Format}

end Synth

end CommandLine

end StackSynth
