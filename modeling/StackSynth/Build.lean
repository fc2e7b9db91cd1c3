import StackSynth.Naming
import StackSynth.Resolution
/-!
Building declarations one after another. Each one has its markers replaced, gets its identifier and
its tags, and is handed to the backend; one that fails is reported and left out, and the others are
still built. At the end the `id` of every resource is published as an output.
-/
namespace StackSynth

inductive Stage where
  | pending
  | argsResolved
  | typeMapped
  | materialized
  | registered
  | exported
deriving DecidableEq, Repr

def Stage.word : Stage → String
  | pending => "pending"
  | argsResolved => "args-resolved"
  | typeMapped => "type-mapped"
  | materialized => "materialized"
  | registered => "registered"
  | exported => "exported"

inductive DeclarationError where
  | resolve (cause : ResolveError)
  | backend (cause : BackendError)
  | alreadyRegistered
deriving DecidableEq, Repr

namespace DeclarationError

def message : DeclarationError → String
  | resolve _ => "Unable to resolve arguments"
  | backend _ => "Unable to materialize resource"
  | alreadyRegistered => "A resource with this name was already built"

def causes : DeclarationError → List String
  | resolve cause => cause.message :: cause.causes
  | backend cause => [cause.message]
  | alreadyRegistered => []

/-- The stage that was not reached. -/
def stage : DeclarationError → Stage
  | resolve _ => .argsResolved
  | backend _ => .materialized
  | alreadyRegistered => .registered

end DeclarationError

inductive ExportError where
  | unidentified (cause : AttributeError)
  | rejected (cause : BackendError)
deriving DecidableEq, Repr

namespace ExportError

def message : ExportError → String
  | unidentified _ => "Identifying attribute is not available"
  | rejected _ => "Output was rejected"

def causes : ExportError → List String
  | unidentified cause => [cause.message]
  | rejected cause => [cause.message]

end ExportError

/-- An error and what led to it, in one line. -/
def chainText (message : String) (causes : List String) : String :=
  ": ".intercalate (message :: causes)

structure Materialized where
  identifier : String
  type : ResourceType
  /-- Whether it was looked up. -/
  existing : Bool
deriving DecidableEq, Repr

structure Outcome where
  name : String
  result : Except DeclarationError Materialized

structure Export where
  /-- The name of the declaration. -/
  name : String
  output : String
  result : Except ExportError Value

/-- What a build did: the fate of each declaration in order, then of each output, and the resources
that were built. -/
structure BuildReport where
  outcomes : List Outcome
  exports : List Export
  registry : Registry

def failed {ε α : Type} : Except ε α → Bool
  | .error _ => true
  | .ok _ => false

namespace BuildReport

/-- The fate of the first declaration of a name. -/
def outcome? (report : BuildReport) (name : String) : Option Outcome :=
  report.outcomes.find? (·.name = name)

def failures (report : BuildReport) : List Outcome :=
  report.outcomes.filter (failed ·.result)

def failedExports (report : BuildReport) : List Export :=
  report.exports.filter (failed ·.result)

def isSuccess (report : BuildReport) : Bool :=
  report.failures.isEmpty && report.failedExports.isEmpty

end BuildReport

def tagsArgument : String := "tags"

/-- Arguments with the tags of the context, if the type takes tags and the arguments bring none. -/
def withTags (context : Context) (type : ResourceType) (args : Object) : Object :=
  if type.supportsTags ∧ ¬ Entries.has args tagsArgument then
    match context.defaultTags? with
    | some tags => Entries.insert args tagsArgument tags
    | none => args
  else args

namespace Declaration

def identifier (context : Context) (declaration : Declaration) : String :=
  declaration.customName.getD (context.generateName declaration.name)

def kind (declaration : Declaration) : BlockKind :=
  if declaration.isExisting then .dataSource else .resource

/-- What the backend is asked for, once the arguments are resolved. -/
def request (context : Context) (declaration : Declaration) (args : Object) : Request :=
  let type := ResourceType.ofTag declaration.type
  ⟨declaration.name, declaration.identifier context, type, withTags context type args⟩

def materialized (context : Context) (declaration : Declaration) : Materialized :=
  ⟨declaration.identifier context, ResourceType.ofTag declaration.type, declaration.isExisting⟩

end Declaration

structure Progress (σ : Type) where
  state : σ
  registry : Registry
  diagnostics : Diagnostics

/-- Builds one declaration against the resources built before. -/
def buildDeclaration {σ : Type} (backend : Backend σ) (context : Context)
    (declaration : Declaration) (progress : Progress σ) :
    Except DeclarationError Materialized × Progress σ :=
  let resolution := resolveEntries progress.registry declaration.plainArgs
  let progress :=
    { progress with diagnostics := progress.diagnostics.warnAll resolution.warnings }
  match resolution.result with
  | .error e => (.error (.resolve e), progress)
  | .ok args =>
    if progress.registry.has declaration.name then (.error .alreadyRegistered, progress)
    else
      let (answer, state) := backend.materialize declaration.kind
        (declaration.request context args) progress.state
      let progress := { progress with state }
      match answer with
      | .error e => (.error (.backend e), progress)
      | .ok handle =>
        match progress.registry.register declaration.name handle with
        | .error _ => (.error .alreadyRegistered, progress)
        | .ok registry => (.ok (declaration.materialized context), { progress with registry })

/-- Why a resource is not there for a declaration that stands between others. -/
def missingReferenceHint (missing : String) (before : List Declaration) (declaration : Declaration)
    (after : List Declaration) : String :=
  if declaration.name = missing then " (a resource cannot reference itself)"
  else if after.any (·.name = missing) then
    s!" ('{missing}' is declared later, references must point to earlier resources)"
  else if before.any (·.name = missing) then s!" ('{missing}' failed to build)"
  else ""

def closingMessage (before : List Declaration) (declaration : Declaration)
    (after : List Declaration) : Except DeclarationError Materialized → Severity × String
  | .ok built =>
    let deed := if built.existing then "Created data source for" else "Created resource"
    (.info, s!"{deed}: {built.identifier} ({declaration.type})")
  | .error e =>
    let hint := match e with
      | .resolve (.referenceNotFound missing) =>
        missingReferenceHint missing before declaration after
      | _ => ""
    let chain := chainText e.message e.causes
    (.error, s!"Error creating resource of type '{declaration.type}': {chain}{hint}")

/-- Builds one declaration which stands between others, and logs about it. -/
def buildStep {σ : Type} (backend : Backend σ) (context : Context) (before : List Declaration)
    (declaration : Declaration) (after : List Declaration) (progress : Progress σ) :
    Outcome × Progress σ :=
  let diagnostics := progress.diagnostics.setSubject declaration.name
  let (result, progress) :=
    buildDeclaration backend context declaration { progress with diagnostics }
  let (severity, message) := closingMessage before declaration after result
  let diagnostics := (progress.diagnostics.log severity message).clearSubject
  (⟨declaration.name, result⟩, { progress with diagnostics })

/-- Builds the declarations behind those of `before`. -/
def buildAll {σ : Type} (backend : Backend σ) (context : Context) (before : List Declaration) :
    List Declaration → Progress σ → List Outcome × Progress σ
  | [], progress => ([], progress)
  | declaration :: after, progress =>
    let (outcome, progress) := buildStep backend context before declaration after progress
    let (outcomes, progress) :=
      buildAll backend context (before ++ [declaration]) after progress
    (outcome :: outcomes, progress)

def outputName (name : String) : String :=
  "output_" ++ name

def exportOne {σ : Type} (backend : Backend σ) (name : String) (handle : Handle) (state : σ) :
    Except ExportError Value × σ :=
  match handle.id with
  | .error e => (.error (.unidentified e), state)
  | .ok value =>
    let (answer, state) := backend.publish (outputName name) value state
    match answer with
    | .error e => (.error (.rejected e), state)
    | .ok () => (.ok value, state)

/-- Publishes the resources of a list in order, and logs the failures. -/
def exportAll {σ : Type} (backend : Backend σ) :
    List (String × Handle) → σ → Diagnostics → List Export × σ × Diagnostics
  | [], state, diagnostics => ([], state, diagnostics)
  | (name, handle) :: rest, state, diagnostics =>
    let (result, state) := exportOne backend name handle state
    let diagnostics := match result with
      | .ok _ => diagnostics
      | .error e =>
        let chain := chainText e.message e.causes
        diagnostics.error s!"Failed to export resource '{name}': {chain}"
    let (exports, state, diagnostics) := exportAll backend rest state diagnostics
    (⟨name, outputName name, result⟩ :: exports, state, diagnostics)

/-- Builds declarations in order, then publishes the resources that were built. -/
def build {σ : Type} (backend : Backend σ) (context : Context) (declarations : List Declaration)
    (state : σ) (diagnostics : Diagnostics) : BuildReport × σ × Diagnostics :=
  let (outcomes, progress) :=
    buildAll backend context [] declarations ⟨state, {}, diagnostics⟩
  let (exports, state, diagnostics) :=
    exportAll backend progress.registry.handles progress.state progress.diagnostics
  (⟨outcomes, exports, progress.registry⟩, state, diagnostics)

end StackSynth
