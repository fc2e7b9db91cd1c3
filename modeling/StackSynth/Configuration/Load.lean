import StackSynth.Configuration.Basic
import StackSynth.Configuration.Error
/-!
Documents as configurations. Missing keys of the root are reported before all else; then the
declarations are read, then the context, in the order of the document; names that are used twice
come last.
-/
namespace StackSynth

def requiredKeys : List String := ["team", "service", "environment", "region"]

def declarationsKey : String := "aws_resources"

namespace Document

def readString (document : Document) : Except ShapeError String :=
  match document.untagged with
  | string s => .ok s
  | other => .error (.wrongType (.of other) .string)

def readBoolean (document : Document) : Except ShapeError Bool :=
  match document.untagged with
  | boolean b => .ok b
  | other => .error (.wrongType (.of other) .boolean)

def readFieldName (document : Document) : Except ShapeError String :=
  match document.untagged with
  | string s => .ok s
  | other => .error (.wrongType (.of other) .fieldName)

/-- Reads a string or, from a bare `null`, nothing. -/
def readOptionalString : Document → Except ShapeError (Option String)
  | null => .ok none
  | document => document.readString.map some

def readEntries (object : Object) : List (Document × Document) → Except ShapeError Object
  | [] => .ok object
  | (key, content) :: rest => do
    let name ← key.readString
    let value ← content.toValue.mapError .value
    readEntries (Entries.insert object name value) rest

def readObject (document : Document) : Except ShapeError Object :=
  match document.untagged with
  | mapping entries => readEntries [] entries
  | other => .error (.wrongType (.of other) .mapping)

/-- Reads an object, which `null` leaves empty. -/
def readArgs (document : Document) : Except ShapeError Object :=
  match document.untagged with
  | null => .ok []
  | other => other.readObject

end Document

def setOnce {α : Type} (name : String) (field : Option α) (value : Except ShapeError α) :
    Except ShapeError (Option α) :=
  if field.isSome then .error (.duplicateField name) else value.map some

def required {α : Type} (name : String) : Option α → Except ShapeError α
  | some value => .ok value
  | none => .error (.missingField name)

/-- The fields of a declaration that were met so far. -/
structure DeclarationFields where
  name : Option String := none
  type : Option String := none
  args : Option Object := none
  customName : Option (Option String) := none
  existing : Option Bool := none

namespace DeclarationFields

/-- Takes in a field. Unknown fields are passed over. -/
def add (fields : DeclarationFields) (name : String) (content : Document) :
    Except ShapeError DeclarationFields :=
  match name with
  | "name" => (setOnce name fields.name content.readString).map ({ fields with name := · })
  | "type" => (setOnce name fields.type content.readString).map ({ fields with type := · })
  | "args" => (setOnce name fields.args content.readArgs).map ({ fields with args := · })
  | "custom_name" | "customName" =>
    (setOnce "custom_name" fields.customName content.readOptionalString).map
      ({ fields with customName := · })
  | "existing" =>
    (setOnce name fields.existing content.readBoolean).map ({ fields with existing := · })
  | _ => .ok fields

def addAll (fields : DeclarationFields) :
    List (Document × Document) → Except ShapeError DeclarationFields
  | [] => .ok fields
  | (key, content) :: rest => do
    let name ← key.readFieldName
    let fields ← fields.add name content
    fields.addAll rest

def declaration (fields : DeclarationFields) : Except ShapeError Declaration := do
  let name ← required "name" fields.name
  let type ← required "type" fields.type
  return ⟨name, type, fields.args.getD [], fields.customName.join, fields.existing.getD false⟩

end DeclarationFields

/-- Reads a declaration. `null` has no fields. -/
def Document.readDeclaration (document : Document) : Except ShapeError Declaration :=
  match document.untagged with
  | .mapping entries => do (← DeclarationFields.addAll {} entries).declaration
  | .null => DeclarationFields.declaration {}
  | other => .error (.wrongType (.of other) .declaration)

/-- Reads a list of declarations. `null` is an empty one. -/
def Document.readDeclarations (document : Document) : Except ShapeError (List Declaration) :=
  match document.untagged with
  | .sequence items => items.mapM Document.readDeclaration
  | .null => .ok []
  | other => .error (.wrongType (.of other) .sequence)

/-- Reads the declarations of a root whose other fields are kept for the context. Those must not
have tags. -/
def readResources (declarations : Option (List Declaration)) :
    List (Document × Document) → Except ShapeError (Option (List Declaration))
  | [] => .ok declarations
  | (key, content) :: rest => do
    let name ← key.readFieldName
    -- declarations are read where they stand: faults come in the order of the document
    if name = declarationsKey then
      let declarations ← setOnce name declarations content.readDeclarations
      readResources declarations rest
    else if content.hasTag then .error .taggedField
    else readResources declarations rest

structure ContextFields where
  team : Option String := none
  service : Option String := none
  environment : Option String := none
  region : Option String := none
  tags : Option Object := none

namespace ContextFields

def add (fields : ContextFields) (name : String) (content : Document) :
    Except ShapeError ContextFields :=
  match name with
  | "team" => (setOnce name fields.team content.readString).map ({ fields with team := · })
  | "service" =>
    (setOnce name fields.service content.readString).map ({ fields with service := · })
  | "environment" =>
    (setOnce name fields.environment content.readString).map ({ fields with environment := · })
  | "region" => (setOnce name fields.region content.readString).map ({ fields with region := · })
  | "tags" => (setOnce name fields.tags content.readObject).map ({ fields with tags := · })
  | _ => .ok fields

def addAll (fields : ContextFields) :
    List (Document × Document) → Except ShapeError ContextFields
  | [] => .ok fields
  | (key, content) :: rest => do
    let name ← key.readFieldName
    let fields ← fields.add name content
    fields.addAll rest

def context (fields : ContextFields) : Except ShapeError Context := do
  let team ← required "team" fields.team
  let service ← required "service" fields.service
  let environment ← required "environment" fields.environment
  let region ← required "region" fields.region
  return ⟨team, service, environment, region, fields.tags.getD []⟩

end ContextFields

def readRoot (entries : List (Document × Document)) : Except ShapeError Configuration := do
  let declarations ← readResources none entries
  let context ← (← ContextFields.addAll {} entries).context
  return ⟨context, declarations.getD []⟩

/-- The first name of a list that stands in it, or among `seen`, before. -/
def firstRepeated? (seen : List String) : List String → Option String
  | [] => none
  | name :: rest =>
    if seen.contains name then some name else firstRepeated? (seen ++ [name]) rest

/-- The configuration that a document is. -/
def Configuration.ofDocument : Document → Except ConfigurationError Configuration
  | .mapping entries =>
    match requiredKeys.find? fun key => !Document.hasKey entries key with
    | some key => .error (.missingKey key)
    | none =>
      match readRoot entries with
      | .error e => .error (.malformed e)
      | .ok configuration =>
        match firstRepeated? [] (configuration.declarations.map (·.name)) with
        | some name => .error (.duplicateDeclaration name)
        | none => .ok configuration
  | _ => .error .notAMapping

end StackSynth
