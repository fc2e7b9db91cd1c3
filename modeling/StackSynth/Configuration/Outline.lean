import StackSynth.Configuration.Basic
import StackSynth.Decimal.Layout
import StackSynth.Text.Quoted

namespace StackSynth

/-- What a listing shows. -/
inductive Outline where
  | text (s : String)
  /-- A name and what it is applied to. -/
  | call (name : String) (content : Outline)
  | record (name : String) (fields : List (String × Outline))
  | list (items : List Outline)
  /-- Entries whose keys are shown in quotes. -/
  | table (entries : List (String × Outline))

namespace Outline

def newLine (depth : Nat) : String :=
  String.ofList ('\n' :: List.replicate (4 * depth) ' ')

mutual

/-- The text of an outline that starts at a depth. -/
def render (depth : Nat) : Outline → String
  | text s => s
  | call name content =>
    name ++ "(" ++ newLine (depth + 1) ++ render (depth + 1) content ++ "," ++ newLine depth ++ ")"
  | record name fields => name ++ " \x7b" ++ renderFields depth fields ++ newLine depth ++ "\x7d"
  | list [] => "[]"
  | list (item :: rest) =>
    "[" ++ newLine (depth + 1) ++ render (depth + 1) item ++ "," ++ renderItems depth rest
      ++ newLine depth ++ "]"
  | table [] => "\x7b\x7d"
  | table ((key, value) :: rest) =>
    "\x7b" ++ newLine (depth + 1) ++ Text.quoted key ++ ": " ++ render (depth + 1) value ++ ","
      ++ renderEntries depth rest ++ newLine depth ++ "\x7d"
termination_by structural outline => outline

def renderFields (depth : Nat) : List (String × Outline) → String
  | [] => ""
  | (name, value) :: rest =>
    newLine (depth + 1) ++ name ++ ": " ++ render (depth + 1) value ++ ","
      ++ renderFields depth rest
termination_by structural fields => fields

def renderItems (depth : Nat) : List Outline → String
  | [] => ""
  | item :: rest =>
    newLine (depth + 1) ++ render (depth + 1) item ++ "," ++ renderItems depth rest
termination_by structural items => items

def renderEntries (depth : Nat) : List (String × Outline) → String
  | [] => ""
  | (key, value) :: rest =>
    newLine (depth + 1) ++ Text.quoted key ++ ": " ++ render (depth + 1) value ++ ","
      ++ renderEntries depth rest
termination_by structural entries => entries

end

def string (s : String) : Outline :=
  text (Text.quoted s)

mutual

def ofValue : Value → Outline
  | .null => text "Null"
  | .boolean b => call "Boolean" (text s!"{b}")
  | .integer n => call "Integer" (text s!"{n}")
  | .decimal d => call "Decimal" (text (d.render Decimal.listingLayout))
  | .string s => call "String" (string s)
  | .array items => call "Array" (list (ofItems items))
  | .object entries => call "Object" (table (ofEntries entries))
termination_by structural value => value

def ofItems : List Value → List Outline
  | [] => []
  | item :: rest => ofValue item :: ofItems rest
termination_by structural items => items

def ofEntries : List (String × Value) → List (String × Outline)
  | [] => []
  | (key, value) :: rest => (key, ofValue value) :: ofEntries rest
termination_by structural entries => entries

end

def ofOption : Option Outline → Outline
  | none => text "None"
  | some content => call "Some" content

def ofContext (context : Context) : Outline :=
  record "OrganizationalContext" [
    ("team", string context.team),
    ("service", string context.service),
    ("environment", string context.environment),
    ("region", string context.region),
    ("tags", table (ofEntries context.tags))]

def ofDeclaration (declaration : Declaration) : Outline :=
  record "ResourceDeclaration" [
    ("name", string declaration.name),
    ("resource_type", string declaration.type),
    ("args", table (ofEntries declaration.args)),
    ("custom_name", ofOption (declaration.customName.map string)),
    ("existing", text s!"{declaration.existing}")]

def ofConfiguration (configuration : Configuration) : Outline :=
  record "Configuration" [
    ("context", ofContext configuration.context),
    ("aws_resources", list (configuration.declarations.map ofDeclaration))]

end Outline

def Configuration.listing (configuration : Configuration) : String :=
  (Outline.ofConfiguration configuration).render 0

end StackSynth
