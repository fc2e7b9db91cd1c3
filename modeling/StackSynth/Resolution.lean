import StackSynth.Configuration.Basic
import StackSynth.Diagnostics
import StackSynth.Registry
import StackSynth.Value.Strings
/-!
Replacing the markers in a value. References see the resources built so far and nothing else. The
warnings come in the order of the walk, those before a failure included.
-/
namespace StackSynth

inductive ResolveError where
  | referenceNotFound (name : String)
  | unreadable (resource path : String) (cause : AttributeError)
deriving DecidableEq, Repr

namespace ResolveError

def message : ResolveError → String
  | referenceNotFound name => s!"Referenced resource '{name}' not found"
  | unreadable resource path _ => s!"Unable to read attribute '{path}' of resource '{resource}'"

def causes : ResolveError → List String
  | referenceNotFound _ => []
  | unreadable _ _ cause => [cause.message]

end ResolveError

/-- A result together with the warnings on the way to it. -/
structure Resolution (α : Type) where
  warnings : List String
  result : Except ResolveError α

namespace Resolution

variable {α β : Type}

def done (a : α) : Resolution α :=
  ⟨[], .ok a⟩

/-- Goes on with a result. A failure ends all. -/
def andThen (r : Resolution α) (next : α → Resolution β) : Resolution β :=
  match r.result with
  | .error e => ⟨r.warnings, .error e⟩
  | .ok a => ⟨r.warnings ++ (next a).warnings, (next a).result⟩

def map (f : α → β) (r : Resolution α) : Resolution β :=
  ⟨r.warnings, r.result.map f⟩

end Resolution

/-- The string that stands for a secret until it is read. -/
def secretPlaceholder (key : String) : String :=
  "$\x7b" ++ key ++ "\x7d"

namespace Marker

def resolve (registry : Registry) : Marker → Resolution Value
  | secret key =>
    ⟨[s!"Secret references like {key} are not fully implemented"],
      .ok (.string (secretPlaceholder key))⟩
  | reference resource path =>
    match registry.find? resource with
    | none => ⟨[], .error (.referenceNotFound resource)⟩
    | some handle =>
      match handle.direct? path with
      | some value => .done value
      | none =>
        ⟨[s!"Attribute '{path}' not found directly on resource '{resource}'"],
          (handle.byName path).mapError (.unreadable resource path)⟩

end Marker

def resolveString (registry : Registry) (s : String) : Resolution Value :=
  match Marker.parse? s with
  | some marker => marker.resolve registry
  | none => .done (.string s)

mutual

/-- A value with its markers replaced. -/
def Value.resolve (registry : Registry) : Value → Resolution Value
  | .string s => resolveString registry s
  | .array items => (resolveItems registry items).map .array
  | .object entries => (resolveEntries registry entries).map .object
  | .null => .done .null
  | .boolean b => .done (.boolean b)
  | .integer n => .done (.integer n)
  | .decimal d => .done (.decimal d)
termination_by structural value => value

def resolveItems (registry : Registry) : List Value → Resolution (List Value)
  | [] => .done []
  | item :: rest =>
    (item.resolve registry).andThen fun value =>
      (resolveItems registry rest).map (value :: ·)
termination_by structural items => items

def resolveEntries (registry : Registry) : List (String × Value) → Resolution Object
  | [] => .done []
  | (key, content) :: rest =>
    (content.resolve registry).andThen fun value =>
      (resolveEntries registry rest).map ((key, value) :: ·)
termination_by structural entries => entries

end

def addName (names : List String) (name : String) : List String :=
  if names.contains name then names else names ++ [name]

/-- The resources that strings refer to, each once, in order. -/
def referencedNames (strings : List String) : List String :=
  strings.foldl (fun names s => match Marker.parse? s with
    | some (.reference resource _) => addName names resource
    | _ => names) []

/-- The resources that a value refers to, each once, in the order of a walk. -/
def Value.references (value : Value) : List String :=
  referencedNames value.strings

def Declaration.references (declaration : Declaration) : List String :=
  referencedNames (entryStrings declaration.args)

end StackSynth
