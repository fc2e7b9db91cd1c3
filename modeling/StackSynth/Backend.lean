import StackSynth.Catalog
import StackSynth.Marker
import StackSynth.Value.Basic

namespace StackSynth

inductive AttributeError where
  | missing (name : String)
  | invalidName (name : String)
deriving DecidableEq, Repr

def AttributeError.message : AttributeError → String
  | missing name => s!"Attribute '{name}' does not exist"
  | invalidName name => s!"'{name}' is not a valid attribute name"

/-- The default attribute, which identifies a resource. -/
def identify (direct? : String → Option Value) : Except AttributeError Value :=
  match direct? defaultAttribute with
  | some value => .ok value
  | none => .error (.missing defaultAttribute)

/-- What can be asked of a resource: attributes that its type has, and attributes by any name. A
backend may identify its resources in another way than by default. -/
structure Handle where
  direct? : String → Option Value
  byName : String → Except AttributeError Value
  id : Except AttributeError Value := identify direct?

inductive BackendError where
  | initialization (reason : String)
  | unknownType (unknown : UnknownType)
  | duplicateConstruct (name : String)
  | duplicateOutput (name : String)
deriving DecidableEq, Repr

def BackendError.message : BackendError → String
  | initialization reason => s!"Unable to initialize backend: {reason}"
  | unknownType unknown => unknown.message
  | duplicateConstruct name => s!"A construct named '{name}' already exists"
  | duplicateOutput name => s!"An output named '{name}' already exists"

/-- All that a backend needs to create or look up a resource. -/
structure Request where
  name : String
  identifier : String
  type : ResourceType
  args : Object
deriving Repr, Inhabited

structure Backend (σ : Type) where
  create : Request → σ → Except BackendError Handle × σ
  lookup : Request → σ → Except BackendError Handle × σ
  publish : String → Value → σ → Except BackendError Unit × σ

/-- Creates or looks up, as the kind says. -/
def Backend.materialize {σ : Type} (backend : Backend σ) (kind : BlockKind) (request : Request)
    (state : σ) : Except BackendError Handle × σ :=
  match kind with
  | .resource => backend.create request state
  | .dataSource => backend.lookup request state

inductive Call where
  | create (request : Request)
  | lookup (request : Request)
  | publish (output : String) (value : Value)
deriving Repr

/-- A backend that behaves as the given one and keeps a list of all calls, failing ones included. -/
def Backend.recorded {σ : Type} (backend : Backend σ) : Backend (σ × List Call) where
  create request state :=
    let (result, next) := backend.create request state.1
    (result, next, state.2 ++ [.create request])
  lookup request state :=
    let (result, next) := backend.lookup request state.1
    (result, next, state.2 ++ [.lookup request])
  publish output value state :=
    let (result, next) := backend.publish output value state.1
    (result, next, state.2 ++ [.publish output value])

end StackSynth
