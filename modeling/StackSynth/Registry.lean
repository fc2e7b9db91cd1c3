import StackSynth.Backend

namespace StackSynth

/-- The handles of the resources built so far. -/
structure Registry where
  handles : Entries Handle := []
deriving Inhabited

namespace Registry

def find? (registry : Registry) (name : String) : Option Handle :=
  Entries.find? registry.handles name

def has (registry : Registry) (name : String) : Bool :=
  Entries.has registry.handles name

/-- Adds a resource, or hands the handle back if its name is taken. -/
def register (registry : Registry) (name : String) (handle : Handle) : Except Handle Registry :=
  if registry.has name then .error handle else .ok ⟨registry.handles ++ [(name, handle)]⟩

def names (registry : Registry) : List String :=
  Entries.keys registry.handles

def size (registry : Registry) : Nat :=
  registry.handles.length

theorem has_iff_mem_names (registry : Registry) (name : String) :
    registry.has name = true ↔ name ∈ registry.names :=
  Entries.has_iff_mem_keys _ _

theorem find?_eq_none_iff (registry : Registry) (name : String) :
    registry.find? name = none ↔ name ∉ registry.names :=
  Entries.find?_eq_none_iff _ _

theorem mem_names_of_find? {registry : Registry} {name : String} {handle : Handle}
    (h : registry.find? name = some handle) : name ∈ registry.names := by
  rw [← registry.has_iff_mem_names]
  exact Option.isSome_iff_exists.mpr ⟨handle, h⟩

/-- What was found before a registration is found after it. -/
theorem find?_register {registry grown : Registry} {name other : String} {handle added : Handle}
    (hgrown : registry.register other added = .ok grown) (h : registry.find? name = some handle) :
    grown.find? name = some handle := by
  unfold register at hgrown
  split at hgrown
  · cases hgrown
  · obtain rfl := Except.ok.inj hgrown
    exact Entries.find?_append_of_eq_some h _

end Registry

end StackSynth
