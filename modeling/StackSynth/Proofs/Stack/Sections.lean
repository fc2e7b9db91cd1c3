import StackSynth.Proofs.Stack.Reachable
import StackSynth.Proofs.Value.Decimals
import StackSynth.Stack.Render

namespace StackSynth

def Stack.outputSection (outputs : Entries Value) : Object :=
  outputs.map fun (name, value) => (name, .object (Stack.outputBody value))

theorem Blocks.toObject_injective : Function.Injective Blocks.toObject := by
  have hbodies : Function.Injective fun (entry : String × Object) =>
      (entry.1, Value.object entry.2) := by
    rintro ⟨name, body⟩ ⟨other, content⟩ h
    simpa using h
  refine Function.Injective.list_map ?_
  rintro ⟨type, constructs⟩ ⟨other, others⟩ h
  obtain ⟨rfl, htables⟩ := Prod.mk.inj h
  exact Prod.ext rfl (hbodies.list_map (Value.object.inj htables))

namespace Stack

theorem outputSection_injective : Function.Injective outputSection := by
  refine Function.Injective.list_map ?_
  rintro ⟨name, value⟩ ⟨other, content⟩ h
  simpa [outputBody] using h

/-- A section is told from what comes behind it, also if it is left out. -/
theorem sectionOf_append_inj {name : String} {content other more rest : Object}
    (hmore : name ∉ Entries.keys more) (hrest : name ∉ Entries.keys rest)
    (h : sectionOf name content ++ more = sectionOf name other ++ rest) :
    content = other ∧ more = rest := by
  cases content with
  | nil =>
    cases other with
    | nil => exact ⟨rfl, h⟩
    | cons entry entries =>
      obtain rfl : more = (name, .object (entry :: entries)) :: rest := h
      simp [Entries.keys] at hmore
  | cons entry entries =>
    cases other with
    | nil =>
      obtain rfl : (name, .object (entry :: entries)) :: more = rest := h
      simp [Entries.keys] at hrest
    | cons entry' entries' =>
      obtain ⟨hsection, htail⟩ := List.cons.inj h
      exact ⟨Value.object.inj (Prod.mk.inj hsection).2, htail⟩

theorem sectionOf_inj {name : String} {content other : Object}
    (h : sectionOf name content = sectionOf name other) : content = other := by
  have hnil : name ∉ Entries.keys ([] : Object) := List.not_mem_nil
  have happend : sectionOf name content ++ [] = sectionOf name other ++ [] := by rw [h]
  exact (sectionOf_append_inj hnil hnil happend).1

theorem notMem_keys_sectionOf {name other : String} (content : Object) (h : name ≠ other) :
    name ∉ Entries.keys (sectionOf other content) := by
  cases content <;> simp [sectionOf, Entries.keys, h]

/-- Stacks with the same configuration have recorded the same. -/
theorem eq_of_toValue_eq {one two : Stack} (h : one.toValue = two.toValue) :
    one.region = two.region ∧ one.data = two.data ∧ one.resources = two.resources ∧
      one.outputs = two.outputs := by
  have hentries := Value.object.inj h
  simp only [List.append_assoc, List.cons_append, List.nil_append, List.cons.injEq, true_and,
    Prod.mk.injEq, Value.object.injEq, Value.array.injEq, and_true, Value.string.injEq] at hentries
  obtain ⟨hregion, hsections⟩ := hentries
  -- no name of a section comes a second time behind it
  have hdata : ∀ content others, "data" ∉
      Entries.keys (sectionOf "resource" content ++ sectionOf "output" others) := by
    intro content others
    rw [Entries.keys_append, List.mem_append, not_or]
    exact ⟨notMem_keys_sectionOf content (by decide), notMem_keys_sectionOf others (by decide)⟩
  have hresource : ∀ others, "resource" ∉ Entries.keys (sectionOf "output" others) :=
    fun others => notMem_keys_sectionOf others (by decide)
  obtain ⟨hlookups, hrest⟩ := sectionOf_append_inj (hdata _ _) (hdata _ _) hsections
  obtain ⟨hresources, houtputs⟩ := sectionOf_append_inj (hresource _) (hresource _) hrest
  exact ⟨hregion, Blocks.toObject_injective hlookups, Blocks.toObject_injective hresources,
    outputSection_injective (sectionOf_inj houtputs)⟩

theorem entryDecimals_sectionOf (name : String) (content : Object) :
    entryDecimals (sectionOf name content) = entryDecimals content := by
  cases content with
  | nil => rfl
  | cons entry rest => simp [sectionOf, entryDecimals, Value.decimals]

end Stack

theorem Blocks.entryDecimals_toObject (blocks : Blocks) :
    entryDecimals blocks.toObject =
      blocks.constructs.flatMap fun construct => entryDecimals construct.2.2 := by
  have hbodies : ∀ table : Entries Object,
      entryDecimals (table.map fun entry => (entry.1, Value.object entry.2)) =
        table.flatMap fun entry => entryDecimals entry.2 := by
    intro table
    induction table with
    | nil => rfl
    | cons entry rest ih => simpa [entryDecimals, Value.decimals] using ih
  induction blocks with
  | nil => rfl
  | cons first rest ih =>
    obtain ⟨type, table⟩ := first
    have hobject : toObject ((type, table) :: rest) =
        (type, .object (table.map fun entry => (entry.1, .object entry.2))) :: toObject rest := rfl
    have hconstructs : constructs ((type, table) :: rest) =
        table.map (fun entry => (type, entry.1, entry.2)) ++ constructs rest := rfl
    rw [hobject, hconstructs, List.flatMap_append, List.flatMap_map, ← ih, ← hbodies]
    rfl

namespace Stack

theorem entryDecimals_outputSection (outputs : Entries Value) :
    entryDecimals (outputSection outputs) = outputs.flatMap fun output => output.2.decimals := by
  induction outputs with
  | nil => rfl
  | cons output rest ih =>
    have hhead : entryDecimals (outputBody output.2) = output.2.decimals := by
      simp [outputBody, entryDecimals]
    rw [List.flatMap_cons, ← ih, ← hhead]
    rfl

/-- The decimals of a configuration are those of the bodies and of the outputs. -/
theorem decimals_toValue (stack : Stack) :
    stack.toValue.decimals = (stack.listing.flatMap fun block => entryDecimals block.body) ++
      stack.outputs.flatMap fun output => output.2.decimals := by
  have hlisting : ∀ kind, ((stack.listingOf kind).flatMap fun block => entryDecimals block.body) =
      entryDecimals (stack.blocks kind).toObject := by
    intro kind
    rw [listingOf, List.flatMap_map, Blocks.entryDecimals_toObject]
    rfl
  have hdata : stack.blocks .dataSource = stack.data := rfl
  have hresources : stack.blocks .resource = stack.resources := rfl
  have houtputs : (stack.outputs.map fun (name, value) => (name, .object (outputBody value))) =
      outputSection stack.outputs := rfl
  rw [toValue, Value.decimals, houtputs, listing, List.flatMap_append, hlisting, hlisting, hdata,
    hresources, entryDecimals_append, entryDecimals_append, entryDecimals_append,
    entryDecimals_sectionOf, entryDecimals_sectionOf, entryDecimals_sectionOf,
    entryDecimals_outputSection]
  rfl

end Stack

end StackSynth
