import StackSynth.Stack.Basic

namespace StackSynth

namespace Blocks

/-- All constructs with their terraform types and their labels, in order. -/
def constructs (blocks : Blocks) : List (String × String × Object) :=
  blocks.flatMap fun table => table.2.map fun entry => (table.1, entry.1, entry.2)

theorem body?_add (blocks : Blocks) (terraformType name : String) (body : Object)
    (otherType label : String) :
    (blocks.add terraformType name body).body? otherType label =
      if otherType = terraformType ∧ label = name then some body
      else blocks.body? otherType label := by
  by_cases htype : otherType = terraformType
  · subst htype
    have hadd : (blocks.add otherType name body).body? otherType label = Entries.find?
        (Entries.insert ((Entries.find? blocks otherType).getD []) name body) label := by
      rw [body?, add, Entries.find?_insert_self, Option.bind_some]
    by_cases hlabel : label = name
    · subst hlabel
      rw [hadd, Entries.find?_insert_self, if_pos ⟨rfl, rfl⟩]
    · rw [hadd, Entries.find?_insert_of_ne _ _ hlabel, if_neg fun h => hlabel h.2, body?]
      cases Entries.find? blocks otherType with
      | none => rfl
      | some table => rfl
  · rw [if_neg fun h => htype h.1, body?, body?, add, Entries.find?_insert_of_ne _ _ htype]

/-- A new construct comes between the others, which keep their order. -/
theorem constructs_add_eq {blocks : Blocks} {terraformType name : String} (body : Object)
    (h : blocks.body? terraformType name = none) :
    ∃ before after, blocks.constructs = before ++ after ∧
      (blocks.add terraformType name body).constructs =
        before ++ (terraformType, name, body) :: after := by
  induction blocks with
  | nil => exact ⟨[], [], rfl, rfl⟩
  | cons table rest ih =>
    obtain ⟨type, labelled⟩ := table
    by_cases htype : type = terraformType
    · subst htype
      have hname : name ∉ Entries.keys labelled := by
        rw [← Entries.find?_eq_none_iff]
        simpa [body?, Entries.find?] using h
      have hadd : add ((type, labelled) :: rest) type name body =
          (type, labelled ++ [(name, body)]) :: rest := by
        simp only [add, Entries.find?, Entries.insert, if_pos, Option.getD_some,
          Entries.insert_of_notMem body hname]
      refine ⟨labelled.map fun entry => (type, entry.1, entry.2), constructs rest, rfl, ?_⟩
      rw [hadd]
      simp [constructs]
    · have hrest : body? rest terraformType name = none := by
        simpa [body?, Entries.find?, htype] using h
      have hadd : add ((type, labelled) :: rest) terraformType name body =
          (type, labelled) :: add rest terraformType name body := by
        simp only [add, Entries.find?, Entries.insert, if_neg htype]
      obtain ⟨before, after, hconstructs, hadded⟩ := ih hrest
      refine ⟨labelled.map (fun entry => (type, entry.1, entry.2)) ++ before, after, ?_, ?_⟩
      · rw [List.append_assoc, ← hconstructs]
        rfl
      · rw [hadd, List.append_assoc, ← hadded]
        rfl

theorem constructs_add {blocks : Blocks} {terraformType name : String} (body : Object)
    (h : blocks.body? terraformType name = none) :
    (blocks.add terraformType name body).constructs.Perm
      ((terraformType, name, body) :: blocks.constructs) := by
  obtain ⟨before, after, hconstructs, hadded⟩ := constructs_add_eq body h
  rw [hadded, hconstructs]
  exact List.perm_middle

end Blocks

namespace Stack

variable {stack after : Stack} {kind : BlockKind} {request : Request}

theorem new_eq_ok_iff {region : String} :
    Stack.new region = .ok stack ↔
      Text.trim region ≠ "" ∧ stack = { region := Text.trim region } := by
  unfold new
  by_cases h : Text.trim region = "" <;> simp [h, eq_comm]

theorem materialize_backend (kind : BlockKind) (request : Request) (stack : Stack) :
    Stack.backend.materialize kind request stack = insert kind request stack := by
  cases kind <;> rfl

/-- What can become of a request, and when. -/
theorem insert_cases {answer : Except BackendError Handle}
    (h : insert kind request stack = (answer, after)) :
    (∃ unknown, Catalog.builtin.resolve kind request.type = .error unknown ∧
      answer = .error (.unknownType unknown) ∧ after = stack) ∨
    (∃ entry, Catalog.builtin.resolve kind request.type = .ok entry ∧
      request.name ∈ stack.names ∧ answer = .error (.duplicateConstruct request.name) ∧
      after = stack) ∨
    (∃ entry, Catalog.builtin.resolve kind request.type = .ok entry ∧
      request.name ∉ stack.names ∧
      answer = .ok (Construct.mk
        (Construct.addressOf kind entry.terraformType request.name) entry).handle ∧
      after = stack.record kind entry.terraformType request) := by
  unfold insert at h
  cases hresolve : Catalog.builtin.resolve kind request.type with
  | error unknown =>
    rw [hresolve] at h
    obtain ⟨rfl, rfl⟩ := Prod.mk.inj h
    exact Or.inl ⟨unknown, rfl, rfl, rfl⟩
  | ok entry =>
    simp only [hresolve, List.contains_iff_mem] at h
    by_cases hname : request.name ∈ stack.names
    · rw [if_pos hname] at h
      obtain ⟨rfl, rfl⟩ := Prod.mk.inj h
      exact Or.inr (Or.inl ⟨entry, rfl, hname, rfl, rfl⟩)
    · rw [if_neg hname] at h
      obtain ⟨rfl, rfl⟩ := Prod.mk.inj h
      exact Or.inr (Or.inr ⟨entry, rfl, hname, rfl, rfl⟩)

theorem insert_state_cases (kind : BlockKind) (request : Request) (stack : Stack) :
    (insert kind request stack).2 = stack ∨
      ∃ entry : CatalogEntry, request.name ∉ stack.names ∧
        (insert kind request stack).2 = stack.record kind entry.terraformType request := by
  obtain ⟨_, _, _, hafter⟩ | ⟨_, _, _, _, hafter⟩ | ⟨entry, _, hnew, _, hafter⟩ :=
    insert_cases (Prod.eta (insert kind request stack)).symm
  · exact Or.inl hafter
  · exact Or.inl hafter
  · exact Or.inr ⟨entry, hnew, hafter⟩

theorem insert_eq_ok {handle : Handle} (h : (insert kind request stack).1 = .ok handle) :
    ∃ entry, Catalog.builtin.resolve kind request.type = .ok entry ∧
      request.name ∉ stack.names ∧
      handle = (Construct.mk
        (Construct.addressOf kind entry.terraformType request.name) entry).handle ∧
      (insert kind request stack).2 = stack.record kind entry.terraformType request := by
  obtain ⟨_, _, hanswer, _⟩ | ⟨_, _, _, hanswer, _⟩ | ⟨entry, hentry, hnew, hanswer, hafter⟩ :=
    insert_cases (Prod.eta (insert kind request stack)).symm
  · rw [hanswer] at h
    cases h
  · rw [hanswer] at h
    cases h
  · rw [hanswer] at h
    exact ⟨entry, hentry, hnew, (Except.ok.inj h).symm, hafter⟩

section Record

variable (stack : Stack) (kind : BlockKind) (terraformType : String) (request : Request)

@[simp] theorem names_record :
    (stack.record kind terraformType request).names = stack.names ++ [request.name] := by
  cases kind <;> rfl

@[simp] theorem outputs_record :
    (stack.record kind terraformType request).outputs = stack.outputs := by
  cases kind <;> rfl

@[simp] theorem region_record :
    (stack.record kind terraformType request).region = stack.region := by
  cases kind <;> rfl

theorem blocks_record (other : BlockKind) :
    (stack.record kind terraformType request).blocks other =
      if other = kind then (stack.blocks kind).add terraformType request.name (bodyOf request)
      else stack.blocks other := by
  cases kind <;> cases other <;> rfl

theorem body?_record (other : BlockKind) (otherType label : String) :
    (stack.record kind terraformType request).body? other otherType label =
      if other = kind ∧ otherType = terraformType ∧ label = request.name then
        some (bodyOf request)
      else stack.body? other otherType label := by
  rw [body?, blocks_record]
  by_cases hkind : other = kind
  · subst hkind
    rw [if_pos rfl, Blocks.body?_add, body?]
    simp only [true_and]
  · rw [if_neg hkind, if_neg fun h => hkind h.1, body?]

end Record

/-- The labels of all constructs are among the names of the stack. -/
def Labelled (stack : Stack) : Prop :=
  ∀ kind terraformType label body,
    stack.body? kind terraformType label = some body → label ∈ stack.names

theorem labelled_of_new {region : String} (h : Stack.new region = .ok stack) :
    stack.Labelled := by
  obtain ⟨_, rfl⟩ := new_eq_ok_iff.mp h
  intro kind terraformType label body hbody
  cases kind <;> simp [body?, blocks, Blocks.body?, Entries.find?] at hbody

theorem Labelled.body?_eq_none (labelled : stack.Labelled) {name : String}
    (h : name ∉ stack.names) (kind : BlockKind) (terraformType : String) :
    stack.body? kind terraformType name = none := by
  rw [Option.eq_none_iff_forall_ne_some]
  intro body hbody
  exact h (labelled _ _ _ _ hbody)

theorem Labelled.record (labelled : stack.Labelled) (kind : BlockKind) (terraformType : String)
    (request : Request) : (stack.record kind terraformType request).Labelled := by
  intro other otherType label body hbody
  rw [body?_record] at hbody
  rw [names_record, List.mem_append]
  split at hbody
  · next h => exact Or.inr (by simp [h.2.2])
  · exact Or.inl (labelled _ _ _ _ hbody)

@[simp] theorem blocks_withOutputs (stack : Stack) (outputs : Entries Value) (kind : BlockKind) :
    ({ stack with outputs } : Stack).blocks kind = stack.blocks kind := by
  cases kind <;> rfl

@[simp] theorem body?_withOutputs (stack : Stack) (outputs : Entries Value) (kind : BlockKind)
    (terraformType label : String) :
    ({ stack with outputs } : Stack).body? kind terraformType label =
      stack.body? kind terraformType label := by
  rw [body?, blocks_withOutputs, body?]

theorem publish_eq (name : String) (value : Value) (stack : Stack) :
    publish name value stack =
      if name ∈ Entries.keys stack.outputs then (.error (.duplicateOutput name), stack)
      else (.ok (), { stack with outputs := stack.outputs ++ [(name, value)] }) := by
  unfold publish
  simp only [Entries.has_iff_mem_keys]

end Stack

end StackSynth
