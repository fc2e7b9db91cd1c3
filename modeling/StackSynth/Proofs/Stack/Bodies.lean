import StackSynth.Proofs.Build.Recording

namespace StackSynth

namespace Entries

variable {α : Type}

theorem insertAll_eq_append {entries more : Entries α} (distinct : (keys more).Nodup)
    (h : ∀ key ∈ keys more, key ∉ keys entries) : insertAll entries more = entries ++ more := by
  induction more generalizing entries with
  | nil => exact (List.append_nil entries).symm
  | cons entry rest ih =>
    obtain ⟨key, value⟩ := entry
    obtain ⟨hkey, hrest⟩ := List.nodup_cons.mp distinct
    have hnew : key ∉ keys entries := h key List.mem_cons_self
    have hothers : ∀ other ∈ keys rest, other ∉ keys (entries ++ [(key, value)]) := by
      intro other hother
      have hne : other ≠ key := fun e => hkey (e ▸ hother)
      simpa [keys, hne] using h other (List.mem_cons_of_mem _ hother)
    calc
      insertAll (insert entries key value) rest = insertAll (entries ++ [(key, value)]) rest := by
        rw [insert_of_notMem value hnew]
      _ = entries ++ [(key, value)] ++ rest := ih hrest hothers
      _ = entries ++ (key, value) :: rest := List.append_cons .. |>.symm

/-- An entry keeps its place, with the last value that its key is given. -/
theorem insertAll_cons (key : String) (value : α) (table : Entries α) {more : Entries α}
    (distinct : (keys more).Nodup) :
    insertAll ((key, value) :: table) more =
      (key, (find? more key).getD value) :: insertAll table (erase more key) := by
  induction more generalizing value table with
  | nil => rfl
  | cons entry rest ih =>
    obtain ⟨other, content⟩ := entry
    obtain ⟨hother, hrest⟩ := List.nodup_cons.mp distinct
    by_cases hkey : key = other
    · subst hkey
      have hnone : find? rest key = none := (find?_eq_none_iff _ _).mpr hother
      have hinsert : insert ((key, value) :: table) key content = (key, content) :: table :=
        if_pos rfl
      have herase : erase ((key, content) :: rest) key = erase rest key := by simp [erase]
      rw [herase, find?, if_pos rfl]
      change insertAll (insert _ _ _) _ = _
      rw [hinsert, ih content table hrest, hnone]
      rfl
    · have hne : other ≠ key := fun e => hkey e.symm
      have hinsert : insert ((key, value) :: table) other content =
          (key, value) :: insert table other content := if_neg hkey
      have herase : erase ((other, content) :: rest) key =
          (other, content) :: erase rest key := by simp [erase, hne]
      rw [herase, find?, if_neg hne]
      change insertAll (insert _ _ _) _ = _
      rw [hinsert, ih value _ hrest]
      rfl

theorem erase_of_notMem {entries : Entries α} {key : String} (h : key ∉ keys entries) :
    erase entries key = entries := by
  refine List.filter_eq_self.mpr fun entry hentry => ?_
  have hne : entry.1 ≠ key := fun e => h (e ▸ List.mem_map_of_mem hentry)
  simpa using hne

end Entries

namespace Stack

/-- A stack that further calls lead to from a stack. -/
inductive LeadsTo (stack : Stack) : Stack → Prop where
  | refl : LeadsTo stack stack
  | create {later : Stack} (request : Request) :
      LeadsTo stack later → LeadsTo stack (Stack.backend.create request later).2
  | lookup {later : Stack} (request : Request) :
      LeadsTo stack later → LeadsTo stack (Stack.backend.lookup request later).2
  | publish {later : Stack} (output : String) (value : Value) :
      LeadsTo stack later → LeadsTo stack (Stack.backend.publish output value later).2

/-- What a body must be that is recorded for a request. -/
structure Keeps (request : Request) (body : Object) : Prop where
  /-- The metadata comes first, then the arguments come in their order. -/
  eq_cons : commentKey ∉ Entries.keys request.args →
    body = ("//", .object [("metadata", .object [
      ("identifier", .string request.identifier),
      ("type", .string request.type.display)])]) :: request.args
  /-- An argument with the key of the metadata takes its place. -/
  eq_cons_erase : ∀ value, Entries.find? request.args commentKey = some value →
    body = ("//", value) :: Entries.erase request.args commentKey

theorem bodyOf_eq {request : Request} (distinct : (Entries.keys request.args).Nodup) :
    bodyOf request =
      (commentKey, (Entries.find? request.args commentKey).getD (metadata request)) ::
        Entries.erase request.args commentKey := by
  have hdistinct : (Entries.keys (Entries.erase request.args commentKey)).Nodup := by
    rw [Entries.keys_erase]
    exact distinct.filter _
  rw [bodyOf, Entries.insertAll_cons _ _ _ distinct,
    Entries.insertAll_eq_append hdistinct (by simp [Entries.keys]), List.nil_append]

theorem keeps_bodyOf {request : Request} (distinct : (Entries.keys request.args).Nodup) :
    Keeps request (bodyOf request) where
  eq_cons := by
    intro h
    have hnone : Entries.find? request.args commentKey = none :=
      (Entries.find?_eq_none_iff _ _).mpr h
    rw [bodyOf_eq distinct, hnone, Entries.erase_of_notMem h]
    rfl
  eq_cons_erase := by
    intro value h
    rw [bodyOf_eq distinct, h]
    rfl

variable {stack later : Stack} {kind : BlockKind} {terraformType label : String} {body : Object}

theorem Labelled.body?_insert (labelled : stack.Labelled) (other : BlockKind) (request : Request)
    (h : stack.body? kind terraformType label = some body) :
    (insert other request stack).2.body? kind terraformType label = some body := by
  obtain hafter | ⟨entry, hnew, hafter⟩ := insert_state_cases other request stack
  · rw [hafter, h]
  · -- the label of the body is taken, the name of the request is not
    have hlabel : label ≠ request.name := fun e => hnew (e ▸ labelled _ _ _ _ h)
    rw [hafter, body?_record, if_neg fun hsame => hlabel hsame.2.2, h]

theorem body?_publish (output : String) (value : Value) (stack : Stack) :
    (publish output value stack).2.body? kind terraformType label =
      stack.body? kind terraformType label := by
  rw [publish_eq]
  split
  · rfl
  · exact body?_withOutputs ..

namespace LeadsTo

theorem reachable (leads : stack.LeadsTo later) (h : stack.Reachable) : later.Reachable := by
  induction leads with
  | refl => exact h
  | create request _ ih => exact ih.create request
  | lookup request _ ih => exact ih.lookup request
  | publish output value _ ih => exact ih.publish output value

theorem materialize (leads : stack.LeadsTo later) (kind : BlockKind) (request : Request) :
    stack.LeadsTo (Stack.backend.materialize kind request later).2 := by
  cases kind with
  | resource => exact leads.create request
  | dataSource => exact leads.lookup request

theorem body?_eq_some (leads : stack.LeadsTo later) (reachable : stack.Reachable)
    (h : stack.body? kind terraformType label = some body) :
    later.body? kind terraformType label = some body := by
  induction leads with
  | refl => exact h
  | create request leads ih =>
    exact (leads.reachable reachable).tidy.labelled.body?_insert .resource request ih
  | lookup request leads ih =>
    exact (leads.reachable reachable).tidy.labelled.body?_insert .dataSource request ih
  | publish output value _ ih => exact (body?_publish output value _).trans ih

end LeadsTo

/-- The attempts of a build are calls, as far as they get to ask. -/
theorem leadsTo_of_course {context : Context} {attempts : List Attempt}
    (course : Course Stack.backend context stack attempts later) : stack.LeadsTo later := by
  induction course with
  | nil => exact .refl
  | @snoc attempts state after declaration deed _ hattempt ih =>
    obtain ⟨_, _, _, rfl⟩ | ⟨_, _, _, _, rfl⟩ | ⟨args, answer, _, _, hask, _⟩ :=
      StackSynth.attempt_cases hattempt
    · exact ih
    · exact ih
    · have hnext := ih.materialize declaration.kind (declaration.request context args)
      rw [hask] at hnext
      exact hnext

theorem LeadsTo.trans {last : Stack} (leads : stack.LeadsTo later) (h : later.LeadsTo last) :
    stack.LeadsTo last := by
  induction h with
  | refl => exact leads
  | create request _ ih => exact ih.create request
  | lookup request _ ih => exact ih.lookup request
  | publish output value _ ih => exact ih.publish output value

theorem LeadsTo.build (leads : stack.LeadsTo later) (context : Context)
    (declarations : List Declaration) (diagnostics : Diagnostics) :
    stack.LeadsTo (build Stack.backend context declarations later diagnostics).2.1 := by
  obtain ⟨attempts, state, noted, _, course, hbuild⟩ :=
    build_course Stack.backend context declarations later diagnostics
  have hstate : stack.LeadsTo state := leads.trans (leadsTo_of_course course)
  rw [hbuild]
  exact publishAll_invariant _ (fun _ _ value _ _ h => h.publish _ value) hstate

/-- Whatever calls and builds come after, what was recorded for a request is there and keeps it. -/
theorem Reachable.body_kept (reachable : stack.Reachable) {request : Request} {handle : Handle}
    (distinct : (Entries.keys request.args).Nodup)
    (h : (Stack.backend.materialize kind request stack).1 = .ok handle)
    (leads : (Stack.backend.materialize kind request stack).2.LeadsTo later) :
    ∃ entry body, Catalog.builtin.resolve kind request.type = .ok entry ∧
      later.body? kind entry.terraformType request.name = some body ∧ Keeps request body := by
  have hreachable := reachable.materialize kind request
  rw [materialize_backend] at h leads hreachable
  obtain ⟨entry, hentry, _, _, hafter⟩ := insert_eq_ok h
  have hrecorded : (insert kind request stack).2.body? kind entry.terraformType request.name =
      some (bodyOf request) := by
    rw [hafter, body?_record, if_pos ⟨rfl, rfl, rfl⟩]
  exact ⟨entry, bodyOf request, hentry, leads.body?_eq_some hreachable hrecorded,
    keeps_bodyOf distinct⟩

/-- A network, after it was asked for once more under its name and a build added a subnet. -/
theorem body_kept_network :
    let network : Request :=
      ⟨"main", "core-main", ⟨"vpc", "Vpc"⟩, [("cidr_block", .string "10.0.0.0/16")]⟩
    let context : Context := ⟨"core", "shop", "dev", "eu-west-1", []⟩
    let subnet : Declaration := ⟨"inner", "subnet.Subnet", [], none, false⟩
    let stack : Stack := { region := "eu-west-1" }
    let first := (Stack.backend.materialize .resource network stack).2
    let second := (Stack.backend.lookup network first).2
    let later := (build Stack.backend context [subnet] second {}).2.1
    stack.Reachable ∧ (Entries.keys network.args).Nodup ∧
      (∃ handle, (Stack.backend.materialize .resource network stack).1 = .ok handle) ∧
      first.LeadsTo later ∧
      ∃ entry body, Catalog.builtin.resolve .resource network.type = .ok entry ∧
        later.body? .resource entry.terraformType "main" = some body ∧ Keeps network body := by
  intro network context subnet stack first second later
  have hnew : Stack.new "eu-west-1" = .ok stack := by rfl
  have hkeys : (Entries.keys network.args).Nodup := by decide
  obtain ⟨handle, hok⟩ :
      ∃ handle, (Stack.backend.materialize .resource network stack).1 = .ok handle := ⟨_, rfl⟩
  have hleads : first.LeadsTo later := (LeadsTo.refl.lookup network).build context [subnet] {}
  exact ⟨.new hnew, hkeys, ⟨handle, hok⟩, hleads,
    (Reachable.new hnew).body_kept hkeys hok hleads⟩

/-- The metadata of a network is lost to an argument. -/
theorem body_not_kept :
    let network : Request := ⟨"main", "core-main", ⟨"vpc", "Vpc"⟩,
      [("//", .string "note"), ("cidr_block", .string "10.0.0.0/16")]⟩
    let stack : Stack := { region := "eu-west-1" }
    let later := (Stack.backend.create network stack).2
    stack.Reachable ∧ (Entries.keys network.args).Nodup ∧
      (∃ handle, (Stack.backend.create network stack).1 = .ok handle) ∧
      later.body? .resource "aws_vpc" "main" = some network.args ∧
      Entries.find? network.args "//" ≠ some (.object [("metadata", .object [
        ("identifier", .string network.identifier),
        ("type", .string network.type.display)])]) := by
  intro network stack later
  have hnew : Stack.new "eu-west-1" = .ok stack := by rfl
  have hkeys : (Entries.keys network.args).Nodup := by decide
  exact ⟨.new hnew, hkeys, ⟨_, rfl⟩, rfl, by simp [network, Entries.find?]⟩

end Stack

end StackSynth
