import Mathlib.Data.List.Induction
import Mathlib.Data.List.Nodup
import StackSynth.Proofs.Build.OnStack

namespace StackSynth

def Precedes {α : Type} (list : List α) (a b : α) : Prop :=
  [a, b].Sublist list

/-- The same declarations with distinct names in two orders, which agree wherever one declaration
refers to another. -/
structure Reordered (first second : List Declaration) : Prop where
  perm : first.Perm second
  names_nodup : (first.map Declaration.name).Nodup
  order : ∀ a ∈ first, ∀ b ∈ first, b.name ∈ a.references →
    (Precedes first b a ↔ Precedes second b a)

/-- Two builds that differ in the order of their entries only. -/
structure SameButForOrder (one two : BuildReport) (stack other : Stack) : Prop where
  outcome_eq : ∀ name, one.outcome? name = two.outcome? name
  outcomes_perm : one.outcomes.Perm two.outcomes
  handle_eq : ∀ name, one.registry.find? name = two.registry.find? name
  export_eq : ∀ name, one.exports.find? (·.name = name) = two.exports.find? (·.name = name)
  exports_perm : one.exports.Perm two.exports
  region_eq : stack.region = other.region
  names_perm : stack.names.Perm other.names
  body_eq : ∀ kind terraformType label,
    stack.body? kind terraformType label = other.body? kind terraformType label
  constructs_perm : ∀ kind, (stack.blocks kind).constructs.Perm (other.blocks kind).constructs
  output_eq : ∀ output, Entries.find? stack.outputs output = Entries.find? other.outputs output
  outputs_perm : stack.outputs.Perm other.outputs

theorem precedes_append_cons {α : Type} {before after : List α} {a b : α}
    (h : (before ++ b :: after).Nodup) : Precedes (before ++ b :: after) a b ↔ a ∈ before := by
  have hb : b ∉ after := (List.nodup_cons.mp (List.nodup_append.mp h).2.1).1
  constructor
  · intro hsub
    have hpair : ([a] ++ [b]).Sublist (before ++ b :: after) := hsub
    obtain ⟨left, right, hsplit, ha, hright⟩ := List.append_sublist_iff.mp hpair
    rw [List.singleton_sublist] at ha hright
    obtain ⟨between, rfl, hafter⟩ | ⟨between, rfl, _⟩ := List.append_eq_append_iff.mp hsplit
    · -- only an empty rest leaves the one `b` there is to the right
      cases between with
      | nil => simpa using ha
      | cons c between =>
        obtain ⟨rfl, rfl⟩ := List.cons.inj hafter
        exact absurd (List.mem_append_right _ hright) hb
    · exact List.mem_append_left _ ha
  · intro ha
    have hpair : ([a] ++ [b]).Sublist (before ++ b :: after) :=
      (List.singleton_sublist.mpr ha).append (List.singleton_sublist.mpr List.mem_cons_self)
    exact hpair

theorem find?_key_eq_some_iff {α : Type} {key : α → String} {list : List α}
    (distinct : (list.map key).Nodup) {name : String} {a : α} :
    list.find? (key · = name) = some a ↔ a ∈ list ∧ key a = name := by
  constructor
  · intro h
    exact ⟨List.mem_of_find?_eq_some h, by simpa using List.find?_some h⟩
  · rintro ⟨ha, rfl⟩
    cases hfind : list.find? (key · = key a) with
    | none =>
      have hkey := List.find?_eq_none.mp hfind a ha
      simp at hkey
    | some b =>
      have hkey : key b = key a := by simpa using List.find?_some hfind
      rw [List.inj_on_of_nodup_map distinct (List.mem_of_find?_eq_some hfind) ha hkey]

theorem find?_key_eq_of_perm {α : Type} {key : α → String} {list other : List α}
    (h : list.Perm other) (distinct : (list.map key).Nodup) (name : String) :
    list.find? (key · = name) = other.find? (key · = name) := by
  have hdistinct : (other.map key).Nodup := ((h.map key).nodup_iff).mp distinct
  apply Option.ext
  intro a
  rw [find?_key_eq_some_iff distinct, find?_key_eq_some_iff hdistinct, h.mem_iff]

theorem find?_builtBy_congr {attempts others : List Attempt}
    (distinct : (builtBy attempts).names.Nodup) (distinct' : (builtBy others).names.Nodup)
    {name : String} (h : ∀ attempted : Attempt, attempted.name = name →
      (attempted ∈ attempts ↔ attempted ∈ others)) :
    (builtBy attempts).find? name = (builtBy others).find? name := by
  apply Option.ext
  intro handle
  rw [find?_builtBy_eq_some_iff distinct, find?_builtBy_eq_some_iff distinct']
  constructor
  · rintro ⟨attempted, hattempted, hname, hbuilt⟩
    exact ⟨attempted, (h attempted hname).mp hattempted, hname, hbuilt⟩
  · rintro ⟨attempted, hattempted, hname, hbuilt⟩
    exact ⟨attempted, (h attempted hname).mpr hattempted, hname, hbuilt⟩

theorem mem_iff_declaration_mem {attempts some : List Attempt} {attempted : Attempt}
    (hnames : (attempts.map Attempt.name).Nodup) (hsome : some ⊆ attempts)
    (hattempted : attempted ∈ attempts) :
    attempted ∈ some ↔ attempted.declaration ∈ some.map Attempt.declaration := by
  constructor
  · exact List.mem_map_of_mem
  · intro h
    obtain ⟨other, hother, hdeclaration⟩ := List.mem_map.mp h
    have hname : other.name = attempted.name := congrArg Declaration.name hdeclaration
    rwa [← List.inj_on_of_nodup_map hnames (hsome hother) hattempted hname]

theorem map_name (attempts : List Attempt) :
    attempts.map Attempt.name = (attempts.map Attempt.declaration).map Declaration.name := by
  rw [List.map_map]
  rfl

theorem precedes_iff_earlier {earlier later : List Attempt} {attempted : Attempt}
    (hnames : ((earlier ++ attempted :: later).map Attempt.name).Nodup) (b : Declaration) :
    Precedes ((earlier ++ attempted :: later).map Attempt.declaration) b attempted.declaration ↔
      b ∈ earlier.map Attempt.declaration := by
  rw [map_name] at hnames
  have hdistinct : ((earlier ++ attempted :: later).map Attempt.declaration).Nodup :=
    List.Nodup.of_map Declaration.name hnames
  rw [List.map_append, List.map_cons] at hdistinct ⊢
  exact precedes_append_cons hdistinct

namespace Reordered

theorem symm {first second : List Declaration} (h : Reordered first second) :
    Reordered second first where
  perm := h.perm.symm
  names_nodup := (h.perm.map Declaration.name).nodup_iff.mp h.names_nodup
  order := by
    intro a ha b hb hreference
    exact (h.order a (h.perm.mem_iff.mpr ha) b (h.perm.mem_iff.mpr hb) hreference).symm

/-- Two orders agree on what was attempted before a declaration, of what it refers to. -/
theorem mem_earlier_iff {earlier later before after : List Attempt}
    {attempted same other : Attempt}
    (h : Reordered ((earlier ++ attempted :: later).map Attempt.declaration)
      ((before ++ same :: after).map Attempt.declaration))
    (hsame : same.declaration = attempted.declaration)
    (hknown : earlier ⊆ before ++ same :: after) (hother : other ∈ before ++ same :: after)
    (hreferred : other.name ∈ attempted.declaration.references) :
    other ∈ earlier ↔ other ∈ before := by
  have hfirsts : ((earlier ++ attempted :: later).map Attempt.name).Nodup := by
    rw [map_name]
    exact h.names_nodup
  have hseconds : ((before ++ same :: after).map Attempt.name).Nodup := by
    rw [map_name]
    exact h.symm.names_nodup
  have hdeclared : other.declaration ∈ (earlier ++ attempted :: later).map Attempt.declaration :=
    h.perm.mem_iff.mpr (List.mem_map_of_mem hother)
  have horder := h.order attempted.declaration (List.mem_map_of_mem (by simp))
    other.declaration hdeclared hreferred
  rw [precedes_iff_earlier hfirsts, ← hsame, precedes_iff_earlier hseconds] at horder
  rw [mem_iff_declaration_mem hseconds hknown hother, horder,
    ← mem_iff_declaration_mem hseconds (List.subset_append_left _ _) hother]

end Reordered

section Courses

variable {context : Context} {start : Stack} {firsts seconds : List Attempt}
  {state other : Stack}

theorem Course.subset_of_reordered (one : Course Stack.backend context start firsts state)
    (two : Course Stack.backend context start seconds other) (hempty : start.names = [])
    (h : Reordered (firsts.map Attempt.declaration) (seconds.map Attempt.declaration)) :
    firsts ⊆ seconds := by
  have hfirsts : (firsts.map Attempt.name).Nodup := by
    rw [map_name]
    exact h.names_nodup
  have hseconds : (seconds.map Attempt.name).Nodup := by
    rw [map_name]
    exact h.symm.names_nodup
  have hnew : ∀ name : String, name ∉ start.names := by simp [hempty]
  suffices hprefix : ∀ earlier later, firsts = earlier ++ later → earlier ⊆ seconds from
    hprefix firsts [] (List.append_nil _).symm
  intro earlier
  -- the attempts before one are known to be the same when it is compared
  induction earlier using List.reverseRecOn with
  | nil => exact fun _ _ => List.nil_subset _
  | append_singleton earlier attempted ih =>
    intro later hsplit
    rw [List.append_assoc, List.singleton_append] at hsplit
    have hknown : earlier ⊆ seconds := ih _ hsplit
    subst hsplit
    have hdeclared : attempted.declaration ∈ seconds.map Attempt.declaration :=
      h.perm.mem_iff.mp (List.mem_map_of_mem (by simp))
    obtain ⟨same, hsame, hdeclaration⟩ := List.mem_map.mp hdeclared
    obtain ⟨before, after, rfl⟩ := List.append_of_mem hsame
    have hone : attempted.deed = verdict context (builtBy earlier) attempted.declaration :=
      one.deed_eq_verdict hfirsts (hnew _)
    have htwo : same.deed = verdict context (builtBy before) same.declaration :=
      two.deed_eq_verdict hseconds (hnew _)
    -- both attempts see the same resources under the names they refer to
    have hseen : ∀ name ∈ attempted.declaration.references,
        (builtBy earlier).find? name = (builtBy before).find? name := by
      intro name hreference
      obtain ⟨_, _, hearlier, _⟩ := one.split
      obtain ⟨_, _, hbefore, _⟩ := two.split
      apply find?_builtBy_congr hearlier.names_nodup hbefore.names_nodup
      rintro other rfl
      constructor
      · intro hother
        exact (h.mem_earlier_iff hdeclaration hknown (hknown hother) hreference).mp hother
      · intro hother
        have hmem : other ∈ before ++ same :: after := List.mem_append_left _ hother
        exact (h.mem_earlier_iff hdeclaration hknown hmem hreference).mpr hother
    have hdeed : attempted.deed = same.deed := by
      rw [hone, htwo, hdeclaration, verdict_congr context _ hseen]
    have heq : attempted = same := by
      cases attempted
      cases same
      cases hdeclaration
      cases hdeed
      rfl
    refine List.append_subset.mpr ⟨hknown, ?_⟩
    rw [heq]
    simp

/-- Two orders that keep references lead to the same attempts. -/
theorem Course.perm_of_reordered (one : Course Stack.backend context start firsts state)
    (two : Course Stack.backend context start seconds other) (hempty : start.names = [])
    (h : Reordered (firsts.map Attempt.declaration) (seconds.map Attempt.declaration)) :
    firsts.Perm seconds := by
  have hforth : firsts ⊆ seconds := one.subset_of_reordered two hempty h
  have hback : seconds ⊆ firsts := two.subset_of_reordered one hempty h.symm
  have hfirsts : firsts.Nodup := (h.names_nodup.of_map _).of_map _
  have hseconds : seconds.Nodup := (h.symm.names_nodup.of_map _).of_map _
  exact (List.perm_ext_iff_of_nodup hfirsts hseconds).mpr
    fun attempted => ⟨@hforth _, @hback _⟩

end Courses

/-- Declarations with distinct names may be built in every order that keeps those apart of which one
refers to the other: on a fresh stack, each of them has the same outcome, the same body and the same
output. -/
theorem build_reordered {first second : List Declaration} {region : String} {stack : Stack}
    (context : Context) (hstack : Stack.new region = .ok stack) (h : Reordered first second)
    (diagnostics others : Diagnostics) :
    let one := build Stack.backend context first stack diagnostics
    let two := build Stack.backend context second stack others
    SameButForOrder one.1 two.1 one.2.1 two.2.1 := by
  intro one two
  have hlabelled : stack.Labelled := Stack.labelled_of_new hstack
  have hempty : stack.names = [] ∧ stack.outputs = [] := by
    rw [(Stack.new_eq_ok_iff.mp hstack).2]
    exact ⟨rfl, rfl⟩
  obtain ⟨firsts, state, noted, rfl, course, hone⟩ :=
    build_course_stack context first hempty.2 diagnostics
  obtain ⟨seconds, other, noted', rfl, course', htwo⟩ :=
    build_course_stack context second hempty.2 others
  have hattempts : firsts.Perm seconds := course.perm_of_reordered course' hempty.1 h
  have hhandles : (builtBy firsts).handles.Perm (builtBy seconds).handles :=
    hattempts.filterMap _
  have hdistinct : (builtBy firsts).names.Nodup := course.names_nodup
  have houtcomes := hattempts.map (Attempt.outcome context)
  have hexports := (hhandles.map publicationOf).map Publication.toExport
  have houtputs := hhandles.filterMap output?
  have hnames : ((firsts.map (Attempt.outcome context)).map Outcome.name).Nodup := by
    have hdeclared := h.names_nodup
    rw [List.map_map] at hdeclared ⊢
    exact hdeclared
  have hkeys : (Entries.keys ((builtBy firsts).handles.filterMap output?)).Nodup :=
    (keys_filterMap_output? _).nodup (hdistinct.map fun _ _ => outputName_inj.mp)
  simp only [one, two, hone, htwo]
  exact
    { outcome_eq := find?_key_eq_of_perm houtcomes hnames
      outcomes_perm := houtcomes
      handle_eq := Entries.find?_eq_of_perm hhandles hdistinct
      export_eq := find?_key_eq_of_perm hexports (by rwa [List.map_map, List.map_map])
      exports_perm := hexports
      region_eq := course.outputs_stack.1.trans course'.outputs_stack.1.symm
      names_perm := by
        rw [course.names_stack, course'.names_stack]
        exact (hhandles.map Prod.fst).append_left _
      body_eq := by
        intro kind terraformType label
        simp only [Stack.body?_withOutputs]
        apply Option.ext
        intro body
        rw [course.body?_eq_some_iff hlabelled, course'.body?_eq_some_iff hlabelled]
        simp only [hattempts.mem_iff]
      constructs_perm := by
        intro kind
        simp only [Stack.blocks_withOutputs]
        have hrecorded := hattempts.filterMap (Attempt.recordedAs? kind)
        calc
          List.Perm _ ((stack.blocks kind).constructs ++ firsts.filterMap _) :=
            course.constructs_perm hlabelled kind
          List.Perm _ ((stack.blocks kind).constructs ++ seconds.filterMap _) :=
            hrecorded.append_left _
          List.Perm _ _ := (course'.constructs_perm hlabelled kind).symm
      output_eq := Entries.find?_eq_of_perm houtputs hkeys
      outputs_perm := houtputs }

theorem build_reordered_queue :
    let context : Context := ⟨"core", "shop", "dev", "eu-west-1", []⟩
    let vpc : Declaration := ⟨"main", "vpc.Vpc", [], none, false⟩
    let subnet : Declaration :=
      ⟨"inner", "subnet.Subnet", [("vpc_id", .string "ref:main")], none, false⟩
    let queue : Declaration := ⟨"jobs", "sqs.Queue", [], none, false⟩
    let one := build Stack.backend context [vpc, subnet, queue] { region := "eu-west-1" } {}
    let two := build Stack.backend context [queue, vpc, subnet] { region := "eu-west-1" } {}
    SameButForOrder one.1 two.1 one.2.1 two.2.1 := by
  intro context vpc subnet queue
  have hstack : Stack.new "eu-west-1" = .ok { region := "eu-west-1" } := by rfl
  have hperm : [vpc, subnet, queue].Perm [queue, vpc, subnet] :=
    @List.perm_append_comm _ [vpc, subnet] [queue]
  have hvpc : vpc.references = [] := by rfl
  have hsubnet : subnet.references = ["main"] := by rfl
  have hqueue : queue.references = [] := by rfl
  have horder : ∀ a ∈ [vpc, subnet, queue], ∀ b ∈ [vpc, subnet, queue], b.name ∈ a.references →
      (Precedes [vpc, subnet, queue] b a ↔ Precedes [queue, vpc, subnet] b a) := by
    have hfirst : Precedes [vpc, subnet, queue] vpc subnet :=
      ((List.nil_sublist _).cons_cons _).cons_cons _
    have hsecond : Precedes [queue, vpc, subnet] vpc subnet :=
      (((List.nil_sublist _).cons_cons _).cons_cons _).cons _
    have hothers : subnet.name ∉ ["main"] ∧ queue.name ∉ ["main"] := by decide
    simp only [List.forall_mem_cons, List.not_mem_nil, hvpc, hsubnet, hqueue, hfirst, hsecond,
      hothers.1, hothers.2]
    simp
  exact build_reordered context hstack ⟨hperm, by decide, horder⟩ {} {}

end StackSynth
