import Mathlib.Data.List.Induction
import StackSynth.Proofs.Text.Trimming
import StackSynth.Text.Lowercase
/-!
Lower casing. Main statements: a text in lower case stays as it is, and on both sides of a
separator, which is white space or a hyphen, texts are put in lower case apart from each other. So
trimming a text and putting it in lower case go together in either order.
-/
namespace StackSynth.Text

section Ranges

def CodeRanges.apart (ranges others : CodeRanges) : Bool :=
  ranges.all fun one => others.all fun two => Nat.blt one.2 two.1 || Nat.blt two.2 one.1

theorem CodeRanges.contains_eq_false {ranges others : CodeRanges} {c : Char}
    (h : ranges.apart others = true) (hc : ranges.contains c = true) :
    others.contains c = false := by
  obtain ⟨one, hone, hin⟩ := List.any_eq_true.mp hc
  refine List.any_eq_false.mpr fun two htwo => ?_
  have happart := List.all_eq_true.mp (List.all_eq_true.mp h one hone) two htwo
  simp only [Bool.or_eq_true, Nat.blt_eq] at happart
  simp only [Bool.and_eq_true, decide_eq_true_eq] at hin ⊢
  omega

theorem CodeRanges.contains_append (ranges others : CodeRanges) (c : Char) :
    CodeRanges.contains (ranges ++ others) c = (ranges.contains c || others.contains c) :=
  List.any_append

end Ranges

namespace CaseRun

def Has (run : CaseRun) (n : Nat) : Prop :=
  run.first ≤ n ∧ n ≤ run.last ∧ (n - run.first) % run.step = 0

def small (run : CaseRun) (n : Nat) : Nat :=
  run.target + (n - run.first)

/-- Whether the small letters of a run are no capitals of another one. Only where the two ranges
meet they are gone through one by one. -/
def beside (run other : CaseRun) : Bool :=
  Nat.blt other.last run.target || Nat.blt (run.small run.last) other.first ||
    (List.range (run.last - run.first + 1)).all fun k =>
      k % run.step != 0 || (run.target + k - other.first) % other.step != 0

theorem lower?_eq_none_iff {run : CaseRun} {c : Char} :
    run.lower? c = none ↔ ¬ run.Has c.toNat := by
  simp [lower?, Has]

theorem lower?_eq_some_iff {run : CaseRun} {c d : Char} :
    run.lower? c = some d ↔ run.Has c.toNat ∧ d = Char.ofNat (run.small c.toNat) := by
  simp [lower?, Has, small, eq_comm]

theorem not_has_small_of_beside {run other : CaseRun} {n : Nat} (h : run.beside other = true)
    (hn : run.Has n) : ¬ other.Has (run.small n) := by
  rintro ⟨hfirst, hlast, hstep⟩
  obtain ⟨hfirst', hlast', hstep'⟩ := hn
  simp only [beside, Bool.or_eq_true, Nat.blt_eq, List.all_eq_true, List.mem_range,
    bne_iff_ne, ne_eq] at h
  simp only [small] at h hfirst hlast hstep
  rcases h with (h | h) | h
  · omega
  · omega
  · rcases h (n - run.first) (by omega) with h | h
    · exact h hstep'
    · exact h hstep

end CaseRun

/-- All characters that have another lower case, except `Σ` at the end of a word. -/
def capitalRanges : CodeRanges :=
  (0x130, 0x130) :: caseRuns.map fun run => (run.first, run.last)

def smallRanges : CodeRanges :=
  caseRuns.map fun run => (run.target, run.small run.last)

def separatorRanges : CodeRanges :=
  (0x2D, 0x2D) :: blankRanges

def plainRanges : CodeRanges :=
  [(0x00, 0x40), (0x5B, 0x7F)]

theorem beside_of_mem {run other : CaseRun} (h : run ∈ caseRuns) (hother : other ∈ caseRuns) :
    run.beside other = true := by
  have hall : (caseRuns.all fun run => caseRuns.all run.beside) = true := by decide +kernel
  exact List.all_eq_true.mp (List.all_eq_true.mp hall run h) other hother

/-- Small letters are no dots, no `İ` and no white space. -/
theorem smallRanges_apart :
    smallRanges.apart ((0x2E, 0x2E) :: (0x130, 0x130) :: blankRanges) = true := by
  decide +kernel

theorem separatorRanges_apart :
    separatorRanges.apart (capitalRanges ++ casedRanges ++ caseIgnorableRanges) = true := by
  decide +kernel

theorem plainRanges_apart : plainRanges.apart capitalRanges = true := by
  decide +kernel

/-- A character that is its own lower case everywhere. -/
def IsSmall (c : Char) : Prop :=
  c ≠ 'Σ' ∧ lowerChar c = [c]

theorem isSmall_of_not_has {c : Char} (hdot : c ≠ 'İ') (h : ∀ run ∈ caseRuns, ¬ run.Has c.toNat) :
    IsSmall c := by
  have hnone : caseRuns.findSome? (·.lower? c) = none :=
    List.findSome?_eq_none_iff.mpr fun run hrun => CaseRun.lower?_eq_none_iff.mpr (h run hrun)
  constructor
  · rintro rfl
    exact h ⟨0x3A3, 0x3AB, 1, 0x3C3⟩ (by decide +kernel) ⟨by decide, by decide, by decide⟩
  · rw [lowerChar, if_neg hdot, hnone]
    rfl

theorem isSmall_of_contains_eq_false {c : Char} (h : capitalRanges.contains c = false) :
    IsSmall c := by
  apply isSmall_of_not_has
  · rintro rfl
    exact absurd h (by decide +kernel)
  · rintro run hrun ⟨hfirst, hlast, _⟩
    have hmem : (run.first, run.last) ∈ capitalRanges :=
      List.mem_cons_of_mem _ (List.mem_map_of_mem hrun)
    have hnot := List.any_eq_false.mp h _ hmem
    simp [hfirst, hlast] at hnot

theorem lowerChar_cases (c : Char) :
    lowerChar c = ['i', '\u0307'] ∨ (IsSmall c ∧ lowerChar c = [c]) ∨
      ∃ run ∈ caseRuns, run.Has c.toNat ∧ lowerChar c = [Char.ofNat (run.small c.toNat)] := by
  by_cases hdot : c = 'İ'
  · exact Or.inl (if_pos hdot)
  refine Or.inr ?_
  rw [lowerChar, if_neg hdot]
  cases hfind : caseRuns.findSome? (·.lower? c) with
  | none =>
    have hall : ∀ run ∈ caseRuns, ¬ run.Has c.toNat := fun run hrun =>
      CaseRun.lower?_eq_none_iff.mp (List.findSome?_eq_none_iff.mp hfind run hrun)
    exact Or.inl ⟨isSmall_of_not_has hdot hall, rfl⟩
  | some d =>
    obtain ⟨run, hrun, hd⟩ := List.exists_of_findSome?_eq_some hfind
    obtain ⟨hhas, rfl⟩ := CaseRun.lower?_eq_some_iff.mp hd
    exact Or.inr ⟨run, hrun, hhas, rfl⟩

theorem CaseRun.toNat_ofNat_small {run : CaseRun} {n : Nat} (hrun : run ∈ caseRuns)
    (hn : run.Has n) : (Char.ofNat (run.small n)).toNat = run.small n := by
  have hbounds : ∀ run ∈ caseRuns, run.small run.last < 0xD800 ∨
      0xDFFF < run.target ∧ run.small run.last < 0x110000 := by decide +kernel
  have hrange := hbounds run hrun
  obtain ⟨hfirst, hlast, _⟩ := hn
  have hvalid : (run.small n).isValidChar := by
    simp only [small, Nat.isValidChar] at hrange ⊢
    omega
  rw [Char.ofNat, dif_pos hvalid]
  rfl

theorem contains_smallRanges {run : CaseRun} {n : Nat} (hrun : run ∈ caseRuns) (hn : run.Has n) :
    smallRanges.contains (Char.ofNat (run.small n)) = true := by
  refine List.any_eq_true.mpr ⟨_, List.mem_map_of_mem hrun, ?_⟩
  obtain ⟨hfirst, hlast, _⟩ := id hn
  rw [Bool.and_eq_true, decide_eq_true_eq, decide_eq_true_eq, CaseRun.toNat_ofNat_small hrun hn]
  simp only [CaseRun.small]
  omega

/-- What lower casing makes of a character is in lower case, and it is the character itself or
neither a dot nor white space. -/
theorem mem_lowerChar {c d : Char} (h : d ∈ lowerChar c) :
    IsSmall d ∧ (d = c ∨ d ≠ '.' ∧ isBlank d = false) := by
  have hi : IsSmall 'i' := ⟨by decide, by decide +kernel⟩
  have haccent : IsSmall '\u0307' := ⟨by decide, by decide +kernel⟩
  obtain hc | ⟨hsmall, hc⟩ | ⟨run, hrun, hhas, hc⟩ := lowerChar_cases c
  · rw [hc] at h
    rcases List.mem_cons.mp h with rfl | h
    · exact ⟨hi, Or.inr ⟨by decide, by decide⟩⟩
    · rw [List.mem_singleton.mp h]
      exact ⟨haccent, Or.inr ⟨by decide, by decide⟩⟩
  · rw [hc, List.mem_singleton] at h
    rw [h]
    exact ⟨hsmall, Or.inl rfl⟩
  · rw [hc, List.mem_singleton] at h
    have hnat : d.toNat = run.small c.toNat := by rw [h, CaseRun.toNat_ofNat_small hrun hhas]
    have hothers := CodeRanges.contains_eq_false smallRanges_apart
      (contains_smallRanges hrun hhas)
    rw [← h] at hothers
    simp only [CodeRanges.contains, List.any_cons, Bool.or_eq_false_iff] at hothers
    obtain ⟨hdot, hcapital, hblank⟩ := hothers
    have hne : d ≠ '.' := by
      rintro rfl
      exact absurd hdot (by decide)
    have hne' : d ≠ 'İ' := by
      rintro rfl
      exact absurd hcapital (by decide)
    -- a small letter of one run is no capital of any run, so it is not lowered once more
    have hnone : ∀ other ∈ caseRuns, ¬ other.Has d.toNat := by
      intro other hother
      rw [hnat]
      exact CaseRun.not_has_small_of_beside (beside_of_mem hrun hother) hhas
    exact ⟨isSmall_of_not_has hne' hnone, Or.inr ⟨hne, hblank⟩⟩

def lowerBetween (before : List Char) (c : Char) (after : List Char) : List Char :=
  if c = 'Σ' then [if reachesCased before && !reachesCased after then 'ς' else 'σ']
  else lowerChar c

theorem lowerFrom_cons (before : List Char) (c : Char) (after : List Char) :
    lowerFrom before (c :: after) = lowerBetween before c after ++ lowerFrom (c :: before) after :=
  rfl

theorem mem_lowerBetween {before after : List Char} {c d : Char}
    (h : d ∈ lowerBetween before c after) :
    IsSmall d ∧ (d = c ∨ d ≠ '.' ∧ isBlank d = false) := by
  unfold lowerBetween at h
  split at h
  · have hfinal : IsSmall 'ς' := ⟨by decide, by decide +kernel⟩
    have hinner : IsSmall 'σ' := ⟨by decide, by decide +kernel⟩
    rw [List.mem_singleton] at h
    split at h
    · rw [h]
      exact ⟨hfinal, Or.inr ⟨by decide, by decide⟩⟩
    · rw [h]
      exact ⟨hinner, Or.inr ⟨by decide, by decide⟩⟩
  · exact mem_lowerChar h

theorem lowerBetween_ne_nil (before : List Char) (c : Char) (after : List Char) :
    lowerBetween before c after ≠ [] := by
  unfold lowerBetween lowerChar
  split
  · exact List.cons_ne_nil _ _
  · split <;> exact List.cons_ne_nil _ _

theorem lowerBetween_of_isSmall {c : Char} (h : IsSmall c) (before after : List Char) :
    lowerBetween before c after = [c] := by
  rw [lowerBetween, if_neg h.1, h.2]

theorem exists_of_mem_lowerFrom {before cs : List Char} {d : Char} (h : d ∈ lowerFrom before cs) :
    IsSmall d ∧ (d ∈ cs ∨ d ≠ '.' ∧ isBlank d = false) := by
  induction cs generalizing before with
  | nil => cases h
  | cons c after ih =>
    rw [lowerFrom_cons, List.mem_append] at h
    rcases h with h | h
    · obtain ⟨hsmall, rfl | hd⟩ := mem_lowerBetween h
      · exact ⟨hsmall, Or.inl List.mem_cons_self⟩
      · exact ⟨hsmall, Or.inr hd⟩
    · obtain ⟨hsmall, hd⟩ := ih h
      exact ⟨hsmall, hd.imp_left (List.mem_cons_of_mem _)⟩

theorem lowerFrom_of_isSmall {cs : List Char} (h : ∀ c ∈ cs, IsSmall c) (before : List Char) :
    lowerFrom before cs = cs := by
  induction cs generalizing before with
  | nil => rfl
  | cons c after ih =>
    have hafter := ih fun d hd => h d (List.mem_cons_of_mem _ hd)
    rw [lowerFrom_cons, lowerBetween_of_isSmall (h c List.mem_cons_self), hafter,
      List.singleton_append]

theorem toList_lowercase (s : String) : (lowercase s).toList = lowerFrom [] s.toList := by
  rw [lowercase, String.toList_ofList]

theorem isSmall_of_mem_lowercase {s : String} {c : Char} (h : c ∈ (lowercase s).toList) :
    IsSmall c := by
  rw [toList_lowercase] at h
  exact (exists_of_mem_lowerFrom h).1

theorem lowercase_of_isSmall {s : String} (h : ∀ c ∈ s.toList, IsSmall c) : lowercase s = s := by
  rw [lowercase, lowerFrom_of_isSmall h, String.ofList_toList]

theorem lowercase_of_plain {s : String} (h : s.toList.all plainRanges.contains = true) :
    lowercase s = s :=
  lowercase_of_isSmall fun c hc => isSmall_of_contains_eq_false
    (CodeRanges.contains_eq_false plainRanges_apart (List.all_eq_true.mp h c hc))

/-- What is in lower case stays as it is. -/
theorem lowercase_lowercase (s : String) : lowercase (lowercase s) = lowercase s :=
  lowercase_of_isSmall fun _ hc => isSmall_of_mem_lowercase hc

section Separators

theorem reachesCased_cons (c : Char) (cs : List Char) :
    reachesCased (c :: cs) =
      if caseIgnorableRanges.contains c then reachesCased cs else casedRanges.contains c := by
  by_cases h : caseIgnorableRanges.contains c = true <;> simp [reachesCased, h]

/-- A character that is kept and ends words. -/
structure IsSeparator (c : Char) : Prop where
  isSmall : IsSmall c
  not_cased : casedRanges.contains c = false
  not_ignorable : caseIgnorableRanges.contains c = false

theorem isSeparator_of_contains {c : Char} (h : separatorRanges.contains c = true) :
    IsSeparator c := by
  have hothers := CodeRanges.contains_eq_false separatorRanges_apart h
  rw [CodeRanges.contains_append, CodeRanges.contains_append, Bool.or_eq_false_iff,
    Bool.or_eq_false_iff] at hothers
  obtain ⟨⟨hcapital, hcased⟩, hignorable⟩ := hothers
  exact ⟨isSmall_of_contains_eq_false hcapital, hcased, hignorable⟩

theorem isSeparator_hyphen : IsSeparator '-' :=
  isSeparator_of_contains (by decide)

theorem isSeparator_of_isBlank {c : Char} (h : isBlank c = true) : IsSeparator c := by
  apply isSeparator_of_contains
  rw [separatorRanges, CodeRanges.contains, List.any_cons, Bool.or_eq_true]
  exact Or.inr h

variable {separator : Char} (hseparator : IsSeparator separator)

include hseparator

theorem reachesCased_cons_separator (cs : List Char) : reachesCased (separator :: cs) = false := by
  rw [reachesCased_cons, hseparator.not_ignorable, hseparator.not_cased]
  rfl

theorem reachesCased_append_separator (cs rest : List Char) :
    reachesCased (cs ++ separator :: rest) = reachesCased cs := by
  induction cs with
  | nil => exact reachesCased_cons_separator hseparator rest
  | cons c cs ih => rw [List.cons_append, reachesCased_cons, reachesCased_cons, ih]

omit hseparator in
/-- Of what stands before a text, only the word that it ends with matters. -/
theorem lowerFrom_congr {before other : List Char} (h : reachesCased before = reachesCased other)
    (cs : List Char) : lowerFrom before cs = lowerFrom other cs := by
  induction cs generalizing before other with
  | nil => rfl
  | cons c after ih =>
    have hnext : reachesCased (c :: before) = reachesCased (c :: other) := by
      rw [reachesCased_cons, reachesCased_cons, h]
    rw [lowerFrom_cons, lowerFrom_cons, lowerBetween, lowerBetween, h, ih hnext]

/-- Lower casing goes apart on both sides of a separator. -/
theorem lowerFrom_append_separator (before cs rest : List Char) :
    lowerFrom before (cs ++ separator :: rest) =
      lowerFrom before cs ++ separator :: lowerFrom [] rest := by
  induction cs generalizing before with
  | nil =>
    -- behind the separator nothing is seen of what stands before it
    have hrest : lowerFrom (separator :: before) rest = lowerFrom [] rest :=
      lowerFrom_congr (reachesCased_cons_separator hseparator before) rest
    rw [List.nil_append, lowerFrom_cons, lowerBetween_of_isSmall hseparator.isSmall, hrest]
    rfl
  | cons c after ih =>
    -- in front of the separator nothing is seen of what stands behind it
    have hc : lowerBetween before c (after ++ separator :: rest) = lowerBetween before c after := by
      rw [lowerBetween, lowerBetween, reachesCased_append_separator hseparator]
    rw [List.cons_append, lowerFrom_cons, hc, ih, lowerFrom_cons, List.append_assoc]

end Separators

theorem lowercase_append_hyphen (s t : String) :
    lowercase (s ++ "-" ++ t) = lowercase s ++ "-" ++ lowercase t := by
  apply String.toList_inj.mp
  have hlists : (s ++ "-" ++ t).toList = s.toList ++ '-' :: t.toList := by simp
  rw [toList_lowercase, hlists, lowerFrom_append_separator isSeparator_hyphen]
  simp [toList_lowercase]

section Trimming

theorem isBlank_eq_false_of_mem_lowerBetween {before after : List Char} {c d : Char}
    (h : d ∈ lowerBetween before c after) (hc : isBlank c = false) : isBlank d = false := by
  obtain ⟨_, rfl | ⟨_, hd⟩⟩ := mem_lowerBetween h
  · exact hc
  · exact hd

theorem exists_lowerFrom_append (before cs rest : List Char) :
    ∃ start, lowerFrom before (cs ++ rest) = start ++ lowerFrom (cs.reverse ++ before) rest := by
  induction cs generalizing before with
  | nil => exact ⟨[], rfl⟩
  | cons c after ih =>
    obtain ⟨start, hstart⟩ := ih (c :: before)
    refine ⟨lowerBetween before c (after ++ rest) ++ start, ?_⟩
    rw [List.cons_append, lowerFrom_cons, hstart, List.reverse_cons]
    simp only [List.append_assoc, List.singleton_append]

theorem isTrimmed_lowerFrom {cs : List Char} (h : IsTrimmed cs) (before : List Char) :
    IsTrimmed (lowerFrom before cs) := by
  constructor
  · intro d hd
    cases cs with
    | nil => cases hd
    | cons c after =>
      have hc : isBlank c = false := h.1 c rfl
      obtain ⟨first, rest, hfirst⟩ :=
        List.exists_cons_of_ne_nil (lowerBetween_ne_nil before c after)
      have hmem : first ∈ lowerBetween before c after := hfirst ▸ List.mem_cons_self
      rw [lowerFrom_cons, hfirst, List.cons_append, List.head?_cons] at hd
      rw [← Option.some.inj hd]
      exact isBlank_eq_false_of_mem_lowerBetween hmem hc
  · intro d hd
    cases cs using List.reverseRecOn with
    | nil => cases hd
    | append_singleton start c _ =>
      have hc : isBlank c = false := h.2 c List.getLast?_concat
      obtain ⟨lowered, hlowered⟩ := exists_lowerFrom_append before start [c]
      have hsome : (lowerBetween (start.reverse ++ before) c []).getLast?.isSome = true := by
        simp [lowerBetween_ne_nil]
      rw [hlowered, lowerFrom_cons, lowerFrom, List.append_nil, List.getLast?_append,
        Option.or_of_isSome hsome] at hd
      exact isBlank_eq_false_of_mem_lowerBetween (List.mem_of_getLast? hd) hc

theorem lowerFrom_blanks_append {blanks : List Char} (h : IsBlankText blanks) (cs : List Char) :
    lowerFrom [] (blanks ++ cs) = blanks ++ lowerFrom [] cs := by
  induction blanks with
  | nil => rfl
  | cons c rest ih =>
    have hc : IsSeparator c := isSeparator_of_isBlank (h c List.mem_cons_self)
    have hrest := ih fun d hd => h d (List.mem_cons_of_mem _ hd)
    have hcut := lowerFrom_append_separator hc [] [] (rest ++ cs)
    rw [List.cons_append, List.cons_append, ← hrest]
    exact hcut

theorem lowerFrom_append_blanks {blanks : List Char} (h : IsBlankText blanks) (cs : List Char) :
    lowerFrom [] (cs ++ blanks) = lowerFrom [] cs ++ blanks := by
  cases blanks with
  | nil => rw [List.append_nil, List.append_nil]
  | cons c rest =>
    have hc : IsSeparator c := isSeparator_of_isBlank (h c List.mem_cons_self)
    have hrest : ∀ d ∈ rest, IsSmall d := fun d hd =>
      (isSeparator_of_isBlank (h d (List.mem_cons_of_mem _ hd))).isSmall
    rw [lowerFrom_append_separator hc, lowerFrom_of_isSmall hrest]

/-- It makes no difference whether a text is trimmed before it is put in lower case or after. -/
theorem trim_lowercase (s : String) : trim (lowercase s) = lowercase (trim s) := by
  obtain ⟨before, after, hs, hbefore, hafter, htrimmed⟩ := exists_eq_append_trimChars s.toList
  have hlowered : lowerFrom [] s.toList =
      before ++ lowerFrom [] (trimChars s.toList) ++ after := by
    calc
      lowerFrom [] s.toList = lowerFrom [] (before ++ (trimChars s.toList ++ after)) := by
        rw [← List.append_assoc, ← hs]
      _ = before ++ lowerFrom [] (trimChars s.toList) ++ after := by
        rw [lowerFrom_blanks_append hbefore, lowerFrom_append_blanks hafter, List.append_assoc]
  apply String.toList_inj.mp
  rw [trim, String.toList_ofList, toList_lowercase, hlowered,
    trimChars_append hbefore (isTrimmed_lowerFrom htrimmed []) hafter, toList_lowercase, trim,
    String.toList_ofList]

end Trimming

end StackSynth.Text
