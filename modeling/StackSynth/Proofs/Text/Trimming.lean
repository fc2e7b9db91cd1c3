import Mathlib.Data.List.TakeWhile
import StackSynth.Text.Blank

namespace StackSynth.Text

def IsBlankText (cs : List Char) : Prop :=
  ∀ c ∈ cs, isBlank c = true

/-- A text with white space at neither end. -/
def IsTrimmed (cs : List Char) : Prop :=
  (∀ c, cs.head? = some c → isBlank c = false) ∧ ∀ c, cs.getLast? = some c → isBlank c = false

theorem IsBlankText.append {cs rest : List Char} (hcs : IsBlankText cs) (hrest : IsBlankText rest) :
    IsBlankText (cs ++ rest) := by
  intro c hc
  rcases List.mem_append.mp hc with hc | hc
  · exact hcs c hc
  · exact hrest c hc

theorem dropWhile_isBlank_append {blanks rest : List Char} (hblanks : IsBlankText blanks)
    (hrest : ∀ c, rest.head? = some c → isBlank c = false) :
    (blanks ++ rest).dropWhile isBlank = rest := by
  rw [List.dropWhile_append_of_pos hblanks]
  cases rest with
  | nil => rfl
  | cons c rest => exact List.dropWhile_cons_of_neg (by simp [hrest c rfl])

theorem trimChars_append {before cs after : List Char} (hbefore : IsBlankText before)
    (hcs : IsTrimmed cs) (hafter : IsBlankText after) :
    trimChars (before ++ cs ++ after) = cs := by
  cases cs with
  | nil =>
    have hall : (before ++ after).dropWhile isBlank = [] :=
      List.dropWhile_eq_nil_iff.mpr (hbefore.append hafter)
    rw [trimChars, List.append_nil, hall]
    rfl
  | cons first rest =>
    have hreverse : IsBlankText after.reverse := fun c hc => hafter c (List.mem_reverse.mp hc)
    have hleft : (before ++ (first :: rest ++ after)).dropWhile isBlank = first :: rest ++ after :=
      dropWhile_isBlank_append hbefore hcs.1
    have hright : (after.reverse ++ (first :: rest).reverse).dropWhile isBlank =
        (first :: rest).reverse :=
      dropWhile_isBlank_append hreverse fun c hc => hcs.2 c (List.head?_reverse.symm.trans hc)
    rw [trimChars, List.append_assoc, hleft, List.reverse_append, hright, List.reverse_reverse]

theorem isBlank_eq_false_of_head?_dropWhile {cs : List Char} {c : Char}
    (h : (cs.dropWhile isBlank).head? = some c) : isBlank c = false := by
  have hhead := List.head?_dropWhile_not isBlank cs
  rwa [h] at hhead

/-- A text is its trimmed form between white space. -/
theorem exists_eq_append_trimChars (cs : List Char) :
    ∃ before after, cs = before ++ trimChars cs ++ after ∧ IsBlankText before ∧
      IsBlankText after ∧ IsTrimmed (trimChars cs) := by
  let rest := cs.dropWhile isBlank
  have hrest : rest = trimChars cs ++ (rest.reverse.takeWhile isBlank).reverse := by
    rw [trimChars, ← List.reverse_append, List.takeWhile_append_dropWhile, List.reverse_reverse]
  refine ⟨cs.takeWhile isBlank, (rest.reverse.takeWhile isBlank).reverse, ?_, ?_, ?_, ?_, ?_⟩
  · rw [List.append_assoc, ← hrest, List.takeWhile_append_dropWhile]
  · exact fun c hc => List.mem_takeWhile_imp hc
  · exact fun c hc => List.mem_takeWhile_imp (List.mem_reverse.mp hc)
  · -- the trimmed form starts where the rest does
    intro c hc
    have hhead : rest.head? = some c := by
      rw [hrest, List.head?_append, hc]
      rfl
    exact isBlank_eq_false_of_head?_dropWhile hhead
  · intro c hc
    rw [trimChars, List.getLast?_reverse] at hc
    exact isBlank_eq_false_of_head?_dropWhile hc

/-- White space around a text does not matter. -/
theorem trim_append {before after : String} (s : String) (hbefore : IsBlankText before.toList)
    (hafter : IsBlankText after.toList) : trim (before ++ s ++ after) = trim s := by
  obtain ⟨first, last, hs, hfirst, hlast, htrimmed⟩ := exists_eq_append_trimChars s.toList
  have hlists : (before ++ s ++ after).toList =
      (before.toList ++ first) ++ trimChars s.toList ++ (last ++ after.toList) := by
    calc
      (before ++ s ++ after).toList = before.toList ++ s.toList ++ after.toList := by simp
      _ = before.toList ++ (first ++ trimChars s.toList ++ last) ++ after.toList := by rw [← hs]
      _ = _ := by simp only [List.append_assoc]
  rw [trim, hlists, trimChars_append (hbefore.append hfirst) htrimmed (hlast.append hafter), trim]

end StackSynth.Text
