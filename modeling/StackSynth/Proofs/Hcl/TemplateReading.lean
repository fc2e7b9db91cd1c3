import StackSynth.Proofs.Hcl.Interpolation
/-!
Quoted templates read back. Main statements: what a template says is the text that it was made of,
with the same references in the same order, if and only if no reference stands directly behind a
`$`; one that does is read as literal text, and its `$` is lost.
-/
namespace StackSynth

theorem Text.IsReferencePath.isDotted {path : List Char} (h : IsReferencePath path) :
    IsDotted path :=
  isDotted_of_isAttributePath (isAttributePath_iff.mpr h.isAttributePath)

namespace Hcl

def Piece.path? : Piece → Option (List Char)
  | literal _ => none
  | reference path => some path

/-- What the marks at the start of a template stand for, and what follows them: an escaped
character, an opening mark that is doubled, or an interpolation up to its closing brace. -/
def leadingMark? : List Char → Option (List Piece × List Char)
  | '\\' :: '"' :: rest => some ([.literal '"'], rest)
  | '\\' :: '\\' :: rest => some ([.literal '\\'], rest)
  | '\\' :: 'n' :: rest => some ([.literal '\n'], rest)
  | '\\' :: 'r' :: rest => some ([.literal '\r'], rest)
  | '\\' :: 't' :: rest => some ([.literal '\t'], rest)
  | '$' :: '$' :: '\x7b' :: rest => some ([.literal '$', .literal '\x7b'], rest)
  | '%' :: '%' :: '\x7b' :: rest => some ([.literal '%', .literal '\x7b'], rest)
  | '$' :: '\x7b' :: tail =>
    (Text.cutFirst? '\x7d' tail).map fun (path, rest) => ([.reference path], rest)
  | _ => none

theorem length_of_leadingMark? {cs rest : List Char} {read : List Piece}
    (h : leadingMark? cs = some (read, rest)) : rest.length < cs.length := by
  unfold leadingMark? at h
  split at h
  case h_8 tail _ =>
    obtain ⟨⟨path, after⟩, hcut, heq⟩ := Option.map_eq_some_iff.mp h
    obtain ⟨rfl, rfl⟩ := Prod.mk.inj heq
    simp only [(Text.cutFirst?_eq_some hcut).1, List.length_cons, List.length_append]
    omega
  case h_9 => cases h
  all_goals
    obtain ⟨_, rfl⟩ := Prod.mk.inj (Option.some.inj h)
    simp only [List.length_cons]
    omega

/-- What a quoted template says, read from the left. What is no mark stands for itself. -/
def readTemplate (cs : List Char) : List Piece :=
  match h : leadingMark? cs with
  | some (read, rest) =>
    have := length_of_leadingMark? h
    read ++ readTemplate rest
  | none =>
    match cs with
    | [] => []
    | c :: rest => .literal c :: readTemplate rest
termination_by cs.length

theorem readTemplate_of_leadingMark? {cs rest : List Char} {read : List Piece}
    (h : leadingMark? cs = some (read, rest)) : readTemplate cs = read ++ readTemplate rest := by
  rw [readTemplate]
  split
  · next heq =>
    obtain ⟨rfl, rfl⟩ := Prod.mk.inj (Option.some.inj (heq.symm.trans h))
    rfl
  · next heq =>
    rw [h] at heq
    cases heq

theorem readTemplate_cons {c : Char} {rest : List Char} (h : leadingMark? (c :: rest) = none) :
    readTemplate (c :: rest) = .literal c :: readTemplate rest := by
  rw [readTemplate]
  split
  · next heq =>
    rw [h] at heq
    cases heq
  · rfl

theorem readTemplate_nil : readTemplate [] = [] := by
  rw [readTemplate]
  rfl

theorem leadingMark?_eq_none {c : Char} (rest : List Char) (hslash : c ≠ '\\') (hdollar : c ≠ '$')
    (hpercent : c ≠ '%') : leadingMark? (c :: rest) = none := by
  unfold leadingMark?
  split <;> simp_all

theorem readTemplate_append_plain {cs : List Char} (rest : List Char)
    (h : ∀ c ∈ cs, c ≠ '\\' ∧ c ≠ '$' ∧ c ≠ '%') :
    readTemplate (cs ++ rest) = cs.map .literal ++ readTemplate rest := by
  induction cs with
  | nil => rfl
  | cons c cs ih =>
    obtain ⟨hslash, hdollar, hpercent⟩ := h c List.mem_cons_self
    have hcs := ih fun d hd => h d (List.mem_cons_of_mem _ hd)
    rw [List.cons_append, readTemplate_cons (leadingMark?_eq_none _ hslash hdollar hpercent), hcs,
      List.map_cons, List.cons_append]

theorem templateChar_cases (c : Char) (following : List Piece) :
    (∃ e, templateChar c following = ['\\', e] ∧
      ∀ rest, leadingMark? ('\\' :: e :: rest) = some ([.literal c], rest)) ∨
    (templateChar c following = [c, c] ∧ (c = '$' ∨ c = '%') ∧
      following.head? = some (.literal '\x7b')) ∨
    (templateChar c following = [c] ∧ c ≠ '\\' ∧
      (c = '$' ∨ c = '%' → following.head? ≠ some (.literal '\x7b'))) := by
  unfold templateChar
  split
  case h_6 _ hslash _ _ _ =>
    by_cases hdouble : (c = '$' ∨ c = '%') ∧ following.head? = some (.literal '\x7b')
    · exact Or.inr (Or.inl ⟨if_pos hdouble, hdouble⟩)
    · exact Or.inr (Or.inr ⟨if_neg hdouble, hslash, fun hc hhead => hdouble ⟨hc, hhead⟩⟩)
  all_goals exact Or.inl ⟨_, rfl, fun rest => rfl⟩

section Sources

variable {rest : List Piece} {tail : List Char}

theorem head?_of_templateSource_eq_brace (h : templateSource rest = '\x7b' :: tail) :
    rest.head? = some (.literal '\x7b') := by
  cases rest with
  | nil => cases h
  | cons piece more =>
    cases piece with
    | reference path => simp [templateSource, Piece.source] at h
    | literal c =>
      rw [templateSource] at h
      obtain ⟨e, hsource, _⟩ | ⟨hsource, hc, _⟩ | ⟨hsource, _, _⟩ := templateChar_cases c more
      · simp [hsource] at h
      · grind
      · rw [hsource] at h
        rw [(List.cons.inj h).1, List.head?_cons]

/-- In a template, an opening mark that is not doubled comes from a reference. -/
theorem eq_reference_of_templateSource_eq_mark {c : Char} (hc : c = '$' ∨ c = '%')
    (h : templateSource rest = c :: '\x7b' :: tail) :
    c = '$' ∧ ∃ path more, rest = .reference path :: more := by
  cases rest with
  | nil => cases h
  | cons piece more =>
    cases piece with
    | reference path =>
      simp only [templateSource, Piece.source, List.cons_append, List.cons.injEq] at h
      exact ⟨h.1.symm, path, more, rfl⟩
    | literal d =>
      exfalso
      rw [templateSource] at h
      obtain ⟨e, hsource, _⟩ | ⟨hsource, hd, _⟩ | ⟨hsource, _, hmore⟩ := templateChar_cases d more
      · rw [hsource] at h
        obtain ⟨rfl, _⟩ := List.cons.inj h
        simp at hc
      · grind
      · rw [hsource] at h
        obtain ⟨rfl, hbrace⟩ := List.cons.inj h
        exact hmore hc (head?_of_templateSource_eq_brace hbrace)

/-- A character is read as itself, unless it is a `$` with a reference behind it. -/
theorem readTemplate_templateChar {c : Char}
    (hc : c = '$' → ∀ path more, rest ≠ .reference path :: more) :
    readTemplate (templateChar c rest ++ templateSource rest) =
      .literal c :: readTemplate (templateSource rest) := by
  obtain ⟨e, hsource, hmark⟩ | ⟨hsource, hmark, hhead⟩ | ⟨hsource, hslash, hhead⟩ :=
    templateChar_cases c rest
  · rw [hsource]
    exact readTemplate_of_leadingMark? (hmark _)
  · -- the two marks and the brace behind them are read at once
    obtain ⟨more, rfl⟩ : ∃ more, rest = .literal '\x7b' :: more := by
      simpa [List.head?_eq_some_iff] using hhead
    have hbrace : templateSource (.literal '\x7b' :: more) = '\x7b' :: templateSource more := by
      simp [templateSource, templateChar]
    have hread : leadingMark? (c :: c :: '\x7b' :: templateSource more) =
        some ([.literal c, .literal '\x7b'], templateSource more) := by
      rcases hmark with rfl | rfl <;> rfl
    have hnone := leadingMark?_eq_none (c := '\x7b') (templateSource more) (by decide) (by decide)
      (by decide)
    rw [hsource, hbrace, readTemplate_cons hnone]
    exact readTemplate_of_leadingMark? hread
  · rw [hsource, List.singleton_append]
    refine readTemplate_cons ?_
    by_cases hmark : c = '$' ∨ c = '%'
    · have hbrace : ∀ tail, templateSource rest ≠ '\x7b' :: tail :=
        fun tail h => hhead hmark (head?_of_templateSource_eq_brace h)
      have hopen : ∀ tail, templateSource rest ≠ c :: '\x7b' :: tail := by
        intro tail h
        obtain ⟨hdollar, path, more, hrest⟩ := eq_reference_of_templateSource_eq_mark hmark h
        exact hc hdollar path more hrest
      unfold leadingMark?
      split <;> simp_all
    · exact leadingMark?_eq_none _ hslash (fun h => hmark (Or.inl h)) fun h => hmark (Or.inr h)

end Sources

/-- The pieces of a text as its template is read: a reference directly behind a `$` is literal text,
and its `$` is gone. -/
def absorbed : List Piece → List Piece
  | [] => []
  | .literal '$' :: .reference path :: rest =>
    (Piece.reference path).source.map .literal ++ absorbed rest
  | piece :: rest => piece :: absorbed rest

def absorptions : List Piece → Nat
  | [] => 0
  | .literal '$' :: .reference _ :: rest => absorptions rest + 1
  | _ :: rest => absorptions rest

/-- A template says what it was made of, but for the references behind a `$`. -/
theorem readTemplate_templateSource {all : List Piece}
    (h : ∀ path, .reference path ∈ all → Text.isReferencePath path = true) :
    readTemplate (templateSource all) = absorbed all := by
  have hplain : ∀ path, .reference path ∈ all → Text.IsDotted path :=
    fun path hpath => (Text.isReferencePath_iff.mp (h path hpath)).isDotted
  clear h
  fun_induction absorbed all with
  | case1 => exact readTemplate_nil
  | case2 path rest ih =>
    have hpath : Text.IsDotted path := hplain path (by simp)
    have hsource : templateSource (.literal '$' :: .reference path :: rest) =
        '$' :: '$' :: '\x7b' :: (path ++ ['\x7d'] ++ templateSource rest) := by
      simp [templateSource, templateChar, Piece.source]
    have hmark : leadingMark? (templateSource (.literal '$' :: .reference path :: rest)) =
        some ([.literal '$', .literal '\x7b'], path ++ ['\x7d'] ++ templateSource rest) := by
      rw [hsource]
      rfl
    -- what is left of the reference holds no mark
    have hliteral : ∀ c ∈ path ++ ['\x7d'], c ≠ '\\' ∧ c ≠ '$' ∧ c ≠ '%' := by
      intro c hc
      rcases List.mem_append.mp hc with hc | hc
      · refine ⟨?_, ?_, ?_⟩ <;> rintro rfl <;> exact hpath.notMem (by decide) (by decide) hc
      · rw [List.mem_singleton.mp hc]
        decide
    rw [readTemplate_of_leadingMark? hmark, readTemplate_append_plain _ hliteral,
      ih fun other hother => hplain other (by simp [hother])]
    simp [Piece.source]
  | case3 piece rest hnot ih =>
    have hrest := ih fun other hother => hplain other (List.mem_cons_of_mem _ hother)
    cases piece with
    | literal c =>
      have hc : c = '$' → ∀ path more, rest ≠ .reference path :: more := by
        rintro rfl path more rfl
        exact hnot path more rfl rfl
      rw [templateSource, readTemplate_templateChar hc, hrest]
    | reference path =>
      have hbrace : '\x7d' ∉ path := (hplain path (by simp)).notMem (by decide) (by decide)
      have hsource : templateSource (.reference path :: rest) =
          '$' :: '\x7b' :: (path ++ '\x7d' :: templateSource rest) := by
        simp [templateSource, Piece.source]
      have hmark : leadingMark? (templateSource (.reference path :: rest)) =
          some ([.reference path], templateSource rest) := by
        rw [hsource, leadingMark?, Text.cutFirst?_append_cons _ hbrace, Option.map_some]
      rw [readTemplate_of_leadingMark? hmark, hrest, List.singleton_append]

theorem flatMap_source_map_literal (cs : List Char) :
    (cs.map Piece.literal).flatMap Piece.source = cs := by
  induction cs with
  | nil => rfl
  | cons c rest ih => rw [List.map_cons, List.flatMap_cons, ih, Piece.source, List.singleton_append]

theorem filterMap_path?_map_literal (cs : List Char) :
    (cs.map Piece.literal).filterMap Piece.path? = [] := by
  simp [List.filterMap_map, Function.comp_def, Piece.path?]

theorem absorptions_cons {piece : Piece} {rest : List Piece}
    (h : ∀ path more, piece = .literal '$' → rest ≠ .reference path :: more) :
    absorptions (piece :: rest) = absorptions rest := by
  rw [absorptions]
  exact h

theorem length_absorbed (all : List Piece) :
    ((absorbed all).flatMap Piece.source).length + absorptions all =
      (all.flatMap Piece.source).length := by
  fun_induction absorbed all with
  | case1 => rfl
  | case2 path rest ih =>
    rw [List.flatMap_append, flatMap_source_map_literal, List.length_append, absorptions,
      List.flatMap_cons, List.flatMap_cons, List.length_append, List.length_append]
    have hdollar : (Piece.literal '$').source.length = 1 := rfl
    omega
  | case3 piece rest hnot ih =>
    rw [absorptions_cons hnot, List.flatMap_cons, List.flatMap_cons, List.length_append,
      List.length_append]
    omega

theorem length_filterMap_path?_absorbed (all : List Piece) :
    ((absorbed all).filterMap Piece.path?).length + absorptions all =
      (all.filterMap Piece.path?).length := by
  fun_induction absorbed all with
  | case1 => rfl
  | case2 path rest ih =>
    rw [List.filterMap_append, filterMap_path?_map_literal, List.nil_append, absorptions]
    simp only [List.filterMap_cons, Piece.path?, List.length_cons]
    omega
  | case3 piece rest hnot ih =>
    rw [absorptions_cons hnot]
    cases piece with
    | literal c => simpa [List.filterMap_cons, Piece.path?] using ih
    | reference path =>
      simp only [List.filterMap_cons, Piece.path?, List.length_cons]
      omega

theorem absorbed_of_absorptions_eq_zero {all : List Piece} (h : absorptions all = 0) :
    absorbed all = all := by
  fun_induction absorbed all with
  | case1 => rfl
  | case2 path rest ih => simp [absorptions] at h
  | case3 piece rest hnot ih =>
    rw [absorptions_cons hnot] at h
    rw [ih h]

theorem leadingReference?_eq_some_iff {cs path rest : List Char} :
    leadingReference? cs = some (path, rest) ↔
      cs = (Piece.reference path).source ++ rest ∧ Text.IsReferencePath path := by
  constructor
  · intro h
    obtain ⟨hcs, hpath⟩ := eq_append_of_leadingReference? h
    exact ⟨hcs, Text.isReferencePath_iff.mp hpath⟩
  · rintro ⟨rfl, hpath⟩
    rw [leadingReference?_source rest (hpath.isDotted.notMem (by decide) (by decide)),
      if_pos (Text.isReferencePath_iff.mpr hpath)]

theorem eq_cons_of_leadingReference? {cs path rest : List Char}
    (h : leadingReference? cs = some (path, rest)) :
    ∃ inside, '$' ∉ '\x7b' :: inside ∧ cs = '$' :: ('\x7b' :: inside ++ rest) := by
  obtain ⟨rfl, hpath⟩ := leadingReference?_eq_some_iff.mp h
  refine ⟨path ++ ['\x7d'], ?_, by simp [Piece.source]⟩
  simpa using hpath.isDotted.notMem (by decide) (by decide)

/-- The paths of all references in a text, in the order of their places. -/
def occurrences (cs : List Char) : List (List Char) :=
  cs.tails.filterMap fun tail => (leadingReference? tail).map Prod.fst

/-- A reference stands in the text directly behind a `$`. -/
def DollarBefore (cs : List Char) : Prop :=
  ∃ before path after, cs = before ++ '$' :: ((Piece.reference path).source ++ after) ∧
    Text.IsReferencePath path

theorem occurrences_cons (c : Char) (rest : List Char) :
    occurrences (c :: rest) =
      ((leadingReference? (c :: rest)).map Prod.fst).toList ++ occurrences rest := by
  cases h : leadingReference? (c :: rest) <;> simp [occurrences, List.tails, h]

theorem occurrences_append_of_notMem {cs : List Char} (rest : List Char) (h : '$' ∉ cs) :
    occurrences (cs ++ rest) = occurrences rest := by
  induction cs with
  | nil => rfl
  | cons c cs ih =>
    have hnone : leadingReference? (c :: (cs ++ rest)) = none := by
      cases hleading : leadingReference? (c :: (cs ++ rest)) with
      | none => rfl
      | some found =>
        have hcs := (eq_append_of_leadingReference? hleading).1
        simp only [Piece.source, List.cons_append, List.cons.injEq] at hcs
        simp [hcs.1] at h
    rw [List.cons_append, occurrences_cons, hnone, ih (List.not_mem_of_not_mem_cons h)]
    rfl

/-- Finding references from the left misses none. -/
theorem filterMap_path?_pieces (cs : List Char) :
    (pieces cs).filterMap Piece.path? = occurrences cs := by
  fun_induction pieces cs with
  | case1 cs path rest h _ ih =>
    obtain ⟨inside, hinside, rfl⟩ := eq_cons_of_leadingReference? h
    rw [occurrences_cons, h, occurrences_append_of_notMem _ hinside, ← ih]
    rfl
  | case2 => rfl
  | case3 c rest h ih =>
    rw [occurrences_cons, h, ← ih]
    rfl

theorem isReferencePath_of_mem_pieces {cs path : List Char} (h : .reference path ∈ pieces cs) :
    Text.isReferencePath path = true := by
  fun_induction pieces cs with
  | case1 cs other rest hleading _ ih =>
    rcases List.mem_cons.mp h with heq | h
    · rw [Piece.reference.inj heq]
      exact (eq_append_of_leadingReference? hleading).2
    · exact ih h
  | case2 => cases h
  | case3 c rest _ ih =>
    rcases List.mem_cons.mp h with heq | h
    · cases heq
    · exact ih h

theorem dollarBefore_cons {c : Char} {rest : List Char} :
    DollarBefore (c :: rest) ↔
      (c = '$' ∧ ∃ path after, leadingReference? rest = some (path, after)) ∨
        DollarBefore rest := by
  constructor
  · rintro ⟨before, path, after, hcs, hpath⟩
    cases before with
    | nil =>
      obtain ⟨rfl, hrest⟩ := List.cons.inj hcs
      exact Or.inl ⟨rfl, path, after, leadingReference?_eq_some_iff.mpr ⟨hrest, hpath⟩⟩
    | cons d before =>
      obtain ⟨rfl, hrest⟩ := List.cons.inj hcs
      exact Or.inr ⟨before, path, after, hrest, hpath⟩
  · rintro (⟨rfl, path, after, h⟩ | ⟨before, path, after, rfl, hpath⟩)
    · obtain ⟨rfl, hpath⟩ := leadingReference?_eq_some_iff.mp h
      exact ⟨[], path, after, rfl, hpath⟩
    · exact ⟨c :: before, path, after, rfl, hpath⟩

theorem dollarBefore_append_of_notMem {cs : List Char} (rest : List Char) (h : '$' ∉ cs) :
    DollarBefore (cs ++ rest) ↔ DollarBefore rest := by
  induction cs with
  | nil => rfl
  | cons c cs ih =>
    rw [List.cons_append, dollarBefore_cons, ih (List.not_mem_of_not_mem_cons h)]
    exact or_iff_right fun hc => h (hc.1 ▸ List.mem_cons_self)

theorem exists_pieces_eq_reference_iff {cs : List Char} :
    (∃ path more, pieces cs = .reference path :: more) ↔
      ∃ path after, leadingReference? cs = some (path, after) := by
  constructor
  · rintro ⟨path, more, h⟩
    cases hleading : leadingReference? cs with
    | some found => exact ⟨found.1, found.2, rfl⟩
    | none =>
      cases cs with
      | nil => rw [pieces] at h; cases h
      | cons c rest => rw [pieces_cons hleading] at h; cases h
  · rintro ⟨path, after, h⟩
    exact ⟨path, _, pieces_of_leadingReference? h⟩

theorem absorptions_pieces_eq_zero_iff (cs : List Char) :
    absorptions (pieces cs) = 0 ↔ ¬ DollarBefore cs := by
  fun_induction pieces cs with
  | case1 cs path rest h _ ih =>
    obtain ⟨inside, hinside, rfl⟩ := eq_cons_of_leadingReference? h
    have hbrace : leadingReference? ('\x7b' :: inside ++ rest) = none := rfl
    rw [absorptions_cons (by simp), ih, dollarBefore_cons, hbrace,
      dollarBefore_append_of_notMem _ hinside]
    simp
  | case2 =>
    refine iff_of_true rfl ?_
    rintro ⟨_, _, _, hcs, _⟩
    simp at hcs
  | case3 c rest h ih =>
    rw [dollarBefore_cons, ← exists_pieces_eq_reference_iff, not_or, ← ih]
    by_cases hc : c = '$' ∧ ∃ path more, pieces rest = .reference path :: more
    · obtain ⟨rfl, path, more, hrest⟩ := hc
      simp [hrest, absorptions]
    · rw [absorptions_cons]
      · exact (and_iff_right hc).symm
      · rintro path more heq hrest
        exact hc ⟨Piece.literal.inj heq, path, more, hrest⟩

theorem exists_eq_mark_of_readTemplate_eq {cs path : List Char} {more : List Piece}
    (h : readTemplate cs = .reference path :: more) : ∃ tail, cs = '$' :: '\x7b' :: tail := by
  cases hmark : leadingMark? cs with
  | none =>
    cases cs with
    | nil => rw [readTemplate_nil] at h; cases h
    | cons c rest => rw [readTemplate_cons hmark] at h; cases h
  | some found =>
    obtain ⟨read, rest⟩ := found
    rw [readTemplate_of_leadingMark? hmark] at h
    unfold leadingMark? at hmark
    split at hmark
    case h_8 tail => exact ⟨tail, rfl⟩
    case h_9 => cases hmark
    all_goals
      obtain ⟨rfl, rfl⟩ := Prod.mk.inj (Option.some.inj hmark)
      cases h

/-- There is no template that says a `$` and, directly behind it, a reference. -/
theorem absorptions_readTemplate (cs : List Char) : absorptions (readTemplate cs) = 0 := by
  fun_induction readTemplate cs with
  | case1 cs read rest h _ ih =>
    unfold leadingMark? at h
    split at h
    case h_8 tail _ =>
      obtain ⟨⟨path, after⟩, _, heq⟩ := Option.map_eq_some_iff.mp h
      obtain ⟨rfl, rfl⟩ := Prod.mk.inj heq
      rw [List.singleton_append, absorptions_cons (by simp), ih]
    case h_9 => cases h
    all_goals
      obtain ⟨rfl, rfl⟩ := Prod.mk.inj (Option.some.inj h)
      simp [absorptions_cons, ih]
  | case2 => rfl
  | case3 c rest h ih =>
    rw [absorptions_cons, ih]
    rintro path more heq hrest
    obtain rfl := Piece.literal.inj heq
    -- a reference starts with the marks of which a `$` in front makes a doubled one
    obtain ⟨tail, rfl⟩ := exists_eq_mark_of_readTemplate_eq hrest
    simp [leadingMark?] at h

/-- A template is read as the text that it was made of, with its references in their order, exactly
if none of them stands directly behind a `$`. Each one that does is read as literal text without
that `$`, and no other template would be read as the text either. -/
theorem readTemplate_quotedTemplate? {s t : String} (h : quotedTemplate? s = some t) :
    readTemplate t.toList = absorbed (pieces s.toList) ∧
    (¬ DollarBefore s.toList →
      (readTemplate t.toList).flatMap Piece.source = s.toList ∧
      (readTemplate t.toList).filterMap Piece.path? = occurrences s.toList) ∧
    (DollarBefore s.toList →
      (readTemplate t.toList).flatMap Piece.source ≠ s.toList ∧
      (readTemplate t.toList).filterMap Piece.path? ≠ occurrences s.toList ∧
      ∀ other, readTemplate other ≠ pieces s.toList) := by
  have ht : t.toList = templateSource (pieces s.toList) := by
    simp only [quotedTemplate?, Option.ite_none_right_eq_some, Option.some.injEq] at h
    rw [← h.2, String.toList_ofList]
  have hread : readTemplate t.toList = absorbed (pieces s.toList) := by
    rw [ht]
    exact readTemplate_templateSource fun _ => isReferencePath_of_mem_pieces
  refine ⟨hread, fun hnone => ?_, fun hdollar => ?_⟩
  · have hzero := (absorptions_pieces_eq_zero_iff s.toList).mpr hnone
    rw [hread, absorbed_of_absorptions_eq_zero hzero]
    exact ⟨flatMap_source_pieces _, filterMap_path?_pieces _⟩
  · have hpos : absorptions (pieces s.toList) ≠ 0 :=
      fun hzero => (absorptions_pieces_eq_zero_iff s.toList).mp hzero hdollar
    have htext := length_absorbed (pieces s.toList)
    have hpaths := length_filterMap_path?_absorbed (pieces s.toList)
    rw [flatMap_source_pieces] at htext
    rw [filterMap_path?_pieces] at hpaths
    rw [hread]
    refine ⟨fun heq => ?_, fun heq => ?_, fun other heq => ?_⟩
    · rw [heq] at htext
      omega
    · rw [heq] at hpaths
      omega
    · rw [← heq] at hpos
      exact hpos (absorptions_readTemplate other)

/-- A text with quotes, a line end, a directive and an interpolation that is no reference. -/
theorem readTemplate_policy :
    let s := "\"$\x7bdata.aws_vpc.shared.id\x7d\"\n%\x7b x \x7d$\x7baws:username\x7d\\"
    let t := "\\\"$\x7bdata.aws_vpc.shared.id\x7d\\\"\\n%%\x7b x \x7d$$\x7baws:username\x7d\\\\"
    quotedTemplate? s = some t ∧ ¬ DollarBefore s.toList ∧
      readTemplate t.toList = absorbed (pieces s.toList) ∧
      (¬ DollarBefore s.toList →
        (readTemplate t.toList).flatMap Piece.source = s.toList ∧
        (readTemplate t.toList).filterMap Piece.path? = occurrences s.toList) ∧
      (DollarBefore s.toList →
        (readTemplate t.toList).flatMap Piece.source ≠ s.toList ∧
        (readTemplate t.toList).filterMap Piece.path? ≠ occurrences s.toList ∧
        ∀ other, readTemplate other ≠ pieces s.toList) := by
  intro s t
  have hquoted : quotedTemplate? s = some t := by decide +kernel
  have hdollar : ¬ DollarBefore s.toList :=
    (absorptions_pieces_eq_zero_iff _).mp (by decide +kernel)
  exact ⟨hquoted, hdollar, readTemplate_quotedTemplate? hquoted⟩

/-- A price tag in front of a reference: the template is literal text and has lost the `$`. -/
theorem readTemplate_dollar_before :
    let s := "$$\x7baws_vpc.main.id\x7d"
    quotedTemplate? s = some s ∧
      occurrences s.toList = ["aws_vpc.main.id".toList] ∧
      (readTemplate s.toList).flatMap Piece.source = "$\x7baws_vpc.main.id\x7d".toList ∧
      (readTemplate s.toList).filterMap Piece.path? = [] := by
  decide +kernel

end Hcl

end StackSynth
