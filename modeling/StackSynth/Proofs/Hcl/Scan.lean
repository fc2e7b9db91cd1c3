import Mathlib.Data.List.Infix
import StackSynth.Proofs.Hcl.TemplateReading

namespace StackSynth.Hcl

theorem mem_occurrences_iff {cs path : List Char} :
    path ∈ occurrences cs ↔
      ∃ before after, cs = before ++ (Piece.reference path).source ++ after ∧
        Text.IsReferencePath path := by
  simp only [occurrences, List.mem_filterMap, List.mem_tails, Option.map_eq_some_iff]
  constructor
  · rintro ⟨tail, ⟨before, rfl⟩, ⟨_, after⟩, hleading, rfl⟩
    obtain ⟨rfl, hpath⟩ := leadingReference?_eq_some_iff.mp hleading
    exact ⟨before, after, (List.append_assoc ..).symm, hpath⟩
  · rintro ⟨before, after, rfl, hpath⟩
    have hleading := leadingReference?_eq_some_iff.mpr
      ⟨(rfl : (Piece.reference path).source ++ after = _), hpath⟩
    exact ⟨_, ⟨before, (List.append_assoc ..).symm⟩, _, hleading, rfl⟩

theorem reference_mem_pieces_iff {cs path : List Char} :
    .reference path ∈ pieces cs ↔ path ∈ occurrences cs := by
  rw [← filterMap_path?_pieces, List.mem_filterMap]
  constructor
  · intro h
    exact ⟨_, h, rfl⟩
  · rintro ⟨piece, hpiece, hpath⟩
    cases piece with
    | literal c => cases hpath
    | reference other =>
      obtain rfl := Option.some.inj hpath
      exact hpiece

theorem any_isReference_iff {all : List Piece} :
    all.any Piece.isReference = true ↔ ∃ path, .reference path ∈ all := by
  rw [List.any_eq_true]
  constructor
  · rintro ⟨piece, hpiece, h⟩
    cases piece with
    | literal c => cases h
    | reference path => exact ⟨path, hpiece⟩
  · rintro ⟨path, hpath⟩
    exact ⟨_, hpath, rfl⟩

/-- How many bytes the search goes on by: those of a character, or those of a path and of the three
marks around it. -/
def Piece.width : Piece → Nat
  | literal c => c.utf8Size
  | reference path => (String.ofList path).utf8ByteSize + 3

/-- The places where the search stops, in bytes: in front of each piece, and at the end. -/
def stops (start : Nat) : List Piece → List Nat
  | [] => [start]
  | piece :: rest => start :: stops (start + piece.width) rest

theorem utf8ByteSize_ofList_append (cs rest : List Char) :
    (String.ofList (cs ++ rest)).utf8ByteSize =
      (String.ofList cs).utf8ByteSize + (String.ofList rest).utf8ByteSize := by
  rw [String.ofList_append, String.utf8ByteSize_append]

theorem Piece.width_eq (piece : Piece) :
    piece.width = (String.ofList piece.source).utf8ByteSize := by
  cases piece with
  | literal c =>
    rw [width, source, ← String.singleton_eq_ofList, String.utf8ByteSize_singleton]
  | reference path =>
    have hopen : (String.ofList ['$', '\x7b']).utf8ByteSize = 2 := by decide
    have hclose : (String.ofList ['\x7d']).utf8ByteSize = 1 := by decide
    have hsource : (Piece.reference path).source = ['$', '\x7b'] ++ (path ++ ['\x7d']) := rfl
    rw [hsource, utf8ByteSize_ofList_append, utf8ByteSize_ofList_append, hopen, hclose, width]
    omega

theorem Piece.width_pos (piece : Piece) : 0 < piece.width := by
  cases piece with
  | literal c => exact c.utf8Size_pos
  | reference path => exact Nat.succ_pos _

theorem isValid_of_toList_eq_append {s : String} {before after : List Char}
    (h : s.toList = before ++ after) :
    (String.Pos.Raw.mk (String.ofList before).utf8ByteSize).IsValid s := by
  refine String.Pos.Raw.isValid_iff_exists_append.mpr
    ⟨String.ofList before, String.ofList after, ?_, rfl⟩
  rw [← String.ofList_append, ← h, String.ofList_toList]

theorem isValid_of_mem_stops {s : String} {before : List Char} {all : List Piece} {stop : Nat}
    (hs : s.toList = before ++ all.flatMap Piece.source)
    (h : stop ∈ stops (String.ofList before).utf8ByteSize all) :
    (String.Pos.Raw.mk stop).IsValid s := by
  -- what stands before a stop is whole: the pieces that the search has passed
  induction all generalizing before with
  | nil =>
    rw [List.mem_singleton.mp h]
    exact isValid_of_toList_eq_append hs
  | cons piece rest ih =>
    rcases List.mem_cons.mp h with rfl | hrest
    · exact isValid_of_toList_eq_append hs
    · have hnext : s.toList = before ++ piece.source ++ rest.flatMap Piece.source := by
        rw [hs, List.flatMap_cons, List.append_assoc]
      rw [piece.width_eq, ← utf8ByteSize_ofList_append] at hrest
      exact ih hnext hrest

theorem le_of_mem_stops {start stop : Nat} {all : List Piece} (h : stop ∈ stops start all) :
    start ≤ stop := by
  induction all generalizing start with
  | nil => rw [List.mem_singleton.mp h]
  | cons piece rest ih =>
    rcases List.mem_cons.mp h with rfl | hrest
    · exact Nat.le_refl _
    · have hnext := ih hrest
      omega

theorem pairwise_stops (start : Nat) (all : List Piece) : (stops start all).Pairwise (· < ·) := by
  induction all generalizing start with
  | nil => exact List.pairwise_singleton _ _
  | cons piece rest ih =>
    refine List.pairwise_cons.mpr ⟨fun stop hstop => ?_, ih _⟩
    have hnext := le_of_mem_stops hstop
    have hwidth := piece.width_pos
    omega

theorem getLast?_stops (start : Nat) (all : List Piece) :
    (stops start all).getLast? =
      some (start + (String.ofList (all.flatMap Piece.source)).utf8ByteSize) := by
  induction all generalizing start with
  | nil => rfl
  | cons piece rest ih =>
    rw [stops, List.getLast?_cons, ih, List.flatMap_cons, utf8ByteSize_ofList_append,
      ← piece.width_eq, Nat.add_assoc]
    rfl

/-- How references are searched in a text, and what comes of it. -/
structure Searched (s : String) : Prop where
  /-- A reference is found if there is one anywhere. -/
  isSome_iff : (quotedTemplate? s).isSome = true ↔
    ∃ before path after, s.toList = before ++ '$' :: '\x7b' :: path ++ '\x7d' :: after ∧
      Text.IsReferencePath path
  eq_string : quotedTemplate? s = none → Expression.ofValue (.string s) = .string s
  eq_template : ∀ source, quotedTemplate? s = some source →
    Expression.ofValue (.string s) = .template source
  /-- The search does not stop inside a character, -/
  isValid : ∀ stop ∈ stops 0 (pieces s.toList), (String.Pos.Raw.mk stop).IsValid s
  /-- it goes on at each step, -/
  pairwise : (stops 0 (pieces s.toList)).Pairwise (· < ·)
  /-- and it ends at the end. -/
  getLast?_eq : (stops 0 (pieces s.toList)).getLast? = some s.utf8ByteSize

/-- No reference is missed, and the search for it ends on every text. -/
theorem searched (s : String) : Searched s where
  isSome_iff := by
    simp only [quotedTemplate?, Option.isSome_ite, any_isReference_iff, reference_mem_pieces_iff,
      mem_occurrences_iff]
    have hsource : ∀ before path after : List Char,
        before ++ (Piece.reference path).source ++ after =
          before ++ '$' :: '\x7b' :: path ++ '\x7d' :: after := by
      intro before path after
      simp [Piece.source]
    simp only [hsource]
    exact exists_comm
  eq_string := by
    intro h
    rw [Expression.ofValue, Expression.ofString, h]
  eq_template := by
    intro source h
    rw [Expression.ofValue, Expression.ofString, h]
  isValid := by
    intro stop hstop
    have hs : s.toList = [] ++ (pieces s.toList).flatMap Piece.source := by
      rw [flatMap_source_pieces, List.nil_append]
    exact isValid_of_mem_stops hs hstop
  pairwise := pairwise_stops _ _
  getLast?_eq := by
    rw [getLast?_stops, flatMap_source_pieces, String.ofList_toList, Nat.zero_add]

end StackSynth.Hcl
