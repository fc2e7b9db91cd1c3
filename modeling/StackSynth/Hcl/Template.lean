import StackSynth.Text.Path
/-!
Texts with references in them. `${path}` is a reference if `path` is a dotted path of identifiers;
every other character stands for itself. Main statement: the pieces of a text, written one after
another, are the text.
-/
namespace StackSynth.Hcl

inductive Piece where
  | literal (c : Char)
  | reference (path : List Char)
deriving DecidableEq, Repr

def Piece.source : Piece → List Char
  | literal c => [c]
  | reference path => '$' :: '\x7b' :: path ++ ['\x7d']

def Piece.isReference : Piece → Bool
  | literal _ => false
  | reference _ => true

/-- The path of the reference that a text starts with, and what follows it. -/
def leadingReference? : List Char → Option (List Char × List Char)
  | '$' :: '\x7b' :: tail =>
    match Text.cutFirst? '\x7d' tail with
    | some (path, rest) => if Text.isReferencePath path then some (path, rest) else none
    | none => none
  | _ => none

theorem eq_append_of_leadingReference? {cs path rest : List Char}
    (h : leadingReference? cs = some (path, rest)) :
    cs = (Piece.reference path).source ++ rest ∧ Text.isReferencePath path := by
  unfold leadingReference? at h
  split at h
  · split at h
    · next tail before after hcut =>
      split at h
      · next hpath =>
        obtain ⟨rfl, rfl⟩ := Prod.mk.inj (Option.some.inj h)
        simp [Piece.source, (Text.cutFirst?_eq_some hcut).1, hpath]
      · simp at h
    · simp at h
  · simp at h

theorem length_of_leadingReference? {cs path rest : List Char}
    (h : leadingReference? cs = some (path, rest)) : rest.length < cs.length := by
  rw [(eq_append_of_leadingReference? h).1]
  simp [Piece.source]
  omega

/-- The pieces of a text, references found from the left. -/
def pieces (cs : List Char) : List Piece :=
  match h : leadingReference? cs with
  | some (path, rest) =>
    have := length_of_leadingReference? h
    .reference path :: pieces rest
  | none =>
    match cs with
    | [] => []
    | c :: rest => .literal c :: pieces rest
termination_by cs.length

/-- A character of a quoted template in front of the pieces that follow it. `$` and `%` are doubled
where a `{` would make them open something. -/
def templateChar (c : Char) (following : List Piece) : List Char :=
  match c with
  | '"' => ['\\', '"']
  | '\\' => ['\\', '\\']
  | '\n' => ['\\', 'n']
  | '\r' => ['\\', 'r']
  | '\t' => ['\\', 't']
  | c => if (c = '$' ∨ c = '%') ∧ following.head? = some (.literal '\x7b') then [c, c] else [c]

def templateSource : List Piece → List Char
  | [] => []
  | .literal c :: rest => templateChar c rest ++ templateSource rest
  | .reference path :: rest => (Piece.reference path).source ++ templateSource rest

/-- The quoted template that keeps the references of a text, if it has any. -/
def quotedTemplate? (s : String) : Option String :=
  let all := pieces s.toList
  if all.any Piece.isReference then some (String.ofList (templateSource all)) else none

theorem leadingReference?_eq_none {cs : List Char} (h : '$' ∉ cs) :
    leadingReference? cs = none := by
  cases hleading : leadingReference? cs with
  | none => rfl
  | some found =>
    have hcs := (eq_append_of_leadingReference? hleading).1
    rw [hcs] at h
    simp [Piece.source] at h

/-- A reference ends at the first closing brace. -/
theorem leadingReference?_source {path : List Char} (rest : List Char) (h : '\x7d' ∉ path) :
    leadingReference? ((Piece.reference path).source ++ rest) =
      if Text.isReferencePath path then some (path, rest) else none := by
  have hsource : (Piece.reference path).source ++ rest =
      '$' :: '\x7b' :: (path ++ '\x7d' :: rest) := by simp [Piece.source]
  rw [hsource, leadingReference?, Text.cutFirst?_append_cons rest h]

theorem pieces_of_leadingReference? {cs path rest : List Char}
    (h : leadingReference? cs = some (path, rest)) :
    pieces cs = .reference path :: pieces rest := by
  rw [pieces]
  split
  · next heq =>
    obtain ⟨rfl, rfl⟩ := Prod.mk.inj (Option.some.inj (heq.symm.trans h))
    rfl
  · next heq =>
    rw [h] at heq
    cases heq

theorem pieces_cons {c : Char} {rest : List Char} (h : leadingReference? (c :: rest) = none) :
    pieces (c :: rest) = .literal c :: pieces rest := by
  rw [pieces]
  split
  · next heq =>
    rw [h] at heq
    cases heq
  · rfl

theorem pieces_of_notMem {cs : List Char} (h : '$' ∉ cs) : pieces cs = cs.map .literal := by
  induction cs with
  | nil => rw [pieces]; rfl
  | cons c rest ih =>
    rw [pieces_cons (leadingReference?_eq_none h), List.map_cons,
      ih (List.not_mem_of_not_mem_cons h)]

theorem flatMap_source_pieces (cs : List Char) : (pieces cs).flatMap Piece.source = cs := by
  fun_induction pieces cs with
  | case1 cs path rest h _ ih =>
    simp [ih, (eq_append_of_leadingReference? h).1, Piece.source]
  | case2 => rfl
  | case3 c rest h ih => simp [ih, Piece.source]

end StackSynth.Hcl
