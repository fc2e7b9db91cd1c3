import StackSynth.Text.Split

namespace StackSynth.Text

def isPathChar (c : Char) : Bool :=
  c.isAlphanum || c = '_' || c = '-'

/-- Whether a segment may stand in the path of an attribute: it has only plain characters, and at
least one. -/
def isAttributeSegment (segment : List Char) : Bool :=
  !segment.isEmpty && segment.all isPathChar

/-- Whether a segment may stand in a reference: it starts with a letter or `_` besides. -/
def isReferenceSegment (segment : List Char) : Bool :=
  match segment with
  | [] => false
  | c :: rest => (c.isAlpha || c = '_') && isPathChar c && rest.all isPathChar

/-- Whether a text names an attribute, such as `tags.Name`. -/
def isAttributePath (path : List Char) : Bool :=
  (segments '.' path).all isAttributeSegment

/-- Whether a text is a reference, such as `aws_vpc.main.id`. -/
def isReferencePath (path : List Char) : Bool :=
  (segments '.' path).all isReferenceSegment

/-- Paths of one or more plain names with dots between them. -/
def IsAttributePath (path : List Char) : Prop :=
  ∃ names : List (List Char), names ≠ [] ∧ path = ['.'].intercalate names ∧
    ∀ name ∈ names, name ≠ [] ∧ ∀ c ∈ name, c.isAlphanum = true ∨ c = '_' ∨ c = '-'

def IsPlainIdentifier (name : List Char) : Prop :=
  ∃ first rest, name = first :: rest ∧ (first.isAlpha = true ∨ first = '_') ∧
    ∀ c ∈ rest, c.isAlphanum = true ∨ c = '_' ∨ c = '-'

def IsReferencePath (path : List Char) : Prop :=
  ∃ names : List (List Char), names ≠ [] ∧ path = ['.'].intercalate names ∧
    ∀ name ∈ names, IsPlainIdentifier name

theorem isAttributeSegment_iff {segment : List Char} :
    isAttributeSegment segment = true ↔
      segment ≠ [] ∧ ∀ c ∈ segment, c.isAlphanum = true ∨ c = '_' ∨ c = '-' := by
  simp [isAttributeSegment, isPathChar, or_assoc]

theorem isAttributePath_iff {path : List Char} :
    isAttributePath path = true ↔ IsAttributePath path := by
  rw [isAttributePath, List.all_eq_true]
  constructor
  · intro h
    exact ⟨segments '.' path, segments_ne_nil _ _, (intercalate_segments _ _).symm,
      fun name hname => isAttributeSegment_iff.mp (h name hname)⟩
  · rintro ⟨names, hne, rfl, hnames⟩
    have hdot : ∀ name ∈ names, '.' ∉ name := by
      intro name hname hmem
      have hplain := (hnames name hname).2 '.' hmem
      revert hplain
      decide
    rw [segments_intercalate hne hdot]
    exact fun name hname => isAttributeSegment_iff.mpr (hnames name hname)

theorem isPathChar_iff {c : Char} :
    isPathChar c = true ↔ c.isAlphanum = true ∨ c = '_' ∨ c = '-' := by
  simp [isPathChar, or_assoc]

theorem isReferenceSegment_iff {segment : List Char} :
    isReferenceSegment segment = true ↔ IsPlainIdentifier segment := by
  cases segment with
  | nil => simp [isReferenceSegment, IsPlainIdentifier]
  | cons first rest =>
    have hfirst : first.isAlpha = true ∨ first = '_' → isPathChar first = true := by
      rintro (h | rfl)
      · simp [isPathChar, Char.isAlphanum, h]
      · rfl
    simp only [isReferenceSegment, Bool.and_eq_true, Bool.or_eq_true, decide_eq_true_eq,
      List.all_eq_true, isPathChar_iff, IsPlainIdentifier, List.cons.injEq]
    constructor
    · rintro ⟨⟨hstart, _⟩, hrest⟩
      exact ⟨first, rest, ⟨rfl, rfl⟩, hstart, hrest⟩
    · rintro ⟨_, _, ⟨rfl, rfl⟩, hstart, hrest⟩
      exact ⟨⟨hstart, isPathChar_iff.mp (hfirst hstart)⟩, hrest⟩

theorem isPathChar_of_isReferenceSegment {segment : List Char}
    (h : isReferenceSegment segment = true) : ∀ c ∈ segment, isPathChar c = true := by
  cases segment with
  | nil => simp
  | cons first rest =>
    simp only [isReferenceSegment, Bool.and_eq_true, List.all_eq_true] at h
    exact List.forall_mem_cons.mpr ⟨h.1.2, h.2⟩

theorem dot_notMem_of_isReferenceSegment {segment : List Char}
    (h : isReferenceSegment segment = true) : '.' ∉ segment := by
  intro hmem
  exact absurd (isPathChar_of_isReferenceSegment h '.' hmem) (by decide)

/-- In front of a path of names, a plain name and a dot make no difference. -/
theorem isReferencePath_append_cons {segment path : List Char}
    (h : isReferenceSegment segment = true) :
    isReferencePath (segment ++ '.' :: path) = isReferencePath path := by
  rw [isReferencePath, segments_append_cons path (dot_notMem_of_isReferenceSegment h),
    List.all_cons, h, Bool.true_and, isReferencePath]

theorem isPathChar_of_isAttributePath {path : List Char} (h : isAttributePath path = true)
    {c : Char} (hc : c ∈ path) (hdot : c ≠ '.') : isPathChar c = true := by
  obtain ⟨segment, hsegment, hmem⟩ := exists_mem_segments hc hdot
  have hall := List.all_eq_true.mp h segment hsegment
  exact isPathChar_iff.mpr ((isAttributeSegment_iff.mp hall).2 c hmem)

theorem isReferencePath_iff {path : List Char} :
    isReferencePath path = true ↔ IsReferencePath path := by
  rw [isReferencePath, List.all_eq_true]
  constructor
  · intro h
    exact ⟨segments '.' path, segments_ne_nil _ _, (intercalate_segments _ _).symm,
      fun name hname => isReferenceSegment_iff.mp (h name hname)⟩
  · rintro ⟨names, hne, rfl, hnames⟩
    have hsegments : ∀ name ∈ names, isReferenceSegment name = true :=
      fun name hname => isReferenceSegment_iff.mpr (hnames name hname)
    rw [segments_intercalate hne fun name hname =>
      dot_notMem_of_isReferenceSegment (hsegments name hname)]
    exact hsegments

theorem IsReferencePath.isAttributePath {path : List Char} (h : IsReferencePath path) :
    IsAttributePath path := by
  obtain ⟨names, hne, hpath, hnames⟩ := h
  refine ⟨names, hne, hpath, fun name hname => ?_⟩
  have hplain := isReferenceSegment_iff.mpr (hnames name hname)
  refine ⟨?_, fun c hc => isPathChar_iff.mp (isPathChar_of_isReferenceSegment hplain c hc)⟩
  rintro rfl
  cases hplain

end StackSynth.Text
