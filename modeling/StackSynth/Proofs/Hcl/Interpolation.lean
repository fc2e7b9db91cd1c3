import StackSynth.Hcl.Expression
import StackSynth.Proofs.Stack.Tokens

namespace StackSynth

namespace Text

/-- The characters of dotted paths, whether or not the dots stand where they may. -/
def IsDotted (cs : List Char) : Prop :=
  ∀ c ∈ cs, isPathChar c = true ∨ c = '.'

theorem IsDotted.append_cons {segment path : List Char} (hsegment : IsDotted segment)
    (hpath : IsDotted path) : IsDotted (segment ++ '.' :: path) := by
  intro c hc
  rcases List.mem_append.mp hc with hc | hc
  · exact hsegment c hc
  · rcases List.mem_cons.mp hc with rfl | hc
    · exact Or.inr rfl
    · exact hpath c hc

theorem isDotted_of_isReferenceSegment {segment : List Char}
    (h : isReferenceSegment segment = true) : IsDotted segment :=
  fun c hc => Or.inl (isPathChar_of_isReferenceSegment h c hc)

theorem isDotted_of_isAttributePath {path : List Char} (h : isAttributePath path = true) :
    IsDotted path := by
  intro c hc
  by_cases hdot : c = '.'
  · exact Or.inr hdot
  · exact Or.inl (isPathChar_of_isAttributePath h hc hdot)

theorem IsDotted.notMem {path : List Char} (dotted : IsDotted path) {c : Char}
    (hchar : isPathChar c = false) (hdot : c ≠ '.') : c ∉ path := by
  intro hc
  rcases dotted c hc with h | h
  · rw [h] at hchar
    cases hchar
  · exact hdot h

theorem IsDotted.le_toNat {path : List Char} (dotted : IsDotted path) {c : Char} (hc : c ∈ path) :
    32 ≤ c.toNat := by
  have hcontrol : ∀ n < 32, isPathChar (Char.ofNat n) = false ∧ Char.ofNat n ≠ '.' := by decide
  by_contra hlt
  obtain ⟨hchar, hdot⟩ := hcontrol c.toNat (by omega)
  rw [Char.ofNat_toNat] at hchar hdot
  exact dotted.notMem hchar hdot hc

end Text

namespace Json

theorem escapeChar_of_plain {c : Char} (hcontrol : 32 ≤ c.toNat) (hquote : c ≠ '"')
    (hslash : c ≠ '\\') : escapeChar c = [c] := by
  unfold escapeChar
  split
  all_goals try contradiction
  rw [if_neg (by omega)]

theorem escape_of_plain {cs : List Char} (h : ∀ c ∈ cs, escapeChar c = [c]) : escape cs = cs := by
  induction cs with
  | nil => rfl
  | cons c rest ih =>
    have hrest : escape rest = rest := ih fun d hd => h d (List.mem_cons_of_mem _ hd)
    rw [escape, List.flatMap_cons, h c List.mem_cons_self, ← escape, hrest, List.singleton_append]

end Json

namespace Hcl

/-- A text that becomes a template with one reference and nothing else. -/
structure IsKept (s : String) : Prop where
  pieces_eq : ∃ path, pieces s.toList = [.reference path]
  quoted_eq : quotedTemplate? s = some s
  expression_eq : Expression.ofValue (.string s) = .template s

/-- A text that becomes a string, with one `$` more than it has. -/
structure IsEscaped (s : String) : Prop where
  quoted_eq : quotedTemplate? s = none
  expression_eq : Expression.ofValue (.string s) = .string s
  render_eq : (Expression.ofValue (.string s)).render = "\"$" ++ s ++ "\""

theorem doubleMarks_of_notMem {cs : List Char} (hdollar : '$' ∉ cs) (hpercent : '%' ∉ cs) :
    doubleMarks cs = cs := by
  fun_induction doubleMarks cs with
  | case1 => rfl
  | case2 => rfl
  | case3 c rest hmark ih => grind
  | case4 c d rest hmark hd ih => grind
  | case5 c d rest hmark ih => grind

section Sources

variable {s : String} {path : List Char}

theorem pieces_source (hpath : Text.isReferencePath path = true) (dotted : Text.IsDotted path) :
    pieces (Piece.reference path).source = [.reference path] := by
  have hleading := leadingReference?_source [] (dotted.notMem (by decide) (by decide))
  rw [List.append_nil, if_pos hpath] at hleading
  rw [pieces_of_leadingReference? hleading, pieces_of_notMem List.not_mem_nil, List.map_nil]

theorem pieces_source_of_false (hpath : Text.isReferencePath path = false)
    (dotted : Text.IsDotted path) :
    pieces (Piece.reference path).source = (Piece.reference path).source.map .literal := by
  have hsource : (Piece.reference path).source = '$' :: '\x7b' :: (path ++ ['\x7d']) := rfl
  have hleading := leadingReference?_source [] (dotted.notMem (by decide) (by decide))
  rw [List.append_nil, hpath, if_neg Bool.false_ne_true] at hleading
  rw [hsource] at hleading ⊢
  -- the first `$` opens nothing, and there is no other one
  have hdollar : '$' ∉ path := dotted.notMem (by decide) (by decide)
  have hrest : '$' ∉ '\x7b' :: (path ++ ['\x7d']) := by simp [hdollar]
  rw [pieces_cons hleading, pieces_of_notMem hrest]
  rfl

theorem escape_source (dotted : Text.IsDotted path) :
    Json.escape (Piece.reference path).source = (Piece.reference path).source := by
  have hquote : '"' ∉ path := dotted.notMem (by decide) (by decide)
  have hslash : '\\' ∉ path := dotted.notMem (by decide) (by decide)
  apply Json.escape_of_plain
  intro c hc
  simp only [Piece.source, List.mem_cons, List.mem_append, List.cons_append, List.not_mem_nil,
    or_false] at hc
  rcases hc with rfl | rfl | hpath | rfl
  · rfl
  · rfl
  · have hne : c ≠ '"' := fun heq => hquote (heq ▸ hpath)
    have hne' : c ≠ '\\' := fun heq => hslash (heq ▸ hpath)
    exact Json.escapeChar_of_plain (dotted.le_toNat hpath) hne hne'
  · rfl

theorem escapeMarks_source (dotted : Text.IsDotted path) :
    escapeMarks (Piece.reference path).source = '$' :: (Piece.reference path).source := by
  have hsource : (Piece.reference path).source = '$' :: '\x7b' :: (path ++ ['\x7d']) := rfl
  have hdollar : '$' ∉ path := dotted.notMem (by decide) (by decide)
  have hpercent : '%' ∉ path := dotted.notMem (by decide) (by decide)
  have hdouble : doubleMarks (path ++ ['\x7d']) = path ++ ['\x7d'] :=
    doubleMarks_of_notMem (by simp [hdollar]) (by simp [hpercent])
  rw [hsource, escapeMarks, if_pos ⟨Or.inl rfl, rfl⟩, doubleMarks, if_pos (Or.inl rfl), if_pos rfl,
    hdouble]

theorem isKept_of_source (hs : s.toList = (Piece.reference path).source)
    (hpath : Text.isReferencePath path = true) (dotted : Text.IsDotted path) : IsKept s := by
  have hpieces : pieces s.toList = [.reference path] := by
    rw [hs]
    exact pieces_source hpath dotted
  have hsource : templateSource (pieces s.toList) = s.toList := by
    rw [hpieces, hs, templateSource, templateSource, List.append_nil]
  have hquoted : quotedTemplate? s = some s := by
    rw [quotedTemplate?, hsource, hpieces, String.ofList_toList]
    rfl
  have hexpression : Expression.ofValue (.string s) = .template s := by
    rw [Expression.ofValue, Expression.ofString, hquoted]
  exact ⟨⟨path, hpieces⟩, hquoted, hexpression⟩

theorem isEscaped_of_source (hs : s.toList = (Piece.reference path).source)
    (hpath : Text.isReferencePath path = false) (dotted : Text.IsDotted path) : IsEscaped s := by
  have hquoted : quotedTemplate? s = none := by
    rw [quotedTemplate?, hs, pieces_source_of_false hpath dotted]
    simp [Piece.isReference]
  have hexpression : Expression.ofValue (.string s) = .string s := by
    rw [Expression.ofValue, Expression.ofString, hquoted]
  have hmarks : escapeMarks (Json.escape s.toList) = '$' :: s.toList := by
    rw [hs, escape_source dotted, escapeMarks_source dotted]
  refine ⟨hquoted, hexpression, ?_⟩
  rw [hexpression, Expression.render, Expression.text, quote, hmarks]
  apply String.toList_inj.mp
  simp

end Sources

end Hcl

namespace Block

variable {block : Block}

def pathTo (block : Block) (path : List Char) : List Char :=
  let place := block.terraformType.toList ++ '.' :: (block.label.toList ++ '.' :: path)
  match block.kind with
  | .resource => place
  | .dataSource => "data".toList ++ '.' :: place

theorem toList_reference (block : Block) (path : String) :
    (block.reference path).toList = (Hcl.Piece.reference (block.pathTo path.toList)).source := by
  obtain ⟨kind, terraformType, label, body⟩ := block
  cases kind
  · simp [reference, pathTo, Hcl.Piece.source]
  · simp [reference, pathTo, Hcl.Piece.source]

variable (htype : Text.isReferenceSegment block.terraformType.toList = true)
  (hlabel : Text.isReferenceSegment block.label.toList = true)

include htype hlabel

theorem isReferencePath_pathTo (path : List Char) :
    Text.isReferencePath (block.pathTo path) = Text.isReferencePath path := by
  have hdata : Text.isReferenceSegment "data".toList = true := by decide
  unfold pathTo
  cases block.kind with
  | resource =>
    rw [Text.isReferencePath_append_cons htype, Text.isReferencePath_append_cons hlabel]
  | dataSource =>
    rw [Text.isReferencePath_append_cons hdata, Text.isReferencePath_append_cons htype,
      Text.isReferencePath_append_cons hlabel]

theorem isDotted_pathTo {path : List Char} (hpath : Text.IsDotted path) :
    Text.IsDotted (block.pathTo path) := by
  have hdata : Text.IsDotted "data".toList := Text.isDotted_of_isReferenceSegment (by decide)
  have hplace := (Text.isDotted_of_isReferenceSegment htype).append_cons
    ((Text.isDotted_of_isReferenceSegment hlabel).append_cons hpath)
  unfold pathTo
  cases block.kind with
  | resource => exact hplace
  | dataSource => exact hdata.append_cons hplace

/-- A reference to an attribute of a construct with a plain name is kept or escaped, by the path of
the attribute alone. -/
theorem isKept_or_isEscaped {path : String} (hpath : Text.IsAttributePath path.toList) :
    (Text.IsReferencePath path.toList → Hcl.IsKept (block.reference path)) ∧
      (¬ Text.IsReferencePath path.toList → Hcl.IsEscaped (block.reference path)) := by
  have hsource := block.toList_reference path
  have hdotted : Text.IsDotted (block.pathTo path.toList) :=
    isDotted_pathTo htype hlabel
      (Text.isDotted_of_isAttributePath (Text.isAttributePath_iff.mpr hpath))
  have hsame := isReferencePath_pathTo htype hlabel path.toList
  constructor
  · intro href
    rw [← Text.isReferencePath_iff, ← hsame] at href
    exact Hcl.isKept_of_source hsource href hdotted
  · intro href
    rw [← Text.isReferencePath_iff, ← hsame, Bool.not_eq_true] at href
    exact Hcl.isEscaped_of_source hsource href hdotted

end Block

namespace Stack

variable {stack after : Stack} {kind : BlockKind} {request : Request} {handle : Handle}

/-- What a construct with a plain name hands out for its attributes is kept in hcl as the reference
it is, except for paths with a name that starts with a digit or `-`. They are accepted all the same,
and hcl gets literal text. -/
theorem reference_kept
    (hanswer : Stack.backend.materialize kind request stack = (.ok handle, after))
    (hname : Text.IsPlainIdentifier request.name.toList) :
    (∀ path value, handle.direct? path = some value →
      ∃ token, value = .string token ∧ Hcl.IsKept token) ∧
    (∀ path value, handle.byName path = .ok value → ∃ token, value = .string token ∧
      (Text.IsReferencePath path.toList → Hcl.IsKept token) ∧
      (¬ Text.IsReferencePath path.toList → Hcl.IsEscaped token)) := by
  rw [materialize_backend] at hanswer
  obtain ⟨block, _, hlabel, _, hisFor⟩ := isFor_of_insert (congrArg Prod.fst hanswer)
  have htype := hisFor.type_plain.1
  have hplain : Text.isReferenceSegment block.label.toList = true := by
    rw [hlabel]
    exact Text.isReferenceSegment_iff.mpr hname
  constructor
  · intro path value hread
    obtain ⟨hvalue, hpath⟩ := hisFor.direct?_eq hread
    exact ⟨_, hvalue, (Block.isKept_or_isEscaped htype hplain hpath.isAttributePath).1 hpath⟩
  · intro path value hread
    obtain ⟨hvalue, hpath⟩ := hisFor.byName_eq hread
    exact ⟨_, hvalue, Block.isKept_or_isEscaped htype hplain hpath⟩

theorem reference_kept_network :
    let network : Request := ⟨"main", "core-main", ⟨"vpc", "Vpc"⟩, []⟩
    let answer := Stack.backend.materialize .dataSource network { region := "eu-west-1" }
    ∃ handle, answer = (.ok handle, answer.2) ∧ Text.IsPlainIdentifier network.name.toList ∧
      (∀ path value, handle.direct? path = some value →
        ∃ token, value = .string token ∧ Hcl.IsKept token) ∧
      (∀ path value, handle.byName path = .ok value → ∃ token, value = .string token ∧
        (Text.IsReferencePath path.toList → Hcl.IsKept token) ∧
        (¬ Text.IsReferencePath path.toList → Hcl.IsEscaped token)) := by
  intro network answer
  have hname : Text.IsPlainIdentifier network.name.toList :=
    Text.isReferenceSegment_iff.mp (by decide)
  have hanswer : ∃ handle, answer = (.ok handle, answer.2) := ⟨_, rfl⟩
  obtain ⟨handle, hhandle⟩ := hanswer
  exact ⟨handle, hhandle, hname, reference_kept hhandle hname⟩

/-- The first rule of a network: the path has a name that is a number, and what is handed out for it
does not stay a reference. -/
theorem reference_not_kept :
    let network : Request := ⟨"main", "core-main", ⟨"vpc", "Vpc"⟩, []⟩
    let stack : Stack := { region := "eu-west-1" }
    let token := "$\x7baws_vpc.main.ingress.0\x7d"
    stack.Reachable ∧ Text.IsPlainIdentifier network.name.toList ∧
      ∃ handle after, Stack.backend.create network stack = (.ok handle, after) ∧
        handle.byName "ingress.0" = .ok (.string token) ∧ Hcl.quotedTemplate? token = none ∧
        (Hcl.Expression.ofValue (.string token)).render =
          "\"$$\x7baws_vpc.main.ingress.0\x7d\"" := by
  intro network stack token
  have hnew : Stack.new "eu-west-1" = .ok stack := by rfl
  have hname : Text.isReferenceSegment network.name.toList = true := by decide
  have hpath : Text.isReferencePath "aws_vpc.main.ingress.0".toList = false := by decide
  have hdotted : Text.IsDotted "aws_vpc.main.ingress.0".toList :=
    Text.isDotted_of_isAttributePath (by decide)
  have hescaped : Hcl.IsEscaped token := Hcl.isEscaped_of_source (by decide) hpath hdotted
  exact ⟨.new hnew, Text.isReferenceSegment_iff.mp hname, _, _, rfl, rfl, hescaped.quoted_eq,
    hescaped.render_eq⟩

end Stack

end StackSynth
