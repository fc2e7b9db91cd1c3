import StackSynth.Json
import StackSynth.Proofs.Value.Decimals

namespace StackSynth.Json

section Strings

def hexNumber? (cs : List Char) : Option Nat :=
  cs.foldlM (fun n c => (Text.hexValue? c).map (16 * n + ·)) 0

def readEscape? : List Char → Option (Char × List Char)
  | '"' :: rest => some ('"', rest)
  | '\\' :: rest => some ('\\', rest)
  | 'b' :: rest => some ('\u0008', rest)
  | 'f' :: rest => some ('\u000c', rest)
  | 'n' :: rest => some ('\n', rest)
  | 'r' :: rest => some ('\r', rest)
  | 't' :: rest => some ('\t', rest)
  | 'u' :: rest => (hexNumber? (rest.take 4)).map fun n => (Char.ofNat n, rest.drop 4)
  | _ => none

/-- Reads a character inside a string. There is none if the string is closed. -/
def readChar? : List Char → Option (Char × List Char)
  | [] => none
  | c :: rest =>
    if c = '"' then none else if c = '\\' then readEscape? rest else some (c, rest)

theorem readEscape?_hexDigits (n : Nat) (h : n < 32) (rest : List Char) :
    readEscape? ('u' :: Text.hexDigits 4 n ++ rest) = some (Char.ofNat n, rest) := by
  have hnumber : ∀ m < 32, hexNumber? (Text.hexDigits 4 m) = some m := by decide
  have hlength : (Text.hexDigits 4 n).length = 4 := rfl
  rw [List.cons_append, readEscape?, List.take_left' hlength, List.drop_left' hlength, hnumber n h]
  rfl

theorem readChar?_escapeChar (c : Char) (rest : List Char) :
    readChar? (escapeChar c ++ rest) = some (c, rest) := by
  unfold escapeChar
  split
  case h_8 hquote hbackslash _ _ _ _ _ =>
    -- no escape of its own: a control character, or one that stands for itself
    split
    · next hcontrol =>
      have hread := readEscape?_hexDigits c.toNat hcontrol rest
      rw [Char.ofNat_toNat] at hread
      exact hread
    · rw [List.singleton_append, readChar?, if_neg hquote, if_neg hbackslash]
  all_goals rfl

/-- The text of a string tells where the string ends, and its characters. -/
theorem escape_append_inj {cs ds x y : List Char}
    (h : escape cs ++ '"' :: x = escape ds ++ '"' :: y) : cs = ds ∧ x = y := by
  have hcons : ∀ c rest tail,
      escape (c :: rest) ++ tail = escapeChar c ++ (escape rest ++ tail) := by
    intro c rest tail
    rw [escape, List.flatMap_cons, List.append_assoc]
    rfl
  -- both texts are read character by character; a closing quote is not read as one
  induction cs generalizing ds with
  | nil =>
    cases ds with
    | nil => exact ⟨rfl, (List.cons.inj h).2⟩
    | cons d ds =>
      rw [hcons] at h
      have hread := readChar?_escapeChar d (escape ds ++ '"' :: y)
      rw [← h] at hread
      cases hread
  | cons c cs ih =>
    have hread := readChar?_escapeChar c (escape cs ++ '"' :: x)
    rw [← hcons, h] at hread
    cases ds with
    | nil => cases hread
    | cons d ds =>
      rw [hcons, readChar?_escapeChar] at hread
      obtain ⟨rfl, htail⟩ := Prod.mk.inj (Option.some.inj hread)
      obtain ⟨rfl, hrest⟩ := ih htail.symm
      exact ⟨rfl, hrest⟩

theorem quote_append_inj {s t : String} {x y : List Char} (h : quote s ++ x = quote t ++ y) :
    s = t ∧ x = y := by
  simp only [quote, List.cons_append, List.append_assoc] at h
  obtain ⟨hchars, hrest⟩ := escape_append_inj (List.cons.inj h).2
  exact ⟨String.toList_inj.mp hchars, hrest⟩

end Strings

section Numbers

/-- What can come behind a value: nothing, a comma or the end of a line. -/
def Follows (cs : List Char) : Prop :=
  ∀ c ∈ cs.head?, c = ',' ∨ c = '\n'

theorem Follows.takeWhile_isDigit {cs : List Char} (h : Follows cs) :
    cs.takeWhile Char.isDigit = [] := by
  cases cs with
  | nil => rfl
  | cons c rest =>
    obtain rfl | rfl : c = ',' ∨ c = '\n' := h c (by simp)
    · rfl
    · rfl

theorem isDigit_of_mem_toDigits {n : Nat} {c : Char} (h : c ∈ Nat.toDigits 10 n) :
    c.isDigit = true :=
  Nat.isDigit_of_mem_toDigits (by decide) (by decide) h

theorem toDigits_append_inj {m n : Nat} {x y : List Char} (hx : Follows x) (hy : Follows y)
    (h : Nat.toDigits 10 m ++ x = Nat.toDigits 10 n ++ y) : m = n ∧ x = y := by
  -- as no digit follows, the number is the longest row of digits
  have hdigits : ∀ k z, Follows z →
      (Nat.toDigits 10 k ++ z).takeWhile Char.isDigit = Nat.toDigits 10 k := by
    intro k z hz
    rw [List.takeWhile_append_of_pos fun _ => isDigit_of_mem_toDigits, hz.takeWhile_isDigit,
      List.append_nil]
  have heq : Nat.toDigits 10 m = Nat.toDigits 10 n := by
    rw [← hdigits m x hx, h, hdigits n y hy]
  have hvalue := congrArg (Nat.ofDigitChars 10 · 0) heq
  simp only [Nat.ofDigitChars_ten_toDigits] at hvalue
  exact ⟨hvalue, List.append_cancel_left (heq ▸ h)⟩

theorem exists_toDigits_eq_cons (n : Nat) :
    ∃ c rest, Nat.toDigits 10 n = c :: rest ∧ c.isDigit = true := by
  cases hdigits : Nat.toDigits 10 n with
  | nil => exact absurd hdigits Nat.toDigits_ne_nil
  | cons c rest =>
    have hc : c ∈ Nat.toDigits 10 n := by simp [hdigits]
    exact ⟨c, rest, rfl, isDigit_of_mem_toDigits hc⟩

/-- A number without a sign is not read as one with a sign. -/
theorem toDigits_append_ne (n : Nat) (x y : List Char) : Nat.toDigits 10 n ++ x ≠ '-' :: y := by
  obtain ⟨c, rest, hdigits, hc⟩ := exists_toDigits_eq_cons n
  rw [hdigits]
  intro h
  obtain rfl := (List.cons.inj h).1
  cases hc

theorem integer_append_inj {m n : Int} {x y : List Char} (hx : Follows x) (hy : Follows y)
    (h : integer m ++ x = integer n ++ y) : m = n ∧ x = y := by
  unfold integer at h
  by_cases hm : m < 0 <;> by_cases hn : n < 0 <;>
    simp only [hm, hn, if_true, if_false, List.nil_append, List.cons_append] at h
  · obtain ⟨habs, hrest⟩ := toDigits_append_inj hx hy (List.cons.inj h).2
    exact ⟨by omega, hrest⟩
  · exact absurd h.symm (toDigits_append_ne _ _ _)
  · exact absurd h (toDigits_append_ne _ _ _)
  · obtain ⟨habs, hrest⟩ := toDigits_append_inj hx hy h
    exact ⟨by omega, hrest⟩

end Numbers

section Forms

inductive Form where
  | null
  | boolean
  | number
  | string
  | array
  | object

def form : Value → Form
  | .null => .null
  | .boolean _ => .boolean
  | .integer _ | .decimal _ => .number
  | .string _ => .string
  | .array _ => .array
  | .object _ => .object

def formOf (c : Char) : Form :=
  match c with
  | 'n' => .null
  | 't' | 'f' => .boolean
  | '"' => .string
  | '[' => .array
  | '\x7b' => .object
  | _ => .number

theorem formOf_of_isDigit {c : Char} (h : c.isDigit = true) : formOf c = .number := by
  unfold formOf
  split
  case h_7 => rfl
  all_goals cases h

theorem exists_pretty_eq_cons (level : Nat) {value : Value} (h : value.decimals = []) :
    ∃ c rest, pretty level value = c :: rest ∧ formOf c = form value := by
  cases value with
  | null => exact ⟨_, _, rfl, rfl⟩
  | boolean b => cases b <;> exact ⟨_, _, rfl, rfl⟩
  | integer n =>
    obtain ⟨c, rest, hdigits, hc⟩ := exists_toDigits_eq_cons n.natAbs
    rw [pretty, integer, hdigits]
    split
    · exact ⟨_, _, rfl, rfl⟩
    · exact ⟨c, rest, rfl, formOf_of_isDigit hc⟩
  | decimal d => cases h
  | string s => exact ⟨_, _, rfl, rfl⟩
  | array items => cases items <;> exact ⟨_, _, rfl, rfl⟩
  | object entries => cases entries <;> exact ⟨_, _, rfl, rfl⟩

theorem form_eq_of_pretty_append_eq {level : Nat} {v w : Value} {x y : List Char}
    (hv : v.decimals = []) (hw : w.decimals = [])
    (h : pretty level v ++ x = pretty level w ++ y) : form v = form w := by
  obtain ⟨c, rest, hc, hform⟩ := exists_pretty_eq_cons level hv
  obtain ⟨d, more, hd, hother⟩ := exists_pretty_eq_cons level hw
  rw [hc, hd] at h
  rw [← hform, ← hother, (List.cons.inj h).1]

end Forms

section Values

theorem prettyItems_eq_of_array {level : Nat} {items others : List Value} {x y : List Char}
    (h : pretty level (.array items) ++ x = pretty level (.array others) ++ y) :
    prettyItems (level + 1) items ++ (newLine level ++ ']' :: x) =
      prettyItems (level + 1) others ++ (newLine level ++ ']' :: y) := by
  cases items with
  | nil =>
    cases others with
    | nil => simpa [pretty, prettyItems] using h
    | cons other rest => simp [pretty, newLine] at h
  | cons item rest =>
    cases others with
    | nil => simp [pretty, newLine] at h
    | cons other more => simpa [pretty, prettyItems] using h

theorem prettyEntries_eq_of_object {level : Nat} {entries others : Object} {x y : List Char}
    (h : pretty level (.object entries) ++ x = pretty level (.object others) ++ y) :
    prettyEntries (level + 1) entries ++ (newLine level ++ '\x7d' :: x) =
      prettyEntries (level + 1) others ++ (newLine level ++ '\x7d' :: y) := by
  cases entries with
  | nil =>
    cases others with
    | nil => simpa [pretty, prettyEntries] using h
    | cons other rest => simp [pretty, newLine] at h
  | cons entry rest =>
    cases others with
    | nil => simp [pretty, newLine] at h
    | cons other more => simpa [pretty, prettyEntries] using h

theorem newLine_append_inj {level : Nat} {c : Char} {x y : List Char}
    (h : newLine level ++ c :: x = newLine level ++ c :: y) : x = y :=
  (List.cons.inj (List.append_cancel_left h)).2

theorem follows_newLine (level : Nat) (x : List Char) : Follows (newLine level ++ x) := by
  simp [Follows, newLine]

theorem follows_prettyItems (level outer : Nat) (items : List Value) (x : List Char) :
    Follows (prettyItems level items ++ (newLine outer ++ x)) := by
  cases items with
  | nil => exact follows_newLine outer x
  | cons item rest => simp [Follows, prettyItems]

theorem follows_prettyEntries (level outer : Nat) (entries : Object) (x : List Char) :
    Follows (prettyEntries level entries ++ (newLine outer ++ x)) := by
  cases entries with
  | nil => exact follows_newLine outer x
  | cons entry rest => simp [Follows, prettyEntries]

theorem boolean_append_inj {level : Nat} {b c : Bool} {x y : List Char}
    (h : pretty level (.boolean b) ++ x = pretty level (.boolean c) ++ y) : b = c ∧ x = y := by
  have hhead : ∀ x y, "true".toList ++ x ≠ "false".toList ++ y := by simp
  cases b with
  | false =>
    cases c with
    | false => exact ⟨rfl, List.append_cancel_left h⟩
    | true => exact absurd h.symm (hhead y x)
  | true =>
    cases c with
    | false => exact absurd h (hhead x y)
    | true => exact ⟨rfl, List.append_cancel_left h⟩

mutual

/-- The text of a value tells where it ends, and the value, if none of its numbers is a decimal. -/
theorem pretty_append_inj (level : Nat) (v w : Value) {x y : List Char} (hv : v.decimals = [])
    (hw : w.decimals = []) (hx : Follows x) (hy : Follows y)
    (h : pretty level v ++ x = pretty level w ++ y) : v = w ∧ x = y := by
  -- the first character leaves only values of one form to compare
  have hform := form_eq_of_pretty_append_eq hv hw h
  cases v with
  | null =>
    cases w with
    | null => exact ⟨rfl, List.append_cancel_left h⟩
    | _ => cases hform
  | boolean b =>
    cases w with
    | boolean c =>
      obtain ⟨rfl, hrest⟩ := boolean_append_inj h
      exact ⟨rfl, hrest⟩
    | _ => cases hform
  | integer m =>
    cases w with
    | integer n =>
      obtain ⟨rfl, hrest⟩ := integer_append_inj hx hy h
      exact ⟨rfl, hrest⟩
    | decimal d => cases hw
    | _ => cases hform
  | decimal d => cases hv
  | string s =>
    cases w with
    | string t =>
      obtain ⟨rfl, hrest⟩ := quote_append_inj h
      exact ⟨rfl, hrest⟩
    | _ => cases hform
  | array items =>
    cases w with
    | array others =>
      obtain ⟨rfl, hrest⟩ := prettyItems_append_inj (level + 1) level items others hv hw
        (prettyItems_eq_of_array h)
      exact ⟨rfl, newLine_append_inj hrest⟩
    | _ => cases hform
  | object entries =>
    cases w with
    | object others =>
      obtain ⟨rfl, hrest⟩ := prettyEntries_append_inj (level + 1) level entries others hv hw
        (prettyEntries_eq_of_object h)
      exact ⟨rfl, newLine_append_inj hrest⟩
    | _ => cases hform
termination_by structural v

theorem prettyItems_append_inj (level outer : Nat) (items others : List Value) {x y : List Char}
    (hitems : itemDecimals items = []) (hothers : itemDecimals others = [])
    (h : prettyItems level items ++ (newLine outer ++ x) =
      prettyItems level others ++ (newLine outer ++ y)) :
    items = others ∧ newLine outer ++ x = newLine outer ++ y := by
  cases items with
  | nil =>
    cases others with
    | nil => exact ⟨rfl, h⟩
    | cons other more => simp [prettyItems, newLine] at h
  | cons item rest =>
    cases others with
    | nil => simp [prettyItems, newLine] at h
    | cons other more =>
      obtain ⟨hitem, hrest⟩ := List.append_eq_nil_iff.mp hitems
      obtain ⟨hother, hmore⟩ := List.append_eq_nil_iff.mp hothers
      simp only [prettyItems, List.cons_append, List.append_assoc] at h
      obtain ⟨rfl, htail⟩ := pretty_append_inj level item other hitem hother
        (follows_prettyItems level outer rest x) (follows_prettyItems level outer more y)
        (List.append_cancel_left (List.cons.inj h).2)
      obtain ⟨rfl, hend⟩ := prettyItems_append_inj level outer rest more hrest hmore htail
      exact ⟨rfl, hend⟩
termination_by structural items

theorem prettyEntries_append_inj (level outer : Nat) (entries others : List (String × Value))
    {x y : List Char} (hentries : entryDecimals entries = [])
    (hothers : entryDecimals others = [])
    (h : prettyEntries level entries ++ (newLine outer ++ x) =
      prettyEntries level others ++ (newLine outer ++ y)) :
    entries = others ∧ newLine outer ++ x = newLine outer ++ y := by
  cases entries with
  | nil =>
    cases others with
    | nil => exact ⟨rfl, h⟩
    | cons other more => simp [prettyEntries, newLine] at h
  | cons entry rest =>
    cases others with
    | nil => simp [prettyEntries, newLine] at h
    | cons other more =>
      obtain ⟨key, value⟩ := entry
      obtain ⟨otherKey, otherValue⟩ := other
      obtain ⟨hvalue, hrest⟩ := List.append_eq_nil_iff.mp hentries
      obtain ⟨hother, hmore⟩ := List.append_eq_nil_iff.mp hothers
      simp only [prettyEntries, List.cons_append, List.append_assoc] at h
      -- first the keys are read, then the values, then what is left of the objects
      obtain ⟨rfl, hcontent⟩ := quote_append_inj (List.append_cancel_left (List.cons.inj h).2)
      simp only [List.cons.injEq, true_and] at hcontent
      obtain ⟨rfl, htail⟩ := pretty_append_inj level value otherValue hvalue hother
        (follows_prettyEntries level outer rest x) (follows_prettyEntries level outer more y)
        hcontent
      obtain ⟨rfl, hend⟩ := prettyEntries_append_inj level outer rest more hrest hmore htail
      exact ⟨rfl, hend⟩
termination_by structural entries

end

/-- Values without decimals that have the same text are the same. -/
theorem renderPretty_inj {v w : Value} (hv : v.decimals = []) (hw : w.decimals = [])
    (h : renderPretty v = renderPretty w) : v = w := by
  have htext : pretty 0 v ++ [] = pretty 0 w ++ [] := by
    simpa only [renderPretty, String.ofList_inj, List.append_nil] using h
  have hnil : Follows [] := by simp [Follows]
  exact (pretty_append_inj 0 v w hv hw hnil hnil htext).1

end Values

end StackSynth.Json
