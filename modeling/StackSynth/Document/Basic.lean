import StackSynth.Decimal.Layout

namespace StackSynth

/-- A document. The entries of a mapping have pairwise different keys. -/
inductive Document where
  | null
  | boolean (b : Bool)
  | integer (n : Int)
  | decimal (d : Decimal)
  | string (s : String)
  | sequence (items : List Document)
  | mapping (entries : List (Document × Document))
  | tagged (tag : String) (content : Document)
deriving Repr, Inhabited

namespace Document

mutual

/-- Whether two documents count as the same key. The order of the entries of a mapping does not
matter, nor does the sign of a zero. -/
def same : Document → Document → Bool
  | null, null => true
  | boolean a, boolean b => a = b
  | integer a, integer b => a = b
  | decimal a, decimal b => a.same b
  | string a, string b => a = b
  | sequence a, sequence b => sameItems a b
  | mapping a, mapping b => a.length = b.length && haveSame a b
  | tagged s a, tagged t b => s = t && same a b
  | _, _ => false
termination_by structural a => a

def sameItems : List Document → List Document → Bool
  | [], [] => true
  | a :: restA, b :: restB => same a b && sameItems restA restB
  | _, _ => false
termination_by structural a => a

/-- Whether every entry of the first mapping is one of the second. -/
def haveSame : List (Document × Document) → List (Document × Document) → Bool
  | [], _ => true
  | (key, value) :: rest, others =>
    others.any (fun other => same key other.1 && same value other.2) && haveSame rest others
termination_by structural a => a

end

/-- Gives a key of a mapping its value, in the key's own place or at the end. -/
def insertEntry (entries : List (Document × Document)) (key value : Document) :
    List (Document × Document) :=
  match entries with
  | [] => [(key, value)]
  | (k, v) :: rest =>
    if same k key then (k, value) :: rest else (k, v) :: insertEntry rest key value

/-- Whether a text, without a tag, is one of the keys of a mapping. -/
def hasKey (entries : List (Document × Document)) (key : String) : Bool :=
  entries.any fun entry => match entry.1 with
    | string s => s = key
    | _ => false

def untagged : Document → Document
  | tagged _ content => untagged content
  | document => document

mutual

def hasTag : Document → Bool
  | tagged _ _ => true
  | sequence items => itemsHaveTag items
  | mapping entries => entriesHaveTag entries
  | _ => false
termination_by structural document => document

def itemsHaveTag : List Document → Bool
  | [] => false
  | item :: rest => hasTag item || itemsHaveTag rest
termination_by structural items => items

def entriesHaveTag : List (Document × Document) → Bool
  | [] => false
  | (key, value) :: rest => hasTag key || hasTag value || entriesHaveTag rest
termination_by structural entries => entries

end

end Document

end StackSynth
