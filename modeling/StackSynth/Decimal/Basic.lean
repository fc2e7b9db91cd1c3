namespace StackSynth

/-- A floating point number: a sign bit, 11 bits of exponent and 52 bits of fraction. -/
structure Decimal where
  bits : UInt64
deriving DecidableEq, Repr, Inhabited

namespace Decimal

/-- What a number stands for: nothing, an infinity, or `± mantissa · 2 ^ exponent`. -/
inductive Meaning where
  | nan
  | infinite (negative : Bool)
  | finite (negative : Bool) (mantissa : Nat) (exponent : Int)
deriving DecidableEq, Repr

def isNegative (d : Decimal) : Bool :=
  Nat.pow 2 63 ≤ d.bits.toNat

def exponentBits (d : Decimal) : Nat :=
  d.bits.toNat / Nat.pow 2 52 % Nat.pow 2 11

def fraction (d : Decimal) : Nat :=
  d.bits.toNat % Nat.pow 2 52

/-- What the bits stand for. The smallest exponent is -1074. -/
def meaning (d : Decimal) : Meaning :=
  if d.exponentBits = 2047 then
    if d.fraction = 0 then .infinite d.isNegative else .nan
  else if d.exponentBits = 0 then .finite d.isNegative d.fraction (-1074)
  else .finite d.isNegative (Nat.pow 2 52 + d.fraction) (d.exponentBits - 1075 : Int)

/-- The number with a sign and the remaining 63 bits. -/
def ofParts (negative : Bool) (magnitude : Nat) : Decimal :=
  ⟨UInt64.ofNat ((if negative then Nat.pow 2 63 else 0) + magnitude)⟩

def infinity (negative : Bool) : Decimal :=
  ofParts negative (2047 * Nat.pow 2 52)

def nan : Decimal :=
  ofParts false (2047 * Nat.pow 2 52 + Nat.pow 2 51)

def isNaN (d : Decimal) : Bool :=
  d.exponentBits = 2047 && d.fraction ≠ 0

def isFinite (d : Decimal) : Bool :=
  d.exponentBits ≠ 2047

/-- Whether it is zero, of either sign. -/
def isZero (d : Decimal) : Bool :=
  d.bits.toNat % Nat.pow 2 63 = 0

/-- Whether two numbers count as one key: the zeros do, and so do all that are no number. -/
def same (a b : Decimal) : Bool :=
  a = b || (a.isZero && b.isZero) || (a.isNaN && b.isNaN)

/-- The whole number that a number is, if it is one. -/
def toInt? (d : Decimal) : Option Int :=
  match d.meaning with
  | .finite negative mantissa exponent =>
    let magnitude : Option Nat :=
      if 0 ≤ exponent then some (mantissa * Nat.pow 2 exponent.toNat)
      else
        let unit := Nat.pow 2 (-exponent).toNat
        if mantissa % unit = 0 then some (mantissa / unit) else none
    magnitude.map fun n => if negative then -(n : Int) else n
  | _ => none

theorem isZero_iff {d : Decimal} :
    d.isZero = true ↔ ∃ negative, d = .ofParts negative 0 := by
  obtain ⟨bits⟩ := d
  have hlt : bits.toNat < 2 ^ 64 := bits.toNat_lt
  have hpow : Nat.pow 2 63 = 2 ^ 63 := rfl
  simp only [isZero, ofParts, Bool.exists_bool, Decimal.mk.injEq, ← UInt64.toNat_inj,
    decide_eq_true_eq, hpow, Bool.false_eq_true, if_false, if_true, Nat.add_zero]
  have hzero : (UInt64.ofNat 0).toNat = 0 := rfl
  have hsign : (UInt64.ofNat (2 ^ 63)).toNat = 2 ^ 63 := rfl
  rw [hzero, hsign]
  omega

end Decimal

end StackSynth
