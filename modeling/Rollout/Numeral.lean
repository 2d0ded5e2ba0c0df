/-!
# Numerals

Whole numbers as text: digits of a base up to sixteen, with or without a sign, and the ranges of
the machine integers that they have to fit.
-/

namespace Rollout.Numeral

/-- The value of a character as a digit of a base up to sixteen; letters count in either case. -/
def digit? (base : Nat) (c : Char) : Option Nat :=
  let n := c.toNat
  let value :=
    if 0x30 ≤ n ∧ n ≤ 0x39 then n - 0x30
    else if 0x61 ≤ n ∧ n ≤ 0x66 then n - 0x57
    else if 0x41 ≤ n ∧ n ≤ 0x46 then n - 0x37
    else 16
  if value < base then some value else none

/-- Whether a character is a decimal digit of ASCII. -/
def isDigit (c : Char) : Bool := (digit? 10 c).isSome

/-- The digits of a numeral read after a number that stands before them. -/
def extend? (base : Nat) : Nat → List Char → Option Nat
  | n, [] => some n
  | n, c :: cs => (digit? base c).bind fun d => extend? base (n * base + d) cs

/-- The number that one or more digits denote. -/
def natural? (base : Nat) : List Char → Option Nat
  | [] => none
  | c :: cs => extend? base 0 (c :: cs)

/-- The number that digits behind an optional sign denote. -/
def integer? (base : Nat) : List Char → Option Int
  | '+' :: cs => (natural? base cs).map Int.ofNat
  | '-' :: cs => (natural? base cs).map (fun n => -(n : Int))
  | cs => (natural? base cs).map Int.ofNat

/-- A number as a 64-bit integer, if it is one. -/
def toInt64? (i : Int) : Option Int64 :=
  if Int64.minValue.toInt ≤ i ∧ i ≤ Int64.maxValue.toInt then some (Int64.ofInt i) else none

/-- A number as a 32-bit integer, if it is one. -/
def toInt32? (i : Int) : Option Int32 :=
  if Int32.minValue.toInt ≤ i ∧ i ≤ Int32.maxValue.toInt then some (Int32.ofInt i) else none

/-- The 64-bit integer that a decimal numeral denotes. -/
def int64? (cs : List Char) : Option Int64 := (integer? 10 cs).bind toInt64?

/-- The 32-bit integer that a decimal numeral denotes. -/
def int32? (cs : List Char) : Option Int32 := (integer? 10 cs).bind toInt32?

/-- The greatest count of 64 bits; as a bound on a count it means that there is none. -/
def maxCount : Nat := 0xffffffffffffffff

theorem toInt_of_toInt64? {i : Int} {n : Int64} (h : toInt64? i = some n) : n.toInt = i := by
  unfold toInt64? at h
  split at h
  · next hi =>
    cases h
    exact Int64.toInt_ofInt_of_le hi.1 (by have := hi.2; rw [Int64.toInt_maxValue] at this; omega)
  · cases h

theorem toInt64?_toInt (n : Int64) : toInt64? n.toInt = some n := by
  unfold toInt64?
  rw [if_pos ⟨Int64.minValue_le_toInt n, Int64.toInt_le n⟩, Int64.ofInt_toInt]

end Rollout.Numeral
