/-!
# Decimals and the nearest double

A `Decimal` is a signed digit string with a power of ten.  `Decimal.toFloat` is the double nearest
to it, a tie going to the even neighbour; a decimal beyond the greatest double becomes infinite
and one too close to zero becomes zero, with its sign.

A double of sixty-four bits is `m · 2 ^ e` with `m < 2 ^ 53` and `e ≥ -1074`; with its bits read
as a number, the next double above a non-negative one is the next number.  So the bits of the
nearest double are a rounded quotient, shifted into place.
-/

namespace Rollout

/-- A decimal number: `digits · 10 ^ exponent`, below zero if `negative`. -/
structure Decimal where
  negative : Bool
  digits : Nat
  exponent : Int
deriving Repr, DecidableEq

namespace Decimal

/-- The whole number nearest to a quotient; a tie goes to the even one. -/
def roundDiv (num den : Nat) : Nat :=
  let q := num / den
  let r := num % den
  if 2 * r < den then q else if den < 2 * r then q + 1 else q + q % 2

/-- Ten to the power of the exponent; a negative one counts as zero. -/
def tens (k : Int) : Nat := Nat.pow 10 k.toNat

/-- The bit that makes a double negative. -/
def signBit : Nat := 0x8000000000000000

/-- The bits of positive infinity. -/
def infinityBits : Nat := 0x7ff0000000000000

/-- The least `e ≥ -1074` for which the quotient is below `2 ^ (e + 53)`: the exponent of the last
place that the double next to it holds.  The lengths of the two numbers leave two candidates. -/
def lastPlace (num den : Nat) : Int :=
  let guess : Int := (num.log2 : Int) - (den.log2 : Int) - 52
  let below (e : Int) : Bool :=
    if 0 ≤ e + 53 then num < den <<< (e + 53).toNat else num <<< (-(e + 53)).toNat < den
  max (-1074) (if below (guess - 1) then guess - 1 else guess)

/-- The bits of the double nearest to a quotient of positive numbers. -/
def nearestBits (num den : Nat) : Nat :=
  let e := lastPlace num den
  let m := if 0 ≤ e then roundDiv num (den <<< e.toNat) else roundDiv (num <<< (-e).toNat) den
  min infinityBits (((e + 1074).toNat <<< 52) + m)

/-- The bits of the double nearest to the decimal, its sign apart.  A decimal whose first digit
stands above the 310th place, or below the 330th behind the point, is beyond every double. -/
def magnitudeBits (d : Decimal) : Nat :=
  if d.digits = 0 then 0
  else
    let places : Int := (Nat.toDigits 10 d.digits).length + d.exponent
    if places > 310 then infinityBits
    else if places < -330 then 0
    else if 0 ≤ d.exponent then nearestBits (d.digits * tens d.exponent) 1
    else nearestBits d.digits (tens (-d.exponent))

/-- The double nearest to the decimal. -/
def toFloat (d : Decimal) : Float :=
  Float.ofBits (UInt64.ofNat (d.magnitudeBits + if d.negative then signBit else 0))

end Decimal

end Rollout
