import Rollout.Numeral
import Rollout.Decimal.Nearest
/-!
# Doubles as text: reading

A double is spelled as a decimal number, with digits on at least one side of an optional point and
an optional exponent, or as `inf`, `infinity` or `nan` in letters of either case, each behind an
optional sign.
-/

namespace Rollout.Decimal

/-- A sign in front of a text: whether it is a minus, and the rest. -/
def takeSign : List Char → Bool × List Char
  | '+' :: cs => (false, cs)
  | '-' :: cs => (true, cs)
  | cs => (false, cs)

/-- The exponent that ends a decimal number; no text is the exponent zero. -/
def readExponent? : List Char → Option Int
  | [] => some 0
  | c :: cs => if c = 'e' ∨ c = 'E' then Numeral.integer? 10 cs else none

/-- The digits of a run that holds nothing else. -/
def runValue (digits : List Char) : Nat := (Numeral.extend? 10 0 digits).getD 0

/-- An unsigned decimal number. -/
def readUnsigned? (negative : Bool) (cs : List Char) : Option Decimal :=
  let whole := cs.takeWhile Numeral.isDigit
  let rest := cs.dropWhile Numeral.isDigit
  let (fraction, tail) := match rest with
    | '.' :: r => (r.takeWhile Numeral.isDigit, r.dropWhile Numeral.isDigit)
    | r => ([], r)
  if whole.isEmpty && fraction.isEmpty then none
  else (readExponent? tail).map fun e =>
    ⟨negative, runValue (whole ++ fraction), e - fraction.length⟩

/-- The double that a text spells. -/
def readFloat? (cs : List Char) : Option Float :=
  let (negative, rest) := takeSign cs
  let word := String.ofList (rest.map Char.toLower)
  if word = "inf" ∨ word = "infinity" then
    some (Float.ofBits (UInt64.ofNat (infinityBits + if negative then signBit else 0)))
  else if word = "nan" then some (Float.ofBits 0x7ff8000000000000)
  else (readUnsigned? negative rest).map toFloat

end Rollout.Decimal
