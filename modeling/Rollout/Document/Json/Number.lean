import Rollout.Decimal.Nearest
import Rollout.Document.Tree
/-!
# Numbers in JSON

A number without a fraction and an exponent is a whole number if it fits 64 bits; every other one is
a double.  To make the double, as many of the digits as fit 64 bits without a sign are taken for a
whole number, which is then multiplied or divided by a power of ten; both steps round, so that the
result need not be the double nearest to the number.  A number that is too large for a double is
none at all.
-/

namespace Rollout.Json

/-- A number as it is written: the digits in front of the point, those behind it, and the exponent
with its sign. -/
structure Written where
  negative : Bool
  whole : List Nat
  fraction : List Nat
  /-- Whether the exponent is below zero, and its digits. -/
  exponent : Option (Bool × List Nat)

/-- Leading digits with their values, and what follows them. -/
def takeDigits : List Char → List Nat × List Char
  | [] => ([], [])
  | c :: cs =>
    match Numeral.digit? 10 c with
    | none => ([], c :: cs)
    | some d => let (ds, rest) := takeDigits cs; (d :: ds, rest)

/-- One or more digits. -/
def takeSomeDigits (cs : List Char) : Option (List Nat × List Char) :=
  match takeDigits cs with
  | ([], _) => none
  | found => some found

/-- The digits in front of the point: no further digit follows a zero at their start. -/
def takeWhole (cs : List Char) : Option (List Nat × List Char) := do
  let (digits, rest) ← takeSomeDigits cs
  if digits.head? = some 0 && 1 < digits.length then none else some (digits, rest)

/-- The digits behind the point, if there is a point. -/
def takeFraction : List Char → Option (List Nat × List Char)
  | '.' :: cs => takeSomeDigits cs
  | cs => some ([], cs)

/-- The exponent, if there is one. -/
def takeExponent : List Char → Option (Option (Bool × List Nat) × List Char)
  | c :: cs =>
    if c = 'e' ∨ c = 'E' then
      let (negative, digits) := match cs with
        | '+' :: r => (false, r)
        | '-' :: r => (true, r)
        | r => (false, r)
      (takeSomeDigits digits).map fun (ds, rest) => (some (negative, ds), rest)
    else some (none, c :: cs)
  | [] => some (none, [])

/-- A number at the start of a text, and what follows it. -/
def takeNumber (cs : List Char) : Option (Written × List Char) := do
  let (negative, cs) := match cs with
    | '-' :: r => (true, r)
    | r => (false, r)
  let (whole, cs) ← takeWhole cs
  let (fraction, cs) ← takeFraction cs
  let (exponent, cs) ← takeExponent cs
  return (⟨negative, whole, fraction, exponent⟩, cs)

/-- Appends digits to a number as long as it fits 64 bits without a sign: the number, and how many
digits are left. -/
def fill : Nat → List Nat → Nat × Nat
  | n, [] => (n, 0)
  | n, d :: ds => if n * 10 + d ≤ Numeral.maxCount then fill (n * 10 + d) ds else (n, ds.length + 1)

/-- The number that digits spell. -/
def spelled (digits : List Nat) : Nat := digits.foldl (fun n d => n * 10 + d) 0

/-- The double next to a power of ten, for powers up to the 308th. -/
def power (k : Nat) : Float := Decimal.toFloat ⟨false, 1, k⟩

/-- The double that a whole number makes with a power of ten, unless that is too large. -/
def scale? (significand : Nat) (exponent : Int) : Option Float :=
  let f := Decimal.toFloat ⟨false, significand, 0⟩
  if significand = 0 then some f
  else if 308 < exponent then none
  else if 0 ≤ exponent then
    let product := f * power exponent.toNat
    if product.isInf then none else some product
  else
    let k := (-exponent).toNat
    if k ≤ 308 then some (f / power k)
    else if k ≤ 616 then some (f / power 308 / power (k - 308))
    else some (Decimal.toFloat ⟨false, 0, 0⟩)

namespace Written

/-- The double that a number makes, unless it is too large. -/
def float? (w : Written) : Option Float :=
  let (leading, dropped) := fill 0 w.whole
  let (significand, unused) := fill leading w.fraction
  let place : Int := dropped - (w.fraction.length - unused : Nat)
  let magnitude := match w.exponent with
    | none => scale? significand place
    | some (true, digits) => scale? significand (place - spelled digits)
    | some (false, digits) => scale? significand (place + spelled digits)
  magnitude.map fun f => if w.negative then -f else f

/-- The whole number that a number is, if it is one. -/
def integer? (w : Written) : Option Int :=
  if !w.fraction.isEmpty || w.exponent.isSome then none
  else
    let n := spelled w.whole
    if w.negative then if n = 0 ∨ 0x8000000000000000 < n then none else some (-n)
    else if n ≤ Numeral.maxCount then some n else none

/-- What a number can be read as. -/
def word (w : Written) : Word :=
  { Word.unreadable with
    number := w.integer?
    count := w.integer?.bind fun i => if 0 ≤ i then some i.toNat else none
    scalar := match w.integer?.bind Numeral.toInt64? with
      | some i => some (.int i)
      | none => w.float?.map .float }

end Written

end Rollout.Json
