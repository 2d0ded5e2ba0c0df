import Rollout.Decimal.Nearest
/-!
# Doubles as text: the fewest digits

A finite double stands for every real number that rounds to it.  Its text is the decimal number of
the fewest digits among those; of several with that many digits it is the one nearest to the
double, and of two equally near ones the upper.  It is written out in places, with no exponent and
no digit behind the point that it does not need.

A double is `m · 2 ^ e`.  The reals that round to it reach half way to each neighbour, and the ends
belong to it when `m` is even.  If a decimal grid has a point among them, then one of the two grid
points next to the double is one.
-/

namespace Rollout.Decimal

/-- The reals that round to a double: the double itself and the ends of the interval, all over the
one denominator `den`, and whether the ends belong to it. -/
structure Reach where
  low : Nat
  value : Nat
  high : Nat
  den : Nat
  closed : Bool

/-- What rounds to the positive finite double of these bits. -/
def Reach.ofBits (bits : Nat) : Reach :=
  let hidden := 1 <<< 52
  let field := bits / hidden
  let fraction := bits % hidden
  let m := if field = 0 then fraction else fraction + hidden
  let e : Int := (max field 1 : Nat) - 1075
  -- below a power of two the doubles are twice as dense
  let gap := if fraction = 0 ∧ 1 < field then 1 else 2
  let up := 1 <<< e.toNat
  let down := 1 <<< (-e).toNat
  ⟨(4 * m - gap) * up, 4 * m * up, (4 * m + 2) * up, 4 * down, m % 2 = 0⟩

namespace Reach

/-- Whether `n · 10 ^ k` rounds to the double. -/
def holds (r : Reach) (n : Nat) (k : Int) : Bool :=
  let here := n * tens k * r.den
  let scale := tens (-k)
  if r.closed then r.low * scale ≤ here && here ≤ r.high * scale
  else r.low * scale < here && here < r.high * scale

/-- The number of places in front of the point, below zero by the zeros that follow the point. -/
def places (r : Reach) : Int :=
  ((Nat.toDigits 10 (r.value * tens 330 / r.den)).length : Int) - 330

/-- The grid point next to the double that represents it on the grid of `10 ^ k`, if one does: the
nearer of the two, and the upper of two equally near ones. -/
def onGrid? (r : Reach) (k : Int) : Option Nat :=
  let num := r.value * tens (-k)
  let den := r.den * tens k
  let n := num / den
  let lower := r.holds n k
  let upper := r.holds (n + 1) k
  if lower && upper then some (if 2 * (num % den) < den then n else n + 1)
  else if lower then some n
  else if upper then some (n + 1)
  else none

/-- The first of ever finer grids that holds a point for the double; the grid of seventeen digits
always does. -/
def search (r : Reach) : Nat → Int → Nat × Int
  | 0, k => ((r.onGrid? k).getD 0, k)
  | finer + 1, k =>
    match r.onGrid? k with
    | some n => (n, k)
    | none => search r finer (k - 1)

/-- The digits of the double as a number, and the power of ten of the last one.  The upper
neighbour of a single nine is a ten, which needs one digit only. -/
def shortest (r : Reach) : Nat × Int :=
  let (n, k) := r.search 16 (r.places - 1)
  if n = 10 then (1, k + 1) else (n, k)

end Reach

/-- `n · 10 ^ k` written out in places. -/
def positional (n : Nat) (k : Int) : List Char :=
  let digits := Nat.toDigits 10 n
  if 0 ≤ k then digits ++ List.replicate k.toNat '0'
  else
    let behind := (-k).toNat
    let padded := List.replicate (behind + 1 - digits.length) '0' ++ digits
    padded.take (padded.length - behind) ++ '.' :: padded.drop (padded.length - behind)

/-- The text of a double. -/
def floatText (x : Float) : String :=
  let bits := x.toBits.toNat
  let magnitude := bits % signBit
  if magnitude > infinityBits then "NaN"
  else
    let sign := if bits < signBit then [] else ['-']
    let digits :=
      if magnitude = infinityBits then ['i', 'n', 'f']
      else if magnitude = 0 then ['0']
      else
        let (n, k) := (Reach.ofBits magnitude).shortest
        positional n k
    String.ofList (sign ++ digits)

end Rollout.Decimal
