/-!
# Blocks of bytes

What the two digests share: a message is closed by a one bit, zeros and its length in bits, so
that it fills blocks of sixty-four bytes, and a block is read as sixteen words of thirty-two bits.
The digests differ in the order of the bytes in a word.
-/

namespace Rollout.Digest

/-- The lowest `count` bytes of a number, the lowest first. -/
def lowFirst : Nat → Nat → List UInt8
  | 0, _ => []
  | count + 1, n => UInt8.ofNat (n % 256) :: lowFirst count (n / 256)

theorem length_lowFirst (count n : Nat) : (lowFirst count n).length = count := by
  induction count generalizing n with
  | zero => rfl
  | succ count ih => simp [lowFirst, ih]

/-- The bytes that close a message of `size` bytes, its length spelled by `spell`. -/
def closing (spell : Nat → List UInt8) (size : Nat) : List UInt8 :=
  0x80 :: List.replicate ((119 - size % 64) % 64) 0 ++ spell (8 * size)

/-- Splits bytes into fours, each read as one word; a shorter rest is dropped. -/
def wordsBy (join : UInt8 → UInt8 → UInt8 → UInt8 → UInt32) : List UInt8 → List UInt32
  | a :: b :: c :: d :: rest => join a b c d :: wordsBy join rest
  | _ => []

/-- Four bytes as a word, the lowest first. -/
def joinLowFirst (a b c d : UInt8) : UInt32 :=
  a.toUInt32 ||| b.toUInt32 <<< 8 ||| c.toUInt32 <<< 16 ||| d.toUInt32 <<< 24

/-- Four bytes as a word, the highest first. -/
def joinHighFirst (a b c d : UInt8) : UInt32 := joinLowFirst d c b a

/-- The blocks of sixteen words that a list of words fills. -/
def blocks (words : List UInt32) : List (Array UInt32) :=
  let all := words.toArray
  (List.range (all.size / 16)).map fun i => all.extract (16 * i) (16 * i + 16)

/-- Rotation of a word to the left, by less than its width. -/
def rotateLeft (x : UInt32) (n : UInt32) : UInt32 := x <<< n ||| x >>> (32 - n)

/-- Two hexadecimal digits for each byte. -/
def hexText (bytes : List UInt8) : String :=
  String.ofList (bytes.flatMap fun b => [(b.toNat / 16).digitChar, (b.toNat % 16).digitChar])

end Rollout.Digest
