/-!
# Sixteen-bit units

A text as code units of sixteen bits: one unit for a character below U+10000, and for any other
the pair of surrogates that stands for it.
-/

namespace Rollout.Text

/-- The units of one character. -/
def charUnits (c : Char) : List UInt16 :=
  let n := c.toNat
  if n < 0x10000 then [UInt16.ofNat n]
  else [UInt16.ofNat (0xd800 + (n - 0x10000) / 0x400),
    UInt16.ofNat (0xdc00 + (n - 0x10000) % 0x400)]

/-- The units of a text. -/
def units (s : String) : List UInt16 := s.toList.flatMap charUnits

end Rollout.Text
