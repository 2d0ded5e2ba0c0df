import Mathlib.Algebra.Group.Nat.Defs
import Rollout.Bucket
/-!
# Keys of buckets

The bucket of an identifier is worked out from a digest of its key.  The key spells the number of
the layer and then the text of the identifier, with nothing in between and nothing that says how
long the text is.  Still no two inputs share a key (`Bucket.key_separates`): if the buckets of
different users, or of one user in different layers, go together, it is the digest that brings them
together.

Each spelling that a key is put together of ends by itself (`PrefixFree`).  That of a layer and that
of a unit have a fixed length.  A character takes one unit or two, and the first unit tells which:
the first of two is a surrogate, and no character is spelled by a surrogate alone
(`Text.firstChar?_charUnits_append`).
-/

namespace Rollout

/-! ## 1. Spellings that end by themselves -/

/-- Whatever follows a spelling, it shows what is spelled and where the spelling ends. -/
def PrefixFree {α β : Type} (spell : α → List β) : Prop :=
  ∀ ⦃a b : α⦄ ⦃rest rest' : List β⦄, spell a ++ rest = spell b ++ rest' → a = b ∧ rest = rest'

namespace PrefixFree

variable {α β : Type} {spell : α → List β}

/-- Different spellings of one length end by themselves. -/
theorem of_length {size : Nat} (hlength : ∀ a, (spell a).length = size)
    (hinjective : Function.Injective spell) : PrefixFree spell := by
  intro a b rest rest' h
  obtain ⟨hspell, hrest⟩ := List.append_inj h ((hlength a).trans (hlength b).symm)
  exact ⟨hinjective hspell, hrest⟩

/-- A spelling ends by itself if it can be read off the front of whatever it starts. -/
theorem of_read (read : List β → Option (α × List β))
    (hread : ∀ a rest, read (spell a ++ rest) = some (a, rest)) : PrefixFree spell := by
  intro a b rest rest' h
  have hsame : some (a, rest) = some (b, rest') := by rw [← hread, h, hread]
  exact Prod.mk.inj (Option.some.inj hsame)

/-- A list is known by its spelling if what is in it is spelled, one after the other, by spellings
that end by themselves. -/
theorem flatMap_injective (h : PrefixFree spell) (hne : ∀ a, spell a ≠ []) :
    ∀ {as bs : List α}, as.flatMap spell = bs.flatMap spell → as = bs
  | [], [], _ => rfl
  | [], b :: bs, heq => by
    rw [List.flatMap_nil, List.flatMap_cons] at heq
    exact absurd (List.append_eq_nil_iff.1 heq.symm).1 (hne b)
  | a :: as, [], heq => by
    rw [List.flatMap_nil, List.flatMap_cons] at heq
    exact absurd (List.append_eq_nil_iff.1 heq).1 (hne a)
  | a :: as, b :: bs, heq => by
    rw [List.flatMap_cons, List.flatMap_cons] at heq
    obtain ⟨rfl, hrest⟩ := h heq
    rw [flatMap_injective h hne hrest]

end PrefixFree

/-! ## 2. Bytes -/

namespace Digest

/-- The lowest bytes of a number stand for what is left of it by as many bytes. -/
theorem value_lowFirst (count n : Nat) :
    (lowFirst count n).foldr (fun byte value => byte.toNat + 256 * value) 0 = n % 256 ^ count := by
  induction count generalizing n with
  | zero => simp [lowFirst, Nat.mod_one]
  | succ count ih =>
    have hbyte : (UInt8.ofNat (n % 256)).toNat = n % 256 :=
      UInt8.toNat_ofNat_of_lt' (Nat.mod_lt n (by decide))
    rw [lowFirst, List.foldr_cons, ih, hbyte, Nat.pow_succ', Nat.mod_mul]

/-- Numbers that fit into as many bytes are the same if their bytes are. -/
theorem lowFirst_inj {count n m : Nat} (hn : n < 256 ^ count) (hm : m < 256 ^ count)
    (h : lowFirst count n = lowFirst count m) : n = m := by
  have hvalue : n % 256 ^ count = m % 256 ^ count := by
    rw [← value_lowFirst, ← value_lowFirst, h]
  rwa [Nat.mod_eq_of_lt hn, Nat.mod_eq_of_lt hm] at hvalue

end Digest

/-! ## 3. Units -/

namespace Text

/-- Whether the unit is the first of two that spell a character together. -/
def isLeading (unit : UInt16) : Bool := 0xd800 ≤ unit.toNat && unit.toNat < 0xdc00

/-- Reads the character that units start with: one unit, or two if the first one is a leading
one. -/
def firstChar? : List UInt16 → Option (Char × List UInt16)
  | [] => none
  | unit :: rest =>
    if isLeading unit then
      match rest with
      | [] => none
      | trailing :: rest =>
        let n := 0x10000 + 0x400 * (unit.toNat - 0xd800) + (trailing.toNat - 0xdc00)
        some (Char.ofNat n, rest)
    else some (Char.ofNat unit.toNat, rest)

/-- No character is a surrogate, and none is above U+10FFFF. -/
theorem toNat_char (c : Char) : c.toNat < 0xd800 ∨ 0xdfff < c.toNat ∧ c.toNat < 0x110000 := c.valid

theorem isLeading_ofNat {n : Nat} (h : n < 0x10000) :
    isLeading (UInt16.ofNat n) = true ↔ 0xd800 ≤ n ∧ n < 0xdc00 := by
  rw [isLeading, UInt16.toNat_ofNat_of_lt' h, Bool.and_eq_true, decide_eq_true_eq,
    decide_eq_true_eq]

/-- What does not lead is a character of its own. -/
theorem firstChar?_cons {n : Nat} (h : n < 0x10000) (hnot : ¬ (0xd800 ≤ n ∧ n < 0xdc00))
    (rest : List UInt16) : firstChar? (UInt16.ofNat n :: rest) = some (Char.ofNat n, rest) := by
  simp [firstChar?, isLeading_ofNat h, hnot, UInt16.toNat_ofNat_of_lt' h]

/-- What leads is a character together with the unit after it. -/
theorem firstChar?_cons_cons {high low : Nat} (hhigh : 0xd800 ≤ high ∧ high < 0xdc00)
    (hlow : low < 0x10000) (rest : List UInt16) :
    firstChar? (UInt16.ofNat high :: UInt16.ofNat low :: rest) =
      some (Char.ofNat (0x10000 + 0x400 * (high - 0xd800) + (low - 0xdc00)), rest) := by
  have hfits : high < 0x10000 := Nat.lt_trans hhigh.2 (by decide)
  simp [firstChar?, isLeading_ofNat hfits, hhigh, UInt16.toNat_ofNat_of_lt' hfits,
    UInt16.toNat_ofNat_of_lt' hlow]

/-- **Units show where a character ends.** -/
theorem firstChar?_charUnits_append (c : Char) (rest : List UInt16) :
    firstChar? (charUnits c ++ rest) = some (c, rest) := by
  have hchar := toNat_char c
  rw [charUnits]
  split
  · next hone =>
    rw [List.singleton_append, firstChar?_cons hone (by omega), Char.ofNat_toNat]
  · -- what is above U+10000 is divided between the two units
    have hwhole : 0x10000 + 0x400 * (0xd800 + (c.toNat - 0x10000) / 0x400 - 0xd800) +
        (0xdc00 + (c.toNat - 0x10000) % 0x400 - 0xdc00) = c.toNat := by omega
    rw [List.cons_append, List.singleton_append, firstChar?_cons_cons (by omega) (by omega), hwhole,
      Char.ofNat_toNat]

example : firstChar? [0xd83d, 0xde00, 0x62] = some ('😀', [0x62]) := by decide

theorem prefixFree_charUnits : PrefixFree charUnits := .of_read _ firstChar?_charUnits_append

theorem charUnits_ne_nil (c : Char) : charUnits c ≠ [] := by
  unfold charUnits
  dsimp only
  split <;> simp

/-- Texts of the same units are the same. -/
theorem units_injective : Function.Injective units := fun _ _ h =>
  String.toList_injective (prefixFree_charUnits.flatMap_injective charUnits_ne_nil h)

end Text

/-! ## 4. Keys -/

namespace Bucket

theorem prefixFree_layerBytes :
    PrefixFree fun layer : LayerId => Digest.lowFirst 4 layer.toUInt32.toNat := by
  refine .of_length (fun _ => Digest.length_lowFirst ..) fun layer layer' h => ?_
  have hbits := UInt32.toNat_inj.1 (Digest.lowFirst_inj (UInt32.toNat_lt _) (UInt32.toNat_lt _) h)
  obtain ⟨_⟩ := layer
  obtain ⟨_⟩ := layer'
  exact congrArg Int32.ofUInt32 hbits

theorem prefixFree_unitBytes : PrefixFree fun unit : UInt16 => Digest.lowFirst 2 unit.toNat :=
  .of_length (fun _ => Digest.length_lowFirst ..) fun _ _ h =>
    UInt16.toNat_inj.1 (Digest.lowFirst_inj (UInt16.toNat_lt _) (UInt16.toNat_lt _) h)

theorem unitBytes_ne_nil (unit : UInt16) : Digest.lowFirst 2 unit.toNat ≠ [] := by
  simp [Digest.lowFirst]

/-- **Keys separate.**  The bytes that decide on a bucket are the same only for the same layer and
the same identifier. -/
theorem key_separates (layer layer' : LayerId) (identifier identifier' : String) :
    key layer identifier = key layer' identifier' ↔
      layer = layer' ∧ identifier = identifier' := by
  constructor
  · intro h
    obtain ⟨hlayer, hbytes⟩ := prefixFree_layerBytes h
    have hunits := prefixFree_unitBytes.flatMap_injective unitBytes_ne_nil hbytes
    exact ⟨hlayer, Text.units_injective hunits⟩
  · rintro ⟨rfl, rfl⟩
    rfl

end Bucket

end Rollout
