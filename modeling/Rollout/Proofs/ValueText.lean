import Mathlib.Algebra.Ring.Int.Defs
import Rollout.Document.Meaning
/-!
# The text of a value

Values are written with `Value.text` and read with `Value.parse`, and a document keeps a value as it
is written until the type of its flag is known.  This module says which texts spell which values.

* A whole number is spelled by a numeral: one or more decimal digits behind an optional sign
  (`Denotes`), which `Numeral.integer?` reads exactly (`integer?_eq_some_iff`).  The text of a
  number is one of its numerals (`denotes_toString`), but not the only one.
* Blanks around a numeral do not count (`Text.Pads.trimChars_eq`).
* `Value.parse_spelled` puts them together, with the bounds of 64-bit numbers, for values and for
  what stands in a document.
-/

namespace Rollout

namespace Numeral

/-! ## 1. Numerals -/

/-- One or more decimal digits. -/
def Digits (cs : List Char) : Prop := cs ≠ [] ∧ ∀ c ∈ cs, c.isDigit = true

/-- A numeral and the number that it denotes: decimal digits behind an optional sign. -/
inductive Denotes : List Char → Int → Prop where
  | unsigned {cs : List Char} (digits : Digits cs) : Denotes cs (Nat.ofDigitChars 10 cs 0)
  | plus {cs : List Char} (digits : Digits cs) : Denotes ('+' :: cs) (Nat.ofDigitChars 10 cs 0)
  | minus {cs : List Char} (digits : Digits cs) :
    Denotes ('-' :: cs) (-(Nat.ofDigitChars 10 cs 0 : Nat))

theorem digit?_ten (c : Char) :
    digit? 10 c = if c.isDigit then some (c.toNat - '0'.toNat) else none := by
  have hiff : c.isDigit = true ↔ 0x30 ≤ c.toNat ∧ c.toNat ≤ 0x39 := Char.isDigit_iff_toNat
  unfold digit?
  by_cases hc : c.isDigit = true
  · have := hiff.1 hc
    rw [if_pos hc]
    dsimp only
    rw [if_pos this, if_pos (by omega)]
    rfl
  · have hno := fun h => hc (hiff.2 h)
    rw [if_neg hc]
    dsimp only
    rw [if_neg hno, if_neg]
    split
    · omega
    · split <;> omega

theorem extend?_eq_some_iff {m : Nat} : ∀ {cs : List Char} {n : Nat},
    extend? 10 n cs = some m ↔ (∀ c ∈ cs, c.isDigit = true) ∧ Nat.ofDigitChars 10 cs n = m
  | [], n => by simp [extend?]
  | c :: cs, n => by
    rw [extend?, digit?_ten, Nat.ofDigitChars_cons, Nat.mul_comm 10]
    by_cases hc : c.isDigit = true
    · simp [hc, extend?_eq_some_iff]
    · simp [hc]

theorem natural?_eq_some_iff {cs : List Char} {n : Nat} :
    natural? 10 cs = some n ↔ Digits cs ∧ Nat.ofDigitChars 10 cs 0 = n := by
  cases cs with
  | nil => simp [natural?, Digits]
  | cons c cs => rw [natural?, extend?_eq_some_iff, Digits, and_iff_right (List.cons_ne_nil c cs)]

/-- **Numerals are read exactly.** -/
theorem integer?_eq_some_iff {cs : List Char} {i : Int} :
    integer? 10 cs = some i ↔ Denotes cs i := by
  constructor
  · intro h
    unfold integer? at h
    split at h
    · obtain ⟨n, hn, rfl⟩ := Option.map_eq_some_iff.1 h
      obtain ⟨hdigits, rfl⟩ := natural?_eq_some_iff.1 hn
      exact .plus hdigits
    · obtain ⟨_, hm, rfl⟩ := Option.map_eq_some_iff.1 h
      obtain ⟨n, hn, hm⟩ := Option.bind_eq_some_iff.1 hm
      cases hm
      obtain ⟨hdigits, rfl⟩ := natural?_eq_some_iff.1 hn
      exact .minus hdigits
    · obtain ⟨n, hn, rfl⟩ := Option.map_eq_some_iff.1 h
      obtain ⟨hdigits, rfl⟩ := natural?_eq_some_iff.1 hn
      exact .unsigned hdigits
  · rintro (hdigits | hdigits | hdigits)
    · have hread := natural?_eq_some_iff.2 ⟨hdigits, rfl⟩
      -- a sign is no digit
      unfold integer?
      split
      · cases hdigits.2 '+' List.mem_cons_self
      · cases hdigits.2 '-' List.mem_cons_self
      · rw [hread]
        rfl
    · rw [integer?, natural?_eq_some_iff.2 ⟨hdigits, rfl⟩]
      rfl
    · rw [integer?, natural?_eq_some_iff.2 ⟨hdigits, rfl⟩]
      rfl

theorem digits_toDigits (n : Nat) : Digits (Nat.toDigits 10 n) :=
  ⟨Nat.toDigits_ne_nil, fun _ hc => Nat.isDigit_of_mem_toDigits (by decide) (by decide) hc⟩

/-- The text of a number is a numeral of it. -/
theorem denotes_toString (i : Int) : Denotes (toString i).toList i := by
  cases i with
  | ofNat n =>
    have htext : (toString (Int.ofNat n)).toList = Nat.toDigits 10 n := by
      rw [Int.toString_eq_repr, Int.repr, Nat.toList_repr]
    have h := Denotes.unsigned (digits_toDigits n)
    rwa [Nat.ofDigitChars_ten_toDigits, ← htext] at h
  | negSucc n =>
    have htext : (toString (Int.negSucc n)).toList = '-' :: Nat.toDigits 10 (n + 1) := by
      rw [Int.toString_eq_repr, Int.repr, String.toList_append, Nat.toList_repr]
      rfl
    have h := Denotes.minus (digits_toDigits (n + 1))
    rwa [Nat.ofDigitChars_ten_toDigits, ← htext] at h

/-- There are no blanks in a numeral. -/
theorem Denotes.not_blank {cs : List Char} {i : Int} (h : Denotes cs i) :
    cs ≠ [] ∧ ∀ c ∈ cs, Text.isBlank c = false := by
  have hdigit : ∀ {c : Char}, c.isDigit = true → Text.isBlank c = false := by
    intro c hc
    have hrange : 0x30 ≤ c.toNat ∧ c.toNat ≤ 0x39 := Char.isDigit_iff_toNat.1 hc
    rw [Text.isBlank, Bool.eq_false_iff]
    simp only [ne_eq, Bool.or_eq_true, Bool.and_eq_true, decide_eq_true_eq, beq_iff_eq]
    omega
  have hall : ∀ {cs : List Char}, Digits cs → ∀ c ∈ cs, Text.isBlank c = false :=
    fun hdigits c hc => hdigit (hdigits.2 c hc)
  rcases h with hdigits | hdigits | hdigits
  · exact ⟨hdigits.1, hall hdigits⟩
  · exact ⟨List.cons_ne_nil _ _, List.forall_mem_cons.2 ⟨rfl, hall hdigits⟩⟩
  · exact ⟨List.cons_ne_nil _ _, List.forall_mem_cons.2 ⟨rfl, hall hdigits⟩⟩

end Numeral

namespace Text

/-! ## 2. Blanks -/

/-- The text consists of these characters and of blanks around them. -/
def Pads (text : String) (cs : List Char) : Prop :=
  ∃ before after, text.toList = before ++ cs ++ after ∧
    (∀ c ∈ before, isBlank c = true) ∧ ∀ c ∈ after, isBlank c = true

theorem dropWhile_isBlank {blanks cs : List Char} (hb : ∀ c ∈ blanks, isBlank c = true)
    (hcs : ∀ c ∈ cs.head?, isBlank c = false) : (blanks ++ cs).dropWhile isBlank = cs := by
  rw [List.dropWhile_append_of_pos hb]
  cases cs with
  | nil => rfl
  | cons c cs => exact List.dropWhile_cons_of_neg (Bool.not_eq_true _ ▸ hcs c rfl)

/-- Trimming takes the blanks away and nothing else. -/
theorem Pads.trimChars_eq {text : String} {cs : List Char} (h : Pads text cs)
    (hne : cs ≠ []) (hcs : ∀ c ∈ cs, isBlank c = false) : trimChars text.toList = cs := by
  obtain ⟨before, after, htext, hbefore, hafter⟩ := h
  have hfirst : ∀ c ∈ (cs ++ after).head?, isBlank c = false := by
    intro c hc
    obtain ⟨d, ds, rfl⟩ := List.exists_cons_of_ne_nil hne
    obtain rfl := Option.some.inj hc
    exact hcs _ List.mem_cons_self
  have hlast : ∀ c ∈ cs.reverse.head?, isBlank c = false := fun c hc =>
    hcs c (List.mem_reverse.1 (List.mem_of_mem_head? hc))
  have hafter' : ∀ c ∈ after.reverse, isBlank c = true := fun c hc =>
    hafter c (List.mem_reverse.1 hc)
  rw [trimChars, htext, List.append_assoc, dropWhile_isBlank hbefore hfirst, List.reverse_append,
    dropWhile_isBlank hafter' hlast, List.reverse_reverse]

/-- What is left after trimming is the text without blanks around it. -/
theorem pads_trimChars (text : String) : Pads text (trimChars text.toList) := by
  have hblank : ∀ (l : List Char), ∀ c ∈ l.takeWhile isBlank, isBlank c = true := fun _ =>
    List.all_eq_true.1 List.all_takeWhile
  refine ⟨text.toList.takeWhile isBlank,
    ((text.toList.dropWhile isBlank).reverse.takeWhile isBlank).reverse, ?_, hblank _,
    fun c hc => hblank _ c (List.mem_reverse.1 hc)⟩
  rw [trimChars, List.append_assoc, ← List.reverse_append, List.takeWhile_append_dropWhile,
    List.reverse_reverse, List.takeWhile_append_dropWhile]

end Text

namespace Value

/-! ## 3. Values -/

/-- The number that a text spells: its numeral may have blanks around it. -/
def Spells (text : String) (i : Int) : Prop := ∃ cs, Text.Pads text cs ∧ Numeral.Denotes cs i

theorem integer?_trimChars_iff {text : String} {i : Int} :
    Numeral.integer? 10 (Text.trimChars text.toList) = some i ↔ Spells text i := by
  rw [Numeral.integer?_eq_some_iff]
  constructor
  · exact fun h => ⟨_, Text.pads_trimChars text, h⟩
  · rintro ⟨cs, hpads, hdenotes⟩
    rwa [hpads.trimChars_eq hdenotes.not_blank.1 hdenotes.not_blank.2]

theorem int64?_eq_some_iff {text : String} {n : Int64} :
    Numeral.int64? (Text.trimChars text.toList) = some n ↔ Spells text n.toInt := by
  rw [← integer?_trimChars_iff, Numeral.int64?, Option.bind_eq_some_iff]
  constructor
  · rintro ⟨i, hi, hn⟩
    rwa [Numeral.toInt_of_toInt64? hn]
  · exact fun h => ⟨_, h, Numeral.toInt64?_toInt n⟩

theorem parse_int_eq (text : String) :
    parse .int text = match Numeral.int64? (Text.trimChars text.toList) with
      | some n => .ok (.int n)
      | none => .error (.unparseable .int text) := by
  rw [parse, parse?]
  cases Numeral.int64? (Text.trimChars text.toList) <;> rfl

theorem parse_int_eq_ok_iff {text : String} {n : Int64} :
    parse .int text = .ok (.int n) ↔ Spells text n.toInt := by
  rw [← int64?_eq_some_iff, parse_int_eq]
  cases Numeral.int64? (Text.trimChars text.toList) <;> simp

/-- A number that a text spells, if it is in the range of 64 bits. -/
def SpellsInt64 (text : String) (i : Int) : Prop := Spells text i ∧ -2 ^ 63 ≤ i ∧ i < 2 ^ 63

theorem parse_int_iff {text : String} {i : Int} :
    (∃ n, parse .int text = .ok (.int n) ∧ n.toInt = i) ↔ SpellsInt64 text i := by
  constructor
  · rintro ⟨n, hn, rfl⟩
    exact ⟨parse_int_eq_ok_iff.1 hn, Int64.le_toInt n, Int64.toInt_lt n⟩
  · rintro ⟨hspells, hle, hlt⟩
    have hi : (Int64.ofInt i).toInt = i := Int64.toInt_ofInt_of_le hle hlt
    exact ⟨Int64.ofInt i, parse_int_eq_ok_iff.2 (hi.symm ▸ hspells), hi⟩

theorem parse_int_eq_error_iff {text : String} :
    parse .int text = .error (.unparseable .int text) ↔ ¬ ∃ i, SpellsInt64 text i := by
  simp only [← parse_int_iff]
  rw [parse_int_eq]
  cases Numeral.int64? (Text.trimChars text.toList) <;> simp

/-- A text in which only blanks surround the text of a number spells it. -/
theorem spells_of_pads {text : String} {i : Int} (h : Text.Pads text (toString i).toList) :
    Spells text i :=
  ⟨_, h, Numeral.denotes_toString i⟩

theorem pads_self (text : String) : Text.Pads text text.toList :=
  ⟨[], [], by simp, nofun, nofun⟩

/-- **What is written is read back.** -/
theorem parse_text {v : Value} (h : v.type ≠ .float) : parse v.type v.text = .ok v := by
  cases v with
  | bool b => cases b <;> rfl
  | int i => exact parse_int_eq_ok_iff.2 (spells_of_pads (pads_self _))
  | float x => exact absurd rfl h
  | string s => rfl

/-- **What spells what.**

* Values that are no floats are read back from their text.
* A text spells a whole number exactly if it is a numeral of it, blanks around it apart, and the
  number has 64 bits; anything else is refused.
* In a document, the number and its text, with any blanks around it, are the same for an int flag;
  for a string flag a text is what it is. -/
theorem parse_spelled :
    (∀ v : Value, v.type ≠ .float → parse v.type v.text = .ok v) ∧
    (∀ text i, (∃ n, parse .int text = .ok (.int n) ∧ n.toInt = i) ↔ SpellsInt64 text i) ∧
    (∀ text, (¬ ∃ i, SpellsInt64 text i) → parse .int text = .error (.unparseable .int text)) ∧
    ∀ owner : Owner,
      (∀ i, typedValue owner .int (.int i) = .ok (.int i)) ∧
      (∀ i text, Text.Pads text (Value.int i).text.toList →
        typedValue owner .int (.string text) = .ok (.int i)) ∧
      ∀ text, typedValue owner .string (.string text) = .ok (.string text) := by
  refine ⟨fun _ => parse_text, fun _ _ => parse_int_iff, fun _ => parse_int_eq_error_iff.2,
    fun owner => ⟨fun i => ?_, fun i text hpads => ?_, fun text => rfl⟩⟩
  · have hback : parse .int (Value.int i).text = .ok (.int i) := @parse_text (.int i) nofun
    rw [typedValue, hback]
    rfl
  · have hread : parse .int text = .ok (.int i) := parse_int_eq_ok_iff.2 (spells_of_pads hpads)
    rw [typedValue, Value.text, hread]
    rfl

/-- The least number is read back, one more than the greatest is refused, and blanks do not
count. -/
theorem parse_spelled_bounds :
    parse .int "-9223372036854775808" = .ok (.int Int64.minValue) ∧
    parse .int "9223372036854775808" = .error (.unparseable .int "9223372036854775808") ∧
    typedValue (.flag "limit") .int (.string " -42\t") = .ok (.int (-42)) := by
  obtain ⟨hback, -, hrefused, hwritten⟩ := parse_spelled
  have hout : ¬ ∃ i, SpellsInt64 "9223372036854775808" i := by
    rintro ⟨i, hspells, -, hlt⟩
    have hread : Numeral.integer? 10 (Text.trimChars "9223372036854775808".toList) =
        some 9223372036854775808 := by rfl
    rw [integer?_trimChars_iff.2 hspells, Option.some.injEq] at hread
    omega
  refine ⟨hback (.int Int64.minValue) nofun, hrefused _ hout,
    (hwritten (.flag "limit")).2.1 (-42) " -42\t" ⟨[' '], ['\t'], rfl, ?_, ?_⟩⟩
  · simp [Text.isBlank]
  · simp [Text.isBlank]

end Value

end Rollout
