import Mathlib
import Rollout.Value
/-!
# When two values are the same

A flag may be declared once more with the same default, and `Value.same` says which defaults are the
same.  It compares floats as numbers, and that is not equality of values: what is no number is not
the same as itself, and the two zeros are the same as each other.  This module proves that there are
no other differences (`Value.same_iff`).

Two floats are compared by what their bits stand for, and different bits stand for different things
(`Floating.unpack_inj`), since there is only one way to write what is no number.
-/

namespace Rollout

namespace Floating

open Float.Model Float.Model.UnpackedFloat

/-! ## 1. Floats -/

theorem unpack_inj {x y : Float} : x.toModel.unpack = y.toModel.unpack ↔ x = y := by
  refine ⟨fun h => ?_, congrArg fun z : Float => z.toModel.unpack⟩
  have hbits := (unpack_inj_of_valid x.toModel.valid y.toModel.valid).1 h
  obtain ⟨⟨_, _⟩⟩ := x
  obtain ⟨⟨_, _⟩⟩ := y
  obtain rfl := UInt64.toBitVec_inj.1 hbits
  rfl

/-- Floats compare as equal if they are equal, except that what is no number is not equal to itself,
and that the two zeros are equal. -/
theorem beq_iff (x y : Float) : (x == y) = true ↔
    (x = y ∧ x.isNaN = false) ∨ (x = 0 ∨ x = -0) ∧ (y = 0 ∨ y = -0) := by
  have hzero : ∀ z : Float, z = 0 ↔ z.toModel.unpack = .zero .positive := fun _ => unpack_inj.symm
  have hminus : ∀ z : Float, z = -0 ↔ z.toModel.unpack = .zero .negative := fun _ => unpack_inj.symm
  have hnumber : x.isNaN = false ↔ x.toModel.unpack ≠ .notANumber :=
    Bool.eq_false_iff.trans (not_congr isNaN_iff)
  rw [hnumber, hzero, hzero, hminus, hminus, ← unpack_inj]
  refine (beq_iff_ne_notANumber_and_eq x.toModel.unpack y.toModel.unpack).trans ?_
  grind

end Floating

namespace Value

/-! ## 2. Values -/

/-- The value is a float that is no number. -/
def isNoNumber : Value → Bool
  | .float x => x.isNaN
  | _ => false

/-- The value is one of the two float zeros. -/
def IsZero (v : Value) : Prop := v = .float 0 ∨ v = .float (-0)

/-- **Values are the same if they are equal,** except that what is no number is not the same as
itself, and that the two zeros are the same. -/
theorem same_iff (a b : Value) :
    a.same b = true ↔ (a = b ∧ a.isNoNumber = false) ∨ a.IsZero ∧ b.IsZero := by
  cases a with
  | float x =>
    cases b with
    | float y => simp [same, isNoNumber, IsZero, Floating.beq_iff]
    | _ => simp [same, IsZero]
  | bool | int | string => cases b <;> simp [same, isNoNumber, IsZero]

theorem same_eq_false {a b : Value} (h : a.type ≠ b.type) : a.same b = false :=
  Bool.eq_false_iff.2 fun hsame => h (type_of_same hsame)

/-- Only numbers are the same as anything. -/
theorem isNoNumber_of_same {a b : Value} (h : a.same b = true) : b.isNoNumber = false := by
  rcases (same_iff a b).1 h with ⟨rfl, hnumber⟩ | ⟨-, rfl | rfl⟩
  · exact hnumber
  · rfl
  · rfl

theorem same_self_iff (v : Value) : v.same v = true ↔ v.isNoNumber = false :=
  ⟨isNoNumber_of_same, fun h => (same_iff v v).2 (.inl ⟨rfl, h⟩)⟩

end Value

end Rollout
