import Mathlib.Data.List.Perm.Basic
import Rollout.Proofs.Typing
/-!
# Modifiers that commute

A calculator folds its modifiers into the base value in order, and a sum does not care about the
order.  This module says for which calculators that is the whole story.

A modifier whose condition holds folds its own value into the accumulated one, and its own value
does not look at that one (`Modifier.own`).  A modifier whose condition fails leaves the value
alone, but what is made of it stays good no longer than the condition.  So a run of modifiers is two
folds that do not look at each other, one of values and one of levels (`Modifier.applyAll_eq`).

* The levels are met, in any order.
* The values are put together by the operators.  Where there is only one operator, and it is a sum
  or a product of truth values or whole numbers, the order does not matter
  (`Operator.apply_right_comm`).  Whole numbers are computed without a bound and brought into 64
  bits at the end (`Modifier.foldl_own_int`).

The other types are left out for a reason: strings that are put together remember the order.
-/

namespace Rollout

/-! ## 1. Operators -/

namespace Operator

variable {op : Operator}

/-- Two values of a type that are folded in by a sum or a product may change places, whatever is
there. -/
theorem apply_right_comm (hop : op.isCommutative = true) {b c : Value} (hbc : b.type = c.type)
    (htype : b.type = .bool ∨ b.type = .int) (a : Value) :
    op.apply (op.apply a b) c = op.apply (op.apply a c) b := by
  cases b <;> cases c <;> try cases hbc
  case bool.bool x y =>
    cases op with
    | override => cases hop
    | add _ => cases a <;> simp only [apply, Bool.or_assoc, Bool.or_comm x y]
    | multiply _ => cases a <;> simp only [apply, Bool.and_assoc, Bool.and_comm x y]
  case int.int x y =>
    cases op with
    | override => cases hop
    | add _ => cases a <;> simp only [apply, Int64.add_assoc, Int64.add_comm x y]
    | multiply _ => cases a <;> simp only [apply, Int64.mul_assoc, Int64.mul_comm x y]
  all_goals rcases htype with htype | htype <;> cases htype

/-- What an operator makes of two whole numbers, without a bound. -/
def unbounded : Operator → Int → Int → Int
  | .override, _, next => next
  | .add _, a, b => a + b
  | .multiply _, a, b => a * b

/-- A whole number can be brought into 64 bits before or after the operator. -/
theorem apply_ofInt (op : Operator) (n : Int) (i : Int64) :
    op.apply (.int (.ofInt n)) (.int i) = .int (.ofInt (op.unbounded n i.toInt)) := by
  cases op <;> simp only [apply, unbounded, Int64.ofInt_add, Int64.ofInt_mul, Int64.ofInt_toInt]

end Operator

/-- The whole number that a value is. -/
def Value.whole : Value → Int
  | .int i => i.toInt
  | _ => 0

theorem Value.eq_int_whole {v : Value} (h : v.type = .int) : v = .int (.ofInt v.whole) := by
  cases v with
  | int i => exact congrArg int (Int64.ofInt_toInt i).symm
  | _ => cases h

/-! ## 2. A run of modifiers is two folds -/

namespace Modifier

/-- The operator that folds the modifier in. -/
def operator : Modifier → Operator
  | .mk _ operator _ _ => operator

/-- The condition that decides whether the modifier applies. -/
def condition : Modifier → Condition
  | .mk _ _ condition _ => condition

/-- What the modifier brings if it applies: its value with its children folded in. -/
def own (answers : Answers) : Modifier → Evaluation
  | .mk value _ condition children => applyAll answers children ⟨value, condition.level⟩

/-- How long it stays good that the modifier applied, or that it did not. -/
def limit (answers : Answers) (m : Modifier) : CacheLevel :=
  if m.condition.holds answers then (m.own answers).level else m.condition.level

/-- The value after the modifier folded what it brings into it. -/
def fold (answers : Answers) (v : Value) (m : Modifier) : Value :=
  m.operator.apply v (m.own answers).value

variable {answers : Answers}

theorem apply_of_holds {m : Modifier} (h : m.condition.holds answers = true) (acc : Evaluation) :
    m.apply answers acc = ⟨m.fold answers acc.value, acc.level.meet (m.limit answers)⟩ := by
  rw [limit, if_pos h]
  cases m with
  | mk value op cond children => rw [apply, if_pos (show cond.holds answers = true from h)]; rfl

theorem apply_of_not_holds {m : Modifier} (h : m.condition.holds answers = false)
    (acc : Evaluation) : m.apply answers acc = ⟨acc.value, acc.level.meet (m.limit answers)⟩ := by
  rw [limit, h, if_neg Bool.false_ne_true]
  cases m with
  | mk value op cond children =>
    rw [apply, show cond.holds answers = false from h, if_neg Bool.false_ne_true]; rfl

/-- **A run of modifiers**: the values of those that apply are folded in, and the limits of all are
met. -/
theorem applyAll_eq : ∀ (ms : List Modifier) (acc : Evaluation),
    applyAll answers ms acc =
      ⟨(ms.filter (·.condition.holds answers)).foldl (fold answers) acc.value,
        (ms.map (limit answers)).foldl CacheLevel.meet acc.level⟩
  | [], acc => by rw [applyAll]; rfl
  | m :: ms, acc => by
    rw [applyAll, applyAll_eq ms, List.map_cons, List.foldl_cons]
    cases h : m.condition.holds answers with
    | true => rw [List.filter_cons_of_pos (by rw [h]), List.foldl_cons, apply_of_holds h]
    | false => rw [List.filter_cons_of_neg (by rw [h]; simp), apply_of_not_holds h]

/-- What a modifier brings that was made is of its type. -/
theorem Made.type_own {given : Operator → Prop} {m : Modifier} (hm : m.Made given) :
    (m.own answers).value.type = m.type := by
  cases hm with
  | @make value operator condition children m _ hchildren hmake =>
    obtain ⟨-, htypes, rfl⟩ := make_eq_ok_iff.1 hmake
    have hcomputes : Calculator.Computes given value.type ⟨value, children⟩ :=
      ⟨rfl, hchildren, htypes⟩
    have htype := hcomputes.type_evaluate answers
    rw [Calculator.evaluate, applyAll_eq] at htype
    rw [own, applyAll_eq]
    exact htype

end Modifier

/-! ## 3. One operator -/

/-- A modifier of a type that was made, and that is folded in by this operator. -/
structure Modifier.Uses (given : Operator → Prop) (type : FlagType) (op : Operator) (m : Modifier) :
    Prop where
  made : m.Made given
  type : m.type = type
  operator : m.operator = op

namespace Modifier

variable {given : Operator → Prop} {type : FlagType} {op : Operator} {answers : Answers}

theorem Uses.type_own {m : Modifier} (hm : m.Uses given type op) :
    (m.own answers).value.type = type :=
  hm.made.type_own.trans hm.type

/-- **Two modifiers may change places**, if they use the same sum or product of truth values or
whole numbers. -/
theorem Uses.fold_right_comm {m n : Modifier} (hm : m.Uses given type op)
    (hn : n.Uses given type op) (hop : op.isCommutative = true)
    (htype : type = .bool ∨ type = .int) (v : Value) :
    fold answers (fold answers v m) n = fold answers (fold answers v n) m := by
  simp only [fold, hm.operator, hn.operator]
  refine Operator.apply_right_comm hop (hm.type_own.trans hn.type_own.symm) ?_ v
  rw [hm.type_own]
  exact htype

/-- **All of them may**: a run of such modifiers comes to the same in any order. -/
theorem applyAll_perm {ms ns : List Modifier} (hperm : ms.Perm ns)
    (hms : ∀ m ∈ ms, m.Uses given type op) (hop : op.isCommutative = true)
    (htype : type = .bool ∨ type = .int) (acc : Evaluation) :
    applyAll answers ms acc = applyAll answers ns acc := by
  have hvalue : (ms.filter (·.condition.holds answers)).foldl (fold answers) acc.value =
      (ns.filter (·.condition.holds answers)).foldl (fold answers) acc.value := by
    refine (hperm.filter _).foldl_eq' (fun m hm n hn v => ?_) acc.value
    exact (hms m (List.mem_filter.1 hm).1).fold_right_comm (hms n (List.mem_filter.1 hn).1)
      hop htype v
  have hlevel : (ms.map (limit answers)).foldl CacheLevel.meet acc.level =
      (ns.map (limit answers)).foldl CacheLevel.meet acc.level := by
    refine (hperm.map _).foldl_eq' (fun a _ b _ c => ?_) acc.level
    rw [CacheLevel.meet_assoc, CacheLevel.meet_comm a b, ← CacheLevel.meet_assoc]
  rw [applyAll_eq, applyAll_eq, hvalue, hlevel]

/-- Whole numbers are folded without a bound and brought into 64 bits at the end. -/
theorem foldl_own_int : ∀ {ms : List Modifier}, (∀ m ∈ ms, m.Uses given .int op) → ∀ n : Int,
    ms.foldl (fold answers) (.int (.ofInt n)) =
      .int (.ofInt ((ms.map fun m => (m.own answers).value.whole).foldl op.unbounded n))
  | [], _, _ => rfl
  | m :: ms, h, n => by
    obtain ⟨hm, hms⟩ := List.forall_mem_cons.1 h
    have hstep : fold answers (.int (.ofInt n)) m =
        .int (.ofInt (op.unbounded n (m.own answers).value.whole)) := by
      rw [fold, hm.operator]
      cases hown : (m.own answers).value with
      | int i => exact Operator.apply_ofInt op n i
      | _ =>
        have htype : (m.own answers).value.type = .int := hm.type_own
        rw [hown] at htype
        cases htype
    rw [List.foldl_cons, hstep, foldl_own_int hms, List.map_cons, List.foldl_cons]

end Modifier

/-- **Modifiers that use one sum or product commute.**  Take a calculator of truth values or whole
numbers whose modifiers all use the same sum or product, whatever their conditions and their
children are.

* In any order of the modifiers, it computes the same value, good for as long.
* An override with modifiers that use it too comes to the same whether they run after those that are
  there or before them.
* A whole number is what comes out without a bound, modulo `2 ^ 64`. -/
theorem Calculator.evaluate_comm {given : Operator → Prop} {type : FlagType} {op : Operator}
    {c : Calculator} (hc : c.Computes given type) (htype : type = .bool ∨ type = .int)
    (hop : op.isCommutative = true) (hsame : ∀ m ∈ c.modifiers, m.operator = op)
    (answers : Answers) :
    (∀ ms, c.modifiers.Perm ms →
      ({ c with modifiers := ms } : Calculator).evaluate answers = c.evaluate answers) ∧
    (∀ ms, (∀ m ∈ ms, m.Uses given type op) →
      ((FlagOverride.append ms).apply c).evaluate answers =
        ((FlagOverride.prepend ms).apply c).evaluate answers) ∧
    (type = .int → (c.evaluate answers).value = .int (.ofInt
      (((c.modifiers.filter (·.condition.holds answers)).map fun m =>
        (m.own answers).value.whole).foldl op.unbounded c.base.whole))) := by
  have hall : ∀ m ∈ c.modifiers, m.Uses given type op := fun m hm =>
    ⟨hc.made m hm, hc.modifiers m hm, hsame m hm⟩
  refine ⟨fun ms hperm => ?_, fun ms hms => ?_, ?_⟩
  · exact (Modifier.applyAll_perm hperm hall hop htype _).symm
  · exact Modifier.applyAll_perm List.perm_append_comm (List.forall_mem_append.2 ⟨hall, hms⟩)
      hop htype _
  · rintro rfl
    rw [evaluate, Modifier.applyAll_eq]
    conv => lhs; rw [Value.eq_int_whole hc.base]
    exact Modifier.foldl_own_int (fun m hm => hall m (List.mem_filter.1 hm).1) _

/-- Three modifiers of the greatest whole number: one whose own value is overridden by a child, one
that does not apply where `false` is false, and one that brings the sum over the bound. -/
def Calculator.brimming : Calculator where
  base := .int Int64.maxValue
  modifiers :=
    [.mk (.int 10) (.add .int) (.leaf (.supplied "asked" .request []))
      [.mk (.int 3) .override .always []], .mk (.int 5) (.add .int) (.leaf (.constant false)) [],
      .mk (.int 1) (.add .int) .always []]

theorem Calculator.computes_brimming : brimming.Computes (fun _ => True) .int where
  base := rfl
  made := by
    have hmake : ∀ (i : Int64) (op : Operator) (condition : Condition) (children : List Modifier),
        op.accepts .int = true → (∀ child ∈ children, child.Made (fun _ => True)) →
        (∀ child ∈ children, child.type = .int) →
        Modifier.Made (fun _ => True) (.mk (.int i) op condition children) :=
      fun i op condition children hop hmade htypes =>
        have h : Modifier.make (.int i) op condition children = .ok _ :=
          Modifier.make_eq_ok_iff.2 ⟨hop, htypes, rfl⟩
        .make trivial hmade h
    simp only [brimming, List.forall_mem_cons]
    refine ⟨hmake 10 _ _ _ rfl ?_ ?_, hmake 5 _ _ _ rfl ?_ ?_, hmake 1 _ _ _ rfl ?_ ?_, ?_⟩
    case refine_1 => exact List.forall_mem_singleton.2 (hmake 3 _ _ _ rfl (by simp) (by simp))
    case refine_2 => exact List.forall_mem_singleton.2 rfl
    all_goals simp
  modifiers := by simp [brimming, Modifier.type, Modifier.value, Value.type]

/-- Every leaf says yes that can. -/
def Answers.willing : Answers := fun leaf => leaf != .constant false

theorem Calculator.evaluate_comm_brimming :
    ({ brimming with modifiers := brimming.modifiers.reverse } : Calculator).evaluate .willing =
        brimming.evaluate .willing ∧
      ((FlagOverride.append brimming.modifiers).apply brimming).evaluate .willing =
        ((FlagOverride.prepend brimming.modifiers).apply brimming).evaluate .willing ∧
      (brimming.evaluate .willing).value = .int (.ofInt (9223372036854775807 + 3 + 1)) := by
  have hsame : ∀ m ∈ brimming.modifiers, m.operator = .add .int := by
    simp [brimming, Modifier.operator]
  obtain ⟨hperm, hoverride, hint⟩ :=
    evaluate_comm computes_brimming (.inr rfl) rfl hsame .willing
  refine ⟨hperm _ (List.reverse_perm _).symm, hoverride _ fun m hm => ?_, hint rfl⟩
  exact ⟨computes_brimming.made m hm, computes_brimming.modifiers m hm, hsame m hm⟩

end Rollout
