import Rollout.Proofs.WellFormed
/-!
# Values of one type

An operator is made for one type of values.  Its last case takes values that do not belong together,
and it is not meant to be reached: the types are checked when modifiers and calculators are made.

`Calculator.evaluateIf` is an evaluation that gives up at the first two values that an operator is
not allowed to meet; where it does not give up, it is `Calculator.evaluate` (`eq_of_evaluateIf`).
So that an evaluation never reaches the last case of an operator is to say that `evaluateIf` never
gives up.  This module shows so for calculators of which each part was checked
(`Calculator.Computes`), and shows that changing a calculator by an override that fits keeps it so.
-/

namespace Rollout

/-! ## 1. Operators -/

namespace Operator

/-- The value that two values make, if they belong together. -/
def combine? : Operator → Value → Value → Option Value
  | .override, _, next => some next
  | .add _, .bool a, .bool b => some (.bool (a || b))
  | .add _, .int a, .int b => some (.int (a + b))
  | .add _, .float a, .float b => some (.float (a + b))
  | .add _, .string a, .string b => some (.string (a ++ b))
  | .multiply _, .bool a, .bool b => some (.bool (a && b))
  | .multiply _, .int a, .int b => some (.int (a * b))
  | .multiply _, .float a, .float b => some (.float (a * b))
  | _, _, _ => none

/-- The last case of an operator is the one in which the values do not belong together. -/
theorem apply_eq (op : Operator) (current next : Value) :
    op.apply current next = (op.combine? current next).getD next := by
  cases op <;> cases current <;> cases next <;> rfl

/-- Whether the values belong together. -/
def combines (op : Operator) (current next : Value) : Bool := (op.combine? current next).isSome

/-- Whether the values are of one type, and the operator is for that type. -/
def fits (op : Operator) (current next : Value) : Bool :=
  current.type == next.type && op.accepts next.type

/-- Values of the type of an operator belong together, unless they are strings to be multiplied. -/
theorem combines_of_fits {op : Operator} {current next : Value} (h : op.fits current next = true)
    (hop : op ≠ .multiply .string) : op.combines current next = true := by
  obtain ⟨htype, haccepts⟩ := Bool.and_eq_true_iff.1 h
  have htype : current.type = next.type := beq_iff_eq.1 htype
  cases op with
  | override => rfl
  | add type => cases current <;> cases next <;> first | rfl | cases htype
  | multiply type =>
    have hstring : next.type ≠ .string := fun hnext => hop <| by
      rw [hnext] at haccepts
      rw [beq_iff_eq.1 haccepts]
    cases current <;> cases next <;> first | rfl | exact absurd rfl hstring | cases htype

/-- The operator is one that a name stands for. -/
def Named (op : Operator) : Prop := ∃ name type, resolve name type = .ok op

/-- No name stands for a product of strings. -/
theorem Named.ne_multiply_string {op : Operator} (h : op.Named) : op ≠ .multiply .string := by
  obtain ⟨name, type, h⟩ := h
  rintro rfl
  unfold resolve at h
  split at h <;> try cases h
  next hstring => exact hstring rfl

end Operator

/-! ## 2. Evaluations that may give up -/

/-- Whether an operator may meet these two values. -/
abbrev Allowed := Operator → Value → Value → Bool

mutual

/-- Folds a modifier into an evaluation, unless an operator meets values that it may not. -/
def Modifier.applyIf (allowed : Allowed) (answers : Answers) :
    Modifier → Evaluation → Option Evaluation
  | .mk value operator condition children, acc =>
    if condition.holds answers then
      (Modifier.applyAllIf allowed answers children ⟨value, condition.level⟩).bind fun own =>
        if allowed operator acc.value own.value then
          some ⟨operator.apply acc.value own.value, acc.level.meet own.level⟩
        else none
    else some (acc.limit condition.level)

/-- Folds modifiers into an evaluation, in order, unless an operator meets values that it may
not. -/
def Modifier.applyAllIf (allowed : Allowed) (answers : Answers) :
    List Modifier → Evaluation → Option Evaluation
  | [], acc => some acc
  | m :: ms, acc => (m.applyIf allowed answers acc).bind fun e =>
    Modifier.applyAllIf allowed answers ms e

end

/-- The value of a flag, unless an operator meets values that it may not. -/
def Calculator.evaluateIf (allowed : Allowed) (answers : Answers) (c : Calculator) :
    Option Evaluation :=
  Modifier.applyAllIf allowed answers c.modifiers ⟨c.base, .reload⟩

variable {allowed : Allowed} {answers : Answers}

mutual

theorem Modifier.eq_of_applyIf : ∀ {m : Modifier} {acc e : Evaluation},
    m.applyIf allowed answers acc = some e → m.apply answers acc = e
  | .mk value operator condition children, acc, e, h => by
    rw [Modifier.applyIf] at h
    rw [Modifier.apply]
    split at h
    · next hholds =>
      obtain ⟨own, hown, h⟩ := Option.bind_eq_some_iff.1 h
      rw [if_pos hholds, Modifier.eq_of_applyAllIf hown]
      split at h <;> cases h
      rfl
    · next hholds =>
      rw [if_neg hholds]
      exact Option.some.inj h

theorem Modifier.eq_of_applyAllIf : ∀ {ms : List Modifier} {acc e : Evaluation},
    Modifier.applyAllIf allowed answers ms acc = some e → Modifier.applyAll answers ms acc = e
  | [], acc, e, h => by
    rw [Modifier.applyAllIf] at h
    rw [Modifier.applyAll]
    exact Option.some.inj h
  | m :: ms, acc, e, h => by
    rw [Modifier.applyAllIf] at h
    obtain ⟨e₁, hm, hms⟩ := Option.bind_eq_some_iff.1 h
    rw [Modifier.applyAll, Modifier.eq_of_applyIf hm, Modifier.eq_of_applyAllIf hms]

end

/-- An evaluation that does not give up is the evaluation. -/
theorem Calculator.eq_of_evaluateIf {c : Calculator} {e : Evaluation}
    (h : c.evaluateIf allowed answers = some e) : c.evaluate answers = e :=
  Modifier.eq_of_applyAllIf h

/-! ## 3. What was checked when it was made -/

/-- The modifier was made part by part, with operators that are given. -/
inductive Modifier.Made (given : Operator → Prop) : Modifier → Prop
  | make {value : Value} {operator : Operator} {condition : Condition} {children : List Modifier}
    {m : Modifier} (hoperator : given operator) (hchildren : ∀ child ∈ children, Made given child)
    (h : Modifier.make value operator condition children = .ok m) : Made given m

/-- The calculator was made of modifiers that were. -/
inductive Calculator.Made (given : Operator → Prop) : Calculator → Prop
  | make {base : Value} {modifiers : List Modifier} {c : Calculator}
    (hmodifiers : ∀ m ∈ modifiers, m.Made given)
    (h : Calculator.make base modifiers = .ok c) : Made given c

/-- The calculator or the modifiers of an override were made. -/
def FlagOverride.Made (given : Operator → Prop) : FlagOverride → Prop
  | .replace calculator => calculator.Made given
  | .append modifiers | .prepend modifiers => ∀ m ∈ modifiers, m.Made given

/-- **A calculator of a type**: it starts with a value of the type, and all its modifiers were made
for values of the type. -/
structure Calculator.Computes (given : Operator → Prop) (type : FlagType) (c : Calculator) :
    Prop where
  base : c.type = type
  made : ∀ m ∈ c.modifiers, m.Made given
  modifiers : ∀ m ∈ c.modifiers, m.type = type

variable {given : Operator → Prop} {type : FlagType}

theorem Modifier.make_eq_ok_iff {value : Value} {operator : Operator} {condition : Condition}
    {children : List Modifier} {m : Modifier} :
    Modifier.make value operator condition children = .ok m ↔ operator.accepts value.type = true ∧
      (∀ child ∈ children, child.type = value.type) ∧
      .mk value operator condition children = m := by
  rw [← Modifier.expectAll_eq_ok_iff, Modifier.make]
  cases operator.accepts value.type <;> cases Modifier.expectAll value.type children <;>
    simp [bind, Except.bind, pure, Except.pure, throw, throwThe, MonadExceptOf.throw]

theorem Calculator.make_eq_ok_iff {base : Value} {modifiers : List Modifier} {c : Calculator} :
    Calculator.make base modifiers = .ok c ↔
      (∀ m ∈ modifiers, m.type = base.type) ∧ ⟨base, modifiers⟩ = c := by
  rw [← Modifier.expectAll_eq_ok_iff, Calculator.make]
  cases Modifier.expectAll base.type modifiers <;> simp [bind, Except.bind, pure, Except.pure]

theorem Calculator.Made.computes {c : Calculator} (h : c.Made given) : c.Computes given c.type := by
  cases h with
  | make hmodifiers h =>
    obtain ⟨htypes, rfl⟩ := Calculator.make_eq_ok_iff.1 h
    exact ⟨rfl, hmodifiers, htypes⟩

/-- **A changed calculator keeps its type**, if the override fits it. -/
theorem FlagOverride.computes_apply {change : FlagOverride} {c : Calculator}
    (hmade : change.Made given) (hsuits : change.Suits type) (hc : c.Computes given type) :
    (change.apply c).Computes given type := by
  cases change with
  | replace calculator =>
    have htype : calculator.type = type := hsuits
    exact htype ▸ hmade.computes
  | append modifiers =>
    exact ⟨hc.base, List.forall_mem_append.2 ⟨hc.made, hmade⟩,
      List.forall_mem_append.2 ⟨hc.modifiers, hsuits⟩⟩
  | prepend modifiers =>
    exact ⟨hc.base, List.forall_mem_append.2 ⟨hmade, hc.made⟩,
      List.forall_mem_append.2 ⟨hsuits, hc.modifiers⟩⟩

/-! ## 4. Evaluations do not give up -/

/-- Where each modifier keeps to a type and does not give up, all of them do. -/
theorem Modifier.applyAllIf_of_each : ∀ {ms : List Modifier},
    (∀ m ∈ ms, ∀ acc : Evaluation, acc.value.type = type →
      m.applyIf allowed answers acc = some (m.apply answers acc) ∧
        (m.apply answers acc).value.type = type) →
    ∀ acc : Evaluation, acc.value.type = type →
      Modifier.applyAllIf allowed answers ms acc = some (Modifier.applyAll answers ms acc) ∧
        (Modifier.applyAll answers ms acc).value.type = type
  | [], _, acc, hacc => by
    rw [Modifier.applyAllIf, Modifier.applyAll]
    exact ⟨rfl, hacc⟩
  | m :: ms, h, acc, hacc => by
    obtain ⟨hm, hms⟩ := List.forall_mem_cons.1 h
    obtain ⟨happly, htype⟩ := hm acc hacc
    rw [Modifier.applyAllIf, Modifier.applyAll, happly, Option.bind_some]
    exact Modifier.applyAllIf_of_each hms _ htype

/-- **The step.**  A modifier that was made keeps to its type, and its operators only meet values
that fit them. -/
theorem Modifier.Made.applyIf
    (hallowed : ∀ op current next, given op → op.fits current next = true →
      allowed op current next = true) {m : Modifier} (hm : m.Made given) :
    ∀ acc : Evaluation, acc.value.type = m.type →
      m.applyIf allowed answers acc = some (m.apply answers acc) ∧
        (m.apply answers acc).value.type = m.type := by
  induction hm with
  | @make value operator condition children m hoperator hchildren hmake ih =>
    obtain ⟨haccepts, htypes, rfl⟩ := Modifier.make_eq_ok_iff.1 hmake
    intro acc hacc
    have hown : Modifier.applyAllIf allowed answers children ⟨value, condition.level⟩ =
          some (Modifier.applyAll answers children ⟨value, condition.level⟩) ∧
        (Modifier.applyAll answers children ⟨value, condition.level⟩).value.type = value.type := by
      refine Modifier.applyAllIf_of_each (fun child hc acc hacc => ?_) ⟨value, condition.level⟩ rfl
      rw [← htypes child hc] at hacc ⊢
      exact ih child hc acc hacc
    rw [Modifier.applyIf, Modifier.apply]
    by_cases hholds : condition.holds answers = true
    · have hfits : operator.fits acc.value
          (Modifier.applyAll answers children ⟨value, condition.level⟩).value = true := by
        rw [Operator.fits, hown.2, Bool.and_eq_true, beq_iff_eq]
        exact ⟨hacc, haccepts⟩
      rw [if_pos hholds, if_pos hholds, hown.1, Option.bind_some,
        if_pos (hallowed _ _ _ hoperator hfits)]
      exact ⟨rfl, (Operator.type_apply ..).trans hown.2⟩
    · rw [if_neg hholds, if_neg hholds]
      exact ⟨rfl, hacc⟩

/-- **An evaluation keeps to its type**, and its operators only meet values that fit them. -/
theorem Calculator.Computes.evaluateIf
    (hallowed : ∀ op current next, given op → op.fits current next = true →
      allowed op current next = true) (answers : Answers) {c : Calculator}
    (hc : c.Computes given type) :
    c.evaluateIf allowed answers = some (c.evaluate answers) ∧
      (c.evaluate answers).value.type = type := by
  refine Modifier.applyAllIf_of_each (fun m hm acc hacc => ?_) ⟨c.base, .reload⟩ hc.base
  rw [← hc.modifiers m hm] at hacc ⊢
  exact (hc.made m hm).applyIf hallowed acc hacc

section

variable {c : Calculator} (hc : c.Computes given type)
include hc

theorem Calculator.Computes.type_evaluate (answers : Answers) :
    (c.evaluate answers).value.type = type := by
  have hfits : c.evaluateIf Operator.fits answers = some (c.evaluate answers) ∧
      (c.evaluate answers).value.type = type := hc.evaluateIf (fun _ _ _ _ hfits => hfits) answers
  exact hfits.2

/-- Where strings are not multiplied, operators only meet values that belong together. -/
theorem Calculator.Computes.evaluateIf_combines (hnone : ¬ given (.multiply .string))
    (answers : Answers) : c.evaluateIf Operator.combines answers = some (c.evaluate answers) := by
  refine (hc.evaluateIf (fun op current next hop hfits => ?_) answers).1
  exact Operator.combines_of_fits hfits fun heq => hnone (heq ▸ hop)

end

end Rollout
