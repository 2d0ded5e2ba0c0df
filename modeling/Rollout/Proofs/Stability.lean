import Mathlib.Order.Lattice
import Rollout.Calculator
/-!
# How long an evaluation stays good

The cache level of an evaluation bounds what the evaluation depends on.  An evaluation does not look
at every leaf: `all` and `any` stop early, and the children of a modifier whose condition fails are
passed over.  So the level of the result need not cover the leaves that were passed over, and other
answers might make the evaluation look at these.

They cannot, as long as the level is good: whatever decides which way the evaluation goes is a
condition, and the level of each condition that was asked went into the result.  Hence answers that
agree on all leaves which are at least as stable as the result give the same result, and they give
it by looking at the same leaves (`Modifier.applyAll_congr`).
-/

namespace Rollout

/-! ## 1. Conditions -/

namespace Condition

variable {answers answers' : Answers}

mutual

/-- A condition is no more stable than any of its leaves. -/
theorem rank_level_le : ∀ (c : Condition) {l : Leaf}, l ∈ c.leaves → c.level.rank ≤ l.level.rank
  | .leaf k, l, h => by
    rw [leaves, List.mem_singleton] at h
    exact h ▸ le_rfl
  | .all members, _, h => rank_commonLevel_le members h
  | .any members, _, h => rank_commonLevel_le members h
  | .not member, _, h => rank_level_le member h

theorem rank_commonLevel_le : ∀ (cs : List Condition) {l : Leaf}, l ∈ leavesOf cs →
    (commonLevel cs).rank ≤ l.level.rank
  | [], _, h => by cases h
  | c :: cs, l, h => by
    rw [commonLevel, CacheLevel.rank_meet]
    rw [leavesOf, List.mem_append] at h
    rcases h with h | h
    · exact (Nat.min_le_left _ _).trans (rank_level_le c h)
    · exact (Nat.min_le_right _ _).trans (rank_commonLevel_le cs h)

end

mutual

/-- A condition depends on its leaves only. -/
theorem holds_congr : ∀ (c : Condition), (∀ l ∈ c.leaves, answers' l = answers l) →
    c.holds answers' = c.holds answers
  | .leaf l, h => h l (List.mem_singleton.2 rfl)
  | .all members, h => allHold_congr members h
  | .any members, h => anyHolds_congr members h
  | .not member, h => congrArg (!·) (holds_congr member h)

theorem allHold_congr : ∀ (cs : List Condition), (∀ l ∈ leavesOf cs, answers' l = answers l) →
    allHold answers' cs = allHold answers cs
  | [], _ => rfl
  | c :: cs, h => by
    rw [allHold, allHold, holds_congr c fun l hl => h l (List.mem_append_left _ hl),
      allHold_congr cs fun l hl => h l (List.mem_append_right _ hl)]

theorem anyHolds_congr : ∀ (cs : List Condition), (∀ l ∈ leavesOf cs, answers' l = answers l) →
    anyHolds answers' cs = anyHolds answers cs
  | [], _ => rfl
  | c :: cs, h => by
    rw [anyHolds, anyHolds, holds_congr c fun l hl => h l (List.mem_append_left _ hl),
      anyHolds_congr cs fun l hl => h l (List.mem_append_right _ hl)]

end

mutual

/-- Which leaves of a condition are looked at depends on its leaves only. -/
theorem asked_congr : ∀ (c : Condition), (∀ l ∈ c.leaves, answers' l = answers l) →
    c.asked answers' = c.asked answers
  | .leaf _, _ => rfl
  | .all members, h => askedUntil_congr false members h
  | .any members, h => askedUntil_congr true members h
  | .not member, h => asked_congr member h

theorem askedUntil_congr (stop : Bool) : ∀ (cs : List Condition),
    (∀ l ∈ leavesOf cs, answers' l = answers l) →
    askedUntil answers' stop cs = askedUntil answers stop cs
  | [], _ => rfl
  | c :: cs, h => by
    have hfirst := fun l hl => h l (List.mem_append_left _ hl)
    have hrest := fun l hl => h l (List.mem_append_right _ hl)
    rw [askedUntil, askedUntil, asked_congr c hfirst, holds_congr c hfirst,
      askedUntil_congr stop cs hrest]

end

/-- A condition that is stable enough depends on leaves only that are. -/
theorem holds_congr_of_level {c : Condition} {L : CacheLevel} (hlevel : L.rank ≤ c.level.rank)
    (h : ∀ l ∈ c.leaves, L.rank ≤ l.level.rank → answers' l = answers l) :
    c.holds answers' = c.holds answers :=
  c.holds_congr fun l hl => h l hl (hlevel.trans (c.rank_level_le hl))

theorem asked_congr_of_level {c : Condition} {L : CacheLevel} (hlevel : L.rank ≤ c.level.rank)
    (h : ∀ l ∈ c.leaves, L.rank ≤ l.level.rank → answers' l = answers l) :
    c.asked answers' = c.asked answers :=
  c.asked_congr fun l hl => h l hl (hlevel.trans (c.rank_level_le hl))

end Condition

/-! ## 2. Modifiers -/

namespace Modifier

mutual

/-- All leaves of a modifier: of its condition and of its children. -/
def leaves : Modifier → List Leaf
  | .mk _ _ condition children => condition.leaves ++ leavesOf children

/-- All leaves of modifiers. -/
def leavesOf : List Modifier → List Leaf
  | [] => []
  | m :: ms => m.leaves ++ leavesOf ms

end

variable {answers answers' : Answers}

/-- Whether it applies or not, a modifier leaves an evaluation no more stable than it was. -/
theorem rank_apply_le (answers : Answers) (m : Modifier) (acc : Evaluation) :
    (m.apply answers acc).level.rank ≤ acc.level.rank := by
  obtain ⟨value, operator, condition, children⟩ := m
  rw [apply]
  split
  · exact (CacheLevel.rank_meet _ _).trans_le (Nat.min_le_left _ _)
  · exact (CacheLevel.rank_meet _ _).trans_le (Nat.min_le_left _ _)

theorem rank_applyAll_le (answers : Answers) : ∀ (ms : List Modifier) (acc : Evaluation),
    (applyAll answers ms acc).level.rank ≤ acc.level.rank
  | [], _ => le_rfl
  | m :: ms, acc => (rank_applyAll_le answers ms _).trans (rank_apply_le answers m acc)

/-- What a modifier leaves behind covers its condition and, where it applies, what its children make
of its own value. -/
theorem covered_of_apply {L : CacheLevel} {value : Value} {operator : Operator}
    {condition : Condition} {children : List Modifier} {acc : Evaluation}
    (h : L.rank ≤ ((Modifier.mk value operator condition children).apply answers acc).level.rank) :
    L.rank ≤ condition.level.rank ∧ (condition.holds answers →
      L.rank ≤ (applyAll answers children ⟨value, condition.level⟩).level.rank) := by
  rw [apply] at h
  split at h
  · dsimp only at h
    rw [CacheLevel.rank_meet] at h
    have hown := h.trans (Nat.min_le_right _ _)
    exact ⟨hown.trans (rank_applyAll_le answers children _), fun _ => hown⟩
  · next hfails =>
    rw [Evaluation.limit, CacheLevel.rank_meet] at h
    exact ⟨h.trans (Nat.min_le_right _ _), fun hholds => absurd hholds hfails⟩

mutual

/-- One modifier: the level of the result covers its condition, so that it applies under both
answers or under none. -/
theorem apply_congr {L : CacheLevel} : ∀ {m : Modifier} {acc : Evaluation},
    (∀ l ∈ m.leaves, L.rank ≤ l.level.rank → answers' l = answers l) →
    L.rank ≤ (m.apply answers acc).level.rank →
    m.apply answers' acc = m.apply answers acc ∧ m.asked answers' = m.asked answers
  | .mk value operator condition children, acc, h, hlevel => by
    obtain ⟨hlimit, hown⟩ := covered_of_apply hlevel
    have hcondition := fun l hl => h l (List.mem_append_left _ hl)
    have hchildren := fun l hl => h l (List.mem_append_right _ hl)
    rw [apply, apply, asked, asked, Condition.holds_congr_of_level hlimit hcondition,
      Condition.asked_congr_of_level hlimit hcondition]
    split
    · next hholds =>
      obtain ⟨hvalue, hasked⟩ := applyAll_congr hchildren (hown hholds)
      rw [hvalue, hasked]
      exact ⟨rfl, rfl⟩
    · exact ⟨rfl, rfl⟩

/-- **The level bounds the dependence.**  Answers that agree on the leaves that are at least as
stable as the result give the same result, and look at the same leaves for it. -/
theorem applyAll_congr {L : CacheLevel} : ∀ {ms : List Modifier} {acc : Evaluation},
    (∀ l ∈ leavesOf ms, L.rank ≤ l.level.rank → answers' l = answers l) →
    L.rank ≤ (applyAll answers ms acc).level.rank →
    applyAll answers' ms acc = applyAll answers ms acc ∧ askedAll answers' ms = askedAll answers ms
  | [], _, _, _ => ⟨rfl, rfl⟩
  | m :: ms, acc, h, hlevel => by
    rw [applyAll] at hlevel
    have hlevelFirst := hlevel.trans (rank_applyAll_le answers ms _)
    obtain ⟨hfirst, haskedFirst⟩ :=
      apply_congr (fun l hl => h l (List.mem_append_left _ hl)) hlevelFirst
    obtain ⟨hrest, haskedRest⟩ :=
      applyAll_congr (fun l hl => h l (List.mem_append_right _ hl)) hlevel
    rw [applyAll, applyAll, askedAll, askedAll, hfirst, haskedFirst, hrest, haskedRest]
    exact ⟨rfl, rfl⟩

end

end Modifier

/-! ## 3. Calculators -/

namespace Calculator

/-- All leaves that an evaluation may look at. -/
def leaves (c : Calculator) : List Leaf := Modifier.leavesOf c.modifiers

/-- **Cache levels are sound.**  Let an evaluation be at least as stable as some level, and let
other answers agree on the leaves that are, whatever they say of the rest.  Then they give the same
value, as stable as before, and it is found by looking at the same leaves in the same order. -/
theorem level_covers_dependence {c : Calculator} {L : CacheLevel} {answers answers' : Answers}
    (hagree : ∀ l ∈ c.leaves, L.rank ≤ l.level.rank → answers' l = answers l)
    (hlevel : L.rank ≤ (c.evaluate answers).level.rank) :
    (c.evaluate answers').value = (c.evaluate answers).value ∧
      (c.evaluate answers').level = (c.evaluate answers).level ∧
      c.asked answers' = c.asked answers := by
  obtain ⟨heval, hasked⟩ : c.evaluate answers' = c.evaluate answers ∧
      c.asked answers' = c.asked answers := Modifier.applyAll_congr hagree hlevel
  exact ⟨congrArg Evaluation.value heval, congrArg Evaluation.level heval, hasked⟩

/-- A calculator whose second modifier has a child that asks for the answer of the moment. -/
def sheltered : Calculator :=
  ⟨.int 1, [
    .mk (.int 2) (.add .int)
      (.any [.leaf (.supplied "w" .reload []), .leaf (.supplied "x" .request [])]) [],
    .mk (.int 3) (.multiply .int) (.not (.leaf (.supplied "y" .request [])))
      [.mk (.int 4) (.add .int) (.leaf (.supplied "z" .none [])) []]]⟩

/-- As long as the second modifier is passed over, what holds at the moment makes no difference;
once it applies, the evaluation is good for one read only. -/
theorem level_covers_dependence_sheltered :
    let asked (names : List String) : Answers :=
      Leaf.answer (.at 0) fun name _ => names.contains name
    (∀ l ∈ sheltered.leaves, CacheLevel.request.rank ≤ l.level.rank →
      asked ["w", "y", "z"] l = asked ["w", "y"] l) ∧
    (sheltered.evaluate (asked ["w", "y"])).level = .request ∧
    (sheltered.evaluate (asked ["w", "y", "z"])).value = .int 3 ∧
    (sheltered.evaluate (asked ["w", "z"])).level = .none := by
  intro asked
  have hagree : ∀ l ∈ sheltered.leaves, CacheLevel.request.rank ≤ l.level.rank →
      asked ["w", "y", "z"] l = asked ["w", "y"] l := by decide
  have hlevel : (sheltered.evaluate (asked ["w", "y"])).level = .request := by decide
  have hsame := level_covers_dependence hagree (by rw [hlevel])
  exact ⟨hagree, hlevel, hsame.1.trans rfl, by decide⟩

end Calculator

end Rollout
