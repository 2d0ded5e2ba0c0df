/-!
# Cache levels

How long a computed answer stays good.  The levels form a chain, and `meet` takes the less stable
of two: `reload` is its unit and `none` absorbs everything.
-/

namespace Rollout

/-- How long a computed answer stays good. -/
inductive CacheLevel where
  /-- It has to be computed at every read. -/
  | none
  /-- It is good as long as the request. -/
  | request
  /-- It is good until the configuration is loaded again. -/
  | reload
deriving Repr, DecidableEq

namespace CacheLevel

/-- The place of a level in the chain, the least stable first. -/
def rank : CacheLevel → Nat
  | .none => 0
  | .request => 1
  | .reload => 2

/-- The less stable of two levels. -/
def meet : CacheLevel → CacheLevel → CacheLevel
  | .none, _ | _, .none => .none
  | .request, _ | _, .request => .request
  | .reload, .reload => .reload

@[simp] theorem rank_meet (a b : CacheLevel) : (a.meet b).rank = min a.rank b.rank := by
  cases a <;> cases b <;> rfl

theorem rank_inj {a b : CacheLevel} : a.rank = b.rank ↔ a = b := by
  cases a <;> cases b <;> simp [rank]

theorem meet_comm (a b : CacheLevel) : a.meet b = b.meet a := by
  rw [← rank_inj, rank_meet, rank_meet, Nat.min_comm]

theorem meet_assoc (a b c : CacheLevel) : (a.meet b).meet c = a.meet (b.meet c) := by
  simp only [← rank_inj, rank_meet, Nat.min_assoc]

@[simp] theorem reload_meet (a : CacheLevel) : reload.meet a = a := by cases a <;> rfl

@[simp] theorem meet_reload (a : CacheLevel) : a.meet reload = a := by cases a <;> rfl

/-- The least stable of a list of levels. -/
def meetAll (levels : List CacheLevel) : CacheLevel := levels.foldl meet .reload

end CacheLevel

end Rollout
