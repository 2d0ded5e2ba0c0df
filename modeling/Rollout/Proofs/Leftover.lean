import Rollout.Proofs.Request
import Rollout.Proofs.Table
/-!
# Defaults that are left behind

A read by name is to give nothing where there is nothing to read: before diversion, and for a flag
without a calculator.  But reads by handle and reads by name share what is remembered, and a read by
handle of a flag without a calculator remembers the default that it gives.  A read by name then
finds that default.

This module says after which runs of diversions and reads that happens (`Request.Defaulted`): after
those in which the flag was read by handle since the request has the settings that it has now.  A
diversion that changes the settings lets the default go, and settings that were changed never come
back, because each change lays something on top of them (`Request.depth_lt_of_handle`).
-/

namespace Rollout

namespace Request

/-! ## 1. Runs -/

/-- What the code that has a request does with it. -/
inductive Act where
  | handle (snapshot : Snapshot) (host : Host) (draws : Draws)
  | get (host : Host) (flag : Flag)
  | value (host : Host) (name : String)

/-- The request after an act.  A diversion that fails leaves it as it was. -/
def after (r : Request) : Act → Request
  | .handle snapshot host draws =>
    match (snapshot.handle host draws r).result with
    | .ok r' => r'
    | .error _ => r
  | .get host flag => (r.get host flag).request
  | .value host name => (r.value host name).request

/-- The request after acts, one after the other. -/
def run (r : Request) : List Act → Request
  | [] => r
  | act :: later => (r.after act).run later

theorem run_append (r : Request) : ∀ before later : List Act,
    r.run (before ++ later) = (r.run before).run later
  | [], _ => rfl
  | act :: before, later => run_append (r.after act) before later

/-- At the end of the run, the request has been diverted, and a flag of this name and this default
was read by handle while it had the settings that it has then. -/
def Defaulted (r : Request) (acts : List Act) (name : String) (v : Value) : Prop :=
  (r.run acts).isDiverted = true ∧ ∃ before host later,
    acts = before ++ .get host ⟨name, v⟩ :: later ∧
    (r.run before).settings = (r.run acts).settings

variable {r : Request} {host : Host} {flag : Flag} {name : String} {v : Value}

/-! ## 2. Settings never come back -/

/-- How much was laid on top of what a request had at first. -/
def depth (r : Request) : Nat := (r.settings.map fun s => s.layers.length + 1).getD 0

theorem depth_congr {r' : Request} (h : r'.settings = r.settings) : r'.depth = r.depth := by
  rw [depth, depth, h]

/-- What is recorded for a request leaves it its settings and what it remembers, or lays something
on top and lets what it remembers go. -/
theorem record_cases (r : Request) (base : Settings) (d : Diversion) :
    ((r.record base d).settings = r.settings ∧ (r.record base d).cache = r.cache) ∨
      r.depth < (r.record base d).depth ∧ (r.record base d).cache = .empty := by
  unfold record
  dsimp only
  split
  · exact .inl ⟨rfl, rfl⟩
  · next hchanged =>
    refine .inr ⟨?_, rfl⟩
    simp only [depth, settingsAfter, Option.map_some, Option.getD_some, List.length_append]
    cases hsettings : r.settings with
    | none => simp
    | some s =>
      rw [isDiverted, hsettings, Option.isSome_some, Bool.true_and, List.isEmpty_iff] at hchanged
      have hpos := List.length_pos_iff.2 hchanged
      simp only [Option.map_some, Option.getD_some]
      omega

theorem depth_lt_of_handle (snapshot : Snapshot) (host : Host) (draws : Draws) (r : Request) :
    ((r.after (.handle snapshot host draws)).settings = r.settings ∧
        (r.after (.handle snapshot host draws)).cache = r.cache) ∨
      r.depth < (r.after (.handle snapshot host draws)).depth ∧
        (r.after (.handle snapshot host draws)).cache = .empty := by
  rw [after, Snapshot.handle]
  cases snapshot.divert host draws r.context r.ids with
  | error e => exact .inl ⟨rfl, rfl⟩
  | ok d => exact record_cases r _ d

theorem depth_le_after (r : Request) : ∀ act : Act, r.depth ≤ (r.after act).depth
  | .handle snapshot host draws => by
    rcases depth_lt_of_handle snapshot host draws r with ⟨hsame, -⟩ | ⟨hdeeper, -⟩
    · exact Nat.le_of_eq (depth_congr hsame).symm
    · exact Nat.le_of_lt hdeeper
  | .get host flag => Nat.le_of_eq (depth_congr (settings_get r host flag)).symm
  | .value host name => Nat.le_of_eq (depth_congr (settings_value r host name)).symm

theorem depth_le_run : ∀ (acts : List Act) (r : Request), r.depth ≤ (r.run acts).depth
  | [], _ => Nat.le_refl _
  | act :: later, r => Nat.le_trans (depth_le_after r act) (depth_le_run later (r.after act))

/-- **Settings never come back.**  A run that ends with the settings that it started with has them
after its first act, and keeps what was remembered. -/
theorem settings_after_of_run {act : Act} {later : List Act}
    (h : (r.run (act :: later)).settings = r.settings) : (r.after act).settings = r.settings := by
  have hle : (r.after act).depth ≤ r.depth :=
    Nat.le_trans (depth_le_run later _) (Nat.le_of_eq (depth_congr h))
  cases act with
  | handle snapshot host draws =>
    rcases depth_lt_of_handle snapshot host draws r with ⟨hsame, -⟩ | ⟨hdeeper, -⟩
    · exact hsame
    · exact absurd hle (Nat.not_le.2 hdeeper)
  | get host flag => exact settings_get ..
  | value host name => exact settings_value ..

/-! ## 3. What stays behind -/

theorem contains_cache_remember {e : Evaluation} {other : String}
    (h : r.cache.contains name = true) : (r.remember other e).cache.contains name = true := by
  unfold remember
  split
  · exact h
  all_goals exact Table.contains_insert_iff.2 (.inr h)

/-- An act that leaves the settings lets nothing go. -/
theorem contains_cache_after {act : Act} (hsettings : (r.after act).settings = r.settings)
    (h : r.cache.contains name = true) : (r.after act).cache.contains name = true := by
  cases act with
  | handle snapshot host draws =>
    rcases depth_lt_of_handle snapshot host draws r with ⟨-, hcache⟩ | ⟨hdeeper, -⟩
    · rw [hcache]
      exact h
    · exact absurd (Nat.le_of_eq (depth_congr hsettings)) (Nat.not_le.2 hdeeper)
  | get host flag =>
    rw [after]
    unfold get
    split
    · exact h
    · exact h
    · split
      · exact contains_cache_remember h
      · dsimp only
        split
        · exact contains_cache_remember h
        · exact h
  | value host name =>
    rw [after]
    unfold value
    split
    · exact h
    · split
      · exact h
      · exact contains_cache_remember h

/-- What is remembered stays as long as the settings do. -/
theorem contains_cache_run : ∀ {acts : List Act} {r : Request},
    (r.run acts).settings = r.settings → r.cache.contains name = true →
      (r.run acts).cache.contains name = true
  | [], _, _, h => h
  | act :: later, r, hsettings, h => by
    have hafter : (r.after act).settings = r.settings := settings_after_of_run hsettings
    have hlater : ((r.after act).run later).settings = (r.after act).settings :=
      hsettings.trans hafter.symm
    rw [run]
    exact contains_cache_run hlater (contains_cache_after hafter h)

/-- A read by handle of a flag without a calculator leaves something behind. -/
theorem contains_cache_get_of_undefined (hdiverted : r.isDiverted = true)
    (hnone : r.calculator? flag.name = none) :
    (r.get host flag).request.cache.contains flag.name = true := by
  obtain ⟨settings, hsettings⟩ := Option.isSome_iff_exists.1 hdiverted
  rw [calculator?, hsettings, Option.bind_some] at hnone
  unfold get
  cases hcached : r.cached? flag with
  | some v =>
    obtain ⟨hv, -⟩ := Option.filter_eq_some_iff.1 hcached
    exact Table.contains_iff.2 ⟨v, hv⟩
  | none =>
    simp only [hsettings, hnone]
    exact Table.contains_insert_iff.2 (.inl rfl)

/-- Before diversion a read by handle leaves nothing behind. -/
theorem request_get_of_undiverted (h : r.isDiverted = false) : (r.get host flag).request = r := by
  have hsettings : r.settings = none := by simpa [isDiverted] using h
  unfold get
  rw [hsettings]
  cases r.cached? flag <;> rfl

/-- A run that leaves a default behind leaves it behind after one more act at its start. -/
theorem Defaulted.cons {act : Act} {later : List Act} (h : (r.after act).Defaulted later name v) :
    r.Defaulted (act :: later) name v := by
  obtain ⟨hdiverted, before, host, rest, rfl, hsettings⟩ := h
  exact ⟨hdiverted, act :: before, host, rest, rfl, hsettings⟩

/-- **Where it comes from.**  What is remembered of a flag without a calculator was remembered at
the start of the run already, under the same settings, or it is a default that was left behind. -/
theorem origin_of_cache : ∀ {acts : List Act} {r : Request},
    (r.run acts).calculator? name = none → (r.run acts).cache.get? name = some v →
      ((r.run acts).settings = r.settings ∧ r.cache.get? name = some v) ∨ r.Defaulted acts name v
  | [], _, _, h => .inl ⟨rfl, h⟩
  | act :: later, r, hnone, h => by
    rcases origin_of_cache (r := r.after act) hnone h with ⟨hsettings, hcache⟩ | hleft
    case inr => exact .inr hleft.cons
    -- it was remembered after the first act: what did that act do?
    have hcomputed : ∀ {host : Host}, (r.after act).settings = r.settings →
        ¬ r.Keeps host name v := by
      rintro host hkept ⟨c, hc, -⟩
      have hnone' : ((r.after act).run later).calculator? name = none := hnone
      rw [calculator?, hsettings, hkept] at hnone'
      rw [calculator?, hnone'] at hc
      cases hc
    cases act with
    | handle snapshot host draws =>
      rcases depth_lt_of_handle snapshot host draws r with ⟨hkept, hold⟩ | ⟨-, hempty⟩
      · exact .inl ⟨hsettings.trans hkept, hold ▸ hcache⟩
      · rw [hempty] at hcache
        cases hcache
    | get host flag =>
      have hkept := settings_get r host flag
      cases hdiverted : r.isDiverted with
      | false =>
        rw [after, request_get_of_undiverted hdiverted] at hcache
        exact .inl ⟨hsettings.trans hkept, hcache⟩
      | true =>
        rcases cache_get hcache with hold | ⟨rfl, hkeep | ⟨-, rfl⟩⟩
        · exact .inl ⟨hsettings.trans hkept, hold⟩
        · exact absurd hkeep (hcomputed hkept)
        · have hsame := hsettings.trans hkept
          refine .inr ⟨?_, [], host, later, rfl, hsame.symm⟩
          rw [isDiverted] at hdiverted ⊢
          rw [← hdiverted]
          exact congrArg Option.isSome hsame
    | value host other =>
      have hkept := settings_value r host other
      rcases cache_value hcache with hold | ⟨rfl, hkeep⟩
      · exact .inl ⟨hsettings.trans hkept, hold⟩
      · exact absurd hkeep (hcomputed hkept)

/-- Where a flag without a calculator was read by handle, something is remembered. -/
theorem Defaulted.contains_cache {acts : List Act} (h : r.Defaulted acts name v)
    (hnone : (r.run acts).calculator? name = none) : (r.run acts).cache.contains name = true := by
  obtain ⟨hdiverted, before, host, later, rfl, hsettings⟩ := h
  have hread : ((r.run before).after (.get host ⟨name, v⟩)).cache.contains name = true := by
    have hdiverted' : (r.run before).isDiverted = true := by
      rw [isDiverted, hsettings]
      exact hdiverted
    have hnone' : (r.run before).calculator? name = none := by
      rw [calculator?, hsettings]
      exact hnone
    exact contains_cache_get_of_undefined hdiverted' hnone'
  rw [run_append, run] at hsettings ⊢
  exact contains_cache_run (hsettings.symm.trans (settings_get ..).symm) hread

/-! ## 4. Reads by name -/

theorem result_value_eq_none_iff : (r.value host name).result = none ↔
    r.cache.get? name = none ∧ r.calculator? name = none := by
  unfold value
  cases r.cache.get? name with
  | some v => simp
  | none => cases r.calculator? name <;> simp

/-- **What a read by name gives.**  After any diversions and reads, it gives nothing exactly if the
request has not been diverted or the flag has no calculator, and no default of the flag was left
behind.  Where the flag has no calculator, such a default is all that it can give. -/
theorem value_eq_none_iff (context : Context) (acts : List Act) (host : Host)
    (name : String) :
    ((((start context).run acts).value host name).result = none ↔
      (((start context).run acts).isDiverted = false ∨
          ((start context).run acts).calculator? name = none) ∧
        ∀ v, ¬ (start context).Defaulted acts name v) ∧
    (((start context).run acts).calculator? name = none →
      ∀ v, (((start context).run acts).value host name).result = some v →
        (start context).Defaulted acts name v) := by
  have hleft : ∀ {v}, ((start context).run acts).calculator? name = none →
      ((start context).run acts).cache.get? name = some v →
        (start context).Defaulted acts name v := by
    intro v hnone hcache
    rcases origin_of_cache hnone hcache with ⟨-, hstart⟩ | hleft
    · cases hstart
    · exact hleft
  have hundefined : ((start context).run acts).isDiverted = false ∨
      ((start context).run acts).calculator? name = none ↔
        ((start context).run acts).calculator? name = none := by
    refine or_iff_right_of_imp fun h => ?_
    rw [calculator?, Option.not_isSome_iff_eq_none.1 (Bool.eq_false_iff.1 h), Option.bind_none]
  rw [result_value_eq_none_iff, hundefined]
  refine ⟨?_, fun hnone v hv => ?_⟩
  · constructor
    · rintro ⟨hcache, hnone⟩
      refine ⟨hnone, fun v hv => ?_⟩
      obtain ⟨w, hw⟩ := Table.contains_iff.1 (hv.contains_cache hnone)
      rw [hcache] at hw
      cases hw
    · rintro ⟨hnone, hall⟩
      exact ⟨Option.eq_none_iff_forall_ne_some.2 fun v hcache => hall v (hleft hnone hcache), hnone⟩
  · cases hcache : ((start context).run acts).cache.get? name with
    | some w =>
      rw [value, hcache] at hv
      obtain rfl := Option.some.inj hv
      exact hleft hnone hcache
    | none =>
      rw [result_value hcache, hnone] at hv
      cases hv

/-- A request comes through a space that defines no flags, and a flag is read by handle. -/
def readByHandle : List Act :=
  [.handle (.of (.empty "v")) (fun _ _ => false) (fun _ _ _ => 0),
    .get (fun _ _ => false) ⟨"bar", .string "zzz"⟩]

/-- The flag has no calculator, and all the same a read by name gives something. -/
theorem value_isSome_of_undefined : ((start (.at 0)).run readByHandle).isDiverted = true ∧
    ((start (.at 0)).run readByHandle).calculator? "bar" = none ∧
    (((start (.at 0)).run readByHandle).value (fun _ _ => false) "bar").result =
      some (.string "zzz") :=
  ⟨rfl, rfl, rfl⟩

end Request

end Rollout
