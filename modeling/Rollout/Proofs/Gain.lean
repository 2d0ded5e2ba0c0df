import Rollout.Proofs.Visits
import Rollout.Serving
/-!
# What the visits of a request add up to

A diversion is a fold over the visits of the request.  This module reads the results of the fold off
the list of visits:

* it fails only if a visit is contested (`divert_isOk`);
* the ids it records are those of the visits (`mem_ids_divert`);
* a flag is overridden as the last visit says that has something to say of it
  (`get?_overrides_of_last`), and not at all if none has (`get?_overrides_of_idle`).

What the visit of an experiment in its window says of a flag is `Effect.calculator?`: the calculator
for the greatest launch experiment that the request is in and that the effect knows of, or else the
one for every request.
-/

namespace Rollout

/-! ## 1. What is said of a flag -/

/-- The calculator that an effect gives to a flag, for a request that is in these segments. -/
def Effect.calculator? (effect : Effect) (isIn : SegmentId → Bool) (flag : String) :
    Option Calculator :=
  (effect.launch.entries.reverse.findSome? fun entry =>
    if isIn entry.1 then entry.2.get? flag else none).or (effect.base.get? flag)

/-- Whether an effect has anything to say of a flag. -/
def Effect.names (effect : Effect) (flag : String) : Bool :=
  effect.base.contains flag || effect.launch.entries.any (·.2.contains flag)

theorem Effect.calculator?_of_not_names {effect : Effect} {flag : String}
    (h : effect.names flag = false) (isIn : SegmentId → Bool) :
    effect.calculator? isIn flag = none := by
  simp only [names, Bool.or_eq_false_iff, List.any_eq_false, Bool.not_eq_true] at h
  have hbase : effect.base.get? flag = none := Table.contains_eq_false_iff.1 h.1
  have hlaunch : (effect.launch.entries.reverse.findSome? fun entry =>
      if isIn entry.1 then entry.2.get? flag else none) = none := by
    refine List.findSome?_eq_none_iff.2 fun e he => ?_
    have hnone := Table.contains_eq_false_iff.1 (h.2 e (List.mem_reverse.1 he))
    rw [hnone, ite_self]
  rw [calculator?, hlaunch, hbase, Option.or_none]

/-- The entry of the greatest launch experiment that the request is in decides. -/
theorem Effect.calculator?_of_greatest {effect : Effect} {isIn : SegmentId → Bool} {flag : String}
    {launch : SegmentId} {made : Overrides} {calculator : Calculator}
    (hmade : effect.launch.get? launch = some made) (hcalc : made.get? flag = some calculator)
    (hin : isIn launch = true)
    (hgreatest : ∀ other made', effect.launch.get? other = some made' → isIn other = true →
      (made'.get? flag).isSome = true → other ≤ launch) :
    effect.calculator? isIn flag = some calculator := by
  have hlaunch : (effect.launch.entries.reverse.findSome? fun entry =>
      if isIn entry.1 then entry.2.get? flag else none) = some calculator := by
    refine Table.findSome?_reverse_eq_some_iff.2
      ⟨launch, by simp [hmade, hin, hcalc], fun other hlt => ?_⟩
    refine Option.bind_eq_none_iff.2 fun made' hmade' => ?_
    by_cases hother : isIn other = true
    · rw [if_pos hother]
      refine Option.not_isSome_iff_eq_none.1 fun hsome => ?_
      have hle := hgreatest other made' hmade' hother hsome
      exact absurd (Int32.lt_of_lt_of_le (Std.compare_eq_lt.1 hlt) hle) Int32.lt_irrefl
    · rw [if_neg hother]
  rw [calculator?, hlaunch, Option.some_or]

/-- If the request is in no launch experiment that the effect knows of, the base decides. -/
theorem Effect.calculator?_of_no_launch {effect : Effect} {isIn : SegmentId → Bool} {flag : String}
    (h : ∀ other made, effect.launch.get? other = some made → (made.get? flag).isSome = true →
      isIn other = false) : effect.calculator? isIn flag = effect.base.get? flag := by
  have hlaunch : (effect.launch.entries.reverse.findSome? fun entry =>
      if isIn entry.1 then entry.2.get? flag else none) = none := by
    refine List.findSome?_eq_none_iff.2 fun e he => ?_
    have hget := Table.get?_eq_some_iff.2 (List.mem_reverse.1 he)
    by_cases hin : isIn e.1 = true
    · rw [if_pos hin]
      refine Option.not_isSome_iff_eq_none.1 fun hsome => ?_
      rw [h e.1 e.2 hget hsome] at hin
      cases hin
    · rw [if_neg hin]
  rw [calculator?, hlaunch, Option.none_or]

/-- Effects that have the same calculators for every request, and the same ones for each launch
experiment that the requests are in, say the same. -/
theorem Effect.calculator?_congr {effect effect' : Effect} {isIn isIn' : SegmentId → Bool}
    {flag : String} (hbase : effect'.base.get? flag = effect.base.get? flag)
    (hlaunch : ∀ id c,
      isIn' id = true ∧ (effect'.launch.get? id).bind (·.get? flag) = some c ↔
        isIn id = true ∧ (effect.launch.get? id).bind (·.get? flag) = some c) :
    effect'.calculator? isIn' flag = effect.calculator? isIn flag := by
  rw [calculator?, calculator?, hbase, Table.findSome?_reverse_congr fun id => ?_]
  refine Option.ext fun c => ?_
  have hentry : ∀ (isIn : SegmentId → Bool) (made : Option Overrides),
      (made.bind fun made => if isIn id then made.get? flag else none) = some c ↔
        isIn id = true ∧ made.bind (·.get? flag) = some c := by
    intro isIn made
    cases isIn id <;> simp
  rw [hentry, hentry, hlaunch]

/-- What a visit says of a flag at a time, for a request that is in these segments. -/
def Visit.calculator? (time : Int64) (isIn : SegmentId → Bool) (flag : String) (v : Visit) :
    Option Calculator :=
  match v.outcome with
  | .experiment info effect =>
    if info.overridesWindow.contains time then effect.calculator? isIn flag else none
  | _ => none

namespace Gain

theorem get?_foldl_launch (isIn : SegmentId → Bool) (flag : String) :
    ∀ (entries : List (SegmentId × Overrides)) (overrides : Overrides),
    Table.get? (entries.foldl (fun (overrides : Overrides) entry =>
        if isIn entry.1 then overrides.overlay entry.2 else overrides) overrides) flag =
      (entries.reverse.findSome? fun entry =>
        if isIn entry.1 then entry.2.get? flag else .none).or (overrides.get? flag)
  | [], overrides => by simp
  | entry :: rest, overrides => by
    rw [List.foldl_cons, get?_foldl_launch isIn flag rest, List.reverse_cons, List.findSome?_append,
      Option.or_assoc]
    congr 1
    by_cases hin : isIn entry.1 = true <;> simp [hin]

/-- What an effect says of a flag comes over what was there. -/
theorem get?_applyEffect (isIn : SegmentId → Bool) (overrides : Overrides) (effect : Effect)
    (flag : String) : (applyEffect isIn overrides effect).get? flag =
      (effect.calculator? isIn flag).or (overrides.get? flag) := by
  rw [applyEffect, get?_foldl_launch, Table.get?_overlay, Effect.calculator?, Option.or_assoc]

/-! ## 2. One visit -/

/-- The ids that are recorded after a visit. -/
def idsAfter (ids : KeySet SegmentId) (v : Visit) : KeySet SegmentId :=
  match v.recorded? with
  | .none => ids
  | .some id => KeySet.add ids id

/-- The overrides after a visit that finds the ids recorded that it recorded itself. -/
def overridesAfter (scope : Scope) (ids : KeySet SegmentId) (overrides : Overrides) (v : Visit) :
    Overrides :=
  match v.outcome with
  | .experiment info effect =>
    if info.overridesWindow.contains scope.context.time then
      applyEffect (fun id => ids.contains id || scope.carried.contains id) overrides effect
    else overrides
  | _ => overrides

/-- A visit fails if it is contested, and otherwise gains what it says. -/
theorem visit_eq (scope : Scope) (gain : Gain) (v : Visit) (h : v.isContested = false) :
    gain.visit scope v = .ok ⟨idsAfter gain.ids v,
      overridesAfter scope (idsAfter gain.ids v) gain.overrides v, gain.asked ++ v.asked⟩ := by
  obtain ⟨layer, outcome, asked⟩ := v
  cases outcome with
  | carried => rfl
  | fallback id => rfl
  | domain info => rfl
  | contested bucket segments => cases h
  | experiment info effect =>
    simp only [visit, idsAfter, overridesAfter, Visit.recorded?]
    split <;> rfl

theorem not_isContested_of_visit {scope : Scope} {gain g : Gain} {v : Visit}
    (h : gain.visit scope v = .ok g) : v.isContested = false := by
  obtain ⟨layer, outcome, asked⟩ := v
  cases outcome with
  | contested bucket segments => cases h
  | _ => rfl

theorem contains_idsAfter {ids : KeySet SegmentId} {v : Visit} {id : SegmentId} :
    (idsAfter ids v).contains id = true ↔ ids.contains id = true ∨ v.recorded? = some id := by
  unfold idsAfter
  cases v.recorded? with
  | none => simp
  | some recorded =>
    rw [KeySet.contains_add_iff, Option.some.injEq, or_comm, eq_comm (a := id)]

/-- What a visit says of a flag comes over what was there. -/
theorem get?_overridesAfter (scope : Scope) (ids : KeySet SegmentId) (overrides : Overrides)
    (v : Visit) (flag : String) : (overridesAfter scope ids overrides v).get? flag =
      (v.calculator? scope.context.time (fun id => ids.contains id || scope.carried.contains id)
        flag).or (overrides.get? flag) := by
  obtain ⟨layer, outcome, asked⟩ := v
  cases outcome with
  | experiment info effect =>
    simp only [overridesAfter, Visit.calculator?]
    split
    · rw [get?_applyEffect]
    · rw [Option.none_or]
  | _ => rfl

/-- Whether a visit has something to say of a flag at a time. -/
def tells (time : Int64) (flag : String) (v : Visit) : Bool :=
  match v.outcome with
  | .experiment info effect => info.overridesWindow.contains time && effect.names flag
  | _ => false

theorem calculator?_of_not_tells {time : Int64} {flag : String} {v : Visit}
    (h : tells time flag v = false) (isIn : SegmentId → Bool) :
    v.calculator? time isIn flag = .none := by
  obtain ⟨layer, outcome, asked⟩ := v
  cases outcome with
  | experiment info effect =>
    refine ite_eq_right_iff.2 fun hopen => Effect.calculator?_of_not_names ?_ isIn
    simpa [tells, hopen] using h
  | _ => rfl

theorem get?_overridesAfter_of_not_tells {scope : Scope} {v : Visit} {flag : String}
    (h : tells scope.context.time flag v = false) (ids : KeySet SegmentId) (overrides : Overrides) :
    (overridesAfter scope ids overrides v).get? flag = overrides.get? flag := by
  rw [get?_overridesAfter, calculator?_of_not_tells h, Option.none_or]

/-! ## 3. All visits -/

theorem visitAll_cons (scope : Scope) (gain : Gain) (v : Visit) (visits : List Visit) :
    gain.visitAll scope (v :: visits) =
      gain.visit scope v >>= fun g => g.visitAll scope visits := by
  rw [visitAll, List.foldlM_cons]
  rfl

theorem visitAll_append (scope : Scope) (gain : Gain) (before after : List Visit) :
    gain.visitAll scope (before ++ after) =
      gain.visitAll scope before >>= fun g => g.visitAll scope after := by
  rw [visitAll, List.foldlM_append]
  rfl

/-- The first of several visits, of which none fails. -/
theorem visitAll_cons_ok {scope : Scope} {gain g : Gain} {v : Visit} {visits : List Visit}
    (h : gain.visitAll scope (v :: visits) = .ok g) : v.isContested = false ∧
      visitAll scope ⟨idsAfter gain.ids v,
        overridesAfter scope (idsAfter gain.ids v) gain.overrides v, gain.asked ++ v.asked⟩
        visits = .ok g := by
  rw [visitAll_cons] at h
  cases hv : gain.visit scope v with
  | error e => rw [hv] at h; cases h
  | ok g₁ =>
    have hc := not_isContested_of_visit hv
    rw [visit_eq scope gain v hc] at hv
    cases hv
    rw [visit_eq scope gain v hc] at h
    exact ⟨hc, h⟩

theorem visitAll_append_ok {scope : Scope} {gain g : Gain} {before after : List Visit}
    (h : gain.visitAll scope (before ++ after) = .ok g) :
    ∃ mid, gain.visitAll scope before = .ok mid ∧ mid.visitAll scope after = .ok g := by
  rw [visitAll_append] at h
  cases hm : gain.visitAll scope before with
  | error e => rw [hm] at h; cases h
  | ok mid => rw [hm] at h; exact ⟨mid, rfl, h⟩

theorem visitAll_isOk (scope : Scope) : ∀ (visits : List Visit) (gain : Gain),
    (∀ v ∈ visits, v.isContested = false) → ∃ g, gain.visitAll scope visits = .ok g
  | [], gain, _ => ⟨gain, rfl⟩
  | v :: visits, gain, h => by
    rw [visitAll_cons, visit_eq scope gain v (h v List.mem_cons_self)]
    exact visitAll_isOk scope visits _ fun w hw => h w (List.mem_cons_of_mem _ hw)

/-- What is recorded was recorded before or by one of the visits. -/
theorem contains_ids_visitAll {scope : Scope} {id : SegmentId} :
    ∀ {visits : List Visit} {gain g : Gain}, gain.visitAll scope visits = .ok g →
    (g.ids.contains id = true ↔
      gain.ids.contains id = true ∨ ∃ v ∈ visits, v.recorded? = some id)
  | [], gain, g, h => by
    cases h
    simp
  | v :: visits, gain, g, h => by
    rw [contains_ids_visitAll (visitAll_cons_ok h).2, contains_idsAfter]
    simp [or_assoc]

/-- Visits that have nothing to say of a flag leave it alone. -/
theorem get?_overrides_of_idle {scope : Scope} {flag : String} :
    ∀ {visits : List Visit} {gain g : Gain}, gain.visitAll scope visits = .ok g →
    (∀ v ∈ visits, tells scope.context.time flag v = false) →
    g.overrides.get? flag = gain.overrides.get? flag
  | [], gain, g, h, _ => by
    cases h
    rfl
  | v :: visits, gain, g, h, hidle => by
    rw [get?_overrides_of_idle (visitAll_cons_ok h).2 fun w hw =>
      hidle w (List.mem_cons_of_mem _ hw)]
    exact get?_overridesAfter_of_not_tells (hidle v List.mem_cons_self) _ _

/-- What holds of all that visits say of a flag holds of the calculator that they leave. -/
theorem forall_get?_overrides {scope : Scope} {flag : String} {P : Calculator → Prop} :
    ∀ {visits : List Visit} {gain g : Gain}, gain.visitAll scope visits = .ok g →
    (∀ v ∈ visits, ∀ isIn c, v.calculator? scope.context.time isIn flag = some c → P c) →
    (∀ c, gain.overrides.get? flag = some c → P c) → ∀ c, g.overrides.get? flag = some c → P c
  | [], gain, g, h, _, hgain, c, hc => by
    cases h
    exact hgain c hc
  | v :: visits, gain, g, h, hvisits, hgain, c, hc => by
    obtain ⟨hv, hrest⟩ := List.forall_mem_cons.1 hvisits
    refine forall_get?_overrides (visitAll_cons_ok h).2 hrest (fun c hc => ?_) c hc
    rw [get?_overridesAfter] at hc
    rcases Option.or_eq_some_iff.1 hc with hc | ⟨-, hc⟩
    · exact hv _ c hc
    · exact hgain c hc

/-- **The last word counts.**  The last visit that has something to say of a flag gives it its
calculator, for a request that is in the segments that are recorded by then. -/
theorem get?_overrides_of_last {scope : Scope} {flag : String} {before after : List Visit}
    {v : Visit} {info : SegmentInfo} {effect : Effect} {calculator : Calculator} {gain g : Gain}
    (h : gain.visitAll scope (before ++ v :: after) = .ok g)
    (hv : v.outcome = .experiment info effect)
    (hopen : info.overridesWindow.contains scope.context.time = true)
    (hlast : ∀ w ∈ after, tells scope.context.time flag w = false)
    (htells : ∀ isIn : SegmentId → Bool,
      (∀ id, isIn id = true ↔ (gain.ids.contains id = true ∨ ∃ w ∈ before, w.recorded? = some id) ∨
        info.id = id ∨ scope.carried.contains id = true) →
      effect.calculator? isIn flag = some calculator) :
    g.overrides.get? flag = some calculator := by
  obtain ⟨mid, hmid, hrest⟩ := visitAll_append_ok h
  rw [get?_overrides_of_idle (visitAll_cons_ok hrest).2 hlast]
  rw [get?_overridesAfter, Visit.calculator?, hv]
  simp only [hopen, if_true]
  rw [htells _ fun id => ?_, Option.some_or]
  rw [Bool.or_eq_true, contains_idsAfter, contains_ids_visitAll hmid, or_assoc]
  simp [Visit.recorded?, hv]

end Gain

/-! ## 4. A diversion -/

namespace Snapshot

variable {snapshot : Snapshot} {host : Host} {draws : Draws} {context : Context}
  {carried : KeySet SegmentId} {d : Diversion}

/-- What a visit gains does not depend on the numbers drawn on the way to it. -/
theorem visitAll_scope (root root' : SegmentId) (visits : List Visit) (gain : Gain) :
    gain.visitAll (snapshot.scope host draws context carried root) visits =
      gain.visitAll (snapshot.scope host draws context carried root') visits := by
  rfl

/-- Forced segments are one account, the way into each after that into the one before. -/
theorem foldlM_forcedVisits (root : SegmentId) : ∀ (forced : List SegmentId) (gain : Gain),
    forced.foldlM (fun gain id => gain.visitAll (snapshot.scope host draws context carried id)
      (snapshot.forcedVisits (snapshot.scope host draws context carried id) id)) gain =
    gain.visitAll (snapshot.scope host draws context carried root) (forced.flatMap fun id =>
      snapshot.forcedVisits (snapshot.scope host draws context carried id) id)
  | [], gain => rfl
  | id :: forced, gain => by
    rw [List.foldlM_cons, List.flatMap_cons, Gain.visitAll_append, visitAll_scope root id]
    congr 1
    funext g
    exact foldlM_forcedVisits root forced g

theorem divert_forced (h : context.forced.isEmpty = false) :
    snapshot.divert host draws context carried =
      (Gain.none.visitAll (snapshot.scope host draws context carried topDomain)
        (snapshot.visits host draws context carried)).map
          fun gain => ⟨gain.ids, passLayer gain.overrides, gain.asked⟩ := by
  simp only [divert, visits, h, Bool.false_eq_true, if_false, divertForced]
  rw [foldlM_forcedVisits topDomain]
  rfl

/-- The two passes of a request that is not forced: the second finds the ids of the first recorded,
and no overrides. -/
theorem divert_unforced (h : context.forced.isEmpty = true) :
    snapshot.divert host draws context carried =
      (Gain.none.visitAll (snapshot.scope host draws context carried topDomain)
        (snapshot.launchVisits host draws context carried)).bind fun launched =>
          (Gain.visitAll (snapshot.scope host draws context carried topDomain)
            { launched with overrides := .empty }
            (snapshot.permanentVisits host draws context carried)).map fun settled =>
              ⟨settled.ids, passLayer settled.overrides ++ passLayer launched.overrides,
                settled.asked⟩ := by
  simp only [divert, h, if_true]
  rfl

/-- **Diversion succeeds** where no visit is contested. -/
theorem divert_isOk (h : ∀ v ∈ snapshot.visits host draws context carried, v.isContested = false) :
    ∃ d, snapshot.divert host draws context carried = .ok d := by
  cases hf : context.forced.isEmpty with
  | false =>
    obtain ⟨g, hg⟩ := Gain.visitAll_isOk (snapshot.scope host draws context carried topDomain)
      (snapshot.visits host draws context carried) .none h
    exact ⟨_, by rw [divert_forced hf, hg]; rfl⟩
  | true =>
    simp only [visits, hf, if_true, List.mem_append] at h
    obtain ⟨launched, hl⟩ := Gain.visitAll_isOk
      (snapshot.scope host draws context carried topDomain) _ .none fun v hv => h v (.inl hv)
    obtain ⟨settled, hs⟩ := Gain.visitAll_isOk
      (snapshot.scope host draws context carried topDomain) _
      { launched with overrides := .empty } fun v hv => h v (.inr hv)
    exact ⟨_, by rw [divert_unforced hf, hl, Except.bind, hs]; rfl⟩

/-- What a request gains on its ways into the segments that it is forced into. -/
theorem gain_of_divert (hf : context.forced.isEmpty = false)
    (h : snapshot.divert host draws context carried = .ok d) :
    ∃ gain, Gain.none.visitAll (snapshot.scope host draws context carried topDomain)
        (snapshot.visits host draws context carried) = .ok gain ∧
      d = ⟨gain.ids, passLayer gain.overrides, gain.asked⟩ := by
  rw [divert_forced hf] at h
  cases hg : Gain.none.visitAll (snapshot.scope host draws context carried topDomain)
      (snapshot.visits host draws context carried) with
  | error e =>
    rw [hg] at h
    cases h
  | ok gain =>
    rw [hg] at h
    cases h
    exact ⟨gain, rfl, rfl⟩

/-- The two passes behind the diversion of a request that is not forced. -/
theorem passes_of_divert (hf : context.forced.isEmpty = true)
    (h : snapshot.divert host draws context carried = .ok d) :
    ∃ launched settled,
      Gain.none.visitAll (snapshot.scope host draws context carried topDomain)
        (snapshot.launchVisits host draws context carried) = .ok launched ∧
      Gain.visitAll (snapshot.scope host draws context carried topDomain)
        { launched with overrides := .empty }
        (snapshot.permanentVisits host draws context carried) = .ok settled ∧
      d = ⟨settled.ids, passLayer settled.overrides ++ passLayer launched.overrides,
        settled.asked⟩ := by
  rw [divert_unforced hf] at h
  cases hl : Gain.none.visitAll (snapshot.scope host draws context carried topDomain)
      (snapshot.launchVisits host draws context carried) with
  | error e =>
    rw [hl] at h
    cases h
  | ok launched =>
    rw [hl, Except.bind] at h
    cases hs : Gain.visitAll (snapshot.scope host draws context carried topDomain)
        { launched with overrides := .empty }
        (snapshot.permanentVisits host draws context carried) with
    | error e =>
      rw [hs] at h
      cases h
    | ok settled =>
      rw [hs] at h
      cases h
      exact ⟨launched, settled, rfl, hs, rfl⟩

/-- **What is recorded** by a diversion are the ids of its visits. -/
theorem mem_ids_divert (h : snapshot.divert host draws context carried = .ok d) {id : SegmentId} :
    d.ids.contains id = true ↔
      ∃ v ∈ snapshot.visits host draws context carried, v.recorded? = some id := by
  cases hf : context.forced.isEmpty with
  | false =>
    obtain ⟨gain, hg, rfl⟩ := gain_of_divert hf h
    rw [Gain.contains_ids_visitAll hg]
    simp [Gain.none]
  | true =>
    obtain ⟨launched, settled, hl, hs, rfl⟩ := passes_of_divert hf h
    rw [Gain.contains_ids_visitAll hs, Gain.contains_ids_visitAll hl]
    simp only [visits, hf, if_true, List.mem_append, or_and_right, exists_or]
    simp [Gain.none]

theorem get?_passLayer (overrides : Overrides) (layers : List Overrides) (flag : String) :
    (passLayer overrides ++ layers).findSome? (·.get? flag) =
      (overrides.get? flag).or (layers.findSome? (·.get? flag)) := by
  unfold passLayer
  split
  · next h => rw [Table.isEmpty_iff.1 h flag, Option.none_or, List.nil_append]
  · rw [List.findSome?_append, List.findSome?_cons, List.findSome?_nil]
    cases overrides.get? flag <;> rfl

/-- What holds of all that the visits say of a flag holds of the calculator that the diversion
brings. -/
theorem forall_get?_layers {flag : String} {P : Calculator → Prop}
    (h : snapshot.divert host draws context carried = .ok d)
    (hvisits : ∀ v ∈ snapshot.visits host draws context carried, ∀ isIn c,
      v.calculator? context.time isIn flag = some c → P c) :
    ∀ c, d.layers.findSome? (·.get? flag) = some c → P c := by
  have hnone : ∀ c, Table.get? (.empty : Overrides) flag = some c → P c := fun c hc => by cases hc
  -- the overrides of one pass are the first that count, if they have a calculator
  have hlayer : ∀ (overrides : Overrides) (layers : List Overrides),
      (∀ c, overrides.get? flag = some c → P c) →
      (∀ c, layers.findSome? (·.get? flag) = some c → P c) →
      ∀ c, (passLayer overrides ++ layers).findSome? (·.get? flag) = some c → P c := by
    intro overrides layers hover hlayers c hc
    rw [get?_passLayer] at hc
    rcases Option.or_eq_some_iff.1 hc with hc | ⟨-, hc⟩
    · exact hover c hc
    · exact hlayers c hc
  have hlast : ∀ overrides : Overrides, (∀ c, overrides.get? flag = some c → P c) →
      ∀ c, (passLayer overrides).findSome? (·.get? flag) = some c → P c := by
    intro overrides hover
    rw [← List.append_nil (passLayer overrides)]
    exact hlayer overrides [] hover fun c hc => by cases hc
  cases hf : context.forced.isEmpty with
  | false =>
    obtain ⟨gain, hg, rfl⟩ := gain_of_divert hf h
    exact hlast gain.overrides (Gain.forall_get?_overrides hg hvisits hnone)
  | true =>
    obtain ⟨launched, settled, hl, hs, rfl⟩ := passes_of_divert hf h
    simp only [visits, hf, if_true, List.forall_mem_append] at hvisits
    have hfirst := Gain.forall_get?_overrides hl hvisits.1 hnone
    have hsecond := Gain.forall_get?_overrides hs hvisits.2 hnone
    exact hlayer settled.overrides _ hsecond (hlast launched.overrides hfirst)

/-- A diversion none of whose visits has anything to say of a flag leaves no calculator for it. -/
theorem get?_layers_of_idle (h : snapshot.divert host draws context carried = .ok d) {flag : String}
    (hidle : ∀ v ∈ snapshot.visits host draws context carried,
      Gain.tells context.time flag v = false) :
    d.layers.findSome? (·.get? flag) = none := by
  refine Option.eq_none_iff_forall_ne_some.2 fun c hc => ?_
  refine forall_get?_layers (P := fun _ => False) h (fun v hv isIn c hc => ?_) c hc
  rw [Gain.calculator?_of_not_tells (hidle v hv)] at hc
  cases hc

/-- Recording a diversion puts its layers over what the request has. -/
theorem calculator?_record (r : Request) (base : Settings) (d : Diversion) (flag : String) :
    (r.record base d).calculator? flag =
      (d.layers.findSome? (·.get? flag)).or ((r.settings.getD base).calculator? flag) := by
  obtain ⟨context, ids, settings, cache⟩ := r
  unfold Request.record
  split
  · next h =>
    rw [Bool.and_eq_true] at h
    obtain ⟨old, rfl⟩ := Option.isSome_iff_exists.1 h.1
    rw [List.isEmpty_iff.1 h.2]
    rfl
  · change (List.findSome? (·.get? flag) (d.layers ++ (settings.getD base).layers)).or
      ((settings.getD base).base.get? flag) = _
    rw [List.findSome?_append, Option.or_assoc]
    rfl

/-- A flag of which no visit has anything to say keeps its calculator. -/
theorem calculator?_handle_of_idle {r : Request}
    (h : snapshot.divert host draws r.context r.ids = .ok d) :
    ∃ r', (snapshot.handle host draws r).result = .ok r' ∧ ∀ flag,
      (∀ v ∈ snapshot.visits host draws r.context r.ids,
        Gain.tells r.context.time flag v = false) →
      r'.calculator? flag = (r.settings.getD snapshot.space.settings).calculator? flag := by
  refine ⟨_, by rw [handle, h], fun flag hidle => ?_⟩
  rw [calculator?_record, get?_layers_of_idle h hidle, Option.none_or]

/-- A new request has the ids of its diversion, and of each flag the calculator of the second pass,
or else that of the first, or else the one that is defined. -/
theorem calculator?_handle {launched settled : Gain}
    (hd : snapshot.divert host draws context .empty = .ok
      ⟨settled.ids, passLayer settled.overrides ++ passLayer launched.overrides, settled.asked⟩) :
    ∃ r, (snapshot.handle host draws (.start context)).result = .ok r ∧
      (∀ id, r.ids.contains id = settled.ids.contains id) ∧ ∀ flag,
        r.calculator? flag = (settled.overrides.get? flag).or
          ((launched.overrides.get? flag).or (snapshot.space.flags.get? flag)) := by
  refine ⟨_, by rw [handle, Request.start, hd], fun id => ?_, fun flag => ?_⟩
  · change (KeySet.union .empty settled.ids).contains id = _
    rw [Bool.eq_iff_iff, KeySet.contains_union]
    simp
  rw [calculator?_record, get?_passLayer, ← List.append_nil (passLayer launched.overrides),
    get?_passLayer, List.findSome?_nil, Option.or_none, Option.or_assoc]
  rfl

/-- A request is handled where no visit is contested. -/
theorem handle_isOk {r : Request}
    (h : ∀ v ∈ snapshot.visits host draws r.context r.ids, v.isContested = false) :
    ∃ r', (snapshot.handle host draws r).result = .ok r' := by
  obtain ⟨d, hd⟩ := divert_isOk h
  exact ⟨_, by rw [handle, hd]⟩

/-- A request that is handled records its diversion. -/
theorem record_of_handle {r r' : Request} (h : (snapshot.handle host draws r).result = .ok r') :
    ∃ d, snapshot.divert host draws r.context r.ids = .ok d ∧
      r.record snapshot.space.settings d = r' := by
  unfold handle at h
  cases hd : snapshot.divert host draws r.context r.ids with
  | error e =>
    rw [hd] at h
    cases h
  | ok d =>
    rw [hd] at h
    exact ⟨d, rfl, Except.ok.inj h⟩

/-- A request after a diversion: it carries what it carried and what the diversion recorded. -/
theorem handle_ok {r r' : Request} (h : (snapshot.handle host draws r).result = .ok r') :
    r'.isDiverted = true ∧ r'.context = r.context ∧ ∀ id, r'.ids.contains id = true ↔
      r.ids.contains id = true ∨
        ∃ v ∈ snapshot.visits host draws r.context r.ids, v.recorded? = some id := by
  obtain ⟨d, hd, rfl⟩ := record_of_handle h
  simp only [← mem_ids_divert hd, ← KeySet.contains_union]
  unfold Request.record
  split
  · next hkeeps => exact ⟨(Bool.and_eq_true_iff.1 hkeeps).1, rfl, fun _ => .rfl⟩
  · exact ⟨rfl, rfl, fun _ => .rfl⟩

end Snapshot

end Rollout
