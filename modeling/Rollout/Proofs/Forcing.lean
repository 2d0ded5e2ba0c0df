import Rollout.Proofs.Resolution
/-!
# Two forced experiments and one flag

A request that is not forced meets the launch layers first, so that an experiment of another layer
finds the launch experiments recorded on which its changes are to work.  A request that is forced
into segments meets these in the order of their ids, and what they do to flags is gathered in one
table.  So of two experiments that change a flag, the one with the greater id has the last word.

If it is the launch experiment, the change of the other one is lost.  If it is the other one, it
works on the launch experiment (`forced_in_order_of_ids`).
-/

namespace Rollout

/-- The keys of a set before and after a given one. -/
theorem KeySet.split_keys {ids : KeySet SegmentId} {id : SegmentId} (h : ids.contains id = true) :
    ∃ before after, ids.keys = before ++ id :: after ∧ (∀ i ∈ before, i < id) ∧
      ∀ i ∈ after, id < i := by
  obtain ⟨before, after, hsplit⟩ := List.append_of_mem (Table.mem_keys_iff.2 h)
  have hasc := Table.ascending_keys ids
  simp only [hsplit, List.pairwise_append, List.pairwise_cons, Std.compare_eq_lt] at hasc
  obtain ⟨-, ⟨hafter, -⟩, hbefore⟩ := hasc
  exact ⟨before, after, hsplit, fun i hi => hbefore i hi id List.mem_cons_self, hafter⟩

namespace Snapshot

variable (snapshot : Snapshot) (host : Host) (draws : Draws) (context : Context)

/-- What a new request meets on its way into a segment that it is forced into. -/
def visitsInto (id : SegmentId) : List Visit :=
  snapshot.forcedVisits (snapshot.scope host draws context .empty id) id

/-- An id is recorded on the way into the forced segments up to a given one. -/
def RecordedUpTo (last id : SegmentId) : Prop :=
  ∃ root, context.forced.contains root = true ∧ root ≤ last ∧
    Recorded (snapshot.visitsInto host draws context root) id

variable {snapshot host draws context}

/-- A new request that is forced meets the segments that it is forced into, in the order of their
ids. -/
theorem visits_forced (hf : context.forced.isEmpty = false) :
    snapshot.visits host draws context .empty =
      context.forced.keys.flatMap (snapshot.visitsInto host draws context) := by
  simp only [visits, hf, Bool.false_eq_true, if_false]
  rfl

/-- What is recorded up to a forced segment is recorded on the way into those before it, or into
it. -/
theorem recordedUpTo_iff {before after : List SegmentId} {last id : SegmentId}
    (hsplit : context.forced.keys = before ++ last :: after) (hbefore : ∀ i ∈ before, i < last)
    (hafter : ∀ i ∈ after, last < i) : snapshot.RecordedUpTo host draws context last id ↔
      Recorded (before.flatMap (snapshot.visitsInto host draws context) ++
        snapshot.visitsInto host draws context last) id := by
  have hroots : ∀ root, (context.forced.contains root = true ∧ root ≤ last) ↔
      root ∈ before ∨ root = last := by
    intro root
    rw [← Table.mem_keys_iff, hsplit, List.mem_append, List.mem_cons]
    constructor
    · rintro ⟨hroot | rfl | hroot, hle⟩
      · exact .inl hroot
      · exact .inr rfl
      · exact absurd (hafter root hroot) (Int32.not_lt.2 hle)
    · rintro (hroot | rfl)
      · exact ⟨.inl hroot, Int32.le_of_lt (hbefore root hroot)⟩
      · exact ⟨.inr (.inl rfl), Int32.le_refl _⟩
  simp only [RecordedUpTo, ← and_assoc, hroots, recorded_append, recorded_flatMap, or_and_right,
    exists_or, exists_eq_left]

end Snapshot

namespace Builder

variable {b : Builder} {version : String} {space : Space}

/-- A new request that is forced, and the calculators that it is left with. -/
theorem handle_forced (hb : b.Sound) (h : b.build version = .ok space) {context : Context}
    (hf : context.forced.isEmpty = false) (disabled : KeySet SegmentId) (host : Host)
    (draws : Draws) : ∃ gain r,
      Gain.none.visitAll (Snapshot.scope ⟨space, disabled⟩ host draws context .empty topDomain)
        (Snapshot.visits ⟨space, disabled⟩ host draws context .empty) = .ok gain ∧
      (Snapshot.handle ⟨space, disabled⟩ host draws (.start context)).result = .ok r ∧
      (∀ id, r.ids.contains id = true ↔
        Recorded (Snapshot.visits ⟨space, disabled⟩ host draws context .empty) id) ∧
      ∀ flag, r.calculator? flag = (gain.overrides.get? flag).or (b.flags.get? flag) := by
  obtain ⟨d, hd⟩ :=
    Snapshot.divert_isOk (not_contested_build hb h disabled host draws context .empty)
  obtain ⟨gain, hgain, rfl⟩ := Snapshot.gain_of_divert hf hd
  -- it is as if there had been a first pass without visits
  have hd' : Snapshot.divert ⟨space, disabled⟩ host draws context .empty = .ok ⟨gain.ids,
      Snapshot.passLayer gain.overrides ++ Snapshot.passLayer Gain.none.overrides, gain.asked⟩ := by
    have hnone : Snapshot.passLayer Gain.none.overrides = [] := rfl
    rw [hd, hnone, List.append_nil]
  obtain ⟨r, hr, hids, hcalc⟩ := Snapshot.calculator?_handle hd'
  refine ⟨gain, r, hgain, hr, fun id => ?_, fun flag => ?_⟩
  · rw [hids, Snapshot.mem_ids_divert hd]
    rfl
  · have hflags : space.flags = b.flags := by
      rw [(build_ok h).2]
      rfl
    rw [hcalc, hflags]
    rfl

/-! ## 1. One forced experiment -/

section

variable {context : Context} {disabled : KeySet SegmentId} (host : Host) (draws : Draws)
  {flag : String}

/-- On its way into an experiment that changes a flag, a request meets the experiment alone. -/
theorem visitsInto_experiment (hb : b.Sound) (h : b.build version = .ok space) {s : Segment}
    (hs : s ∈ space.members) (hon : disabled.contains s.info.id = false) {change : FlagOverride}
    (hchange : b.Changes s.info.id flag change)
    (hopen : s.info.overridesWindow.contains context.time = true) :
    ∃ v, Snapshot.visitsInto ⟨space, disabled⟩ host draws context s.info.id = [v] ∧
      v.entered? = some s.info.id ∧ v.recorded? = some s.info.id ∧
      b.Counts context.time flag change v := by
  have hget := (get?_segments_build hb h).2 ⟨hs, rfl⟩
  obtain ⟨info, effect, rfl⟩ := experiment_of_changes hb h hs hchange
  refine ⟨⟨info.layer, .experiment info effect, []⟩, ?_, rfl, rfl,
    ⟨info, effect, rfl, hopen, hchange⟩⟩
  simp only [Snapshot.visitsInto, Snapshot.forcedVisits, hget, hon, Snapshot.scope,
    Table.contains_empty, Bool.false_or, Bool.false_eq_true, if_false, Segment.visits_experiment]

/-- **The greatest id decides.**  If a forced experiment changes a flag, and no segment of a greater
id that the request is forced into does, then the flag has the change of the experiment, of what the
greatest launch experiment makes of the flag whose id is recorded by then. -/
theorem calculator?_of_greatest_forced (hb : b.Sound) (h : b.build version = .ok space)
    {s : Segment} (hs : s ∈ space.members) (hforced : context.forced.contains s.info.id = true)
    (hon : disabled.contains s.info.id = false) {change : FlagOverride}
    (hchange : b.Changes s.info.id flag change)
    (hopen : s.info.overridesWindow.contains context.time = true)
    (hgreatest : ∀ id, context.forced.contains id = true → s.info.id < id →
      ∀ v ∈ Snapshot.visitsInto ⟨space, disabled⟩ host draws context id, ∀ c,
        ¬ b.Counts context.time flag c v)
    {base : Calculator} (hbase : b.flags.get? flag = some base) :
    ∃ r, (Snapshot.handle ⟨space, disabled⟩ host draws (.start context)).result = .ok r ∧
      (∀ id, Snapshot.RecordedUpTo ⟨space, disabled⟩ host draws context s.info.id id →
        r.ids.contains id = true) ∧
      ∃ d ∈ b.drafts, ∃ t ∈ d.segments, t.info.id = s.info.id ∧
        (∀ id launch, d.info.launch = false → b.LaunchChanges id flag launch →
          Snapshot.RecordedUpTo ⟨space, disabled⟩ host draws context s.info.id id →
          (∀ id' launch', b.LaunchChanges id' flag launch' →
            Snapshot.RecordedUpTo ⟨space, disabled⟩ host draws context s.info.id id' → id' ≤ id) →
          r.calculator? flag = some (change.apply (launch.apply base))) ∧
        (d.info.launch = true → r.calculator? flag = some (change.apply base)) := by
  have hf : context.forced.isEmpty = false := by
    refine Bool.eq_false_iff.2 fun hempty => ?_
    rw [Table.contains_eq_false_iff.2 (Table.isEmpty_iff.1 hempty _)] at hforced
    cases hforced
  obtain ⟨gain, r, hgain, hr, hids, hcalc⟩ := handle_forced hb h hf disabled host draws
  obtain ⟨before, after, hsplit, hbefore, hafter⟩ := KeySet.split_keys hforced
  obtain ⟨v, hv, hentered, -, hcounts⟩ :=
    visitsInto_experiment host draws hb h hs hon hchange hopen
  refine ⟨r, hr, ?_, ?_⟩
  · rintro id ⟨root, hroot, -, hrec⟩
    rw [hids, Snapshot.visits_forced hf, recorded_flatMap]
    exact ⟨root, Table.mem_keys_iff.2 hroot, hrec⟩
  -- the way into the experiment, what comes before it, and what comes after it
  have hvisits : Snapshot.visits ⟨space, disabled⟩ host draws context .empty =
      before.flatMap (Snapshot.visitsInto ⟨space, disabled⟩ host draws context) ++
        v :: after.flatMap (Snapshot.visitsInto ⟨space, disabled⟩ host draws context) := by
    rw [Snapshot.visits_forced hf, hsplit, List.flatMap_append, List.flatMap_cons, hv,
      List.singleton_append]
  have hdefined : ∀ w ∈ Snapshot.visits ⟨space, disabled⟩ host draws context .empty, b.Defined w :=
    defined_build hb h
  rw [hvisits] at hgain hdefined
  have hlast : ∀ w ∈ after.flatMap (Snapshot.visitsInto ⟨space, disabled⟩ host draws context), ∀ c,
      ¬ b.Counts context.time flag c w := by
    intro w hw
    obtain ⟨id, hid, hw⟩ := List.mem_flatMap.1 hw
    refine hgreatest id (Table.mem_keys_iff.1 ?_) (hafter id hid) w hw
    rw [hsplit]
    exact List.mem_append_right _ (List.mem_cons_of_mem _ hid)
  obtain ⟨d, hd, t, ht, hid, hresolve⟩ :=
    get?_overrides_of_counts hb hdefined hgain hcounts hlast hbase
  have hrecorded : ∀ id, Snapshot.RecordedUpTo ⟨space, disabled⟩ host draws context s.info.id id ↔
      Gain.none.ids.contains id = true ∨ Table.contains (.empty : KeySet SegmentId) id = true ∨
        Recorded (before.flatMap (Snapshot.visitsInto ⟨space, disabled⟩ host draws context) ++ [v])
          id := by
    intro id
    rw [Snapshot.recordedUpTo_iff hsplit hbefore hafter, hv]
    simp [Gain.none]
  obtain ⟨hlaunched, halone⟩ := hresolve _ hrecorded
  refine ⟨d, hd, t, ht, Option.some.inj (hid.symm.trans hentered), ?_, fun hlaunch => ?_⟩
  · intro id launch hlayer hid hin hgreatest
    rw [hcalc, hlaunched id launch hlayer hid hin hgreatest, Option.some_or]
  · rw [hcalc, halone (.inl hlaunch), Option.some_or]

end

/-! ## 2. A launch experiment and another one -/

/-- A request is forced into an experiment `l` of a launch layer and an experiment `p` of a layer
that is none.  Both are turned on, and both change a flag, at the time of the request. -/
structure ForcedPair (b : Builder) (space : Space) (disabled : KeySet SegmentId) (context : Context)
    (flag : String) (l p : Segment) (launch change : FlagOverride) : Prop where
  stands : ∃ L ∈ space.launchLayers, l ∈ L.segments
  stands_other : ∃ P ∈ space.layers, P.info.launch = false ∧ p ∈ P.segments
  forced : context.forced.contains l.info.id = true
  forced_other : context.forced.contains p.info.id = true
  enabled : disabled.contains l.info.id = false
  enabled_other : disabled.contains p.info.id = false
  changes : b.Changes l.info.id flag launch
  changes_other : b.Changes p.info.id flag change
  inWindow : l.info.overridesWindow.contains context.time = true
  inWindow_other : p.info.overridesWindow.contains context.time = true

namespace ForcedPair

variable {context : Context} {disabled : KeySet SegmentId} {flag : String} {l p : Segment}
  {launch change : FlagOverride} (hx : b.ForcedPair space disabled context flag l p launch change)

include hx

theorem mem : l ∈ space.members := by
  obtain ⟨L, hL, hl⟩ := hx.stands
  exact Space.mem_members_iff.2 ⟨L, Space.mem_layers_of_top (launchLayers_subset space L hL), hl⟩

theorem mem_other : p ∈ space.members := by
  obtain ⟨P, hP, -, hp⟩ := hx.stands_other
  exact Space.mem_members_iff.2 ⟨P, hP, hp⟩

variable (hb : b.Sound) (h : b.build version = .ok space)

include hb h

/-- The draft of the one is that of a launch layer. -/
theorem launch_eq_true {d : LayerDraft} (hd : d ∈ b.drafts) {s : SegmentDefinition}
    (hs : s ∈ d.segments) (hid : s.info.id = l.info.id) : d.info.launch = true := by
  obtain ⟨L, hL, hl⟩ := hx.stands
  exact Builder.launch_eq_true hb h hL hl hd hs hid

/-- The draft of the other is not. -/
theorem launch_eq_false_other {d : LayerDraft} (hd : d ∈ b.drafts) {s : SegmentDefinition}
    (hs : s ∈ d.segments) (hid : s.info.id = p.info.id) : d.info.launch = false := by
  obtain ⟨P, hP, hlaunch, hp⟩ := hx.stands_other
  rw [launch_of_stands hb h hP hp hd hs hid, hlaunch]

theorem launchChanges : b.LaunchChanges l.info.id flag launch := by
  obtain ⟨L, hL, hl⟩ := hx.stands
  exact launchChanges_of_stands hb h hL hl hx.changes

/-- The two are not the same. -/
theorem lt_or_lt : p.info.id < l.info.id ∨ l.info.id < p.info.id := by
  refine Int32.lt_or_lt_of_ne fun heq => ?_
  obtain ⟨s, hs, hid, -⟩ := hx.changes
  obtain ⟨d, hd, hs⟩ := mem_segments_iff.1 hs
  have hlaunch := hx.launch_eq_true hb h hd hs hid
  rw [hx.launch_eq_false_other hb h hd hs (hid.trans heq.symm)] at hlaunch
  cases hlaunch

end ForcedPair

end Builder

/-- **Forced experiments work in the order of their ids.**  A new request is forced into an
experiment `l` of a launch layer and an experiment `p` of a layer that is none.  Both change a flag,
and nothing else that the request is forced into leads to a change of it.  If `l` has the greater
id, the change of `p` is lost.  If `p` has it, its change works on that of the greatest launch
experiment whose id is recorded by then; so on that of `l`, if the request carries the id of no
other launch experiment that changes the flag. -/
theorem forced_in_order_of_ids {declared : FlagRegistry} {calls : List Builder.Call}
    {version : String} {space : Space}
    (h : ((Builder.start declared).run calls).build version = .ok space) (context : Context)
    (disabled : KeySet SegmentId) (host : Host) (draws : Draws) {flag : String}
    {l p : Segment} {launch change : FlagOverride}
    (hx : ((Builder.start declared).run calls).ForcedPair space disabled context flag l p
      launch change)
    (honly : ∀ id, context.forced.contains id = true → id ≠ l.info.id → id ≠ p.info.id →
      ∀ v ∈ Snapshot.visitsInto ⟨space, disabled⟩ host draws context id, ∀ c,
        ¬ ((Builder.start declared).run calls).Counts context.time flag c v) :
    let b := (Builder.start declared).run calls
    let recorded := Snapshot.RecordedUpTo ⟨space, disabled⟩ host draws context p.info.id
    ∃ base r, b.flags.get? flag = some base ∧
      (Snapshot.handle ⟨space, disabled⟩ host draws (.start context)).result = .ok r ∧
      (p.info.id < l.info.id ∨ l.info.id < p.info.id) ∧
      (p.info.id < l.info.id → r.calculator? flag = some (launch.apply base)) ∧
      (l.info.id < p.info.id →
        (∀ id other, b.LaunchChanges id flag other → recorded id →
          (∀ id' other', b.LaunchChanges id' flag other' → recorded id' → id' ≤ id) →
          r.calculator? flag = some (change.apply (other.apply base))) ∧
        ((∀ id other, b.LaunchChanges id flag other → r.ids.contains id = true → id = l.info.id) →
          r.calculator? flag = some (change.apply (launch.apply base)))) := by
  intro b recorded
  have hb : b.Sound := Builder.sound_run declared calls
  obtain ⟨base, hbase⟩ := hx.changes.defined hb
  refine ⟨base, ?_⟩
  rcases hx.lt_or_lt hb h with hlt | hlt
  · -- the launch experiment is the last one that changes the flag
    obtain ⟨r, hr, -, d, hd, t, ht, hid, -, halone⟩ :=
      Builder.calculator?_of_greatest_forced host draws hb h hx.mem hx.forced hx.enabled hx.changes
        hx.inWindow (fun id hid hl => honly id hid (Int32.ne_of_lt hl).symm
          (Int32.ne_of_lt (Int32.lt_trans hlt hl)).symm) hbase
    refine ⟨r, hbase, hr, .inl hlt, fun _ => halone (hx.launch_eq_true hb h hd ht hid),
      fun hgt => ?_⟩
    exact absurd hgt (Int32.lt_asymm hlt)
  · obtain ⟨r, hr, hcarried, d, hd, t, ht, hid, hlaunched, -⟩ :=
      Builder.calculator?_of_greatest_forced host draws hb h hx.mem_other hx.forced_other
        hx.enabled_other hx.changes_other hx.inWindow_other
        (fun id hid hp => honly id hid (Int32.ne_of_lt (Int32.lt_trans hlt hp)).symm
          (Int32.ne_of_lt hp).symm) hbase
    have hlayer := hx.launch_eq_false_other hb h hd ht hid
    refine ⟨r, hbase, hr, .inr hlt, fun hgt => absurd hgt (Int32.lt_asymm hlt), fun _ => ?_⟩
    refine ⟨fun id other => hlaunched id other hlayer, fun hone => ?_⟩
    obtain ⟨v, hv, -, hrec, -⟩ := Builder.visitsInto_experiment host draws hb h hx.mem hx.enabled
      hx.changes hx.inWindow
    refine hlaunched l.info.id launch hlayer (hx.launchChanges hb h)
      ⟨l.info.id, hx.forced, Int32.le_of_lt hlt, v, hv ▸ List.mem_singleton_self v, hrec⟩ ?_
    intro id other hother hrec
    rw [hone id other hother (hcarried id hrec)]
    exact Int32.le_refl _

/-- A launch experiment and one that is none, of the given ids.  Both change the same flag. -/
def Builder.forcedCalls (l p : SegmentId) : List Builder.Call :=
  let info (id : SegmentId) (layer : LayerId) : SegmentInfo :=
    ⟨id, layer, 0, KeySet.ofKeys [0], .always, .always, .always⟩
  let changing (id : SegmentId) (layer : LayerId) (change : FlagOverride) : Builder.Call :=
    .segment (.experiment (info id layer) (Table.ofList [("f", change)]))
  [.flag ⟨"f", ⟨.int 1, []⟩⟩, .criterion ⟨0, 1, true⟩,
    .layer ⟨1, topDomain, true, 101, 102, 103⟩, changing l 1 (.replace ⟨.int 100, []⟩),
    .layer ⟨2, topDomain, false, 201, 202, 203⟩,
    changing p 2 (.append [.mk (.int 10) (.add .int) .always []])]

/-- The context that forces a request into segments. -/
def Context.forcing (ids : List SegmentId) : Context :=
  { Context.at 0 with forced := KeySet.ofKeys ids }

theorem Context.eq_or_eq_of_forcing {l p id : SegmentId}
    (h : (Context.forcing [l, p]).forced.contains id = true) : id = l ∨ id = p := by
  have hmem : id ∈ [l, p] := KeySet.contains_ofKeys.1 h
  simpa using hmem

/-- The launch experiment with the smaller id is worked on. -/
theorem forced_in_order_of_ids_ascending : ∃ space r,
    ((Builder.start .empty).run (Builder.forcedCalls 10 30)).build "v" = .ok space ∧
    (Snapshot.handle ⟨space, .empty⟩ (fun _ _ => false) (fun _ _ _ => 0)
      (.start (.forcing [10, 30]))).result = .ok r ∧
    r.calculator? "f" = some ⟨.int 100, [.mk (.int 10) (.add .int) .always []]⟩ := by
  have hbuild : ((Builder.start .empty).run (Builder.forcedCalls 10 30)).build "v" = .ok _ := rfl
  have hlaunch : ((Builder.start .empty).run (Builder.forcedCalls 10 30)).Changes 10 "f"
      (.replace ⟨.int 100, []⟩) := ⟨_, .tail _ (.head _), rfl, rfl⟩
  obtain ⟨base, r, hbase, hr, -, -, hsecond⟩ := forced_in_order_of_ids hbuild (.forcing [10, 30])
    .empty (fun _ _ => false) (fun _ _ _ => 0)
    { stands := ⟨_, .head _, .head _⟩
      stands_other := ⟨_, .tail _ (.head _), rfl, .head _⟩
      forced := rfl
      forced_other := rfl
      enabled := rfl
      enabled_other := rfl
      changes := hlaunch
      changes_other := ⟨_, .head _, rfl, rfl⟩
      inWindow := rfl
      inWindow_other := rfl }
    fun id hid hl hp => absurd (Context.eq_or_eq_of_forcing hid) (not_or.2 ⟨hl, hp⟩)
  obtain rfl := Option.some.inj hbase
  refine ⟨_, r, hbuild, hr, (hsecond (by decide)).2 ?_⟩
  rintro id other ⟨s, hs, rfl, -⟩ -
  obtain rfl := List.mem_singleton.1 hs
  rfl

/-- With the greater id it is not: the change of the other experiment is lost. -/
theorem forced_change_lost : ∃ space r l p launch change base,
    ((Builder.start .empty).run (Builder.forcedCalls 30 10)).build "v" = .ok space ∧
    ((Builder.start .empty).run (Builder.forcedCalls 30 10)).ForcedPair space .empty
      (.forcing [30, 10]) "f" l p launch change ∧
    (∀ id, (Context.forcing [30, 10]).forced.contains id = true → id = l.info.id ∨ id = p.info.id) ∧
    (Snapshot.handle ⟨space, .empty⟩ (fun _ _ => false) (fun _ _ _ => 0)
      (.start (.forcing [30, 10]))).result = .ok r ∧
    space.flags.get? "f" = some base ∧
    r.calculator? "f" = some ⟨.int 100, []⟩ ∧
    r.calculator? "f" ≠ some (change.apply (launch.apply base)) := by
  refine ⟨_, _, _, _, _, _, ⟨.int 1, []⟩, rfl,
    { stands := ⟨_, .head _, .head _⟩
      stands_other := ⟨_, .tail _ (.head _), rfl, .head _⟩
      forced := rfl
      forced_other := rfl
      enabled := rfl
      enabled_other := rfl
      changes := ⟨_, .tail _ (.head _), rfl, rfl⟩
      changes_other := ⟨_, .head _, rfl, rfl⟩
      inWindow := rfl
      inWindow_other := rfl }, fun id hid => Context.eq_or_eq_of_forcing hid, rfl, rfl, rfl, ?_⟩
  exact fun heq => by cases heq

end Rollout
