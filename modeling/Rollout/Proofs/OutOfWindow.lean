import Rollout.Proofs.Lockstep
import Rollout.Proofs.Outline
import Rollout.Proofs.Request
/-!
# Experiments outside of their window

An experiment counts for flags in its window only.  This module compares a space with the one in
which the experiment is muted, for requests at a time outside of the window.  The requests meet the
same in both (`Rollout.Proofs.Outline`), so the two diversions are followed visit by visit
(`Rollout.Proofs.Lockstep`): they record the same ids, and they leave the same calculator for a flag
as long as each visit says the same of it in both.

That is so of every visit but one kind.  An experiment of a launch layer has a say in the
experiments that come after it, through the tables that the builder made for those who are in both;
and these tables ask whether its id is recorded, not whether it is in its window.  `Builder.Lingers`
is that kind; `muted_outside_window` is the comparison, and `lingers_outside_window` is a request
for which it makes a difference.
-/

namespace Rollout

/-! ## 1. What an experiment says with another one muted -/

namespace Builder

variable {b : Builder} {id : SegmentId}

theorem mem_launchSegments_mute {s : SegmentDefinition} :
    s ∈ (b.mute id).launchSegments ↔ ∃ t ∈ b.launchSegments, t.mute id = s := by
  simp only [mem_launchSegments_iff, mute, List.mem_map]
  constructor
  · rintro ⟨_, ⟨d, hd, rfl⟩, hlaunch, hs⟩
    obtain ⟨t, ht, rfl⟩ := List.mem_map.1 hs
    exact ⟨t, ⟨d, hd, hlaunch, ht⟩, rfl⟩
  · rintro ⟨t, ⟨d, hd, hlaunch, ht⟩, rfl⟩
    exact ⟨d.mute id, ⟨d, hd, rfl⟩, hlaunch, List.mem_map_of_mem ht⟩

/-- The launch experiments that change a flag are the same ones without the muted one. -/
theorem launchChanges_mute_iff {other : SegmentId} {flag : String} {change : FlagOverride} :
    (b.mute id).LaunchChanges other flag change ↔
      other ≠ id ∧ b.LaunchChanges other flag change := by
  constructor
  · rintro ⟨s, hs, rfl, hc⟩
    obtain ⟨t, ht, rfl⟩ := mem_launchSegments_mute.1 hs
    obtain ⟨hne, hc⟩ := SegmentDefinition.get?_overrides_mute.1 hc
    rw [SegmentDefinition.info_mute]
    exact ⟨hne, t, ht, rfl, hc⟩
  · rintro ⟨hne, t, ht, rfl, hc⟩
    exact ⟨t.mute id, mem_launchSegments_mute.2 ⟨t, ht, rfl⟩, by rw [SegmentDefinition.info_mute],
      SegmentDefinition.get?_overrides_mute.2 ⟨hne, hc⟩⟩

/-- An experiment says the same with another one muted, for a request that is not in the muted one
or if the muted one is no launch experiment that changes the flag. -/
theorem calculator?_effect_mute (hb : b.Sound) (hb' : (b.mute id).Sound) (layer : LayerInfo)
    (overrides : Table String FlagOverride) {isIn : SegmentId → Bool} {flag : String}
    (h : isIn id = true → layer.launch = false → ∀ launch change, b.LaunchChanges id flag launch →
      overrides.get? flag ≠ some change) :
    ((b.mute id).effect layer overrides).calculator? isIn flag =
      (b.effect layer overrides).calculator? isIn flag := by
  refine Effect.calculator?_congr rfl fun other c => and_congr_right fun hin => ?_
  unfold effect
  cases hlayer : layer.launch with
  | true => rfl
  | false =>
    simp only [Bool.false_eq_true, if_false]
    rw [get?_launchEffects hb', get?_launchEffects hb]
    simp only [launchChanges_mute_iff]
    constructor
    · rintro ⟨launch, change, base, ⟨-, hlaunch⟩, hrest⟩
      exact ⟨launch, change, base, hlaunch, hrest⟩
    · rintro ⟨launch, change, base, hlaunch, hchange, hrest⟩
      refine ⟨launch, change, base, ⟨?_, hlaunch⟩, hchange, hrest⟩
      rintro rfl
      exact h hin hlayer launch change hlaunch hchange

/-- An experiment of a muted builder, and the experiment that it was. -/
theorem experiment_of_mute (hb : b.Sound) {d d' : LayerDraft} (hd : d ∈ b.drafts)
    (hd' : d' ∈ (b.mute id).drafts) {info : SegmentInfo}
    {overrides overrides' : Table String FlagOverride}
    (hs : .experiment info overrides ∈ d.segments)
    (hs' : .experiment info overrides' ∈ d'.segments) :
    d'.info = d.info ∧ overrides' = if info.id = id then .empty else overrides := by
  obtain ⟨e, he, rfl⟩ := List.mem_map.1 hd'
  obtain ⟨t, ht, heq⟩ := List.mem_map.1 hs'
  have hinfo : t.info.id = info.id := by
    rw [← SegmentDefinition.info_mute id t, heq]
    rfl
  obtain rfl : t = .experiment info overrides :=
    List.inj_on_of_nodup_map hb.segmentIds (mem_segments_iff.2 ⟨e, he, ht⟩)
      (mem_segments_iff.2 ⟨d, hd, hs⟩) hinfo
  obtain rfl : e = d := hb.eq_of_mem_segments he hd ht hs
  cases heq
  exact ⟨rfl, rfl⟩

/-- An experiment of a launch layer has a say in a flag whatever its window: its id is recorded when
an experiment of another layer comes that changes the flag, in its own window. -/
structure Lingers (b : Builder) (time : Int64) (flag : String) (id : SegmentId)
    (visits : List Visit) : Prop where
  launches : ∃ change, b.LaunchChanges id flag change
  meets : ∃ before v after change, visits = before ++ v :: after ∧ Recorded before id ∧
    b.Counts time flag change v ∧
      ∀ other launch, v.recorded? = some other → ¬ b.LaunchChanges other flag launch

variable {version : String} {space space' : Space}

/-- **One visit.**  Outside of the window of the muted experiment, a visit says what it says with
the experiment muted, unless the muted experiment has a say in it although it is not in its
window. -/
theorem calculator?_mute (hb : b.Sound) (hb' : (b.mute id).Sound) (h : b.build version = .ok space)
    (h' : (b.mute id).build version = .ok space') {muted : SegmentDefinition}
    (hmuted : muted ∈ b.segments) (hid : muted.info.id = id) {time : Int64}
    (hclosed : muted.info.overridesWindow.contains time = false) {scope : Scope} {l l' : Layer}
    {v v' : Visit} (hl : l ∈ space.topLayers) (hv : v ∈ l.visits scope)
    (hl' : l' ∈ space'.topLayers) (hv' : v' ∈ l'.visits scope) (heq : v'.outline = v.outline)
    {isIn : SegmentId → Bool} {flag : String}
    (hquiet : isIn id = true → (∃ change, b.LaunchChanges id flag change) →
      ∀ change, b.Counts time flag change v →
        ∃ other launch, v.recorded? = some other ∧ b.LaunchChanges other flag launch) :
    v'.calculator? time isIn flag = v.calculator? time isIn flag := by
  rcases Visit.outcome_of_outline heq with ⟨houtcome, -⟩ | ⟨info, effect, effect', hout, hout'⟩
  · simp only [Visit.calculator?, houtcome]
  obtain ⟨d, hd, overrides, hs, rfl⟩ := defined_of_visit hb h hl hv _ _ hout
  obtain ⟨d', hd', overrides', hs', rfl⟩ := defined_of_visit hb' h' hl' hv' _ _ hout'
  obtain ⟨hinfo, rfl⟩ := experiment_of_mute hb hd hd' hs hs'
  have hmem := mem_segments_iff.2 ⟨d, hd, hs⟩
  simp only [Visit.calculator?, hout, hout', hinfo]
  split
  swap
  · rfl
  next hopen =>
  have hne : info.id ≠ id := by
    rintro rfl
    obtain rfl := List.inj_on_of_nodup_map hb.segmentIds hmuted hmem hid
    rw [SegmentDefinition.info, hopen] at hclosed
    cases hclosed
  rw [if_neg hne]
  refine calculator?_effect_mute hb hb' d.info overrides
    fun hin hlayer launch change hlaunch hc => ?_
  obtain ⟨other, c, hrecorded, t, ht, rfl, -⟩ := hquiet hin ⟨launch, hlaunch⟩ change
    ⟨info, _, hout, hopen, (hb.changes_iff hmem).2 hc⟩
  -- the visited experiment itself would be one of a launch layer
  obtain ⟨e, he, helaunch, hte⟩ := mem_launchSegments_iff.1 ht
  rw [Visit.recorded?, hout] at hrecorded
  obtain rfl := List.inj_on_of_nodup_map hb.segmentIds (mem_segments_iff.2 ⟨e, he, hte⟩) hmem
    (Option.some.inj hrecorded).symm
  obtain rfl := hb.eq_of_mem_segments he hd hte hs
  rw [hlayer] at helaunch
  cases helaunch

/-- **One visit of a request.**  Where the muted experiment does not linger, every visit says what
it says with the experiment muted. -/
theorem calculator?_mute_of_not_lingers (hb : b.Sound) (hb' : (b.mute id).Sound)
    (h : b.build version = .ok space) (h' : (b.mute id).build version = .ok space')
    {muted : SegmentDefinition} (hmuted : muted ∈ b.segments) (hid : muted.info.id = id)
    {disabled : KeySet SegmentId} {host : Host} {draws : Draws} {context : Context}
    (hf : context.forced.isEmpty = true)
    (hclosed : muted.info.overridesWindow.contains context.time = false) {flag : String}
    (hquiet : ¬ b.Lingers context.time flag id
      (Snapshot.visits ⟨space, disabled⟩ host draws context .empty))
    {before after : List Visit} {v v' : Visit}
    (hsplit : Snapshot.visits ⟨space, disabled⟩ host draws context .empty = before ++ v :: after)
    (hv' : v' ∈ Snapshot.visits ⟨space', disabled⟩ host draws context .empty)
    (heq : v'.outline = v.outline) {isIn : SegmentId → Bool}
    (hin : isIn id = true → Recorded (before ++ [v]) id) :
    v'.calculator? context.time isIn flag = v.calculator? context.time isIn flag := by
  have hv : v ∈ Snapshot.visits ⟨space, disabled⟩ host draws context .empty := by simp [hsplit]
  obtain ⟨l, hl, hv⟩ := (mem_visits_iff_unforced hb h hf).1 hv
  obtain ⟨l', hl', hv'⟩ := (mem_visits_iff_unforced hb' h' hf).1 hv'
  rw [scope_mute h h'] at hv'
  refine calculator?_mute hb hb' h h' hmuted hid hclosed hl hv hl' hv' heq
    fun hid hlaunches change hcounts => ?_
  by_contra hno
  refine hquiet ⟨hlaunches, before, v, after, change, hsplit, ?_, hcounts,
    fun other launch hrecorded hlaunch => hno ⟨other, launch, hrecorded, hlaunch⟩⟩
  obtain ⟨u, hu, hrecorded⟩ := hin hid
  rcases List.mem_append.1 hu with hu | hu
  · exact ⟨u, hu, hrecorded⟩
  · -- the visit that records the muted experiment is the experiment itself
    obtain rfl := List.mem_singleton.1 hu
    obtain ⟨launch, hlaunch⟩ := hlaunches
    exact absurd ⟨_, launch, hrecorded, hlaunch⟩ hno

end Builder

/-! ## 2. The comparison -/

/-- **Outside of its window** an experiment counts for nothing but what lingers.  Whatever
definition a space was built from: the definition with the experiment muted is accepted and gives a
space too, and a new request that is not forced, at a time outside of the window, records the same
ids in both.  A flag has the same calculator and reads as the same value in both, unless the
experiment is one of a launch layer that changes the flag, and an experiment of another layer that
changes the flag too, in its own window, is entered when the id of the first one is recorded
already. -/
theorem muted_outside_window {declared : FlagRegistry} {definition : SpaceDefinition} {b : Builder}
    {version : String} {space : Space} {info : SegmentInfo} {overrides : Table String FlagOverride}
    (hdefinition : (Builder.start declared).addDefinition definition = (b, none))
    (h : b.build version = .ok space) (hmem : .experiment info overrides ∈ definition.segments)
    (disabled : KeySet SegmentId) (host : Host) (draws : Draws) {context : Context}
    (hf : context.forced.isEmpty = true)
    (hclosed : info.overridesWindow.contains context.time = false) :
    ∃ b' space' r r',
      (Builder.start declared).addDefinition (definition.mute info.id) = (b', none) ∧
      b'.build version = .ok space' ∧
      (Snapshot.handle ⟨space, disabled⟩ host draws (.start context)).result = .ok r ∧
      (Snapshot.handle ⟨space', disabled⟩ host draws (.start context)).result = .ok r' ∧
      r'.ids = r.ids ∧
      ∀ flag, ¬ b.Lingers context.time flag info.id
          (Snapshot.visits ⟨space, disabled⟩ host draws context .empty) →
        r'.calculator? flag = r.calculator? flag ∧ ∀ host',
          (r'.value host' flag).result = (r.value host' flag).result ∧ ∀ default : Value,
            (r'.get host' ⟨flag, default⟩).result = (r.get host' ⟨flag, default⟩).result := by
  have hdefinition' : (Builder.start declared).addDefinition (definition.mute info.id) =
      (b.mute info.id, none) := Builder.addDefinition_mute hdefinition
  have hb : b.Sound := by
    simpa only [hdefinition] using Builder.sound_addDefinition declared definition
  have hb' : (b.mute info.id).Sound := by
    simpa only [hdefinition'] using Builder.sound_addDefinition declared (definition.mute info.id)
  obtain ⟨space', h'⟩ := Builder.build_mute hb hb' h
  have hmuted : .experiment info overrides ∈ b.segments :=
    (Builder.perm_segments_addDefinition hdefinition).mem_iff.2 (List.mem_append_left _ hmem)
  obtain ⟨launched, settled, r, hl, hs, hr, hids, hcalc⟩ :=
    Builder.handle_unforced hb h hf disabled host draws
  obtain ⟨launched', settled', r', hl', hs', hr', hids', hcalc'⟩ :=
    Builder.handle_unforced hb' h' hf disabled host draws
  obtain ⟨hlaunch, hpermanent⟩ := Builder.visits_mute hb hb' h h' disabled host draws context .empty
  rw [Builder.scope_mute h h'] at hl' hs'
  have hvisits : ∀ space : Space, Snapshot.visits ⟨space, disabled⟩ host draws context .empty =
      Snapshot.launchVisits ⟨space, disabled⟩ host draws context .empty ++
        Snapshot.permanentVisits ⟨space, disabled⟩ host draws context .empty :=
    fun space => if_pos hf
  have hsame : r'.ids = r.ids := KeySet.ext_contains fun id => by
    rw [hids', hids, ← recorded_map Visit.recorded?_outline, hvisits, List.map_append, hlaunch,
      hpermanent, ← List.map_append, ← hvisits, recorded_map Visit.recorded?_outline]
  refine ⟨_, space', r, r', hdefinition', h', hr, hr', hsame, fun flag hquiet => ?_⟩
  have hagree : ∀ before v after v',
      Snapshot.visits ⟨space, disabled⟩ host draws context .empty = before ++ v :: after →
      v' ∈ Snapshot.visits ⟨space', disabled⟩ host draws context .empty → v'.outline = v.outline →
      ∀ isIn : SegmentId → Bool, (∀ id, isIn id = true → Recorded (before ++ [v]) id) →
      v'.calculator? context.time isIn flag = v.calculator? context.time isIn flag :=
    fun before v after v' hsplit hv' heq isIn hin =>
      Builder.calculator?_mute_of_not_lingers hb hb' h h' hmuted rfl hf hclosed hquiet hsplit hv'
        heq (hin info.id)
  have hfirst : Gain.Alongside context.time flag (fun _ => False) (fun _ => False)
      (Snapshot.launchVisits ⟨space, disabled⟩ host draws context .empty)
      (Snapshot.launchVisits ⟨space', disabled⟩ host draws context .empty) := by
    refine Gain.alongside_of_map Visit.recorded?_outline hlaunch
      fun before v after v' hsplit hv' heq isIn isIn' hin hsame => ?_
    obtain rfl : isIn' = isIn := funext fun id => hsame id not_false
    refine hagree before v
      (after ++ Snapshot.permanentVisits ⟨space, disabled⟩ host draws context .empty) v' ?_ ?_ heq
      _ fun id hid => (hin id hid).resolve_left not_false
    · rw [hvisits, hsplit, List.append_assoc, List.cons_append]
    · exact hvisits _ ▸ List.mem_append_left _ hv'
  have hsecond : Gain.Alongside context.time flag (fun _ => False)
      (Recorded (Snapshot.launchVisits ⟨space, disabled⟩ host draws context .empty))
      (Snapshot.permanentVisits ⟨space, disabled⟩ host draws context .empty)
      (Snapshot.permanentVisits ⟨space', disabled⟩ host draws context .empty) := by
    refine Gain.alongside_of_map Visit.recorded?_outline hpermanent
      fun before v after v' hsplit hv' heq isIn isIn' hin hsame => ?_
    obtain rfl : isIn' = isIn := funext fun id => hsame id not_false
    refine hagree (Snapshot.launchVisits ⟨space, disabled⟩ host draws context .empty ++ before)
      v after v' ?_ ?_ heq _ fun id hid => ?_
    · rw [hvisits, hsplit, List.append_assoc]
    · exact hvisits _ ▸ List.mem_append_right _ hv'
    · simpa only [List.append_assoc, recorded_append] using hin id hid
  obtain ⟨hfirst, hsecond⟩ := Gain.lockstep_passes rfl (fun _ => rfl) (fun _ => rfl) hl hl' hs hs'
    hfirst hsecond
  have hcalculator : r'.calculator? flag = r.calculator? flag := by
    rw [hcalc, hcalc', hfirst, hsecond]
    rfl
  obtain ⟨-, hcontext, -⟩ := Snapshot.handle_ok hr
  obtain ⟨-, hcontext', -⟩ := Snapshot.handle_ok hr'
  exact ⟨hcalculator, fun host' => Request.read_congr (hcontext'.trans hcontext.symm)
    (Snapshot.cache_handle_start hr) (Snapshot.cache_handle_start hr') hcalculator⟩

/-- A launch experiment that changes two flags in a window of its own, and another experiment that
changes one of them at any time. -/
def SpaceDefinition.windowed : SpaceDefinition :=
  let info (id : SegmentId) (layer : LayerId) (window : Window) : SegmentInfo :=
    ⟨id, layer, 0, KeySet.ofKeys [0], .always, .always, window⟩
  ⟨[⟨"f", ⟨.int 1, []⟩⟩, ⟨"g", ⟨.int 2, []⟩⟩], [⟨0, 1, true⟩],
    [⟨1, topDomain, true, 101, 102, 103⟩, ⟨2, topDomain, false, 201, 202, 203⟩],
    [.experiment (info 10 1 ⟨100, 200⟩)
      (Table.ofList [("f", .replace ⟨.int 100, []⟩), ("g", .replace ⟨.int 200, []⟩)]),
    .experiment (info 20 2 .always)
      (Table.ofList [("f", .append [.mk (.int 10) (.add .int) .always []])])]⟩

/-- The builder that took the definition. -/
def Builder.windowed : Builder := ((Builder.start .empty).addDefinition .windowed).1

/-- The builder that took it with the launch experiment muted. -/
def Builder.windowedMuted : Builder :=
  ((Builder.start .empty).addDefinition (SpaceDefinition.windowed.mute 10)).1

/-- Before the window, the flag that only the launch experiment changes reads as if it did not. -/
theorem muted_outside_window_before : ∃ info overrides b' space space' r r',
    .experiment info overrides ∈ SpaceDefinition.windowed.segments ∧ info.id = 10 ∧
    info.overridesWindow.contains 0 = false ∧ (Context.at 0).forced.isEmpty = true ∧
    (Builder.start .empty).addDefinition .windowed = (.windowed, none) ∧
    Builder.windowed.build "v" = .ok space ∧
    (Builder.start .empty).addDefinition (SpaceDefinition.windowed.mute 10) = (b', none) ∧
    b'.build "v" = .ok space' ∧
    ((Snapshot.of space).handle (fun _ _ => false) (fun _ _ _ => 0) (.start (.at 0))).result =
      .ok r ∧
    ((Snapshot.of space').handle (fun _ _ => false) (fun _ _ _ => 0) (.start (.at 0))).result =
      .ok r' ∧
    r.ids.keys = [10, 20] ∧ r'.ids = r.ids ∧
    (r'.value (fun _ _ => false) "g").result = (r.value (fun _ _ => false) "g").result := by
  have hdefinition : (Builder.start .empty).addDefinition .windowed = (.windowed, none) := rfl
  have hbuild : Builder.windowed.build "v" = .ok _ := rfl
  have hforced : (Context.at 0).forced.isEmpty = true := rfl
  obtain ⟨b', space', r, r', hdefinition', h', hr, hr', hids, hreads⟩ :=
    muted_outside_window hdefinition hbuild (.head _) .empty (fun _ _ => false) (fun _ _ _ => 0)
      hforced rfl
  have hkeys : r.ids.keys = [10, 20] := by
    cases hr
    rfl
  refine ⟨_, _, b', _, space', r, r', .head _, rfl, rfl, hforced, hdefinition, hbuild, hdefinition',
    h', hr, hr', hkeys, hids, ((hreads "g" ?_).2 _).1⟩
  -- no experiment but the launch experiment changes the flag
  rintro ⟨-, before, v, after, change, -, -, ⟨info, effect, hout, -, s, hs, hid, hc⟩, hnone⟩
  rcases List.mem_cons.1 hs with rfl | hs
  · cases hc
  · obtain rfl := List.mem_singleton.1 hs
    exact hnone info.id change (by rw [Visit.recorded?, hout]) ⟨_, .head _, hid, hc⟩

/-- **What lingers.**  Before the window, the other experiment starts all the same from what the
launch experiment makes of the flag. -/
theorem lingers_outside_window : ∃ info overrides space space' r r',
    .experiment info overrides ∈ SpaceDefinition.windowed.segments ∧ info.id = 10 ∧
    info.overridesWindow.contains 0 = false ∧
    (Builder.start .empty).addDefinition .windowed = (.windowed, none) ∧
    Builder.windowed.build "v" = .ok space ∧
    (Builder.start .empty).addDefinition (SpaceDefinition.windowed.mute 10) =
      (.windowedMuted, none) ∧
    Builder.windowedMuted.build "v" = .ok space' ∧
    ((Snapshot.of space).handle (fun _ _ => false) (fun _ _ _ => 0) (.start (.at 0))).result =
      .ok r ∧
    ((Snapshot.of space').handle (fun _ _ => false) (fun _ _ _ => 0) (.start (.at 0))).result =
      .ok r' ∧
    (r.value (fun _ _ => false) "f").result = some (.int 110) ∧
    (r'.value (fun _ _ => false) "f").result = some (.int 11) :=
  ⟨_, _, _, _, _, _, .head _, rfl, rfl, rfl, rfl, rfl, rfl, rfl, rfl, rfl, rfl⟩

end Rollout
