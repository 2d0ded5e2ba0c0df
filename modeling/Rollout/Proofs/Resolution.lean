import Rollout.Proofs.Contention
import Rollout.Proofs.Effect
/-!
# What a flag resolves to

A request that is not forced meets the launch layers first and the other layers after them.  This
module follows one flag through both passes.  The last experiment in its window that the second pass
enters and that changes the flag decides: the flag has its change, on top of the change of the
greatest launch experiment whose id is recorded by then (`resolves_by_last_change`).

Only ids are looked at.  A launch experiment counts as soon as its id is recorded, be it outside of
its own window, and be it as the fallback id of some layer.
-/

namespace Rollout

/-- Whether one of the visits records an id. -/
def Recorded (visits : List Visit) (id : SegmentId) : Prop := ∃ v ∈ visits, v.recorded? = some id

theorem recorded_append {before after : List Visit} {id : SegmentId} :
    Recorded (before ++ after) id ↔ Recorded before id ∨ Recorded after id := by
  simp only [Recorded, List.mem_append, or_and_right, exists_or]

theorem recorded_cons {v : Visit} {visits : List Visit} {id : SegmentId} :
    Recorded (v :: visits) id ↔ v.recorded? = some id ∨ Recorded visits id := by
  simp only [Recorded, List.mem_cons, exists_eq_or_imp]

theorem recorded_flatMap {α : Type} {parts : List α} {visits : α → List Visit} {id : SegmentId} :
    Recorded (parts.flatMap visits) id ↔ ∃ part ∈ parts, Recorded (visits part) id := by
  simp only [Recorded, List.mem_flatMap]
  exact ⟨fun ⟨v, ⟨part, hp, hv⟩, hid⟩ => ⟨part, hp, v, hv, hid⟩,
    fun ⟨part, hp, v, hv, hid⟩ => ⟨v, ⟨part, hp, hv⟩, hid⟩⟩

theorem recorded_map {see : Visit → Visit} (hsee : ∀ v, (see v).recorded? = v.recorded?)
    {visits : List Visit} {id : SegmentId} : Recorded (visits.map see) id ↔ Recorded visits id := by
  simp only [Recorded, List.mem_map, exists_exists_and_eq_and, hsee]

namespace Builder

variable {b : Builder} {version : String} {space : Space}

/-! ## 1. Experiments on the way -/

/-- In the visit a request enters an experiment, in its window, that changes a flag. -/
def Counts (b : Builder) (time : Int64) (flag : String) (change : FlagOverride) (v : Visit) :
    Prop :=
  ∃ info effect, v.outcome = .experiment info effect ∧
    info.overridesWindow.contains time = true ∧ b.Changes info.id flag change

theorem Counts.defined (hb : b.Sound) {time : Int64} {flag : String} {change : FlagOverride}
    {v : Visit} (hv : b.Counts time flag change v) : ∃ base, b.flags.get? flag = some base := by
  obtain ⟨info, effect, -, -, hchange⟩ := hv
  exact hchange.defined hb

/-- Only experiments change flags. -/
theorem experiment_of_changes (hb : b.Sound) (h : b.build version = .ok space) {s : Segment}
    (hs : s ∈ space.members) {flag : String} {change : FlagOverride}
    (hchange : b.Changes s.info.id flag change) : ∃ info effect, s = .experiment info effect := by
  obtain ⟨d, hd, u, hu, rfl⟩ := member_of_build hb h hs
  cases u with
  | experiment info overrides => exact ⟨info, _, rfl⟩
  | domain info =>
    have hc := (hb.changes_iff (mem_segments_iff.2 ⟨d, hd, hu⟩)).1 hchange
    cases hc

/-- The experiment that the visit enters, if any, was accepted, and does what its definition
says. -/
def Defined (b : Builder) (v : Visit) : Prop :=
  ∀ info effect, v.outcome = .experiment info effect →
    ∃ d ∈ b.drafts, ∃ overrides, .experiment info overrides ∈ d.segments ∧
      effect = b.effect d.info overrides

/-- A segment of the space that is entered is defined. -/
theorem defined_of_enters (hb : b.Sound) (h : b.build version = .ok space) {t : Segment}
    (ht : t ∈ space.members) {v : Visit} (hent : v.Enters t) : b.Defined v := by
  intro info effect hout
  obtain ⟨d, hd, u, hu, rfl⟩ := member_of_build hb h ht
  cases u with
  | experiment info' overrides =>
    have hent' : v.outcome = .experiment info' (b.effect d.info overrides) := hent
    rw [hout] at hent'
    cases hent'
    exact ⟨d, hd, overrides, hu, rfl⟩
  | domain info' =>
    have hent' : v.outcome = .domain info' := hent
    rw [hout] at hent'
    cases hent'

/-- What is met in a layer is defined. -/
theorem defined_of_visit (hb : b.Sound) (h : b.build version = .ok space) {scope : Scope}
    {l : Layer} (hl : l ∈ space.topLayers) {v : Visit} (hv : v ∈ l.visits scope) : b.Defined v := by
  intro info effect hout
  have hentered : v.entered? = some info.id := by simp [Visit.entered?, hout]
  obtain ⟨t, ht, hent, -⟩ := (enters_member scope).2 l v hv info.id hentered
  exact defined_of_enters hb h (List.mem_flatMap.2 ⟨l, hl, ht⟩) hent info effect hout

/-- What is met in a pass is defined. -/
theorem defined_of_pass (hb : b.Sound) (h : b.build version = .ok space) {scope : Scope}
    {layers : List Layer} (hsub : ∀ l ∈ layers, l ∈ space.topLayers) {visits : List Visit}
    (hvisits : layers.flatMap (·.visits scope) = visits) : ∀ v ∈ visits, b.Defined v := by
  intro v hv
  rw [← hvisits] at hv
  obtain ⟨l, hl, hv⟩ := List.mem_flatMap.1 hv
  exact defined_of_visit hb h (hsub l hl) hv

/-- **What a request meets is defined**, be it in a layer or in a segment that it is forced into. -/
theorem defined_build (hb : b.Sound) (h : b.build version = .ok space) {disabled : KeySet SegmentId}
    {host : Host} {draws : Draws} {context : Context} {carried : KeySet SegmentId} :
    ∀ v ∈ Snapshot.visits ⟨space, disabled⟩ host draws context carried, b.Defined v := by
  intro v hv info effect hout
  have hentered : v.entered? = some info.id := by simp [Visit.entered?, hout]
  obtain ⟨t, ht, hent, -⟩ := entered_member hb h hv hentered
  exact defined_of_enters hb h ht hent info effect hout

/-- The visits that have something to say of a flag are those that count. -/
theorem Defined.tells_iff (hb : b.Sound) {v : Visit} (hv : b.Defined v) (time : Int64)
    (flag : String) : Gain.tells time flag v = true ↔ ∃ change, b.Counts time flag change v := by
  cases hout : v.outcome with
  | experiment info effect =>
    obtain ⟨d, hd, overrides, hs, rfl⟩ := hv info effect hout
    have hmem := mem_segments_iff.2 ⟨d, hd, hs⟩
    have hnames : (b.effect d.info overrides).names flag = overrides.contains flag :=
      names_effect hb hmem d.info flag
    simp only [Gain.tells, hout, hnames, Bool.and_eq_true, Table.contains_iff]
    constructor
    · rintro ⟨hopen, change, hc⟩
      exact ⟨change, info, _, hout, hopen, (hb.changes_iff hmem).2 hc⟩
    · rintro ⟨change, info', effect', hout', hopen, hc⟩
      rw [hout] at hout'
      cases hout'
      exact ⟨hopen, change, (hb.changes_iff hmem).1 hc⟩
  | _ =>
    simp only [Gain.tells, hout, Bool.false_eq_true, false_iff]
    rintro ⟨_, _, _, hout', -⟩
    rw [hout] at hout'
    cases hout'

/-- What the last of some visits that counts for a flag leaves behind. -/
theorem get?_overrides_of_counts (hb : b.Sound) {scope : Scope} {before after : List Visit}
    {v : Visit} (hdefined : ∀ w ∈ before ++ v :: after, b.Defined w) {gain g : Gain}
    (hg : gain.visitAll scope (before ++ v :: after) = .ok g) {flag : String}
    {change : FlagOverride} (hv : b.Counts scope.context.time flag change v)
    (hlast : ∀ w ∈ after, ∀ c, ¬ b.Counts scope.context.time flag c w) {base : Calculator}
    (hbase : b.flags.get? flag = some base) :
    ∃ d ∈ b.drafts, ∃ s ∈ d.segments, v.entered? = some s.info.id ∧
      ∀ isIn : SegmentId → Prop, (∀ id, isIn id ↔ gain.ids.contains id = true ∨
        scope.carried.contains id = true ∨ Recorded (before ++ [v]) id) →
      (∀ id launch, d.info.launch = false → b.LaunchChanges id flag launch → isIn id →
        (∀ id' launch', b.LaunchChanges id' flag launch' → isIn id' → id' ≤ id) →
        g.overrides.get? flag = some (change.apply (launch.apply base))) ∧
      ((d.info.launch = true ∨ ∀ id launch, b.LaunchChanges id flag launch → ¬ isIn id) →
        g.overrides.get? flag = some (change.apply base)) := by
  obtain ⟨info, effect, hout, hopen, hchange⟩ := hv
  obtain ⟨d, hd, overrides, hs, rfl⟩ := hdefined v (by simp) info effect hout
  have hc := (hb.changes_iff (mem_segments_iff.2 ⟨d, hd, hs⟩)).1 hchange
  have hidle : ∀ w ∈ after, Gain.tells scope.context.time flag w = false := by
    refine fun w hw => Bool.eq_false_iff.2 fun htells => ?_
    obtain ⟨c, hcw⟩ := (Defined.tells_iff hb (hdefined w (by simp [hw])) _ _).1 htells
    exact hlast w hw c hcw
  refine ⟨d, hd, _, hs, by simp [Visit.entered?, hout, SegmentDefinition.info], ?_⟩
  intro isIn hisIn
  -- the ids that the effect is asked with are those that `isIn` names
  have hsame : ∀ isIn' : SegmentId → Bool, (∀ id, isIn' id = true ↔
      (gain.ids.contains id = true ∨ ∃ w ∈ before, w.recorded? = some id) ∨
        info.id = id ∨ scope.carried.contains id = true) → ∀ id, isIn' id = true ↔ isIn id := by
    intro isIn' h' id
    have hrec : v.recorded? = some info.id := by simp [Visit.recorded?, hout]
    rw [h', hisIn]
    simp only [Recorded, List.mem_append, List.mem_singleton, or_and_right, exists_or,
      exists_eq_left, hrec, Option.some.injEq]
    grind
  constructor
  · intro id launch hlayer hlaunch hin hgreatest
    refine Gain.get?_overrides_of_last hg hout hopen hidle fun isIn' h' => ?_
    refine calculator?_effect_launched hb hlayer hc hbase hlaunch ((hsame isIn' h' id).2 hin) ?_
    exact fun id' launch' hl' hin' => hgreatest id' launch' hl' ((hsame isIn' h' id').1 hin')
  · intro halone
    refine Gain.get?_overrides_of_last hg hout hopen hidle fun isIn' h' => ?_
    refine calculator?_effect_alone hb hc hbase (halone.imp_right fun hnone id launch hl => ?_)
    exact Bool.eq_false_iff.2 fun hin => hnone id launch hl ((hsame isIn' h' id).1 hin)

/-- What visits leave behind for a flag that none of them counts for. -/
theorem get?_overrides_of_not_counts (hb : b.Sound) {scope : Scope} {visits : List Visit}
    (hdefined : ∀ v ∈ visits, b.Defined v) {gain g : Gain}
    (hg : gain.visitAll scope visits = .ok g) {flag : String}
    (hnone : ∀ w ∈ visits, ∀ c, ¬ b.Counts scope.context.time flag c w) :
    g.overrides.get? flag = gain.overrides.get? flag := by
  refine Gain.get?_overrides_of_idle hg fun w hw => Bool.eq_false_iff.2 fun htells => ?_
  obtain ⟨c, hcw⟩ := (Defined.tells_iff hb (hdefined w hw) _ _).1 htells
  exact hnone w hw c hcw

/-! ## 2. Both passes -/

/-- The segments of a launch layer stand in the launch layers of the space. -/
theorem mem_ids_of_launch (hb : b.Sound) (h : b.build version = .ok space) {d : LayerDraft}
    (hd : d ∈ b.drafts) (hlaunch : d.info.launch = true) {s : SegmentDefinition}
    (hs : s ∈ d.segments) : ∃ l ∈ space.launchLayers, s.info.id ∈ l.ids := by
  refine ⟨_, (mem_launchLayers_iff hb h).2 ⟨d, hd, hlaunch, rfl⟩, ?_⟩
  have hmem : b.segmentOf b.assemble d.info s ∈ (b.layerOf b.assemble d).members :=
    Layer.mem_members_of_mem (List.mem_map_of_mem hs)
  exact List.mem_map.2 ⟨_, hmem, congrArg SegmentInfo.id (info_segmentOf ..)⟩

/-- Whether a segment is one of a launch layer, its draft and its layer say alike. -/
theorem launch_of_stands (hb : b.Sound) (h : b.build version = .ok space) {l : Layer}
    (hl : l ∈ space.layers) {s : Segment} (hs : s ∈ l.segments) {d : LayerDraft} (hd : d ∈ b.drafts)
    {t : SegmentDefinition} (ht : t ∈ d.segments) (hid : t.info.id = s.info.id) :
    d.info.launch = l.info.launch := by
  obtain ⟨e, he, rfl⟩ := layer_of_build hb h hl
  obtain ⟨u, hu, rfl⟩ := List.mem_map.1 hs
  rw [info_segmentOf] at hid
  obtain rfl := List.inj_on_of_nodup_map hb.segmentIds (mem_segments_iff.2 ⟨d, hd, ht⟩)
    (mem_segments_iff.2 ⟨e, he, hu⟩) hid
  rw [hb.eq_of_mem_segments hd he ht hu]
  rfl

/-- The draft of a segment that stands in a launch layer is that of one. -/
theorem launch_eq_true (hb : b.Sound) (h : b.build version = .ok space) {l : Layer}
    (hl : l ∈ space.launchLayers) {s : Segment} (hs : s ∈ l.segments) {d : LayerDraft}
    (hd : d ∈ b.drafts) {t : SegmentDefinition} (ht : t ∈ d.segments)
    (hid : t.info.id = s.info.id) : d.info.launch = true := by
  rw [launch_of_stands hb h (Space.mem_layers_of_top (List.mem_append_left _ hl)) hs hd ht hid]
  obtain ⟨e, -, hlaunch, rfl⟩ := (mem_launchLayers_iff hb h).1 hl
  exact hlaunch

/-- What a segment of a launch layer changes, it changes as one of a launch layer. -/
theorem launchChanges_of_stands (hb : b.Sound) (h : b.build version = .ok space) {l : Layer}
    (hl : l ∈ space.launchLayers) {s : Segment} (hs : s ∈ l.segments) {flag : String}
    {change : FlagOverride} (hchange : b.Changes s.info.id flag change) :
    b.LaunchChanges s.info.id flag change := by
  obtain ⟨t, ht, hid, hc⟩ := hchange
  obtain ⟨d, hd, ht⟩ := mem_segments_iff.1 ht
  exact ⟨t, mem_launchSegments_iff.2 ⟨d, hd, launch_eq_true hb h hl hs hd ht hid, ht⟩, hid, hc⟩

/-- A layer that is met in the second pass is no launch layer. -/
theorem launch_eq_false (hb : b.Sound) (h : b.build version = .ok space) {l : Layer}
    (hl : l ∈ space.permanentLayers) {d : LayerDraft} (hd : d ∈ b.drafts) {s : SegmentDefinition}
    (hs : s ∈ d.segments) (hid : s.info.id ∈ l.ids) : d.info.launch = false := by
  refine Bool.eq_false_iff.2 fun hlaunch => ?_
  obtain ⟨m, hm, hidm⟩ := mem_ids_of_launch hb h hd hlaunch hs
  exact Space.disjoint_passes (nodup_ids_build hb h) hm hl hidm hid

theorem launchLayers_subset (space : Space) : ∀ l ∈ space.launchLayers, l ∈ space.topLayers :=
  fun _ hl => List.mem_append_left _ hl

theorem permanentLayers_subset (space : Space) : ∀ l ∈ space.permanentLayers, l ∈ space.topLayers :=
  fun _ hl => List.mem_append_right _ hl

/-- The two passes of a new request that is not forced, and the calculators that they leave it. -/
theorem handle_unforced (hb : b.Sound) (h : b.build version = .ok space) {context : Context}
    (hf : context.forced.isEmpty = true) (disabled : KeySet SegmentId) (host : Host)
    (draws : Draws) : ∃ launched settled r,
      Gain.none.visitAll (Snapshot.scope ⟨space, disabled⟩ host draws context .empty topDomain)
        (Snapshot.launchVisits ⟨space, disabled⟩ host draws context .empty) = .ok launched ∧
      Gain.visitAll (Snapshot.scope ⟨space, disabled⟩ host draws context .empty topDomain)
        { launched with overrides := .empty }
        (Snapshot.permanentVisits ⟨space, disabled⟩ host draws context .empty) = .ok settled ∧
      (Snapshot.handle ⟨space, disabled⟩ host draws (.start context)).result = .ok r ∧
      (∀ id, r.ids.contains id = true ↔
        Recorded (Snapshot.visits ⟨space, disabled⟩ host draws context .empty) id) ∧
      ∀ flag, r.calculator? flag = (settled.overrides.get? flag).or
        ((launched.overrides.get? flag).or (b.flags.get? flag)) := by
  obtain ⟨d, hd⟩ :=
    Snapshot.divert_isOk (not_contested_build hb h disabled host draws context .empty)
  obtain ⟨launched, settled, hl, hs, rfl⟩ := Snapshot.passes_of_divert hf hd
  obtain ⟨r, hr, hids, hcalc⟩ := Snapshot.calculator?_handle hd
  refine ⟨launched, settled, r, hl, hs, hr, fun id => ?_, fun flag => ?_⟩
  · rw [hids, Snapshot.mem_ids_divert hd]
    rfl
  · have hflags : space.flags = b.flags := by
      rw [(build_ok h).2]
      rfl
    rw [hcalc, ← hflags]

end Builder

/-! ## 3. The last change decides -/

/-- **The last change decides.**  The experiments are met in ascending order of their layers, at
each depth.  The last one in its window that the second pass enters and that changes a flag gives
the flag its change, of what the greatest launch experiment makes of the flag whose id is recorded
by then, or else of the defined calculator.  A flag that no experiment in its window changes keeps
the calculator that is defined. -/
theorem resolves_by_last_change {declared : FlagRegistry} {calls : List Builder.Call}
    {version : String} {space : Space}
    (h : ((Builder.start declared).run calls).build version = .ok space) (context : Context)
    (hf : context.forced.isEmpty = true) (disabled : KeySet SegmentId) (host : Host)
    (draws : Draws) :
    let b := (Builder.start declared).run calls
    let launched := Snapshot.launchVisits ⟨space, disabled⟩ host draws context .empty
    let permanent := Snapshot.permanentVisits ⟨space, disabled⟩ host draws context .empty
    (Builder.Ascending space.permanentLayers ∧
      ∀ info layers, .domain info layers ∈ space.members → Builder.Ascending layers) ∧
    ∃ r, (Snapshot.handle ⟨space, disabled⟩ host draws (.start context)).result = .ok r ∧
      ∀ flag,
        (∀ before p after change, permanent = before ++ p :: after →
          b.Counts context.time flag change p →
          (∀ w ∈ after, ∀ c, ¬ b.Counts context.time flag c w) →
          ∃ base, b.flags.get? flag = some base ∧
            (∀ id launch, b.LaunchChanges id flag launch →
              Recorded (launched ++ before ++ [p]) id →
              (∀ id' launch', b.LaunchChanges id' flag launch' →
                Recorded (launched ++ before ++ [p]) id' → id' ≤ id) →
              r.calculator? flag = some (change.apply (launch.apply base))) ∧
            ((∀ id launch, b.LaunchChanges id flag launch →
                ¬ Recorded (launched ++ before ++ [p]) id) →
              r.calculator? flag = some (change.apply base))) ∧
        ((∀ w ∈ launched ++ permanent, ∀ c, ¬ b.Counts context.time flag c w) →
          r.calculator? flag = b.flags.get? flag) := by
  intro b launched permanent
  have hb : b.Sound := Builder.sound_run declared calls
  refine ⟨(Builder.ascending_build hb h).2, ?_⟩
  obtain ⟨first, settled, r, hfirst, hsettled, hr, -, hcalc⟩ :=
    Builder.handle_unforced hb h hf disabled host draws
  have hlaunched := Snapshot.launchVisits_eq ⟨space, disabled⟩ host draws context .empty
  have hpermanent := Snapshot.permanentVisits_eq ⟨space, disabled⟩ host draws context .empty
  have htop := Builder.permanentLayers_subset space
  refine ⟨r, hr, fun flag => ⟨?_, fun hnone => ?_⟩⟩
  · intro before p after change hsplit hcounts hlast
    have hgain := hsettled
    change Gain.visitAll _ _ permanent = _ at hgain
    rw [hsplit] at hgain
    obtain ⟨base, hbase⟩ := hcounts.defined hb
    obtain ⟨d, hd, s, hs, hid, hresolve⟩ := Builder.get?_overrides_of_counts hb
      (Builder.defined_of_pass hb h htop (hpermanent.symm.trans hsplit)) hgain hcounts hlast hbase
    have hlayer : d.info.launch = false := by
      have hp : p ∈ permanent := by simp [hsplit]
      change p ∈ Snapshot.permanentVisits ⟨space, disabled⟩ host draws context .empty at hp
      rw [hpermanent] at hp
      obtain ⟨l, hl, hp⟩ := List.mem_flatMap.1 hp
      exact Builder.launch_eq_false hb h hl hd hs (Layer.mem_ids_of_entered hp hid)
    -- the second pass starts with the ids that the first one recorded
    have hrecorded : ∀ id, Recorded (launched ++ before ++ [p]) id ↔
        first.ids.contains id = true ∨
          Table.contains (.empty : KeySet SegmentId) id = true ∨ Recorded (before ++ [p]) id := by
      intro id
      rw [Gain.contains_ids_visitAll hfirst]
      simp only [Recorded, List.append_assoc, List.mem_append, or_and_right, exists_or,
        Table.contains_empty, Bool.false_eq_true, false_or, Gain.none]
      rfl
    obtain ⟨hlaunch, halone⟩ := hresolve _ hrecorded
    refine ⟨base, hbase, fun id launch hid hin hgreatest => ?_, fun hnone => ?_⟩
    · rw [hcalc, hlaunch id launch hlayer hid hin hgreatest, Option.some_or]
    · rw [hcalc, halone (.inr hnone), Option.some_or]
  · have hsecond := Builder.get?_overrides_of_not_counts hb
      (Builder.defined_of_pass hb h htop hpermanent.symm) hsettled
      fun w hw => hnone w (List.mem_append_right _ hw)
    have hfirst' := Builder.get?_overrides_of_not_counts hb
      (Builder.defined_of_pass hb h (Builder.launchLayers_subset space) hlaunched.symm) hfirst
      fun w hw => hnone w (List.mem_append_left _ hw)
    rw [hcalc, hsecond, hfirst']
    rfl

/-- Three experiments change one flag: one of a launch layer, and two that are met in the second
pass, the later one of them in a domain. -/
def Builder.sharedCalls : List Builder.Call :=
  let info (id : SegmentId) (layer : LayerId) : SegmentInfo :=
    ⟨id, layer, 0, KeySet.ofKeys [0], .always, .always, .always⟩
  let changing (id : SegmentId) (layer : LayerId) (change : FlagOverride) : Builder.Call :=
    .segment (.experiment (info id layer) (Table.ofList [("f", change)]))
  [.flag ⟨"f", ⟨.int 1, []⟩⟩, .criterion ⟨0, 1, true⟩,
    .layer ⟨2, topDomain, false, 201, 202, 203⟩, .segment (.domain (info 20 2)),
    .layer ⟨3, 20, false, 301, 302, 303⟩,
    changing 30 3 (.append [.mk (.int 10) (.add .int) .always []]),
    .layer ⟨1, topDomain, false, 101, 102, 103⟩, changing 10 1 (.replace ⟨.int 7, []⟩),
    .layer ⟨4, topDomain, true, 401, 402, 403⟩, changing 40 4 (.replace ⟨.int 100, []⟩)]

/-- The change of the first experiment of the second pass is lost, and that of the last one works on
what the launch experiment made of the flag. -/
theorem resolves_by_last_change_shared : ∃ space r,
    ((Builder.start .empty).run Builder.sharedCalls).build "v" = .ok space ∧
    (Snapshot.handle ⟨space, .empty⟩ (fun _ _ => false) (fun _ _ _ => 0) (.start (.at 0))).result =
      .ok r ∧ r.ids.keys = [10, 30, 40] ∧
    r.calculator? "f" = some ⟨.int 100, [.mk (.int 10) (.add .int) .always []]⟩ := by
  have hbuild : ((Builder.start .empty).run Builder.sharedCalls).build "v" = .ok _ := rfl
  obtain ⟨-, r, hr, hcalc⟩ := resolves_by_last_change hbuild (.at 0) rfl .empty (fun _ _ => false)
    fun _ _ _ => 0
  have hkeys : r.ids.keys = [10, 30, 40] := by
    cases hr
    rfl
  -- the visits of the second pass: layer 1, the domain of layer 2, and in it layer 3
  obtain ⟨base, -, hlaunched, -⟩ := (hcalc "f").1 [_, _] _ [] _ rfl
    ⟨_, _, rfl, rfl, _, .tail _ (.tail _ (.head _)), rfl, rfl⟩ fun w hw => by cases hw
  refine ⟨_, r, hbuild, hr, hkeys, ?_⟩
  refine hlaunched 40 _ ⟨_, .head _, rfl, rfl⟩ ⟨_, .head _, rfl⟩ ?_
  rintro id' launch' ⟨s, hs, rfl, -⟩ -
  obtain rfl := List.mem_singleton.1 hs
  exact Int32.le_refl _

end Rollout
