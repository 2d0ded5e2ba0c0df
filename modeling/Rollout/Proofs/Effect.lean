import Mathlib.Data.List.Flatten
import Rollout.Proofs.Assembly
import Rollout.Proofs.Gain
/-!
# What an experiment does to a flag

The effect of an experiment is worked out when the space is put together: a calculator for every
flag that it changes, and one more for each launch experiment that changes the flag too.  This
module says what these tables come to, flag by flag, in terms of the changes that the builder was
given:

* `Builder.calculator?_effect_alone`: the experiment's change of the defined calculator, for a
  request that is in no launch experiment that changes the flag;
* `Builder.calculator?_effect_launched`: its change of what the greatest such launch experiment
  makes of the defined calculator;
* `Builder.names_effect`: and nothing for a flag that the experiment does not change.
-/

namespace Rollout

namespace Builder

/-! ## 1. Changes -/

/-- An accepted segment changes a flag. -/
def Changes (b : Builder) (id : SegmentId) (flag : String) (change : FlagOverride) : Prop :=
  ∃ s ∈ b.segments, s.info.id = id ∧ s.overrides.get? flag = some change

/-- The segments of launch layers. -/
def launchSegments (b : Builder) : List SegmentDefinition :=
  (b.drafts.filter (·.info.launch)).flatMap (·.segments)

/-- A segment of a launch layer changes a flag. -/
def LaunchChanges (b : Builder) (id : SegmentId) (flag : String) (change : FlagOverride) : Prop :=
  ∃ s ∈ b.launchSegments, s.info.id = id ∧ s.overrides.get? flag = some change

variable {b : Builder}

theorem mem_launchSegments_iff {s : SegmentDefinition} :
    s ∈ b.launchSegments ↔ ∃ d ∈ b.drafts, d.info.launch = true ∧ s ∈ d.segments := by
  simp only [launchSegments, List.mem_flatMap, List.mem_filter, and_assoc]

theorem LaunchChanges.changes {id : SegmentId} {flag : String} {change : FlagOverride}
    (h : b.LaunchChanges id flag change) : b.Changes id flag change := by
  obtain ⟨s, hs, hid, hc⟩ := h
  obtain ⟨d, hd, -, hs⟩ := mem_launchSegments_iff.1 hs
  exact ⟨s, mem_segments_iff.2 ⟨d, hd, hs⟩, hid, hc⟩

/-- The id decides on the segment, and so on the change. -/
theorem Sound.changes_iff (hb : b.Sound) {s : SegmentDefinition} (hs : s ∈ b.segments)
    {flag : String} {change : FlagOverride} :
    b.Changes s.info.id flag change ↔ s.overrides.get? flag = some change := by
  constructor
  · rintro ⟨t, ht, hid, hc⟩
    obtain rfl := List.inj_on_of_nodup_map hb.segmentIds ht hs hid
    exact hc
  · intro hc
    exact ⟨s, hs, rfl, hc⟩

/-- A flag that is changed is defined. -/
theorem Changes.defined (hb : b.Sound) {id : SegmentId} {flag : String} {change : FlagOverride}
    (h : b.Changes id flag change) : ∃ base, b.flags.get? flag = some base := by
  obtain ⟨s, hs, -, hc⟩ := h
  obtain ⟨base, hbase, -⟩ := hb.overrides s hs flag change hc
  exact ⟨base, hbase⟩

/-! ## 2. Changed calculators -/

/-- Each change meets the calculator of its flag. -/
theorem get?_overridden (overrides : Table String FlagOverride) (calculators : Overrides)
    (flag : String) : (overridden overrides calculators).get? flag =
      (overrides.get? flag).bind fun change => (calculators.get? flag).map change.apply := by
  have hstep : overridden overrides calculators = overrides.entries.foldl (fun made entry =>
      ((calculators.get? entry.1).map entry.2.apply).elim made (made.insert entry.1)) .empty := by
    unfold overridden
    congr 1
    funext made entry
    cases calculators.get? entry.1 <;> rfl
  refine Option.ext fun c => ?_
  rw [hstep, Table.get?_foldl_insert_some (fun entry : String × FlagOverride => entry.1)
    (fun entry => (calculators.get? entry.1).map entry.2.apply) flag c _ _
    (Table.nodup_keys overrides)]
  simp only [Table.get?_empty, reduceCtorEq, and_false, or_false, Option.bind_eq_some_iff]
  constructor
  · rintro ⟨⟨name, change⟩, hmem, rfl, hc⟩
    exact ⟨change, Table.get?_eq_some_iff.2 hmem, hc⟩
  · rintro ⟨change, hchange, hc⟩
    exact ⟨(flag, change), Table.get?_eq_some_iff.1 hchange, rfl, hc⟩

/-- What an experiment makes of the calculators of a launch experiment, if anything. -/
def launchEffect? (b : Builder) (overrides : Table String FlagOverride)
    (launch : SegmentDefinition) : Option Overrides :=
  if (overridden overrides (overridden launch.overrides b.flags)).isEmpty then none
  else some (overridden overrides (overridden launch.overrides b.flags))

/-- The entries for launch experiments, each under its id. -/
theorem get?_launchEffects_eq_some_iff (hb : b.Sound) {overrides : Table String FlagOverride}
    {id : SegmentId} {made : Overrides} : (b.launchEffects overrides).get? id = some made ↔
      ∃ s ∈ b.launchSegments, s.info.id = id ∧ b.launchEffect? overrides s = some made := by
  have hstep : b.launchEffects overrides = b.launchSegments.foldl (fun effects segment =>
      (b.launchEffect? overrides segment).elim effects (effects.insert segment.info.id))
        .empty := by
    unfold launchEffects
    dsimp only
    congr 1
    funext effects segment
    unfold launchEffect?
    split <;> rfl
  have hnodup : (b.launchSegments.map (·.info.id)).Nodup := by
    refine hb.segmentIds.sublist (List.Sublist.map _ ?_)
    exact List.Sublist.flatMap List.filter_sublist _
  rw [hstep, Table.get?_foldl_insert_some (fun s : SegmentDefinition => s.info.id)
    (b.launchEffect? overrides) id made _ _ hnodup]
  simp

/-- **What an experiment makes of launch experiments.**  It has a calculator for a launch experiment
and a flag if both change the flag: its own change of what the other one makes of the flag. -/
theorem get?_launchEffects (hb : b.Sound) (overrides : Table String FlagOverride) (id : SegmentId)
    (flag : String) (c : Calculator) :
    ((b.launchEffects overrides).get? id).bind (·.get? flag) = some c ↔
      ∃ launch change base, b.LaunchChanges id flag launch ∧ overrides.get? flag = some change ∧
        b.flags.get? flag = some base ∧ c = change.apply (launch.apply base) := by
  have hmade : ∀ launch : Table String FlagOverride,
      (overridden overrides (overridden launch b.flags)).get? flag =
        (overrides.get? flag).bind fun change => (launch.get? flag).bind fun first =>
          (b.flags.get? flag).map fun base => change.apply (first.apply base) := by
    intro launch
    rw [get?_overridden, get?_overridden]
    cases overrides.get? flag <;> cases launch.get? flag <;> cases b.flags.get? flag <;> rfl
  simp only [Option.bind_eq_some_iff, get?_launchEffects_eq_some_iff hb]
  constructor
  · rintro ⟨made, ⟨s, hs, hid, hvalue⟩, hc⟩
    unfold launchEffect? at hvalue
    split at hvalue
    · cases hvalue
    · cases hvalue
      rw [hmade] at hc
      simp only [Option.bind_eq_some_iff, Option.map_eq_some_iff] at hc
      obtain ⟨change, hchange, launch, hlaunch, base, hbase, rfl⟩ := hc
      exact ⟨launch, change, base, ⟨s, hs, hid, hlaunch⟩, hchange, hbase, rfl⟩
  · rintro ⟨launch, change, base, ⟨s, hs, hid, hlaunch⟩, hchange, hbase, rfl⟩
    have hget : (overridden overrides (overridden s.overrides b.flags)).get? flag =
        some (change.apply (launch.apply base)) := by
      rw [hmade, hchange, hlaunch, hbase]
      rfl
    refine ⟨_, ⟨s, hs, hid, if_neg fun hempty => ?_⟩, hget⟩
    rw [Table.isEmpty_iff.1 hempty flag] at hget
    cases hget

/-! ## 3. Effects -/

/-- A launch entry of an effect, as the changes that it is made of. -/
theorem launch_of_effect (hb : b.Sound) {layer : LayerInfo} {overrides : Table String FlagOverride}
    {id : SegmentId} {made : Overrides} {flag : String}
    (hmade : (b.effect layer overrides).launch.get? id = some made)
    (hflag : (made.get? flag).isSome = true) : layer.launch = false ∧
      overrides.contains flag = true ∧ ∃ launch, b.LaunchChanges id flag launch := by
  cases hlayer : layer.launch with
  | true =>
    simp only [effect, hlayer, if_true, Table.get?_empty, reduceCtorEq] at hmade
  | false =>
    simp only [effect, hlayer, Bool.false_eq_true, if_false] at hmade
    obtain ⟨c, hc⟩ := Option.isSome_iff_exists.1 hflag
    have hbind : ((b.launchEffects overrides).get? id).bind (·.get? flag) = some c := by
      rw [hmade]
      exact hc
    obtain ⟨launch, change, -, hlaunch, hchange, -⟩ :=
      (get?_launchEffects hb overrides id flag c).1 hbind
    exact ⟨rfl, Table.contains_iff.2 ⟨change, hchange⟩, launch, hlaunch⟩

/-- The calculator for a request that is in no launch experiment that changes the flag. -/
theorem calculator?_effect_alone (hb : b.Sound) {layer : LayerInfo}
    {overrides : Table String FlagOverride} {flag : String} {change : FlagOverride}
    {base : Calculator} {isIn : SegmentId → Bool} (hchange : overrides.get? flag = some change)
    (hbase : b.flags.get? flag = some base)
    (halone : layer.launch = true ∨ ∀ id launch, b.LaunchChanges id flag launch → isIn id = false) :
    (b.effect layer overrides).calculator? isIn flag = some (change.apply base) := by
  rw [Effect.calculator?_of_no_launch fun id made hmade hflag => ?_]
  · rw [effect, get?_overridden, hchange, hbase]
    rfl
  · obtain ⟨hlayer, -, launch, hlaunch⟩ := launch_of_effect hb hmade hflag
    rcases halone with htrue | halone
    · rw [hlayer] at htrue
      cases htrue
    · exact halone id launch hlaunch

/-- The calculator for a request that is in launch experiments that change the flag: the greatest of
them counts. -/
theorem calculator?_effect_launched (hb : b.Sound) {layer : LayerInfo}
    {overrides : Table String FlagOverride} {flag : String} {change launch : FlagOverride}
    {base : Calculator} {isIn : SegmentId → Bool} {id : SegmentId} (hlayer : layer.launch = false)
    (hchange : overrides.get? flag = some change) (hbase : b.flags.get? flag = some base)
    (hlaunch : b.LaunchChanges id flag launch) (hin : isIn id = true)
    (hgreatest : ∀ id' launch', b.LaunchChanges id' flag launch' → isIn id' = true → id' ≤ id) :
    (b.effect layer overrides).calculator? isIn flag =
      some (change.apply (launch.apply base)) := by
  have hbind := (get?_launchEffects hb overrides id flag _).2
    ⟨launch, change, base, hlaunch, hchange, hbase, rfl⟩
  obtain ⟨made, hmade, hcalc⟩ := Option.bind_eq_some_iff.1 hbind
  have heffect : (b.effect layer overrides).launch = b.launchEffects overrides := by
    simp only [effect, hlayer, Bool.false_eq_true, if_false]
  refine Effect.calculator?_of_greatest (heffect ▸ hmade) hcalc hin ?_
  intro id' made' hmade' hin' hflag
  obtain ⟨-, -, launch', hlaunch'⟩ := launch_of_effect hb hmade' hflag
  exact hgreatest id' launch' hlaunch' hin'

/-- An effect has something to say of the flags that the experiment changes, and of no others. -/
theorem names_effect (hb : b.Sound) {s : SegmentDefinition} (hs : s ∈ b.segments)
    (layer : LayerInfo) (flag : String) :
    (b.effect layer s.overrides).names flag = s.overrides.contains flag := by
  cases hc : s.overrides.get? flag with
  | none =>
    have hbase : ((b.effect layer s.overrides).base.get? flag) = none := by
      rw [effect, get?_overridden, hc]
      rfl
    rw [Effect.names, Table.contains, hbase, Table.contains, hc]
    refine List.any_eq_false.2 fun e he hflag => ?_
    obtain ⟨-, hnames, -⟩ := launch_of_effect hb (Table.get?_eq_some_iff.2 he) hflag
    rw [Table.contains, hc] at hnames
    cases hnames
  | some change =>
    obtain ⟨base, hbase, -⟩ := hb.overrides s hs flag change hc
    have hget : (b.effect layer s.overrides).base.get? flag = some (change.apply base) := by
      rw [effect, get?_overridden, hc, hbase]
      rfl
    rw [Effect.names, Table.contains, hget, Table.contains, hc]
    rfl

end Builder

end Rollout
