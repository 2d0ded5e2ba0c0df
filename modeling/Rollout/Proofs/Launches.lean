import Rollout.Proofs.Resolution
/-!
# Two launch layers and one flag

A builder knows layers by whether they are launch layers, and a diversion by the pass in which they
are met.  The two differ for a layer that is no launch layer and is nested in a domain of one: it is
met in the first pass, among the launch layers.

So take an experiment of a launch layer, and another one that is nested in another launch layer,
both of which change a flag (`Builder.Crossing`).  The second one's change is meant to work on what
the first one made of the flag.  It does if its launch layer comes second.  If it comes first, its
change is lost: the launch experiment writes the flag over it (`resolves_across_launch_layers`).
-/

namespace Rollout

/-- Whether a segment of an id is entered in one of the visits. -/
def Entered (visits : List Visit) (id : SegmentId) : Prop := ∃ v ∈ visits, v.entered? = some id

/-- Either no member of a list has a property, or there is a last one that has it. -/
theorem none_or_last {α : Type} (p : α → Prop) : ∀ l : List α, (∀ a ∈ l, ¬ p a) ∨
    ∃ before a after, l = before ++ a :: after ∧ p a ∧ ∀ c ∈ after, ¬ p c
  | [] => .inl fun _ h => by cases h
  | first :: rest => by
    rcases none_or_last p rest with hnone | ⟨before, a, after, rfl, ha, hafter⟩
    · by_cases hp : p first
      · exact .inr ⟨[], first, rest, rfl, hp, hnone⟩
      · exact .inl (List.forall_mem_cons.2 ⟨hp, hnone⟩)
    · exact .inr ⟨first :: before, a, after, rfl, ha, hafter⟩

namespace Builder

/-- An experiment of a launch layer `L` and one that is nested in another launch layer `P` change a
flag at a time in their windows. -/
structure Crossing (b : Builder) (space : Space) (flag : String) (time : Int64) (L P : Layer)
    (l p : Segment) (launch change : FlagOverride) : Prop where
  mem_launch : L ∈ space.launchLayers
  stands : l ∈ L.segments
  mem_other : P ∈ space.launchLayers
  ne : L ≠ P
  nested : ∃ s ∈ P.segments, p ∈ s.members
  changes : b.Changes l.info.id flag launch
  changes_other : b.Changes p.info.id flag change
  inWindow : l.info.overridesWindow.contains time = true
  inWindow_other : p.info.overridesWindow.contains time = true

variable {b : Builder} {version : String} {space : Space}

/-! ## 1. Entering an experiment -/

/-- Entering a segment that changes a flag, in its window, counts. -/
theorem counts_of_entered (hb : b.Sound) (h : b.build version = .ok space) {scope : Scope}
    {m : Layer} (hm : m ∈ space.topLayers) {v : Visit} (hv : v ∈ m.visits scope) {s : Segment}
    (hs : s ∈ space.members) (hid : v.entered? = some s.info.id) {flag : String}
    {change : FlagOverride} {time : Int64} (hchange : b.Changes s.info.id flag change)
    (hopen : s.info.overridesWindow.contains time = true) :
    b.Counts time flag change v ∧ v.recorded? = some s.info.id := by
  obtain ⟨t, ht, hent, htid, -⟩ := (enters_member scope).2 m v hv _ hid
  obtain rfl := Space.eq_of_id_eq (nodup_ids_build hb h) (List.mem_flatMap.2 ⟨m, hm, ht⟩) hs htid
  obtain ⟨info, effect, rfl⟩ := experiment_of_changes hb h hs hchange
  have hout : v.outcome = .experiment info effect := hent
  exact ⟨⟨info, effect, hout, hopen, hchange⟩, by simp [Visit.recorded?, hout]⟩

/-- A layer in which a segment is entered is the one that the segment is in. -/
theorem eq_of_entered (hb : b.Sound) (h : b.build version = .ok space) {scope : Scope} {m k : Layer}
    (hm : m ∈ space.topLayers) (hk : k ∈ space.topLayers) {v : Visit} (hv : v ∈ m.visits scope)
    {id : SegmentId} (hid : v.entered? = some id) (hidk : id ∈ k.ids) : m = k :=
  Space.eq_of_mem_ids (nodup_ids_build hb h) hm hk (Layer.mem_ids_of_entered hv hid) hidk

namespace Crossing

variable {flag : String} {time : Int64} {L P : Layer} {l p : Segment} {launch change : FlagOverride}

theorem top (hx : b.Crossing space flag time L P l p launch change) : L ∈ space.topLayers :=
  launchLayers_subset space L hx.mem_launch

theorem top_other (hx : b.Crossing space flag time L P l p launch change) : P ∈ space.topLayers :=
  launchLayers_subset space P hx.mem_other

theorem mem (hx : b.Crossing space flag time L P l p launch change) : l ∈ L.members :=
  Layer.mem_members_of_mem hx.stands

theorem mem_members_other (hx : b.Crossing space flag time L P l p launch change) :
    p ∈ P.members := by
  obtain ⟨s, hs, hp⟩ := hx.nested
  exact Layer.mem_members_iff.2 ⟨s, hs, .inr hp⟩

theorem mem_ids (hx : b.Crossing space flag time L P l p launch change) : l.info.id ∈ L.ids :=
  List.mem_map_of_mem hx.mem

theorem mem_ids_other (hx : b.Crossing space flag time L P l p launch change) :
    p.info.id ∈ P.ids :=
  List.mem_map_of_mem hx.mem_members_other

/-- The draft of the launch experiment is that of a launch layer. -/
theorem launch_eq_true (hb : b.Sound) (h : b.build version = .ok space)
    (hx : b.Crossing space flag time L P l p launch change) {d : LayerDraft} (hd : d ∈ b.drafts)
    {s : SegmentDefinition} (hs : s ∈ d.segments) (hid : s.info.id = l.info.id) :
    d.info.launch = true :=
  Builder.launch_eq_true hb h hx.mem_launch hx.stands hd hs hid

/-- The draft of the nested experiment is not. -/
theorem launch_eq_false_other (hb : b.Sound) (h : b.build version = .ok space)
    (hx : b.Crossing space flag time L P l p launch change) {d : LayerDraft} (hd : d ∈ b.drafts)
    {s : SegmentDefinition} (hs : s ∈ d.segments) (hid : s.info.id = p.info.id) :
    d.info.launch = false := by
  refine Bool.eq_false_iff.2 fun hlaunch => ?_
  have hnodup := nodup_ids_build hb h
  have hlayer := (mem_launchLayers_iff hb h).2 ⟨d, hd, hlaunch, rfl⟩
  have hstands : b.segmentOf b.assemble d.info s ∈ (b.layerOf b.assemble d).segments :=
    List.mem_map_of_mem hs
  have hsid : (b.segmentOf b.assemble d.info s).info.id = p.info.id := by
    rw [info_segmentOf, hid]
  have heq : b.layerOf b.assemble d = P := by
    refine Space.eq_of_mem_ids hnodup (launchLayers_subset space _ hlayer) hx.top_other ?_
      hx.mem_ids_other
    exact List.mem_map.2 ⟨_, Layer.mem_members_of_mem hstands, hsid⟩
  obtain ⟨t, ht, hp⟩ := hx.nested
  rw [heq] at hstands
  rw [Space.ids_eq] at hnodup
  exact Layer.id_ne_of_nested ((List.nodup_flatMap.1 hnodup).1 P hx.top_other) ht hp hstands hsid

theorem launchChanges (hb : b.Sound) (h : b.build version = .ok space)
    (hx : b.Crossing space flag time L P l p launch change) :
    b.LaunchChanges l.info.id flag launch :=
  launchChanges_of_stands hb h hx.mem_launch hx.stands hx.changes

theorem not_launchChanges_other (hb : b.Sound) (h : b.build version = .ok space)
    (hx : b.Crossing space flag time L P l p launch change) (c : FlagOverride) :
    ¬ b.LaunchChanges p.info.id flag c := by
  rintro ⟨s, hs, hid, -⟩
  obtain ⟨d, hd, hlaunch, hs⟩ := mem_launchSegments_iff.1 hs
  rw [hx.launch_eq_false_other hb h hd hs hid] at hlaunch
  cases hlaunch

end Crossing

/-! ## 2. Which of the two is last -/

/-- Of two launch layers, the one with the smaller id is met first. -/
theorem launchLayers_split (hb : b.Sound) (h : b.build version = .ok space) {K M : Layer}
    (hK : K ∈ space.launchLayers) (hM : M ∈ space.launchLayers) (hlt : K.info.id < M.info.id) :
    ∃ before after, space.launchLayers = before ++ M :: after ∧ K ∈ before ∧ K ∉ M :: after := by
  obtain ⟨before, after, hsplit⟩ := List.append_of_mem hM
  have hasc : Ascending space.launchLayers := (ascending_build hb h).1
  rw [hsplit, Ascending, List.pairwise_append, List.pairwise_cons] at hasc
  have hnot : K ∉ M :: after := by
    intro hmem
    rcases List.mem_cons.1 hmem with rfl | hmem
    · exact Int32.lt_irrefl hlt
    · exact Int32.lt_irrefl (Int32.lt_trans hlt (hasc.2.1.1 K hmem))
  rw [hsplit] at hK
  exact ⟨before, after, hsplit, (List.mem_append.1 hK).resolve_right hnot, hnot⟩

/-- Launch layers that are not the same have different ids. -/
theorem lt_or_lt (hb : b.Sound) (h : b.build version = .ok space) {K M : Layer}
    (hK : K ∈ space.launchLayers) (hM : M ∈ space.launchLayers) (hne : K ≠ M) :
    K.info.id < M.info.id ∨ M.info.id < K.info.id := by
  have hapart : space.launchLayers.Pairwise fun K M =>
      K.info.id < M.info.id ∨ M.info.id < K.info.id := (ascending_build hb h).1.imp .inl
  have : Std.Symm fun K M : Layer => K.info.id < M.info.id ∨ M.info.id < K.info.id :=
    ⟨fun _ _ => Or.symm⟩
  exact hapart.forall hK hM hne

/-- **The later layer has the last word.**  If only two experiments count for a flag, in different
launch layers, and the one in the later layer is entered, then it is the last one that counts, and
the other one was met before. -/
theorem last_of_later (hb : b.Sound) (h : b.build version = .ok space) {scope : Scope}
    {K M : Layer} (hK : K ∈ space.launchLayers) (hM : M ∈ space.launchLayers)
    (hlt : K.info.id < M.info.id) {k m : SegmentId} (hk : k ∈ K.ids) (hm : m ∈ M.ids)
    {time : Int64} {flag : String} {visits : List Visit}
    (hvisits : visits = space.launchLayers.flatMap (·.visits scope))
    (honly : ∀ w ∈ visits, ∀ c, b.Counts time flag c w →
      w.entered? = some k ∨ w.entered? = some m)
    (hcounts : ∀ w ∈ visits, w.entered? = some m → ∃ c, b.Counts time flag c w)
    (hent : Entered visits m) :
    ∃ before v after, visits = before ++ v :: after ∧ v.entered? = some m ∧
      (∀ w ∈ after, ∀ c, ¬ b.Counts time flag c w) ∧
      ∀ w ∈ visits, w.entered? = some k → w ∈ before := by
  obtain ⟨first, rest, hsplit, hKfirst, hKrest⟩ := launchLayers_split hb h hK hM hlt
  have htop := launchLayers_subset space
  rw [hsplit, List.flatMap_append] at hvisits
  have hwhere : ∀ w ∈ visits, ∃ l ∈ space.launchLayers, w ∈ l.visits scope := by
    intro w hw
    rw [hvisits, ← List.flatMap_append, ← hsplit] at hw
    exact List.mem_flatMap.1 hw
  rcases none_or_last (fun w => ∃ c, b.Counts time flag c w)
    ((M :: rest).flatMap (·.visits scope)) with hnone | ⟨before, v, after, heq, ⟨c, hv⟩, hafter⟩
  · -- but the experiment of the later layer is entered there
    obtain ⟨w, hw, hwm⟩ := hent
    obtain ⟨l, hl, hwl⟩ := hwhere w hw
    obtain rfl := eq_of_entered hb h (htop l hl) (htop M hM) hwl hwm hm
    exact absurd (hcounts w hw hwm)
      (hnone w (List.mem_flatMap.2 ⟨l, List.mem_cons_self, hwl⟩))
  · have hvrest : v ∈ (M :: rest).flatMap (·.visits scope) := by simp [heq]
    have hvm : v.entered? = some m := by
      have hvisit : v ∈ visits := by
        rw [hvisits]
        exact List.mem_append_right _ hvrest
      refine (honly v hvisit c hv).resolve_left fun hvk => ?_
      obtain ⟨l, hl, hvl⟩ := List.mem_flatMap.1 hvrest
      have hl' : l ∈ space.launchLayers := by
        rw [hsplit]
        exact List.mem_append_right _ hl
      obtain rfl := eq_of_entered hb h (htop l hl') (htop K hK) hvl hvk hk
      exact hKrest hl
    refine ⟨first.flatMap (·.visits scope) ++ before, v, after, ?_, hvm, ?_, ?_⟩
    · rw [hvisits, heq, List.append_assoc]
    · exact fun w hw c hc => hafter w hw ⟨c, hc⟩
    · intro w hw hwk
      obtain ⟨l, hl, hwl⟩ := hwhere w hw
      obtain rfl := eq_of_entered hb h (htop l hl) (htop K hK) hwl hwk hk
      exact List.mem_append_left _ (List.mem_flatMap.2 ⟨l, hKfirst, hwl⟩)

/-! ## 3. What the flag resolves to -/

section

variable {flag : String} {L P : Layer} {l p : Segment} {launch change : FlagOverride}
  {context : Context} {disabled : KeySet SegmentId} {host : Host} {draws : Draws}

/-- Entering one of the two experiments in a launch layer counts. -/
theorem counts_of_mem_launchVisits (hb : b.Sound) (h : b.build version = .ok space) {v : Visit}
    (hv : v ∈ Snapshot.launchVisits ⟨space, disabled⟩ host draws context .empty) {s : Segment}
    {c : FlagOverride} {k : Layer} (hk : k ∈ space.topLayers) (hs : s ∈ k.members)
    (hid : v.entered? = some s.info.id) (hchange : b.Changes s.info.id flag c)
    (hopen : s.info.overridesWindow.contains context.time = true) :
    b.Counts context.time flag c v ∧ v.recorded? = some s.info.id := by
  rw [Snapshot.launchVisits_eq] at hv
  obtain ⟨m, hm, hv⟩ := List.mem_flatMap.1 hv
  exact counts_of_entered hb h (launchLayers_subset space m hm) hv
    (List.mem_flatMap.2 ⟨k, hk, hs⟩) hid hchange hopen

/-- A visit that counts enters an experiment, records it, and changes the flag by it. -/
theorem Counts.entered {time : Int64} {c : FlagOverride} {v : Visit}
    (h : b.Counts time flag c v) :
    ∃ id, v.entered? = some id ∧ v.recorded? = some id ∧ b.Changes id flag c := by
  obtain ⟨info, effect, hout, -, hc⟩ := h
  exact ⟨info.id, by simp [Visit.entered?, hout], by simp [Visit.recorded?, hout], hc⟩

namespace Crossing

section

variable (hb : b.Sound) (h : b.build version = .ok space)
  (hx : b.Crossing space flag context.time L P l p launch change)

include hb h hx

theorem counts_launch {v : Visit}
    (hv : v ∈ Snapshot.launchVisits ⟨space, disabled⟩ host draws context .empty)
    (hid : v.entered? = some l.info.id) :
    b.Counts context.time flag launch v ∧ v.recorded? = some l.info.id :=
  counts_of_mem_launchVisits hb h hv hx.top hx.mem hid hx.changes hx.inWindow

theorem counts_other {v : Visit}
    (hv : v ∈ Snapshot.launchVisits ⟨space, disabled⟩ host draws context .empty)
    (hid : v.entered? = some p.info.id) :
    b.Counts context.time flag change v ∧ v.recorded? = some p.info.id :=
  counts_of_mem_launchVisits hb h hv hx.top_other hx.mem_members_other hid hx.changes_other
    hx.inWindow_other

/-- In the second pass none of the two experiments is met. -/
theorem not_counts_permanent
    (honly : ∀ id c,
      Recorded (Snapshot.permanentVisits ⟨space, disabled⟩ host draws context .empty) id →
      b.Changes id flag c → id = l.info.id ∨ id = p.info.id) :
    ∀ w ∈ Snapshot.permanentVisits ⟨space, disabled⟩ host draws context .empty, ∀ c,
      ¬ b.Counts context.time flag c w := by
  intro w hw c hc
  obtain ⟨id, hent, hrec, hchange⟩ := hc.entered
  have hid := honly id c ⟨w, hw, hrec⟩ hchange
  rw [Snapshot.permanentVisits_eq] at hw
  obtain ⟨m, hm, hw⟩ := List.mem_flatMap.1 hw
  have hidm : id ∈ m.ids := Layer.mem_ids_of_entered hw hent
  have hnodup := nodup_ids_build hb h
  rcases hid with rfl | rfl
  · exact Space.disjoint_passes hnodup hx.mem_launch hm hx.mem_ids hidm
  · exact Space.disjoint_passes hnodup hx.mem_other hm hx.mem_ids_other hidm

end

theorem entered_of_counts
    (honly : ∀ id c,
      Recorded (Snapshot.launchVisits ⟨space, disabled⟩ host draws context .empty) id →
      b.Changes id flag c → id = l.info.id ∨ id = p.info.id)
    {w : Visit} (hw : w ∈ Snapshot.launchVisits ⟨space, disabled⟩ host draws context .empty)
    {c : FlagOverride} (hc : b.Counts context.time flag c w) :
    w.entered? = some l.info.id ∨ w.entered? = some p.info.id := by
  obtain ⟨id, hent, hrec, hchange⟩ := hc.entered
  rcases honly id c ⟨w, hw, hrec⟩ hchange with rfl | rfl
  · exact .inl hent
  · exact .inr hent

/-- If none of them is entered, the pass leaves the flag alone. -/
theorem get?_of_neither (hb : b.Sound) (h : b.build version = .ok space) {first : Gain}
    (hfirst :
      Gain.none.visitAll (Snapshot.scope ⟨space, disabled⟩ host draws context .empty topDomain)
        (Snapshot.launchVisits ⟨space, disabled⟩ host draws context .empty) = .ok first)
    (honly : ∀ id c,
      Recorded (Snapshot.launchVisits ⟨space, disabled⟩ host draws context .empty) id →
      b.Changes id flag c → id = l.info.id ∨ id = p.info.id)
    (hl : ¬ Entered (Snapshot.launchVisits ⟨space, disabled⟩ host draws context .empty) l.info.id)
    (hp : ¬ Entered (Snapshot.launchVisits ⟨space, disabled⟩ host draws context .empty) p.info.id) :
    first.overrides.get? flag = none := by
  refine get?_overrides_of_not_counts hb (defined_of_pass hb h (launchLayers_subset space)
    (Snapshot.launchVisits_eq ⟨space, disabled⟩ host draws context .empty).symm) hfirst ?_
  intro w hw c hc
  rcases entered_of_counts honly hw hc with hwl | hwp
  · exact hl ⟨w, hw, hwl⟩
  · exact hp ⟨w, hw, hwp⟩

section

-- a first pass in which nothing but the two experiments changes the flag
variable (hb : b.Sound) (h : b.build version = .ok space)
  (hx : b.Crossing space flag context.time L P l p launch change) {first : Gain}
  (hfirst :
    Gain.none.visitAll (Snapshot.scope ⟨space, disabled⟩ host draws context .empty topDomain)
      (Snapshot.launchVisits ⟨space, disabled⟩ host draws context .empty) = .ok first)
  (honly : ∀ id c, Recorded (Snapshot.launchVisits ⟨space, disabled⟩ host draws context .empty) id →
    b.Changes id flag c → id = l.info.id ∨ id = p.info.id)
  {base : Calculator} (hbase : b.flags.get? flag = some base)

include hb h hfirst hbase

/-- What the pass leaves behind, by the last visit that counts. -/
theorem get?_of_last {before after : List Visit} {v : Visit}
    (hsplit : Snapshot.launchVisits ⟨space, disabled⟩ host draws context .empty =
      before ++ v :: after)
    (hlast : ∀ w ∈ after, ∀ c, ¬ b.Counts context.time flag c w) {c : FlagOverride}
    (hcounts : b.Counts context.time flag c v) :
    ∃ d ∈ b.drafts, ∃ s ∈ d.segments, v.entered? = some s.info.id ∧
      (∀ id launch', d.info.launch = false → b.LaunchChanges id flag launch' →
        Recorded (before ++ [v]) id →
        (∀ id' launch'', b.LaunchChanges id' flag launch'' → Recorded (before ++ [v]) id' →
          id' ≤ id) →
        first.overrides.get? flag = some (c.apply (launch'.apply base))) ∧
      ((d.info.launch = true ∨
          ∀ id launch', b.LaunchChanges id flag launch' → ¬ Recorded (before ++ [v]) id) →
        first.overrides.get? flag = some (c.apply base)) := by
  have hvisits := (Snapshot.launchVisits_eq ⟨space, disabled⟩ host draws context .empty).symm
  rw [hsplit] at hfirst hvisits
  obtain ⟨d, hd, s, hs, hid, hresolve⟩ := get?_overrides_of_counts hb
    (defined_of_pass hb h (launchLayers_subset space) hvisits) hfirst hcounts hlast hbase
  -- a new request carries nothing, and a pass starts with nothing recorded
  exact ⟨d, hd, s, hs, hid, hresolve (Recorded (before ++ [v])) fun id => by
    simp [Gain.none, Snapshot.scope]⟩

include hx

theorem get?_of_last_launch {before after : List Visit} {v : Visit}
    (hsplit : Snapshot.launchVisits ⟨space, disabled⟩ host draws context .empty =
      before ++ v :: after)
    (hlast : ∀ w ∈ after, ∀ c, ¬ b.Counts context.time flag c w)
    (hvl : v.entered? = some l.info.id) : first.overrides.get? flag = some (launch.apply base) := by
  have hv : v ∈ Snapshot.launchVisits ⟨space, disabled⟩ host draws context .empty := by
    simp [hsplit]
  obtain ⟨d, hd, s, hs, hid, -, halone⟩ :=
    get?_of_last hb h hfirst hbase hsplit hlast (hx.counts_launch hb h hv hvl).1
  have hsl : s.info.id = l.info.id := Option.some.inj (hid.symm.trans hvl)
  exact halone (.inl (hx.launch_eq_true hb h hd hs hsl))

include honly

theorem get?_of_last_other {before after : List Visit} {v : Visit}
    (hsplit : Snapshot.launchVisits ⟨space, disabled⟩ host draws context .empty =
      before ++ v :: after)
    (hlast : ∀ w ∈ after, ∀ c, ¬ b.Counts context.time flag c w)
    (hvp : v.entered? = some p.info.id) :
    (Recorded (before ++ [v]) l.info.id →
      first.overrides.get? flag = some (change.apply (launch.apply base))) ∧
    (¬ Recorded (before ++ [v]) l.info.id →
      first.overrides.get? flag = some (change.apply base)) := by
  have hv : v ∈ Snapshot.launchVisits ⟨space, disabled⟩ host draws context .empty := by
    simp [hsplit]
  obtain ⟨d, hd, s, hs, hid, hlaunched, halone⟩ :=
    get?_of_last hb h hfirst hbase hsplit hlast (hx.counts_other hb h hv hvp).1
  have hsp : s.info.id = p.info.id := Option.some.inj (hid.symm.trans hvp)
  -- the only launch experiment that changes the flag and can be recorded is `l`
  have hlaunchOnly : ∀ id c, b.LaunchChanges id flag c → Recorded (before ++ [v]) id →
      id = l.info.id := by
    rintro id c hc ⟨w, hw, hrec⟩
    have hw' : w ∈ before ++ v :: after := by
      rcases List.mem_append.1 hw with hw | hw
      · exact List.mem_append_left _ hw
      · simp [List.mem_singleton.1 hw]
    refine (honly id c ⟨w, hsplit ▸ hw', hrec⟩ hc.changes).resolve_right ?_
    rintro rfl
    exact hx.not_launchChanges_other hb h c hc
  constructor
  · intro hrec
    refine hlaunched _ _ (hx.launch_eq_false_other hb h hd hs hsp) (hx.launchChanges hb h) hrec ?_
    intro id' launch' hc' hrec'
    rw [hlaunchOnly id' launch' hc' hrec']
    exact Int32.le_refl _
  · intro hno
    refine halone (.inr fun id c hc hrec => hno ?_)
    rw [← hlaunchOnly id c hc hrec]
    exact hrec

/-- If both experiments are entered, the one in the later layer has the last word. -/
theorem get?_of_both
    (hl : Entered (Snapshot.launchVisits ⟨space, disabled⟩ host draws context .empty) l.info.id)
    (hp : Entered (Snapshot.launchVisits ⟨space, disabled⟩ host draws context .empty) p.info.id) :
    first.overrides.get? flag = some (if L.info.id < P.info.id then
      change.apply (launch.apply base) else launch.apply base) := by
  have hvisits := Snapshot.launchVisits_eq ⟨space, disabled⟩ host draws context .empty
  by_cases hlt : L.info.id < P.info.id
  · obtain ⟨before, v, after, hsplit, hvp, hafter, hbefore⟩ := last_of_later hb h hx.mem_launch
      hx.mem_other hlt hx.mem_ids hx.mem_ids_other hvisits
      (fun w hw c hc => entered_of_counts honly hw hc)
      (fun w hw hid => ⟨_, (hx.counts_other hb h hw hid).1⟩) hp
    rw [if_pos hlt]
    obtain ⟨w, hw, hwl⟩ := hl
    have hrec : Recorded (before ++ [v]) l.info.id :=
      ⟨w, List.mem_append_left _ (hbefore w hw hwl), (hx.counts_launch hb h hw hwl).2⟩
    exact (hx.get?_of_last_other hb h hfirst honly hbase hsplit hafter hvp).1 hrec
  · have hlt' : P.info.id < L.info.id :=
      (lt_or_lt hb h hx.mem_launch hx.mem_other hx.ne).resolve_left hlt
    obtain ⟨before, v, after, hsplit, hvl, hafter, -⟩ := last_of_later hb h hx.mem_other
      hx.mem_launch hlt' hx.mem_ids_other hx.mem_ids hvisits
      (fun w hw c hc => (entered_of_counts honly hw hc).symm)
      (fun w hw hid => ⟨_, (hx.counts_launch hb h hw hid).1⟩) hl
    rw [if_neg hlt]
    exact hx.get?_of_last_launch hb h hfirst hbase hsplit hafter hvl

/-- If only the launch experiment is entered, the flag has its change. -/
theorem get?_of_launch
    (hl : Entered (Snapshot.launchVisits ⟨space, disabled⟩ host draws context .empty) l.info.id)
    (hp : ¬ Entered (Snapshot.launchVisits ⟨space, disabled⟩ host draws context .empty) p.info.id) :
    first.overrides.get? flag = some (launch.apply base) := by
  rcases none_or_last (fun w => ∃ c, b.Counts context.time flag c w)
    (Snapshot.launchVisits ⟨space, disabled⟩ host draws context .empty) with
    hnone | ⟨before, v, after, hsplit, ⟨c, hv⟩, hafter⟩
  · obtain ⟨w, hw, hwl⟩ := hl
    exact absurd ⟨_, (hx.counts_launch hb h hw hwl).1⟩ (hnone w hw)
  · have hmem : v ∈ Snapshot.launchVisits ⟨space, disabled⟩ host draws context .empty := by
      simp [hsplit]
    have hvl := (entered_of_counts honly hmem hv).resolve_right fun hvp => hp ⟨v, hmem, hvp⟩
    have hidle : ∀ w ∈ after, ∀ c, ¬ b.Counts context.time flag c w :=
      fun w hw c hc => hafter w hw ⟨c, hc⟩
    exact hx.get?_of_last_launch hb h hfirst hbase hsplit hidle hvl

/-- If only the other experiment is entered, its change works on that of the launch experiment where
the id of that one is recorded by then. -/
theorem get?_of_other
    (hl : ¬ Entered (Snapshot.launchVisits ⟨space, disabled⟩ host draws context .empty) l.info.id)
    {before after : List Visit} {v : Visit}
    (hsplit : Snapshot.launchVisits ⟨space, disabled⟩ host draws context .empty =
      before ++ v :: after)
    (hvp : v.entered? = some p.info.id) (hafter : ∀ w ∈ after, w.entered? ≠ some p.info.id) :
    (Recorded (before ++ [v]) l.info.id →
      first.overrides.get? flag = some (change.apply (launch.apply base))) ∧
    (¬ Recorded (before ++ [v]) l.info.id →
      first.overrides.get? flag = some (change.apply base)) := by
  refine hx.get?_of_last_other hb h hfirst honly hbase hsplit (fun w hw c hc => ?_) hvp
  have hmem : w ∈ Snapshot.launchVisits ⟨space, disabled⟩ host draws context .empty := by
    simp [hsplit, hw]
  rcases entered_of_counts honly hmem hc with hwl | hwp
  · exact hl ⟨w, hmem, hwl⟩
  · exact hafter w hw hwp

end

end Crossing

end

end Builder

/-- **Across launch layers.**  An experiment `l` of a launch layer `L` and an experiment `p` that is
nested in another launch layer `P` change a flag, and nothing else that a new request gains changes
it.  Where both are entered, the change of `p` works on that of `l` if `L` comes before `P`, and is
lost otherwise.  The other cases are those in which the id of one of them is recorded, if at all, as
the fallback id of a layer. -/
theorem resolves_across_launch_layers {declared : FlagRegistry} {calls : List Builder.Call}
    {version : String} {space : Space}
    (h : ((Builder.start declared).run calls).build version = .ok space) (context : Context)
    (hf : context.forced.isEmpty = true) (disabled : KeySet SegmentId) (host : Host)
    (draws : Draws) {flag : String} {L P : Layer} {l p : Segment} {launch change : FlagOverride}
    (hx : ((Builder.start declared).run calls).Crossing space flag context.time L P l p launch
      change) :
    let b := (Builder.start declared).run calls
    let launched := Snapshot.launchVisits ⟨space, disabled⟩ host draws context .empty
    ∃ r, (Snapshot.handle ⟨space, disabled⟩ host draws (.start context)).result = .ok r ∧
      ((∀ id c, r.ids.contains id = true → b.Changes id flag c →
          id = l.info.id ∨ id = p.info.id) →
        ∃ base, b.flags.get? flag = some base ∧
          (Entered launched l.info.id → Entered launched p.info.id →
            r.calculator? flag = some (if L.info.id < P.info.id then
              change.apply (launch.apply base) else launch.apply base)) ∧
          (Entered launched l.info.id → ¬ Entered launched p.info.id →
            r.calculator? flag = some (launch.apply base)) ∧
          (¬ Entered launched l.info.id → ∀ before v after, launched = before ++ v :: after →
            v.entered? = some p.info.id → (∀ w ∈ after, w.entered? ≠ some p.info.id) →
            (Recorded (before ++ [v]) l.info.id →
              r.calculator? flag = some (change.apply (launch.apply base))) ∧
            (¬ Recorded (before ++ [v]) l.info.id →
              r.calculator? flag = some (change.apply base))) ∧
          (¬ Entered launched l.info.id → ¬ Entered launched p.info.id →
            r.calculator? flag = some base)) := by
  intro b launched
  have hb : b.Sound := Builder.sound_run declared calls
  obtain ⟨first, settled, r, hfirst, hsettled, hr, hids, hcalc⟩ :=
    Builder.handle_unforced hb h hf disabled host draws
  refine ⟨r, hr, fun honly => ?_⟩
  obtain ⟨base, hbase⟩ := hx.changes.defined hb
  have hvisits := Snapshot.launchVisits_eq ⟨space, disabled⟩ host draws context .empty
  have hrecorded : ∀ id, r.ids.contains id = true ↔ Recorded launched id ∨
      Recorded (Snapshot.permanentVisits ⟨space, disabled⟩ host draws context .empty) id := by
    intro id
    rw [hids]
    simp only [Snapshot.visits, hf, if_true, Recorded, List.mem_append, or_and_right, exists_or]
    rfl
  have honlyFirst : ∀ id c, Recorded launched id → b.Changes id flag c →
      id = l.info.id ∨ id = p.info.id :=
    fun id c hrec => honly id c ((hrecorded id).2 (.inl hrec))
  -- the second pass leaves the flag to the first one
  have hpermanent := Snapshot.permanentVisits_eq ⟨space, disabled⟩ host draws context .empty
  have hsecond : settled.overrides.get? flag = none :=
    Builder.get?_overrides_of_not_counts hb
      (Builder.defined_of_pass hb h (Builder.permanentLayers_subset space) hpermanent.symm) hsettled
      (hx.not_counts_permanent hb h fun id c hrec => honly id c ((hrecorded id).2 (.inr hrec)))
  have hflag : ∀ c, first.overrides.get? flag = some c → r.calculator? flag = some c := by
    intro c hc
    rw [hcalc, hsecond, hc]
    rfl
  refine ⟨base, hbase, fun hl hp => ?_, fun hl hp => ?_,
    fun hl before v after hsplit hvp hafter => ?_, fun hl hp => ?_⟩
  · exact hflag _ (hx.get?_of_both hb h hfirst honlyFirst hbase hl hp)
  · exact hflag _ (hx.get?_of_launch hb h hfirst honlyFirst hbase hl hp)
  · obtain ⟨hlaunched, halone⟩ := hx.get?_of_other hb h hfirst honlyFirst hbase hl hsplit hvp hafter
    exact ⟨fun hrec => hflag _ (hlaunched hrec), fun hno => hflag _ (halone hno)⟩
  · rw [hcalc, hsecond, Builder.Crossing.get?_of_neither hb h hfirst honlyFirst hl hp, ← hbase]
    rfl

/-- A launch experiment in the launch layer of the given id, and another experiment that is nested
in launch layer 1.  Both change the same flag. -/
def Builder.crossingCalls (layer : LayerId) : List Builder.Call :=
  let info (id : SegmentId) (layer : LayerId) : SegmentInfo :=
    ⟨id, layer, 0, KeySet.ofKeys [0], .always, .always, .always⟩
  let changing (id : SegmentId) (layer : LayerId) (change : FlagOverride) : Builder.Call :=
    .segment (.experiment (info id layer) (Table.ofList [("f", change)]))
  [.flag ⟨"f", ⟨.int 1, []⟩⟩, .criterion ⟨0, 1, true⟩,
    .layer ⟨1, topDomain, true, 101, 102, 103⟩, .segment (.domain (info 10 1)),
    .layer ⟨3, 10, false, 301, 302, 303⟩,
    changing 20 3 (.append [.mk (.int 10) (.add .int) .always []]),
    .layer ⟨layer, topDomain, true, 201, 202, 203⟩, changing 30 layer (.replace ⟨.int 100, []⟩)]

/-- In a layer before layer 1 the launch experiment is worked on. -/
theorem resolves_across_launch_layers_before : ∃ space r,
    ((Builder.start .empty).run (Builder.crossingCalls 0)).build "v" = .ok space ∧
    (Snapshot.handle ⟨space, .empty⟩ (fun _ _ => false) (fun _ _ _ => 0) (.start (.at 0))).result =
      .ok r ∧ r.ids.keys = [20, 30] ∧
    r.calculator? "f" = some ⟨.int 100, [.mk (.int 10) (.add .int) .always []]⟩ := by
  have hbuild : ((Builder.start .empty).run (Builder.crossingCalls 0)).build "v" = .ok _ := rfl
  have hlaunch : ((Builder.start .empty).run (Builder.crossingCalls 0)).Changes 30 "f"
      (.replace ⟨.int 100, []⟩) := ⟨_, .head _, rfl, rfl⟩
  obtain ⟨r, hr, hresolve⟩ := resolves_across_launch_layers hbuild (.at 0) rfl
    .empty (fun _ _ => false) (fun _ _ _ => 0)
    { mem_launch := .head _
      stands := .head _
      mem_other := .tail _ (.head _)
      ne := fun h => absurd (congrArg (·.info.id) h) (by decide)
      nested := ⟨_, .head _, .head _⟩
      changes := hlaunch
      changes_other := ⟨_, .tail _ (.head _), rfl, rfl⟩
      inWindow := rfl
      inWindow_other := rfl }
  have hkeys : r.ids.keys = [20, 30] := by
    cases hr
    rfl
  obtain ⟨base, hbase, hboth, -⟩ := hresolve (by
    rintro id c - ⟨s, hs, rfl, hc⟩
    rcases List.mem_cons.1 hs with rfl | hs
    · exact .inl rfl
    · rcases List.mem_cons.1 hs with rfl | hs
      · exact .inr rfl
      · obtain rfl := List.mem_singleton.1 hs
        cases hc)
  obtain rfl := Option.some.inj hbase
  refine ⟨_, r, hbuild, hr, hkeys, ?_⟩
  exact hboth ⟨_, .head _, rfl⟩ ⟨_, .tail _ (.tail _ (.head _)), rfl⟩

/-- In a layer after layer 1 it is not: the change of the nested experiment is lost. -/
theorem crossing_change_lost : ∃ space r L P l p launch change base,
    ((Builder.start .empty).run (Builder.crossingCalls 2)).build "v" = .ok space ∧
    (Snapshot.handle ⟨space, .empty⟩ (fun _ _ => false) (fun _ _ _ => 0) (.start (.at 0))).result =
      .ok r ∧
    ((Builder.start .empty).run (Builder.crossingCalls 2)).Crossing space "f" 0 L P l p launch
      change ∧
    (r.ids.contains l.info.id = true ∧ r.ids.contains p.info.id = true ∧
      ∀ id c, r.ids.contains id = true →
        ((Builder.start .empty).run (Builder.crossingCalls 2)).Changes id "f" c →
        id = l.info.id ∨ id = p.info.id) ∧
    space.flags.get? "f" = some base ∧
    r.calculator? "f" = some ⟨.int 100, []⟩ ∧
    r.calculator? "f" ≠ some (change.apply (launch.apply base)) := by
  refine ⟨_, _, _, _, _, _, _, _, ⟨.int 1, []⟩, rfl, rfl,
    { mem_launch := .tail _ (.head _)
      stands := .head _
      mem_other := .head _
      ne := fun h => absurd (congrArg (·.info.id) h) (by decide)
      nested := ⟨_, .head _, .head _⟩
      changes := ⟨_, .head _, rfl, rfl⟩
      changes_other := ⟨_, .tail _ (.head _), rfl, rfl⟩
      inWindow := rfl
      inWindow_other := rfl }, ⟨rfl, rfl, ?_⟩, rfl, rfl, fun h => by cases h⟩
  rintro id c - ⟨s, hs, rfl, hc⟩
  rcases List.mem_cons.1 hs with rfl | hs
  · exact .inl rfl
  · rcases List.mem_cons.1 hs with rfl | hs
    · exact .inr rfl
    · obtain rfl := List.mem_singleton.1 hs
      cases hc

end Rollout
