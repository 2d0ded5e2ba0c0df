import Mathlib.Data.List.Sort
import Rollout.Proofs.Assembly
import Rollout.Proofs.Muting
import Rollout.Proofs.Visits
/-!
# The way of a request does not depend on overrides

What experiments do to flags decides on nothing that a request meets.  The outline of a layer is the
layer with every effect left out; a request meets in it what it meets in the layer, effects left out
(`visits_outline`).

So two spaces with one outline lead a request the same way.  A space and the space with one
experiment muted have one outline (`outline_waiting_mute`), since each of their layers is put
together of the same infos, in the same order.
-/

namespace Rollout

/-! ## 1. Outlines -/

mutual

/-- The segment without what it does to flags. -/
def Segment.outline : Segment → Segment
  | .experiment info _ => .experiment info ⟨.empty, .empty⟩
  | .domain info layers => .domain info (outlinesOfLayers layers)

/-- The layer without what its experiments do to flags. -/
def Layer.outline : Layer → Layer
  | .mk info segments index owned => .mk info (outlinesOfSegments segments) index owned

/-- The outline of each of several segments. -/
def outlinesOfSegments : List Segment → List Segment
  | [] => []
  | segment :: rest => segment.outline :: outlinesOfSegments rest

/-- The outline of each of several layers. -/
def outlinesOfLayers : List Layer → List Layer
  | [] => []
  | layer :: rest => layer.outline :: outlinesOfLayers rest

end

/-- The visit without what an experiment does to flags. -/
def Visit.outline (v : Visit) : Visit :=
  match v.outcome with
  | .experiment info _ => { v with outcome := .experiment info ⟨.empty, .empty⟩ }
  | _ => v

theorem outlinesOfSegments_eq : ∀ segments : List Segment,
    outlinesOfSegments segments = segments.map Segment.outline
  | [] => by rw [outlinesOfSegments]; rfl
  | s :: rest => by rw [outlinesOfSegments, outlinesOfSegments_eq rest, List.map_cons]

theorem outlinesOfLayers_eq : ∀ layers : List Layer,
    outlinesOfLayers layers = layers.map Layer.outline
  | [] => by rw [outlinesOfLayers]; rfl
  | l :: rest => by rw [outlinesOfLayers, outlinesOfLayers_eq rest, List.map_cons]

@[simp] theorem Segment.outline_experiment (info : SegmentInfo) (effect : Effect) :
    (Segment.experiment info effect).outline = .experiment info ⟨.empty, .empty⟩ := by
  rw [outline]

@[simp] theorem Segment.outline_domain (info : SegmentInfo) (layers : List Layer) :
    (Segment.domain info layers).outline = .domain info (layers.map Layer.outline) := by
  rw [outline, outlinesOfLayers_eq]

theorem Layer.outline_mk (info : LayerInfo) (segments : List Segment) (index : BucketIndex)
    (owned : KeySet SegmentId) : (Layer.mk info segments index owned).outline =
      .mk info (segments.map Segment.outline) index owned := by
  rw [outline, outlinesOfSegments_eq]

@[simp] theorem Segment.info_outline (s : Segment) : s.outline.info = s.info := by
  cases s <;> simp

@[simp] theorem Layer.info_outline (l : Layer) : l.outline.info = l.info := by
  cases l
  rw [outline_mk]
  rfl

@[simp] theorem Layer.owned_outline (l : Layer) : l.outline.owned = l.owned := by
  cases l
  rw [outline_mk]
  rfl

@[simp] theorem Segment.owned_outline (s : Segment) : s.outline.owned = s.owned := by
  cases s with
  | experiment info effect => simp [owned]
  | domain info layers => simp [owned, List.foldl_map]

/-- A layer is made of segments before or after their effects are left out. -/
theorem Layer.outline_ofSegments (info : LayerInfo) (segments : List Segment) :
    (ofSegments info segments).outline = ofSegments info (segments.map Segment.outline) := by
  rw [ofSegments, outline_mk, ofSegments]
  simp [List.foldl_map, Function.comp_def]

/-! ## 2. The same way -/

@[simp] theorem Visit.recorded?_outline (v : Visit) : v.outline.recorded? = v.recorded? := by
  obtain ⟨layer, outcome, asked⟩ := v
  cases outcome <;> rfl

/-- Visits of one outline have one outcome, up to what an experiment does to flags. -/
theorem Visit.outcome_of_outline {v v' : Visit} (h : v'.outline = v.outline) :
    (v'.outcome = v.outcome ∧ ∀ info effect, v.outcome ≠ .experiment info effect) ∨
      ∃ info effect effect',
        v.outcome = .experiment info effect ∧ v'.outcome = .experiment info effect' := by
  obtain ⟨layer, outcome, asked⟩ := v
  obtain ⟨layer', outcome', asked'⟩ := v'
  have houtcome := congrArg Visit.outcome h
  cases outcome <;> cases outcome' <;> cases houtcome
  case experiment.experiment.refl info effect effect' =>
    exact .inr ⟨info, effect, effect', rfl, rfl⟩
  all_goals exact .inl ⟨rfl, fun _ _ heq => by cases heq⟩

/-- The verdict of a layer does not look at effects. -/
theorem Layer.ruling_outline (scope : Scope) (l : Layer) :
    l.outline.ruling scope = l.ruling scope := by
  obtain ⟨info, segments, index, owned⟩ := l
  have hinfos : (segments.map Segment.outline).map Segment.info = segments.map Segment.info := by
    rw [List.map_map]
    exact List.map_congr_left fun s _ => s.info_outline
  rw [outline_mk]
  exact congrArg (fun infos => verdict scope info infos index owned) hinfos

/-- **The same way.**  A request meets in the outline what it meets in the layer, effects left
out. -/
theorem visits_outline (scope : Scope) :
    (∀ s : Segment, ∀ asked, (s.visits scope asked).map Visit.outline =
      s.outline.visits scope asked) ∧
    ∀ l : Layer, (l.visits scope).map Visit.outline = l.outline.visits scope := by
  refine forest_induction ?_ ?_ ?_
  · intro info effect asked
    simp [Visit.outline]
  · intro info layers ih asked
    rw [Segment.visits_domain, List.map_cons, List.map_flatMap, Segment.outline_domain,
      Segment.visits_domain, List.flatMap_map]
    congr 1
    exact List.flatMap_congr ih
  · intro info segments index owned ih
    have hruling := Layer.ruling_outline scope (.mk info segments index owned)
    have hcases := Layer.ruling_ruling scope (.mk info segments index owned)
    generalize hr : ((Layer.mk info segments index owned).ruling scope).1 = verdict at hcases
    have hr' := (congrArg Prod.fst hruling).trans hr
    cases verdict with
    | inr outcome =>
      rw [Layer.visits_of_inr hr, Layer.visits_of_inr hr', hruling]
      cases hcases <;> simp [Visit.outline]
    | inl position =>
      obtain ⟨s, hs⟩ : ∃ s, segments[position]? = some s := by
        cases hcases with
        | entered _ _ _ stands _ =>
          obtain ⟨s, hs, -⟩ := Option.map_eq_some_iff.1 (List.getElem?_map .. ▸ stands)
          exact ⟨s, hs⟩
      have hs' : (Layer.mk info segments index owned).outline.segments[position]? =
          some s.outline := by
        rw [Layer.outline_mk, Layer.segments, List.getElem?_map, hs]
        rfl
      rw [Layer.visits_of_inl hr hs, Layer.visits_of_inl hr' hs', hruling]
      exact ih s (List.mem_of_getElem? hs) _

/-! ## 3. The outline of a muted space -/

namespace Builder

variable {b : Builder} {id : SegmentId}

/-- The layer of a draft after an experiment is muted. -/
def mutedLayerOf (b : Builder) (id : SegmentId) (d : LayerDraft) : Layer :=
  (b.mute id).layerOf (b.mute id).assemble (d.mute id)

/-- The layers that wait for a domain have the outlines that they have muted, if each layer has. -/
theorem outline_waiting_of (hb : b.Sound) (hb' : (b.mute id).Sound) (domain : SegmentId)
    (h : ∀ d ∈ b.drafts, d.info.domain = domain →
      (b.mutedLayerOf id d).outline = (b.layerOf b.assemble d).outline) :
    ((b.mute id).assemble.waiting domain).values.map Layer.outline =
      (b.assemble.waiting domain).values.map Layer.outline := by
  refine waiting_congr hb hb' Layer.outline Layer.info_outline domain (fun d hd hdomain => ?_)
    fun d' hd' _ => ?_
  · exact ⟨d.mute id, List.mem_map_of_mem hd, LayerDraft.info_mute .., h d hd hdomain⟩
  · obtain ⟨d, hd, rfl⟩ := List.mem_map.1 hd'
    exact ⟨d, hd, (LayerDraft.info_mute ..).symm⟩

/-- **One outline.**  A layer has the outline that it has with an experiment muted. -/
theorem outline_mutedLayerOf (hb : b.Sound) (hb' : (b.mute id).Sound) :
    (∀ s : Segment, ∀ d ∈ b.drafts, ∀ t ∈ d.segments, b.segmentOf b.assemble d.info t = s →
      ((b.mute id).segmentOf (b.mute id).assemble d.info (t.mute id)).outline = s.outline) ∧
    ∀ l : Layer, ∀ d ∈ b.drafts, b.layerOf b.assemble d = l →
      (b.mutedLayerOf id d).outline = l.outline := by
  refine forest_induction ?_ ?_ ?_
  · intro info effect d _ t _ heq
    cases t with
    | experiment info' overrides =>
      cases heq
      exact (Segment.outline_experiment ..).trans (Segment.outline_experiment ..).symm
    | domain info' => cases heq
  · intro info layers ih d hd t ht heq
    cases t with
    | experiment info' overrides => cases heq
    | domain info' =>
      have htop : info'.id ≠ topDomain := hb.notTop _ (mem_segments_iff.2 ⟨d, hd, ht⟩)
      rw [segmentOf_domain _ _ _ htop] at heq
      cases heq
      rw [SegmentDefinition.mute, segmentOf_domain _ _ _ htop, Segment.outline_domain,
        Segment.outline_domain]
      congr 1
      refine outline_waiting_of hb hb' _ fun e he hdomain => ih _ ?_ e he rfl
      refine (perm_waiting hb info.id).mem_iff.2 (List.mem_map_of_mem (List.mem_filter.2 ⟨he, ?_⟩))
      exact decide_eq_true hdomain
  · intro info segments index owned ih d hd heq
    have hsegments : d.segments.map (b.segmentOf b.assemble d.info) = segments :=
      congrArg Layer.segments heq
    rw [← heq, mutedLayerOf, layerOf, layerOf, Layer.outline_ofSegments, Layer.outline_ofSegments,
      LayerDraft.info_mute, LayerDraft.mute, List.map_map, List.map_map, List.map_map]
    congr 1
    refine List.map_congr_left fun t ht => ih _ ?_ d hd t ht rfl
    rw [← hsegments]
    exact List.mem_map_of_mem ht

/-- The layers that wait for a domain, or for the space itself, have the outlines that they have
with an experiment muted. -/
theorem outline_waiting_mute (hb : b.Sound) (hb' : (b.mute id).Sound) (domain : SegmentId) :
    ((b.mute id).assemble.waiting domain).values.map Layer.outline =
      (b.assemble.waiting domain).values.map Layer.outline :=
  outline_waiting_of hb hb' domain fun d hd _ => (outline_mutedLayerOf hb hb').2 _ d hd rfl

variable {version : String} {space space' : Space}

/-- The passes of a space go through layers of the same outlines with an experiment muted. -/
theorem outline_build_mute (hb : b.Sound) (hb' : (b.mute id).Sound)
    (h : b.build version = .ok space) (h' : (b.mute id).build version = .ok space') :
    space'.launchLayers.map Layer.outline = space.launchLayers.map Layer.outline ∧
      space'.permanentLayers.map Layer.outline = space.permanentLayers.map Layer.outline := by
  have htop := outline_waiting_mute hb hb' topDomain
  simp only [Assembled.waiting, if_true] at htop
  have hfilter : ∀ p : LayerInfo → Bool,
      ((b.mute id).assemble.top.values.filter fun l => p l.info).map Layer.outline =
        (b.assemble.top.values.filter fun l => p l.info).map Layer.outline := by
    intro p
    have hcomm : ∀ layers : List Layer, (layers.filter fun l => p l.info).map Layer.outline =
        (layers.map Layer.outline).filter fun l => p l.info := by
      intro layers
      rw [List.filter_map]
      simp [Function.comp_def]
    rw [hcomm, hcomm, htop]
  rw [(build_ok h).2, (build_ok h').2]
  exact ⟨hfilter (·.launch), hfilter fun info => !info.launch⟩

/-- What decides on the way of a request does not change when an experiment is muted. -/
theorem scope_mute (h : b.build version = .ok space) (h' : (b.mute id).build version = .ok space')
    (disabled : KeySet SegmentId) (host : Host) (draws : Draws) (context : Context)
    (carried : KeySet SegmentId) (root : SegmentId) :
    Snapshot.scope ⟨space', disabled⟩ host draws context carried root =
      Snapshot.scope ⟨space, disabled⟩ host draws context carried root := by
  have hcriteria : space'.criteria = space.criteria :=
    (criteria_build h').trans (criteria_build h).symm
  simp only [Snapshot.scope, hcriteria]

/-- **The same way through a space.**  A request that is not forced meets in each pass what it meets
with an experiment muted, effects left out. -/
theorem visits_mute (hb : b.Sound) (hb' : (b.mute id).Sound) (h : b.build version = .ok space)
    (h' : (b.mute id).build version = .ok space') (disabled : KeySet SegmentId)
    (host : Host) (draws : Draws) (context : Context) (carried : KeySet SegmentId) :
    (Snapshot.launchVisits ⟨space', disabled⟩ host draws context carried).map Visit.outline =
        (Snapshot.launchVisits ⟨space, disabled⟩ host draws context carried).map Visit.outline ∧
      (Snapshot.permanentVisits ⟨space', disabled⟩ host draws context carried).map Visit.outline =
        (Snapshot.permanentVisits ⟨space, disabled⟩ host draws context carried).map
          Visit.outline := by
  have hlayers : ∀ (scope : Scope) {layers layers' : List Layer},
      layers'.map Layer.outline = layers.map Layer.outline →
      (layers'.flatMap (·.visits scope)).map Visit.outline =
        (layers.flatMap (·.visits scope)).map Visit.outline := by
    intro scope layers layers' heq
    have hone : ∀ layers : List Layer, (layers.flatMap (·.visits scope)).map Visit.outline =
        (layers.map Layer.outline).flatMap (·.visits scope) := by
      intro layers
      rw [List.map_flatMap, List.flatMap_map]
      exact List.flatMap_congr fun l _ => (visits_outline scope).2 l
    rw [hone, hone, heq]
  obtain ⟨hlaunch, hpermanent⟩ := outline_build_mute hb hb' h h'
  simp only [Snapshot.launchVisits_eq, Snapshot.permanentVisits_eq, scope_mute h h']
  exact ⟨hlayers _ hlaunch, hlayers _ hpermanent⟩

end Builder

end Rollout
