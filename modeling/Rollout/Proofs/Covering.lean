import Rollout.Proofs.Arranged
/-!
# Layers that two builders share

A builder covers another one if it has each of its layers, with the same segments in some order, and
has nothing else nested in them (`Builder.Covers`).  It may have more beside.

What it makes of the shared layers is then what the other one makes of them, as far as a view goes
that does not show the order of segments (`View`): layers are compared as they are put together,
from the inside out (`Builder.Covers.view_layerOf`).
-/

namespace Rollout

/-! ## 1. Views -/

/-- A way to look at segments and layers, all the way down, that does not show the order of
segments. -/
structure View where
  segment : Segment → Segment
  layer : Layer → Layer
  domain : ∀ info layers, segment (.domain info layers) = .domain info (layers.map layer)
  made : ∀ l, layer l = .ofSegments l.info (Segment.byId (l.segments.map segment))
  info : ∀ s, (segment s).info = s.info

/-- The view that shows everything else. -/
def View.arranged : View :=
  ⟨Segment.arranged, Layer.arranged, Segment.arranged_domain, Layer.arranged_eq,
    Segment.info_arranged⟩

theorem View.info_layer (view : View) (l : Layer) : (view.layer l).info = l.info := by
  rw [view.made]
  rfl

namespace Builder

/-! ## 2. Shared layers -/

/-- The second builder has every layer of the first one, with the same segments, and nothing but
layers of the first one is nested in these. -/
structure Covers (b b' : Builder) : Prop where
  left : b.Sound
  right : b'.Sound
  layers : ∀ d ∈ b.drafts, ∃ d' ∈ b'.drafts, d'.info = d.info
  segments : ∀ d ∈ b.drafts, ∀ d' ∈ b'.drafts, d'.info = d.info → d.segments.Perm d'.segments
  nested : ∀ d' ∈ b'.drafts, ∀ s ∈ b.segments, s.info.id = d'.info.domain →
    ∃ d ∈ b.drafts, d.info = d'.info

variable {b b' : Builder}

/-- **The same layers.**  A shared layer is put together of the same segments, as far as the view
goes, if experiments do the same to flags as far as the view goes. -/
theorem Covers.view_layerOf (h : b.Covers b') (view : View)
    (heffect : ∀ layer info overrides, view.segment (.experiment info (b'.effect layer overrides)) =
      view.segment (.experiment info (b.effect layer overrides))) :
    (∀ s : Segment, ∀ d ∈ b.drafts, ∀ t ∈ d.segments, b.segmentOf b.assemble d.info t = s →
      view.segment (b'.segmentOf b'.assemble d.info t) = view.segment s) ∧
    ∀ l : Layer, ∀ d ∈ b.drafts, b.layerOf b.assemble d = l → ∀ d' ∈ b'.drafts, d'.info = d.info →
      view.layer (b'.layerOf b'.assemble d') = view.layer l := by
  refine forest_induction ?_ ?_ ?_
  · intro info effect d _ t _ heq
    cases t with
    | experiment info' overrides =>
      rw [← heq]
      exact heffect d.info info' overrides
    | domain info' => cases heq
  · intro info layers ih d hd t ht heq
    cases t with
    | experiment info' overrides => cases heq
    | domain info' =>
      have hmem : SegmentDefinition.domain info' ∈ b.segments := mem_segments_iff.2 ⟨d, hd, ht⟩
      have htop : info'.id ≠ topDomain := h.left.notTop _ hmem
      rw [segmentOf_domain _ _ _ htop] at heq
      cases heq
      rw [segmentOf_domain _ _ _ htop, view.domain, view.domain]
      congr 1
      refine waiting_congr h.left h.right view.layer view.info_layer info.id
        (fun e he hdomain => ?_) fun e' he' hdomain => h.nested e' he' _ hmem hdomain.symm
      obtain ⟨e', he', hinfo⟩ := h.layers e he
      refine ⟨e', he', hinfo, ih _ ?_ e he rfl e' he' hinfo⟩
      refine (perm_waiting h.left info.id).mem_iff.2
        (List.mem_map_of_mem (List.mem_filter.2 ⟨he, ?_⟩))
      exact decide_eq_true hdomain
  · intro info segments index owned ih d hd heq d' hd' hinfo
    have hsegments : d.segments.map (b.segmentOf b.assemble d.info) = segments :=
      congrArg Layer.segments heq
    have hsame : d.segments.map (fun t => view.segment (b'.segmentOf b'.assemble d.info t)) =
        (d.segments.map (b.segmentOf b.assemble d.info)).map view.segment := by
      rw [List.map_map]
      refine List.map_congr_left fun t ht => ih _ ?_ d hd t ht rfl
      rw [← hsegments]
      exact List.mem_map_of_mem ht
    rw [← heq, view.made, view.made, segments_layerOf, segments_layerOf, info_layerOf, info_layerOf,
      hinfo, List.map_map, ← hsame]
    congr 1
    refine Segment.byId_congr ((h.segments d hd d' hd' hinfo).symm.map _) ?_
    rw [List.map_map]
    have hids : d.segments.map (·.info.id) = d.segments.map
        ((·.info.id) ∘ fun t => view.segment (b'.segmentOf b'.assemble d.info t)) :=
      List.map_congr_left fun t _ => by simp [view.info]
    rw [← hids]
    have hall := h.left.segmentIds
    rw [Builder.segments, List.map_flatMap, List.nodup_flatMap] at hall
    exact hall.1 d hd

end Builder

end Rollout
