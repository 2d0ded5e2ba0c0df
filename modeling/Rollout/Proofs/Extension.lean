import Rollout.Proofs.Covering
import Rollout.Proofs.Effect
import Rollout.Proofs.Outline
import Rollout.Proofs.Ownership
import Rollout.Proofs.WellFormed
/-!
# Extending a definition

A definition is extended by criteria and by layers that stand by themselves: each stands in the
space itself or in a new domain, and the new segments stand in new layers.  The ids that the new
parts bring along are new (`SpaceDefinition.Extends`).

The builder that takes the extended definition has every layer that it would have had without the
new parts, with the same segments and nothing else nested in them (`Builder.Grows.covers`), and what
is nested in a new layer is new (`Builder.Grows.new_of_mem_tree`).  An experiment does the same to a
flag that no new experiment changes (`Builder.Grows.calculator?_effect`): the tables that it has for
new launch experiments say nothing of the flag.
-/

namespace Rollout

/-! ## 1. Definitions -/

namespace SpaceDefinition

/-- The ids of the segments, and the fallback ids of the layers. -/
def ids (d : SpaceDefinition) : List SegmentId :=
  d.segments.map (·.info.id) ++
    d.layers.flatMap fun layer => [layer.unbiased, layer.fixedBiased, layer.randomBiased]

theorem mem_ids_iff {d : SpaceDefinition} {id : SegmentId} : id ∈ d.ids ↔
    (∃ s ∈ d.segments, s.info.id = id) ∨
      ∃ layer ∈ d.layers, id ∈ [layer.unbiased, layer.fixedBiased, layer.randomBiased] := by
  simp only [ids, List.mem_append, List.mem_map, List.mem_flatMap]

theorem mem_ids_of_segment {d : SpaceDefinition} {s : SegmentDefinition} (hs : s ∈ d.segments) :
    s.info.id ∈ d.ids :=
  List.mem_append_left _ (List.mem_map_of_mem hs)

/-- The last definition is the first one with new parts that stand by themselves. -/
structure Extends (d new d' : SpaceDefinition) : Prop where
  noFlags : new.flags = []
  flags : d'.flags.Perm (d.flags ++ new.flags)
  criteria : d'.criteria.Perm (d.criteria ++ new.criteria)
  layers : d'.layers.Perm (d.layers ++ new.layers)
  segments : d'.segments.Perm (d.segments ++ new.segments)
  /-- New segments stand in new layers. -/
  placed : ∀ s ∈ new.segments, ∃ layer ∈ new.layers, layer.id = s.info.layer
  /-- New layers stand in the space itself or in new segments. -/
  nested : ∀ layer ∈ new.layers,
    layer.isTop = true ∨ ∃ s ∈ new.segments, s.info.id = layer.domain
  ids : ∀ id ∈ new.ids, id ∉ d.ids

variable {declared : FlagRegistry} {d new d' : SpaceDefinition}

/-- The flags make the same table, and the criteria that there were are kept. -/
theorem Extends.tables (h : d.Extends new d') (hd : d.WellFormed declared)
    (hd' : d'.WellFormed declared) : d'.calculators = d.calculators ∧
      ∀ id c, d.criterionTable.get? id = some c → d'.criterionTable.get? id = some c := by
  constructor
  · refine Table.ext_get? fun name => Option.ext fun calculator => ?_
    rw [get?_calculators hd.flagNames, get?_calculators hd'.flagNames]
    simp only [h.flags.mem_iff, h.noFlags, List.append_nil]
  · intro id c hc
    rw [get?_criterionTable hd.criterionIds] at hc
    rw [get?_criterionTable hd'.criterionIds, h.criteria.mem_iff]
    exact ⟨List.mem_append_left _ hc.1, hc.2⟩

end SpaceDefinition

namespace Builder

/-! ## 2. Builders -/

/-- The second builder holds the definition of the first one and new parts beside. -/
structure Grows (b b' : Builder) (d new d' : SpaceDefinition) : Prop where
  parts : d.Extends new d'
  left : b.Holds d
  right : b'.Holds d'
  flags : b'.flags = b.flags
  criteria : ∀ id c, b.criteria.get? id = some c → b'.criteria.get? id = some c

/-- Builders that have taken a definition and an extension of it. -/
theorem grows_of_accepted {declared : FlagRegistry} {d new d' : SpaceDefinition} {b b' : Builder}
    (h : d.Extends new d') (hb : (start declared).addDefinition d = (b, none))
    (hb' : (start declared).addDefinition d' = (b', none)) : Grows b b' d new d' := by
  have hleft := holds_of_accepted hb
  have hright := holds_of_accepted hb'
  obtain ⟨hflags, hcriteria⟩ := h.tables (wellFormed_of_accepted hb) (wellFormed_of_accepted hb')
  rw [← hleft.flags, ← hright.flags] at hflags
  rw [← hleft.criteria, ← hright.criteria] at hcriteria
  exact ⟨h, hleft, hright, hflags, hcriteria⟩

namespace Grows

variable {b b' : Builder} {d new d' : SpaceDefinition} (h : Grows b b' d new d')

include h

/-- The ids of layers that there were are not those of new layers. -/
theorem layerId_ne {old layer : LayerInfo} (hold : old ∈ d.layers) (hl : layer ∈ new.layers) :
    old.id ≠ layer.id := by
  have hnodup := ((h.right.layers.trans h.parts.layers).map LayerInfo.id).nodup_iff.1
    (by rw [List.map_map]; exact h.right.sound.layerIds)
  rw [List.map_append, List.nodup_append] at hnodup
  exact hnodup.2.2 _ (List.mem_map_of_mem hold) _ (List.mem_map_of_mem hl)

theorem mem_layers {e : LayerDraft} (he : e ∈ b'.drafts) :
    e.info ∈ d.layers ∨ e.info ∈ new.layers :=
  List.mem_append.1 (h.parts.layers.mem_iff.1 (h.right.mem_layers he))

theorem mem_segments {s : SegmentDefinition} :
    s ∈ b'.segments ↔ s ∈ b.segments ∨ s ∈ new.segments := by
  rw [(h.right.segments.trans h.parts.segments).mem_iff, List.mem_append, h.left.segments.mem_iff]

/-- A segment that there was does not have the id of a new part. -/
theorem id_not_mem {s : SegmentDefinition} (hs : s ∈ b.segments) : s.info.id ∉ new.ids :=
  fun hid => h.parts.ids _ hid (SpaceDefinition.mem_ids_of_segment (h.left.segments.mem_iff.1 hs))

/-- Whether a segment is new shows in its layer. -/
theorem mem_new_iff {e : LayerDraft} (he : e ∈ b'.drafts) {s : SegmentDefinition}
    (hs : s ∈ e.segments) : s ∈ new.segments ↔ e.info ∈ new.layers := by
  obtain ⟨hmem, hlayer⟩ := (h.right.sound.mem_draft_iff he).1 hs
  constructor
  · intro hnew
    obtain ⟨layer, hl, hid⟩ := h.parts.placed s hnew
    exact (h.mem_layers he).resolve_left fun hold =>
      h.layerId_ne hold hl (hlayer.symm.trans hid.symm)
  · intro hnew
    refine (h.mem_segments.1 hmem).resolve_left fun hold => ?_
    obtain ⟨f, hf, hsf⟩ := mem_segments_iff.1 hold
    exact h.layerId_ne (h.left.mem_layers hf) hnew
      (((h.left.sound.drafts f hf).layer s hsf).symm.trans hlayer)

/-- **Layers that there were** have the segments that they had, and no new layer is nested in
these. -/
theorem covers : b.Covers b' where
  left := h.left.sound
  right := h.right.sound
  layers e he := by
    refine h.right.exists_draft (h.parts.layers.mem_iff.2 (List.mem_append_left _ ?_))
    exact h.left.mem_layers he
  segments e he e' he' hinfo := by
    refine h.left.sound.perm_of_named h.right.sound he he' hinfo fun s hlayer => ?_
    rw [h.mem_segments]
    refine (or_iff_left fun hnew => ?_).symm
    obtain ⟨layer, hl, hid⟩ := h.parts.placed s hnew
    exact h.layerId_ne (h.left.mem_layers he) hl (hlayer.symm.trans hid.symm)
  nested e' he' s hs hdomain := by
    refine h.left.exists_draft ((h.mem_layers he').resolve_right fun hnew => ?_)
    rcases h.parts.nested _ hnew with htop | ⟨t, ht, htid⟩
    · exact h.left.sound.notTop s hs (hdomain.trans (LayerInfo.isTop_iff.1 htop))
    · exact h.id_not_mem hs ((htid.trans hdomain.symm) ▸ SpaceDefinition.mem_ids_of_segment ht)

/-! ## 3. What experiments do -/

variable {flag : String} (hflag : ∀ s ∈ new.segments, s.overrides.contains flag = false)

include hflag

omit h in
/-- A segment that changes the flag is not new. -/
theorem not_new_of_changes {s : SegmentDefinition} {change : FlagOverride}
    (hc : s.overrides.get? flag = some change) : s ∉ new.segments := by
  intro hs
  have hnone := hflag s hs
  rw [Table.contains, hc] at hnone
  cases hnone

/-- The launch experiments that change the flag are those that there were. -/
theorem launchChanges_iff {id : SegmentId} {change : FlagOverride} :
    b'.LaunchChanges id flag change ↔ b.LaunchChanges id flag change := by
  constructor
  · rintro ⟨s, hs, rfl, hc⟩
    obtain ⟨e', he', hlaunch, hs⟩ := mem_launchSegments_iff.1 hs
    have hnew := not_new_of_changes hflag hc
    rw [h.mem_new_iff he' hs] at hnew
    obtain ⟨e, he, hinfo⟩ := h.left.exists_draft ((h.mem_layers he').resolve_right hnew)
    refine ⟨s, mem_launchSegments_iff.2 ⟨e, he, hinfo ▸ hlaunch, ?_⟩, rfl, hc⟩
    exact (h.covers.segments e he e' he' hinfo.symm).mem_iff.2 hs
  · rintro ⟨s, hs, rfl, hc⟩
    obtain ⟨e, he, hlaunch, hs⟩ := mem_launchSegments_iff.1 hs
    obtain ⟨e', he', hinfo⟩ := h.covers.layers e he
    refine ⟨s, mem_launchSegments_iff.2 ⟨e', he', hinfo ▸ hlaunch, ?_⟩, rfl, hc⟩
    exact (h.covers.segments e he e' he' hinfo).mem_iff.1 hs

/-- **An experiment does the same** to a flag that no new experiment changes, for requests that are
in the same segments but for those that are new. -/
theorem calculator?_effect (layer : LayerInfo) (overrides : Table String FlagOverride)
    {isIn isIn' : SegmentId → Bool} (hin : ∀ id ∉ new.ids, isIn' id = isIn id) :
    (b'.effect layer overrides).calculator? isIn' flag =
      (b.effect layer overrides).calculator? isIn flag := by
  refine Effect.calculator?_congr ?_ fun id c => ?_
  · unfold effect
    rw [h.flags]
  · unfold effect
    cases layer.launch with
    | true => simp
    | false =>
      simp only [Bool.false_eq_true, if_false]
      rw [get?_launchEffects h.right.sound, get?_launchEffects h.left.sound, h.flags]
      simp only [launchChanges_iff h hflag]
      refine and_congr_left fun ⟨launch, _, _, hlaunch, _⟩ => ?_
      obtain ⟨s, hs, rfl, -⟩ := hlaunch.changes
      rw [hin _ (h.id_not_mem hs)]

omit hflag

/-! ## 4. New layers -/

/-- The layer is that of a new draft. -/
def New (b' : Builder) (new : SpaceDefinition) (l : Layer) : Prop :=
  ∃ e ∈ b'.drafts, e.info ∈ new.layers ∧ l = b'.layerOf b'.assemble e

/-- **What is nested in a new layer is new.** -/
theorem new_of_mem_tree :
    (∀ s : Segment, ∀ e ∈ b'.drafts, ∀ t ∈ e.segments, b'.segmentOf b'.assemble e.info t = s →
      t ∈ new.segments → ∀ m ∈ s.tree, New b' new m) ∧
    ∀ l : Layer, New b' new l → ∀ m ∈ l.tree, New b' new m := by
  refine forest_induction ?_ ?_ ?_
  · intro info effect e _ t _ _ _ m hm
    simp at hm
  · intro info layers ih e he t ht heq hnew m hm
    cases t with
    | experiment info' overrides => cases heq
    | domain info' =>
      have hmem : SegmentDefinition.domain info' ∈ b'.segments := mem_segments_iff.2 ⟨e, he, ht⟩
      have htop : info'.id ≠ topDomain := h.right.sound.notTop _ hmem
      rw [segmentOf_domain _ _ _ htop] at heq
      cases heq
      rw [Segment.tree_domain, List.mem_flatMap] at hm
      obtain ⟨k, hk, hm⟩ := hm
      obtain ⟨f, hf, rfl⟩ := List.mem_map.1 ((perm_waiting h.right.sound info.id).mem_iff.1 hk)
      obtain ⟨hf, hdomain⟩ := List.mem_filter.1 hf
      have hdomain : f.info.domain = info.id := of_decide_eq_true hdomain
      refine ih _ hk ⟨f, hf, (h.mem_layers hf).resolve_left fun hold => ?_, rfl⟩ m hm
      -- the domain of a layer that there was is not new
      obtain ⟨g, hg, hinfo⟩ := h.left.exists_draft hold
      have hnested : g.info.isTop = false := by
        refine Bool.eq_false_iff.2 fun htop' => htop ?_
        rw [← hdomain, ← hinfo]
        exact LayerInfo.isTop_iff.1 htop'
      obtain ⟨o, ho, s, hs, -, hsid⟩ := h.left.sound.nested.exists_domain hg hnested
      refine h.id_not_mem (mem_segments_iff.2 ⟨o, ho, hs⟩) ?_
      rw [hsid, hinfo, hdomain]
      exact SpaceDefinition.mem_ids_of_segment hnew
  · rintro info segments index owned ih ⟨e, he, hnew, heq⟩ m hm
    rw [Layer.tree_eq, List.mem_cons, List.mem_flatMap] at hm
    rcases hm with rfl | ⟨s, hs, hm⟩
    · exact ⟨e, he, hnew, heq⟩
    · have hsegments : segments = e.segments.map (b'.segmentOf b'.assemble e.info) :=
        congrArg Layer.segments heq
      rw [Layer.segments, hsegments] at hs
      obtain ⟨t, ht, rfl⟩ := List.mem_map.1 hs
      exact ih _ (hsegments ▸ List.mem_map_of_mem ht) e he t ht rfl ((h.mem_new_iff he ht).2 hnew)
        m hm

end Grows

end Builder

end Rollout
