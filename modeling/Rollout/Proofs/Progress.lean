import Mathlib.Order.WellFounded
import Rollout.Proofs.WellFormed
/-!
# Every well-formed definition is taken

`Rollout.Proofs.WellFormed` shows that what a new builder accepts is well-formed.  Here is the other
direction.  Between two passes, what the builder holds and what still waits make up the definition
(`Between`).  Then one of the layers that wait is ready, since of all that wait one is enclosed by
none of the others (`exists_ready`); a well-formed definition leaves nothing to refuse, so the pass
succeeds (`Between.pass`); and fewer layers wait than before.
-/

namespace Rollout

namespace Builder

variable {b : Builder} {declared : FlagRegistry} {d : SpaceDefinition} {layers : List LayerInfo}
  {segments : List SegmentDefinition}

/-! ## 1. Between two passes -/

/-- A builder on the way: what it holds and what waits make up the definition. -/
structure Amid (b : Builder) (layers : List LayerInfo) (segments : List SegmentDefinition)
    (d : SpaceDefinition) : Prop where
  sound : b.Sound
  flags : b.flags = d.calculators
  criteria : b.criteria = d.criterionTable
  allLayers : (b.drafts.map (·.info) ++ layers).Perm d.layers
  allSegments : (b.segments ++ segments).Perm d.segments

/-- A builder between two passes: what it holds and what waits make up the definition, and the
segments that wait are some whose layer waits. -/
structure Between (b : Builder) (layers : List LayerInfo) (segments : List SegmentDefinition)
    (d : SpaceDefinition) : Prop where
  sound : b.Sound
  flags : b.flags = d.calculators
  criteria : b.criteria = d.criterionTable
  allLayers : (b.drafts.map (·.info) ++ layers).Perm d.layers
  allSegments : (b.segments ++ segments).Perm d.segments
  waiting : ∀ s ∈ segments, b.hasLayer s.info.layer = false

theorem Between.amid (h : b.Between layers segments d) : b.Amid layers segments d :=
  ⟨h.sound, h.flags, h.criteria, h.allLayers, h.allSegments⟩

theorem between_loaded (hd : d.WellFormed declared) :
    (loaded declared d).Between d.layers d.segments d where
  sound := { sound_start declared with
    criteria := fun id c hc => by
      obtain ⟨hmem, hid⟩ := (SpaceDefinition.get?_criterionTable hd.criterionIds).1 hc
      exact ⟨hid, hd.buckets c hmem⟩
    drafts := fun _ h => by cases h
    overrides := fun _ h => by cases h }
  flags := rfl
  criteria := rfl
  allLayers := .refl _
  allSegments := .refl _
  waiting _ _ := rfl

/-- A domain is found by its id. -/
theorem Sound.hasDomain (hb : b.Sound) {s : SegmentDefinition} (hs : s ∈ b.segments)
    (hdomain : s.isDomain = true) : b.hasDomain s.info.id = true := by
  obtain ⟨t, ht⟩ := Option.isSome_iff_exists.1 (hasSegment_iff.2 ⟨s, hs, rfl⟩)
  have hid : t.info.id = s.info.id := by simpa using List.find?_some ht
  have hst : t = s := List.inj_on_of_nodup_map hb.segmentIds (List.mem_of_find?_eq_some ht) hs hid
  rw [Builder.hasDomain, ht, hst]
  exact hdomain

theorem Sound.hasDomain_iff (hb : b.Sound) {id : SegmentId} : b.hasDomain id = true ↔
    ∃ s ∈ b.segments, s.isDomain = true ∧ s.info.id = id := by
  refine ⟨segment_of_hasDomain, ?_⟩
  rintro ⟨s, hs, hdomain, rfl⟩
  exact hb.hasDomain hs hdomain

/-- A segment that waits is admitted as soon as its layer is there. -/
theorem admits_of_waiting (hd : d.WellFormed declared) (hflags : b.flags = d.calculators)
    (hcriteria : b.criteria = d.criterionTable) (hperm : (b.segments ++ segments).Perm d.segments)
    {s : SegmentDefinition} (hs : s ∈ segments) (hlayer : b.hasLayer s.info.layer = true) :
    b.Admits s := by
  have hmem : s ∈ d.segments := hperm.mem_iff.1 (List.mem_append_right _ hs)
  obtain ⟨hids, hapart⟩ := hd.of_perm hperm
  rw [List.map_append, List.nodup_append] at hids
  rw [List.pairwise_append] at hapart
  have hwindows := hd.windows s hmem
  constructor
  case notTop => exact hd.notTop s hmem
  case new =>
    exact fun t ht => hids.2.2 _ (List.mem_map.2 ⟨t, ht, rfl⟩) _ (List.mem_map.2 ⟨s, hs, rfl⟩)
  case layer => exact hlayer
  case inRange =>
    obtain ⟨criterion, hc, hid, hrange⟩ := hd.criterion s hmem
    refine ⟨criterion, ?_, hrange⟩
    rw [hcriteria]
    exact (SpaceDefinition.get?_criterionTable hd.criterionIds).2 ⟨hc, hid⟩
  case active => simpa [Window.isInverted] using hwindows.1
  case overridesWindow => simpa [Window.isInverted] using hwindows.2
  case fits =>
    intro name change hc
    obtain ⟨flag, hf, hname, hsuits⟩ := hd.overrides s hmem name change hc
    refine ⟨flag.calculator, ?_, FlagOverride.expectType_eq_ok_iff.2 hsuits⟩
    rw [hflags]
    exact (SpaceDefinition.get?_calculators hd.flagNames).2 ⟨flag, hf, hname, rfl⟩
  case apart => exact fun t ht => hapart.2.2 t ht s hs

namespace Between

/-- A layer of the definition is there or waits. -/
theorem hasLayer_or_waits (h : b.Between layers segments d) {layer : LayerInfo}
    (hl : layer ∈ d.layers) : b.hasLayer layer.id = true ∨ layer ∈ layers := by
  refine (List.mem_append.1 (h.allLayers.mem_iff.2 hl)).imp_left fun hmem => ?_
  obtain ⟨draft, hd, rfl⟩ := List.mem_map.1 hmem
  exact hasLayer_iff.2 ⟨draft, hd, rfl⟩

/-- A segment of the definition whose layer is there is there too. -/
theorem mem_segments (h : b.Between layers segments d) {s : SegmentDefinition}
    (hs : s ∈ d.segments) (hlayer : b.hasLayer s.info.layer = true) : s ∈ b.segments := by
  refine (List.mem_append.1 (h.allSegments.mem_iff.2 hs)).resolve_right fun hwaits => ?_
  rw [h.waiting s hwaits] at hlayer
  cases hlayer

/-! ## 2. One pass -/

/-- **There is progress.**  Of the layers that wait one is enclosed by none of them, and so its
domain is there. -/
theorem exists_ready (h : b.Between layers segments d) (hd : d.WellFormed declared)
    (hlayers : layers ≠ []) : (b.readyLayers layers).1 ≠ [] := by
  obtain ⟨first, hfirst⟩ := List.exists_mem_of_ne_nil _ hlayers
  obtain ⟨_, ⟨layer, hl, rfl⟩, hmin⟩ := hd.wellFounded.has_min
    {id | ∃ layer ∈ layers, layer.id = id} ⟨first.id, first, hfirst, rfl⟩
  have hl' : layer ∈ d.layers := h.allLayers.mem_iff.1 (List.mem_append_right _ hl)
  suffices hready : layer.isTop = true ∨ b.hasDomain layer.domain = true by
    have hmem : layer ∈ (b.readyLayers layers).1 := by
      rw [readyLayers, List.partition_eq_filter_filter]
      simpa [hl] using hready
    exact List.ne_nil_of_mem hmem
  refine (Bool.eq_false_or_eq_true layer.isTop).imp_right fun htop => ?_
  obtain ⟨s, hs, hdomain, hid⟩ := hd.nested layer hl' htop
  obtain ⟨outer, houter, houterId⟩ := hd.layer s hs
  have henc : d.Encloses outer.id layer.id :=
    ⟨layer, hl', rfl, htop, s, hs, hdomain, hid, houterId.symm⟩
  have hthere : b.hasLayer outer.id = true :=
    (h.hasLayer_or_waits houter).resolve_right fun hwaits => hmin _ ⟨outer, hwaits, rfl⟩ henc
  rw [← hid]
  exact h.sound.hasDomain (h.mem_segments hs (houterId ▸ hthere)) hdomain

end Between

namespace Amid

/-- The layers that are ready get in. -/
theorem add_layers (h : b.Amid layers segments d) (hd : d.WellFormed declared) :
    ∃ b₁, addEach addLayer b (b.readyLayers layers).1 = (b₁, none) := by
  have hids : ((b.drafts.map (·.info) ++ layers).map (·.id)).Nodup :=
    ((h.allLayers.map (·.id)).nodup_iff).2 hd.layerIds
  rw [List.map_append, List.nodup_append] at hids
  obtain ⟨-, hids, hdisjoint⟩ := hids
  rw [readyLayers, List.partition_eq_filter_filter]
  refine ⟨_, addEach_addLayer_iff.2 ⟨hids.sublist (List.filter_sublist.map _), ?_, rfl⟩⟩
  intro layer hl
  obtain ⟨hl, hready⟩ := List.mem_filter.1 hl
  have hl' : layer ∈ d.layers := h.allLayers.mem_iff.1 (List.mem_append_right _ hl)
  refine ⟨fun hold => ?_, hd.launchTop layer hl', fun htop => by simpa [htop] using hready⟩
  obtain ⟨draft, hdraft, hid⟩ := hasLayer_iff.1 hold
  have hmem : layer.id ∈ (b.drafts.map (·.info)).map (·.id) :=
    List.mem_map.2 ⟨draft.info, List.mem_map.2 ⟨draft, hdraft, rfl⟩, hid⟩
  exact hdisjoint _ hmem _ (List.mem_map.2 ⟨layer, hl, rfl⟩) rfl

/-- The segments that are ready get in. -/
theorem add_segments (h : b.Amid layers segments d) (hd : d.WellFormed declared) {b₁ : Builder}
    (hsound : b₁.Sound)
    (hsame : b₁.flags = b.flags ∧ b₁.criteria = b.criteria ∧ b₁.segments = b.segments) :
    ∃ b₂, addEach addSegment b₁ (b₁.readySegments segments).1 = (b₂, none) := by
  obtain ⟨hflags, hcriteria, hold⟩ := hsame
  have hperm : (b₁.segments ++ segments).Perm d.segments := hold ▸ h.allSegments
  obtain ⟨hids, hapart⟩ := hd.of_perm hperm
  rw [List.map_append, List.nodup_append] at hids
  rw [List.pairwise_append] at hapart
  rw [readySegments, List.partition_eq_filter_filter]
  refine addEach_addSegment hsound (fun s hs => ?_) (hids.2.1.sublist (List.filter_sublist.map _))
    (hapart.2.1.sublist List.filter_sublist)
  obtain ⟨hs, hlayer⟩ := List.mem_filter.1 hs
  exact admits_of_waiting hd (hflags.trans h.flags) (hcriteria.trans h.criteria) hperm hs hlayer

/-- **The step.**  A pass succeeds, and then what is there and what waits still make up the
definition. -/
theorem pass (h : b.Amid layers segments d) (hd : d.WellFormed declared) : ∃ b₁ b₂,
    addEach addLayer b (b.readyLayers layers).1 = (b₁, none) ∧
    addEach addSegment b₁ (b₁.readySegments segments).1 = (b₂, none) ∧
    b₂.Between (b.readyLayers layers).2 (b₁.readySegments segments).2 d := by
  obtain ⟨b₁, hlayers⟩ := h.add_layers hd
  have hsame₁ := eq_of_addEach (fun b => (b.flags, b.criteria, b.segments))
    (fun _ _ _ => tables_addLayer) hlayers
  simp only [Prod.mk.injEq] at hsame₁
  have hinfos₁ := perm_addEach (fun b => b.drafts.map (·.info)) (fun layer => [layer])
    (fun _ _ _ => perm_infos_addLayer) hlayers
  have hsound₁ : b₁.Sound := by
    have hreaches := reaches_addEach addLayer (fun _ _ _ h => Step.layer h)
      (b.readyLayers layers).1 b
    rw [hlayers] at hreaches
    exact h.sound.reaches hreaches
  obtain ⟨b₂, hsegments⟩ := h.add_segments hd hsound₁ hsame₁
  have htables₂ := Prod.mk.inj (eq_of_addEach (fun b => (b.flags, b.criteria))
    (fun _ _ _ => tables_addSegment) hsegments)
  have hinfos₂ := eq_of_addEach (fun b => b.drafts.map (·.info))
    (fun _ _ _ => infos_addSegment) hsegments
  have hperm₂ := perm_addEach Builder.segments (fun s => [s])
    (fun _ _ _ => perm_segments_addSegment) hsegments
  rw [List.flatMap_singleton'] at hinfos₁ hperm₂
  refine ⟨b₁, b₂, hlayers, hsegments, ?_⟩
  constructor
  case sound =>
    have hreaches := reaches_addEach addSegment (fun _ _ _ h => Step.segment h)
      (b₁.readySegments segments).1 b₁
    rw [hsegments] at hreaches
    exact hsound₁.reaches hreaches
  case flags => exact htables₂.1.trans (hsame₁.1.trans h.flags)
  case criteria => exact htables₂.2.trans (hsame₁.2.1.trans h.criteria)
  case allLayers =>
    calc b₂.drafts.map (·.info) ++ (b.readyLayers layers).2
      _ |>.Perm ((b.readyLayers layers).1 ++ b.drafts.map (·.info) ++
        (b.readyLayers layers).2) := by
        rw [hinfos₂]
        exact hinfos₁.append_right _
      _ |>.Perm (b.drafts.map (·.info) ++
            ((b.readyLayers layers).1 ++ (b.readyLayers layers).2)) := by
        rw [← List.append_assoc]
        exact List.perm_append_comm.append_right _
      _ |>.Perm (b.drafts.map (·.info) ++ layers) := (b.perm_readyLayers layers).append_left _
      _ |>.Perm d.layers := h.allLayers
  case allSegments =>
    calc b₂.segments ++ (b₁.readySegments segments).2
      _ |>.Perm ((b₁.readySegments segments).1 ++ b₁.segments ++ (b₁.readySegments segments).2) :=
        hperm₂.append_right _
      _ |>.Perm (b₁.segments ++
            ((b₁.readySegments segments).1 ++ (b₁.readySegments segments).2)) := by
        rw [← List.append_assoc]
        exact List.perm_append_comm.append_right _
      _ |>.Perm (b₁.segments ++ segments) := (b₁.perm_readySegments segments).append_left _
      _ |>.Perm d.segments := hsame₁.2.2 ▸ h.allSegments
  case waiting =>
    intro s hs
    rw [readySegments, List.partition_eq_filter_filter] at hs
    rw [hasLayer_congr hinfos₂]
    simpa using (List.mem_filter.1 hs).2

end Amid

namespace Between

/-- **The run.**  The passes succeed. -/
theorem finishes (hd : d.WellFormed declared) : ∀ {passes : Nat} {b : Builder}
    {layers : List LayerInfo} {segments : List SegmentDefinition}, layers.length ≤ passes →
    b.Between layers segments d → ∃ b', addPasses passes b layers segments = (b', none)
  | _, b, [], segments, _, h => by
    -- all layers are there, so no segment waits for one
    have hnone : segments = [] := List.eq_nil_iff_forall_not_mem.2 fun s hs => by
      obtain ⟨layer, hl, hid⟩ := hd.layer s (h.allSegments.mem_iff.1 (List.mem_append_right _ hs))
      have hthere := (h.hasLayer_or_waits hl).resolve_right List.not_mem_nil
      rw [hid, h.waiting s hs] at hthere
      cases hthere
    exact ⟨b, addPasses_nil_iff.2 ⟨hnone, rfl⟩⟩
  | 0, b, layer :: rest, segments, hlength, _ => by simp at hlength
  | passes + 1, b, layer :: rest, segments, hlength, h => by
    have hready := h.exists_ready hd (List.cons_ne_nil layer rest)
    obtain ⟨b₁, b₂, hlayers, hsegments, hbetween⟩ := h.amid.pass hd
    have hfewer : (b.readyLayers (layer :: rest)).2.length ≤ passes :=
      Nat.le_of_lt_succ (Nat.lt_of_lt_of_le (length_waiting_lt hready) hlength)
    obtain ⟨b', hrest⟩ := finishes hd hfewer hbetween
    exact ⟨b', addPasses_cons_iff.2 ⟨passes, b₁, b₂, rfl, hready, hlayers, hsegments, hrest⟩⟩

end Between

/-! ## 3. The definitions that are taken -/

/-- **What is well-formed is accepted.** -/
theorem accepted_of_wellFormed (hd : d.WellFormed declared) :
    ∃ b, (start declared).addDefinition d = (b, none) := by
  obtain ⟨b, hpasses⟩ := Between.finishes hd le_rfl (between_loaded hd)
  exact ⟨b, addDefinition_start_iff.2
    ⟨⟨hd.flagNames, hd.flagTypes⟩, ⟨hd.criterionIds, hd.buckets⟩, hpasses⟩⟩

/-- What becomes of a definition: its flags and then its criteria are added, up to one that is
refused, and then come the passes. -/
inductive Takes (b : Builder) (d : SpaceDefinition) : Builder × Option ValidationError → Prop
  | flagRefused {b₁ : Builder} {e : ValidationError}
    (hflags : addEach addFlag b d.flags = (b₁, some e)) : Takes b d (b₁, some e)
  | criterionRefused {b₁ b₂ : Builder} {e : ValidationError}
    (hflags : addEach addFlag b d.flags = (b₁, none))
    (hcriteria : addEach addCriterion b₁ d.criteria = (b₂, some e)) : Takes b d (b₂, some e)
  | passes {b₁ b₂ : Builder} {result : Builder × Option ValidationError}
    (hflags : addEach addFlag b d.flags = (b₁, none))
    (hcriteria : addEach addCriterion b₁ d.criteria = (b₂, none))
    (hpasses : Passes b₂ d.layers d.segments result) : Takes b d result

/-- Adding a definition comes to an end, with one result. -/
theorem takes_iff {result : Builder × Option ValidationError} :
    Takes b d result ↔ result = b.addDefinition d := by
  constructor
  · rintro (hflags | ⟨hflags, hcriteria⟩ | ⟨hflags, hcriteria, hpasses⟩)
    · simp [addDefinition, hflags]
    · simp [addDefinition, hflags, hcriteria]
    · simp [addDefinition, hflags, hcriteria, passes_iff.1 hpasses]
  · rintro rfl
    unfold addDefinition
    split
    · next hflags => exact .flagRefused hflags
    · next hflags =>
      split
      · next hcriteria => exact .criterionRefused hflags hcriteria
      · next hcriteria => exact .passes hflags hcriteria (passes_iff.2 rfl)

/-- **The definitions that a new builder takes.**  Adding a definition always ends, with one result;
it succeeds exactly if the definition is well-formed; and then each layer and each segment that is
listed has been added once, the segment to the layer that it names. -/
theorem takes_wellFormed_only (declared : FlagRegistry) (d : SpaceDefinition) :
    (∀ result, Takes (start declared) d result ↔ result = (start declared).addDefinition d) ∧
    (((start declared).addDefinition d).2 = none ↔ d.WellFormed declared) ∧
    (((start declared).addDefinition d).2 = none →
      (((start declared).addDefinition d).1.drafts.map (·.info)).Perm d.layers ∧
      ((start declared).addDefinition d).1.segments.Perm d.segments ∧
      ∀ draft ∈ ((start declared).addDefinition d).1.drafts, ∀ s ∈ draft.segments,
        s.info.layer = draft.info.id) := by
  rcases hresult : (start declared).addDefinition d with ⟨b, result⟩
  refine ⟨fun _ => hresult ▸ takes_iff, ⟨?_, fun hd => ?_⟩, ?_⟩
  · rintro rfl
    exact wellFormed_of_accepted hresult
  · obtain ⟨b', hb'⟩ := accepted_of_wellFormed hd
    exact (Prod.mk.inj (hresult.symm.trans hb')).2
  · rintro rfl
    have hb := holds_of_accepted hresult
    exact ⟨hb.layers, hb.segments, fun draft hdraft => (hb.sound.drafts draft hdraft).layer⟩

end Builder

end Rollout
