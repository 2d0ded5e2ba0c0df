import Rollout.Proofs.Acceptance
import Rollout.Proofs.Overlap
/-!
# A definition with one experiment muted

To mute an experiment is to empty its table of overrides, and to leave everything else of a
definition as it is.  The builder looks at overrides in one check only, which an empty table passes.
So it takes a muted definition the same way, part by part: `addSegment_mute` is the step, and
`addDefinition_mute` says that a definition that is accepted is accepted muted, and leaves the same
builder but for the muted overrides.
-/

namespace Rollout

/-! ## 1. Muting -/

namespace SegmentDefinition

/-- The segment without overrides, if it is the experiment of that id. -/
def mute (id : SegmentId) : SegmentDefinition → SegmentDefinition
  | .experiment info overrides => .experiment info (if info.id = id then .empty else overrides)
  | .domain info => .domain info

@[simp] theorem info_mute (id : SegmentId) (s : SegmentDefinition) : (s.mute id).info = s.info := by
  cases s <;> rfl

@[simp] theorem isDomain_mute (id : SegmentId) (s : SegmentDefinition) :
    (s.mute id).isDomain = s.isDomain := by
  cases s <;> rfl

theorem overrides_mute (id : SegmentId) (s : SegmentDefinition) :
    (s.mute id).overrides = if s.info.id = id then .empty else s.overrides := by
  cases s with
  | experiment info overrides => rfl
  | domain info => exact (ite_self _).symm

theorem get?_overrides_mute {id : SegmentId} {s : SegmentDefinition} {flag : String}
    {change : FlagOverride} : (s.mute id).overrides.get? flag = some change ↔
      s.info.id ≠ id ∧ s.overrides.get? flag = some change := by
  rw [overrides_mute]
  split <;> simp [*]

end SegmentDefinition

/-- The draft with the experiment muted. -/
def LayerDraft.mute (id : SegmentId) (draft : LayerDraft) : LayerDraft :=
  { draft with segments := draft.segments.map (·.mute id) }

/-- The builder with the experiment muted. -/
def Builder.mute (id : SegmentId) (b : Builder) : Builder :=
  { b with drafts := b.drafts.map (·.mute id) }

/-- The definition with the experiment muted. -/
def SpaceDefinition.mute (id : SegmentId) (definition : SpaceDefinition) : SpaceDefinition :=
  { definition with segments := definition.segments.map (·.mute id) }

@[simp] theorem LayerDraft.info_mute (id : SegmentId) (draft : LayerDraft) :
    (draft.mute id).info = draft.info := rfl

/-- A draft takes a segment muted as it takes it otherwise. -/
theorem LayerDraft.add_mute (id : SegmentId) (draft : LayerDraft) (segment : SegmentDefinition)
    (criterion : Criterion) : (draft.mute id).add (segment.mute id) criterion =
      (draft.add segment criterion).map (·.mute id) := by
  have howners : (draft.mute id).owners criterion.id = draft.owners criterion.id := rfl
  simp only [add, SegmentDefinition.info_mute, info_mute, howners]
  cases checkRange segment.info.id criterion.buckets segment.info.buckets.keys with
  | error e => rfl
  | ok _ =>
    simp only [bind, Except.bind]
    split
    · rfl
    · simp [pure, Except.pure, Except.map, mute]

namespace Builder

variable {id : SegmentId}

theorem segments_mute (b : Builder) : (b.mute id).segments = b.segments.map (·.mute id) := by
  simp only [segments, mute, List.flatMap_map, List.map_flatMap]
  rfl

theorem segment?_mute (b : Builder) (other : SegmentId) :
    (b.mute id).segment? other = (b.segment? other).map (·.mute id) := by
  rw [segment?, segment?, segments_mute, List.find?_map]
  simp only [Function.comp_def, SegmentDefinition.info_mute]

@[simp] theorem hasSegment_mute (b : Builder) (other : SegmentId) :
    (b.mute id).hasSegment other = b.hasSegment other := by
  rw [hasSegment, segment?_mute, Option.isSome_map, hasSegment]

@[simp] theorem hasDomain_mute (b : Builder) (other : SegmentId) :
    (b.mute id).hasDomain other = b.hasDomain other := by
  rw [hasDomain, segment?_mute, Option.any_map, hasDomain]
  simp

@[simp] theorem hasLayer_mute (b : Builder) (layer : LayerId) :
    (b.mute id).hasLayer layer = b.hasLayer layer := by
  simp [hasLayer, draft?, mute, List.find?_map, Function.comp_def]

/-! ## 2. One part at a time -/

variable {b b' : Builder}

theorem addFlag_mute {flag : FlagDefinition} (h : b.addFlag flag = .ok b') :
    (b.mute id).addFlag flag = .ok (b'.mute id) := by
  obtain ⟨hnew, htype, rfl⟩ := addFlag_eq_ok_iff.1 h
  exact addFlag_eq_ok_iff.2 ⟨hnew, htype, rfl⟩

theorem addCriterion_mute {criterion : Criterion} (h : b.addCriterion criterion = .ok b') :
    (b.mute id).addCriterion criterion = .ok (b'.mute id) := by
  obtain ⟨hpos, hnew, rfl⟩ := addCriterion_eq_ok_iff.1 h
  exact addCriterion_eq_ok_iff.2 ⟨hpos, hnew, rfl⟩

theorem addLayer_mute {info : LayerInfo} (h : b.addLayer info = .ok b') :
    (b.mute id).addLayer info = .ok (b'.mute id) := by
  obtain ⟨hnew, hlaunch, hdomain, rfl⟩ := addLayer_eq_ok_iff.1 h
  refine addLayer_eq_ok_iff.2 ⟨?_, hlaunch, fun htop => ?_, rfl⟩
  · rw [hasLayer_mute, hnew]
  · rw [hasDomain_mute, hdomain htop]

theorem addToDraft_mute (segment : SegmentDefinition) (criterion : Criterion) :
    ∀ drafts : List LayerDraft, addToDraft (segment.mute id) criterion (drafts.map (·.mute id)) =
      (addToDraft segment criterion drafts).map (List.map (·.mute id))
  | [] => rfl
  | draft :: rest => by
    rw [List.map_cons, addToDraft, addToDraft, LayerDraft.info_mute, SegmentDefinition.info_mute,
      LayerDraft.add_mute, addToDraft_mute segment criterion rest]
    split
    · cases draft.add segment criterion <;> rfl
    · cases addToDraft segment criterion rest <;> rfl

/-- Overrides that fit still fit when some of them are emptied. -/
theorem Fits.mute {segment : SegmentDefinition} (h : b.Fits segment) :
    (b.mute id).Fits (segment.mute id) :=
  fun flag change hc => h flag change (SegmentDefinition.get?_overrides_mute.1 hc).2

/-- **The step.**  A segment that is accepted is accepted muted. -/
theorem addSegment_mute {segment : SegmentDefinition} (h : b.addSegment segment = .ok b') :
    (b.mute id).addSegment (segment.mute id) = .ok (b'.mute id) := by
  obtain ⟨htop, hnew, hlayer, criterion, hcriterion, hwindows, hfits, drafts, hdrafts, rfl⟩ :=
    addSegment_eq_ok_iff.1 h
  rw [addSegment_eq_ok_iff, SegmentDefinition.info_mute, hasSegment_mute, hasLayer_mute]
  refine ⟨htop, hnew, hlayer, criterion, hcriterion, hwindows, hfits.mute, drafts.map (·.mute id),
    ?_, rfl⟩
  change addToDraft _ _ (b.drafts.map (·.mute id)) = _
  rw [addToDraft_mute, hdrafts]
  rfl

/-! ## 3. A whole definition -/

theorem addEach_mute {α : Type} {add : Builder → α → Except ValidationError Builder} (f : α → α)
    (hadd : ∀ b part b', add b part = .ok b' → add (b.mute id) (f part) = .ok (b'.mute id)) :
    ∀ {parts : List α} {b b' : Builder}, addEach add b parts = (b', none) →
      addEach add (b.mute id) (parts.map f) = (b'.mute id, none)
  | [], b, b', h => by
    rw [addEach_nil_iff.1 h]
    rfl
  | part :: rest, b, b', h => by
    obtain ⟨b₁, hpart, hrest⟩ := addEach_cons_iff.1 h
    exact addEach_cons_iff.2 ⟨b₁.mute id, hadd b part b₁ hpart, addEach_mute f hadd hrest⟩

theorem readyLayers_mute (b : Builder) (layers : List LayerInfo) :
    (b.mute id).readyLayers layers = b.readyLayers layers := by
  simp only [readyLayers, hasDomain_mute]

theorem readySegments_mute (b : Builder) (segments : List SegmentDefinition) :
    (b.mute id).readySegments (segments.map (·.mute id)) =
      ((b.readySegments segments).1.map (·.mute id),
        (b.readySegments segments).2.map (·.mute id)) := by
  simp only [readySegments, List.partition_eq_filter_filter, hasLayer_mute, List.filter_map]
  simp only [Function.comp_def, SegmentDefinition.info_mute]

theorem addPasses_mute : ∀ {passes : Nat} {b b' : Builder} {layers : List LayerInfo}
    {segments : List SegmentDefinition}, addPasses passes b layers segments = (b', none) →
    addPasses passes (b.mute id) layers (segments.map (·.mute id)) = (b'.mute id, none)
  | _, b, b', [], segments, h => by
    obtain ⟨rfl, rfl⟩ := addPasses_nil_iff.1 h
    exact addPasses_nil_iff.2 ⟨rfl, rfl⟩
  | 0, b, b', layer :: rest, segments, h => by
    obtain ⟨_, _, _, hpasses, -⟩ := addPasses_cons_iff.1 h
    cases hpasses
  | passes + 1, b, b', layer :: rest, segments, h => by
    obtain ⟨_, b₁, b₂, hpasses, hready, hlayers, hsegments, hrest⟩ := addPasses_cons_iff.1 h
    cases hpasses
    rw [addPasses_cons_iff, readyLayers_mute]
    refine ⟨passes, b₁.mute id, b₂.mute id, rfl, hready, ?_, ?_, ?_⟩
    · rw [← List.map_id' (b.readyLayers (layer :: rest)).1]
      exact addEach_mute _ (fun _ _ _ => addLayer_mute) hlayers
    · rw [readySegments_mute]
      exact addEach_mute _ (fun _ _ _ => addSegment_mute) hsegments
    · rw [readySegments_mute]
      exact addPasses_mute hrest

/-- **A muted definition is accepted** where the definition is, and leaves the same builder but for
the muted overrides. -/
theorem addDefinition_mute {definition : SpaceDefinition}
    (h : b.addDefinition definition = (b', none)) :
    (b.mute id).addDefinition (definition.mute id) = (b'.mute id, none) := by
  obtain ⟨b₁, b₂, hflags, hcriteria, hpasses⟩ := addDefinition_eq_iff.1 h
  refine addDefinition_eq_iff.2 ⟨b₁.mute id, b₂.mute id, ?_, ?_, addPasses_mute hpasses⟩
  · rw [← List.map_id' (definition.mute id).flags]
    exact addEach_mute _ (fun _ _ _ => addFlag_mute) hflags
  · rw [← List.map_id' (definition.mute id).criteria]
    exact addEach_mute _ (fun _ _ _ => addCriterion_mute) hcriteria

/-! ## 4. The space -/

theorem lineageIn_mute : ∀ (drafts : List LayerDraft) (layer : LayerId),
    lineageIn (drafts.map (·.mute id)) layer = lineageIn drafts layer
  | [], layer => rfl
  | draft :: older, layer => by
    have houter : (older.map (·.mute id)).find? (fun d => d.segments.any fun s =>
          s.info.id == draft.info.domain) =
        (older.find? fun d => d.segments.any fun s => s.info.id == draft.info.domain).map
          (·.mute id) := by
      rw [List.find?_map]
      simp [Function.comp_def, LayerDraft.mute]
    rw [List.map_cons, lineageIn, lineageIn, LayerDraft.info_mute, houter,
      lineageIn_mute older layer]
    cases older.find? fun d => d.segments.any fun s => s.info.id == draft.info.domain with
    | none => rfl
    | some outer =>
      dsimp only [Option.map_some]
      rw [LayerDraft.info_mute, lineageIn_mute older outer.info.id]

/-- Layers that clash with an experiment muted clash. -/
theorem Clash.of_mute {flag : String} {d e : LayerDraft}
    (h : (b.mute id).Clash flag (d.mute id) (e.mute id)) : b.Clash flag d e := by
  have hover : ∀ d : LayerDraft, overridesFlag flag (d.mute id) = true →
      overridesFlag flag d = true := by
    intro d hd
    obtain ⟨_, hmuted, ho⟩ := List.any_eq_true.1 hd
    obtain ⟨s, hs, rfl⟩ := List.mem_map.1 hmuted
    obtain ⟨change, hc⟩ := Table.contains_iff.1 ho
    refine List.any_eq_true.2 ⟨s, hs, Table.contains_iff.2 ⟨change, ?_⟩⟩
    exact (SegmentDefinition.get?_overrides_mute.1 hc).2
  refine ⟨hover d h.first, hover e h.second, h.different, ?_⟩
  have hmeet := h.meet
  simp only [overlapping, lineage, mute, lineageIn_mute, LayerDraft.info_mute] at hmeet
  exact hmeet

/-- **A muted space is put together** where the space is. -/
theorem build_mute (hb : b.Sound) (hb' : (b.mute id).Sound) {version : String} {space : Space}
    (h : b.build version = .ok space) : ∃ space', (b.mute id).build version = .ok space' := by
  rw [build_isOk_iff hb']
  intro flag d' hd' e' he' hclash
  obtain ⟨d, hd, rfl⟩ := List.mem_map.1 hd'
  obtain ⟨e, he, rfl⟩ := List.mem_map.1 he'
  exact (build_isOk_iff hb).1 ⟨space, h⟩ flag d hd e he hclash.of_mute

end Builder

end Rollout
