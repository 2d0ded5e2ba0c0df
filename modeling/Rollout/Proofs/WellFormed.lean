import Mathlib.Data.List.Perm.Lattice
import Mathlib.Order.WellFounded
import Rollout.Proofs.Admission
/-!
# The definitions that a new builder takes

A definition lists its parts in any order, and the builder finds an order in which it can add them:
each pass adds the layers whose domain is there, and then the segments whose layer is there.
`SpaceDefinition.WellFormed` says of a definition alone what makes such an order exist.

This module has the loop and one of the two directions.

* The passes come to an end, for every definition: `Passes` has the loop as it is, with no count of
  the passes, and `passes_iff` says that the loop has exactly one result, the one of `addPasses`.
* A definition that is accepted is well-formed (`wellFormed_of_accepted`): the invariant of the
  builder says so of what was added, and that is all that the definition lists (`Holds`).
-/

namespace Rollout

/-! ## 1. Well-formed definitions -/

/-- The override makes values of a type from values of that type. -/
def FlagOverride.Suits (type : FlagType) : FlagOverride → Prop
  | .replace calculator => calculator.type = type
  | .append modifiers | .prepend modifiers => ∀ m ∈ modifiers, m.type = type

theorem expectType_eq_ok_iff {expected actual : FlagType} :
    expectType expected actual = .ok () ↔ actual = expected := by
  unfold expectType
  split
  · next h => simp [h]
  · next h => simpa using Ne.symm h

theorem Modifier.expectAll_eq_ok_iff {type : FlagType} : ∀ {modifiers : List Modifier},
    expectAll type modifiers = .ok () ↔ ∀ m ∈ modifiers, m.type = type
  | [] => by simp [expectAll]
  | m :: rest => by
    rw [List.forall_mem_cons, ← expectAll_eq_ok_iff, ← expectType_eq_ok_iff, expectAll]
    cases expectType type m.type <;> simp [bind, Except.bind]

theorem FlagOverride.expectType_eq_ok_iff {type : FlagType} {change : FlagOverride} :
    change.expectType type = .ok () ↔ change.Suits type := by
  cases change with
  | replace calculator => exact Rollout.expectType_eq_ok_iff
  | append modifiers => exact Modifier.expectAll_eq_ok_iff
  | prepend modifiers => exact Modifier.expectAll_eq_ok_iff

namespace SpaceDefinition

/-- A layer has the domain that another layer is nested in. -/
def Encloses (d : SpaceDefinition) (outer inner : LayerId) : Prop :=
  ∃ layer ∈ d.layers, layer.id = inner ∧ layer.isTop = false ∧
    ∃ s ∈ d.segments, s.isDomain = true ∧ s.info.id = layer.domain ∧ s.info.layer = outer

/-- **What a definition has to be**, whatever the order of its parts. -/
structure WellFormed (declared : FlagRegistry) (d : SpaceDefinition) : Prop where
  flagNames : (d.flags.map (·.name)).Nodup
  /-- A flag that is declared is defined with the declared type. -/
  flagTypes : ∀ flag ∈ d.flags, ∀ type, declared.type? flag.name = some type →
    type = flag.calculator.type
  criterionIds : (d.criteria.map (·.id)).Nodup
  buckets : ∀ criterion ∈ d.criteria, 0 < criterion.buckets
  layerIds : (d.layers.map (·.id)).Nodup
  launchTop : ∀ layer ∈ d.layers, layer.launch = true → layer.isTop = true
  segmentIds : (d.segments.map (·.info.id)).Nodup
  notTop : ∀ s ∈ d.segments, s.info.id ≠ topDomain
  layer : ∀ s ∈ d.segments, ∃ layer ∈ d.layers, layer.id = s.info.layer
  /-- A segment has a criterion of the definition, and claims buckets of that criterion. -/
  criterion : ∀ s ∈ d.segments, ∃ criterion ∈ d.criteria, criterion.id = s.info.criterion ∧
    ∀ bucket, s.info.buckets.contains bucket = true → 0 ≤ bucket ∧ bucket < criterion.buckets
  windows : ∀ s ∈ d.segments, s.info.active.start ≤ s.info.active.stop ∧
    s.info.overridesWindow.start ≤ s.info.overridesWindow.stop
  /-- No two segments of a layer claim the same bucket of the same criterion. -/
  apart : d.segments.Pairwise fun s t => s.info.layer = t.info.layer → s.info.Apart t.info
  /-- Overrides are of flags of the definition, and make values of their type. -/
  overrides : ∀ s ∈ d.segments, ∀ name change, s.overrides.get? name = some change →
    ∃ flag ∈ d.flags, flag.name = name ∧ change.Suits flag.calculator.type
  /-- A layer that does not stand in the space itself is nested in a domain of the definition. -/
  nested : ∀ layer ∈ d.layers, layer.isTop = false →
    ∃ s ∈ d.segments, s.isDomain = true ∧ s.info.id = layer.domain
  /-- No layer is nested in itself, however deep. -/
  wellFounded : WellFounded d.Encloses

variable {declared : FlagRegistry} {d : SpaceDefinition}

/-- What holds between the segments of a definition holds between them in any order. -/
theorem WellFormed.of_perm (hd : d.WellFormed declared) {segments : List SegmentDefinition}
    (h : segments.Perm d.segments) : (segments.map (·.info.id)).Nodup ∧
      segments.Pairwise fun s t => s.info.layer = t.info.layer → s.info.Apart t.info :=
  ⟨((h.map (·.info.id)).nodup_iff).2 hd.segmentIds,
    h.symm.pairwise hd.apart fun hst heq => (hst heq.symm).symm⟩

/-- The calculators of the flags of a definition. -/
def calculators (d : SpaceDefinition) : Overrides :=
  .ofList (d.flags.map fun flag => (flag.name, flag.calculator))

/-- The criteria of a definition by their ids. -/
def criterionTable (d : SpaceDefinition) : Table CriterionId Criterion :=
  .ofList (d.criteria.map fun criterion => (criterion.id, criterion))

theorem get?_calculators (h : (d.flags.map (·.name)).Nodup) {name : String}
    {calculator : Calculator} : d.calculators.get? name = some calculator ↔
      ∃ flag ∈ d.flags, flag.name = name ∧ flag.calculator = calculator := by
  have hkeys : ((d.flags.map fun flag => (flag.name, flag.calculator)).map (·.1)).Nodup := by
    simpa [Function.comp_def] using h
  rw [calculators, Table.get?_ofList hkeys]
  simp

theorem get?_criterionTable (h : (d.criteria.map (·.id)).Nodup)
    {id : CriterionId} {criterion : Criterion} :
    d.criterionTable.get? id = some criterion ↔ criterion ∈ d.criteria ∧ criterion.id = id := by
  have hkeys : ((d.criteria.map fun criterion => (criterion.id, criterion)).map (·.1)).Nodup := by
    simpa [Function.comp_def] using h
  rw [criterionTable, Table.get?_ofList hkeys]
  simp only [List.mem_map, Prod.mk.injEq]
  constructor
  · rintro ⟨_, hc, rfl, rfl⟩
    exact ⟨hc, rfl⟩
  · rintro ⟨hc, rfl⟩
    exact ⟨_, hc, rfl, rfl⟩

end SpaceDefinition

namespace Builder

/-! ## 2. The passes as they are -/

/-- **The loop.**  What the passes make of the layers and segments that wait, and whether they
fail. -/
inductive Passes : Builder → List LayerInfo → List SegmentDefinition →
    Builder × Option ValidationError → Prop
  /-- Nothing is left. -/
  | done {b : Builder} : Passes b [] [] (b, none)
  /-- All layers are there, and a segment is in none of them. -/
  | layerless {b : Builder} {segment : SegmentDefinition} {rest : List SegmentDefinition} :
    Passes b [] (segment :: rest) (b, some (.unknownLayer segment.info.id segment.info.layer))
  /-- No layer that waits is ready. -/
  | stuck {b : Builder} {layers : List LayerInfo} {segments : List SegmentDefinition}
    (hlayers : layers ≠ []) (hnone : (b.readyLayers layers).1 = []) :
    Passes b layers segments (b, some (b.unresolved (b.readyLayers layers).2 segments))
  /-- A layer that is ready is refused. -/
  | layerRefused {b b₁ : Builder} {layers : List LayerInfo} {segments : List SegmentDefinition}
    {e : ValidationError} (hsome : (b.readyLayers layers).1 ≠ [])
    (hadd : addEach addLayer b (b.readyLayers layers).1 = (b₁, some e)) :
    Passes b layers segments (b₁, some e)
  /-- A segment that is ready is refused. -/
  | segmentRefused {b b₁ b₂ : Builder} {layers : List LayerInfo}
    {segments : List SegmentDefinition} {e : ValidationError}
    (hsome : (b.readyLayers layers).1 ≠ [])
    (hlayers : addEach addLayer b (b.readyLayers layers).1 = (b₁, none))
    (hadd : addEach addSegment b₁ (b₁.readySegments segments).1 = (b₂, some e)) :
    Passes b layers segments (b₂, some e)
  /-- What is ready is added, and the next pass looks at the rest. -/
  | again {b b₁ b₂ : Builder} {layers : List LayerInfo} {segments : List SegmentDefinition}
    {result : Builder × Option ValidationError} (hsome : (b.readyLayers layers).1 ≠ [])
    (hlayers : addEach addLayer b (b.readyLayers layers).1 = (b₁, none))
    (hsegments : addEach addSegment b₁ (b₁.readySegments segments).1 = (b₂, none))
    (hrest : Passes b₂ (b.readyLayers layers).2 (b₁.readySegments segments).2 result) :
    Passes b layers segments result

/-- The layers that are ready and those that wait are all of them. -/
theorem perm_readyLayers (b : Builder) (layers : List LayerInfo) :
    ((b.readyLayers layers).1 ++ (b.readyLayers layers).2).Perm layers := by
  rw [readyLayers, List.partition_eq_filter_filter]
  exact List.filter_append_perm _ _

theorem perm_readySegments (b : Builder) (segments : List SegmentDefinition) :
    ((b.readySegments segments).1 ++ (b.readySegments segments).2).Perm segments := by
  rw [readySegments, List.partition_eq_filter_filter]
  exact List.filter_append_perm _ _

/-- Fewer layers wait after a pass with a layer that is ready. -/
theorem length_waiting_lt {b : Builder} {layers : List LayerInfo}
    (h : (b.readyLayers layers).1 ≠ []) : (b.readyLayers layers).2.length < layers.length := by
  have hlength := (b.perm_readyLayers layers).length_eq
  rw [List.length_append] at hlength
  have hpos := List.length_pos_iff.2 h
  omega

/-- **The passes end**, with the result that `addPasses` gives, if it counts to the number of layers
or beyond. -/
theorem passes_addPasses : ∀ {passes : Nat} {b : Builder} {layers : List LayerInfo}
    {segments : List SegmentDefinition}, layers.length ≤ passes →
    Passes b layers segments (addPasses passes b layers segments)
  | _, b, [], [], _ => by
    unfold addPasses
    exact .done
  | _, b, [], segment :: rest, _ => by
    unfold addPasses
    exact .layerless
  | 0, b, layer :: rest, segments, h => by simp at h
  | passes + 1, b, layer :: rest, segments, h => by
    have hready : (layer :: rest).partition (fun layer => layer.isTop || b.hasDomain layer.domain) =
        b.readyLayers (layer :: rest) := rfl
    have hpending : ∀ b₁ : Builder, segments.partition (fun s => b₁.hasLayer s.info.layer) =
        b₁.readySegments segments := fun _ => rfl
    rw [addPasses, hready]
    swap
    · simp
    dsimp only
    split
    · next hnone => exact .stuck (by simp) (List.isEmpty_iff.1 hnone)
    · next hsome =>
      have hsome' : (b.readyLayers (layer :: rest)).1 ≠ [] := fun h => hsome (List.isEmpty_iff.2 h)
      split
      · next b₁ e hadd => exact .layerRefused hsome' hadd
      · next b₁ hlayers =>
        rw [hpending]
        split
        · next b₂ e hadd => exact .segmentRefused hsome' hlayers hadd
        · next b₂ hsegments =>
          have hfewer := length_waiting_lt hsome'
          exact .again hsome' hlayers hsegments (passes_addPasses (by omega))

/-- The loop has no two results. -/
theorem Passes.unique {b : Builder} {layers : List LayerInfo} {segments : List SegmentDefinition}
    {r r' : Builder × Option ValidationError} (h : Passes b layers segments r)
    (h' : Passes b layers segments r') : r = r' := by
  induction h generalizing r' with
  | done =>
    cases h' with
    | done => rfl
    | stuck hlayers => exact absurd rfl hlayers
    | layerRefused hsome | segmentRefused hsome | again hsome => exact absurd rfl hsome
  | layerless =>
    cases h' with
    | layerless => rfl
    | stuck hlayers => exact absurd rfl hlayers
    | layerRefused hsome | segmentRefused hsome | again hsome => exact absurd rfl hsome
  | stuck hlayers hnone =>
    cases h' with
    | done | layerless => exact absurd rfl hlayers
    | stuck => rfl
    | layerRefused hsome | segmentRefused hsome | again hsome => exact absurd hnone hsome
  | layerRefused hsome hadd =>
    cases h' with
    | done | layerless => exact absurd rfl hsome
    | stuck _ hnone => exact absurd hnone hsome
    | layerRefused _ hadd' => rw [← hadd, hadd']
    | segmentRefused _ hlayers | again _ hlayers => simp [hadd] at hlayers
  | segmentRefused hsome hlayers hadd =>
    cases h' with
    | done | layerless => exact absurd rfl hsome
    | stuck _ hnone => exact absurd hnone hsome
    | layerRefused _ hadd' => simp [hlayers] at hadd'
    | segmentRefused _ hlayers' hadd' =>
      obtain ⟨rfl, -⟩ := Prod.mk.inj (hlayers.symm.trans hlayers')
      rw [← hadd, hadd']
    | again _ hlayers' hsegments =>
      obtain ⟨rfl, -⟩ := Prod.mk.inj (hlayers.symm.trans hlayers')
      simp [hadd] at hsegments
  | again hsome hlayers hsegments _ ih =>
    cases h' with
    | done | layerless => exact absurd rfl hsome
    | stuck _ hnone => exact absurd hnone hsome
    | layerRefused _ hadd' => simp [hlayers] at hadd'
    | segmentRefused _ hlayers' hadd' =>
      obtain ⟨rfl, -⟩ := Prod.mk.inj (hlayers.symm.trans hlayers')
      simp [hsegments] at hadd'
    | again _ hlayers' hsegments' hrest' =>
      obtain ⟨rfl, -⟩ := Prod.mk.inj (hlayers.symm.trans hlayers')
      obtain ⟨rfl, -⟩ := Prod.mk.inj (hsegments.symm.trans hsegments')
      exact ih hrest'

/-- **The loop has one result.** -/
theorem passes_iff {b : Builder} {layers : List LayerInfo} {segments : List SegmentDefinition}
    {result : Builder × Option ValidationError} : Passes b layers segments result ↔
      result = addPasses layers.length b layers segments := by
  have hpasses := @passes_addPasses layers.length b layers segments le_rfl
  refine ⟨fun h => h.unique hpasses, ?_⟩
  rintro rfl
  exact hpasses

/-! ## 3. The flags and criteria of a definition -/

variable {b b' : Builder}

theorem lookup_start (declared : FlagRegistry) (name : String) :
    (start declared).declared.lookup name = declared.type? name := by
  have hmap : ∀ l : List (String × Value), (l.map fun e => (e.1, e.2.type)).lookup name =
      (l.lookup name).map Value.type := by
    intro l
    induction l with
    | nil => rfl
    | cons e rest ih =>
      rw [List.map_cons, List.lookup_cons, List.lookup_cons, ih]
      split <;> rfl
  exact hmap declared.declared

theorem foldl_withFlag : ∀ (flags : List FlagDefinition) (b : Builder),
    flags.foldl withFlag b = { b with
      flags := (flags.map fun flag => (flag.name, flag.calculator)).foldl
        (fun t e => t.insert e.1 e.2) b.flags }
  | [], _ => rfl
  | flag :: rest, b => foldl_withFlag rest (b.withFlag flag)

theorem foldl_withCriterion : ∀ (criteria : List Criterion) (b : Builder),
    criteria.foldl withCriterion b = { b with
      criteria := (criteria.map fun criterion => (criterion.id, criterion)).foldl
        (fun t e => t.insert e.1 e.2) b.criteria }
  | [], _ => rfl
  | criterion :: rest, b => foldl_withCriterion rest (b.withCriterion criterion)

/-- The builder when the flags and criteria of a definition are there, and nothing else. -/
def loaded (declared : FlagRegistry) (d : SpaceDefinition) : Builder :=
  { start declared with flags := d.calculators, criteria := d.criterionTable }

/-- A new builder takes a definition exactly if its flags and criteria are all right and the passes
over its layers and segments succeed. -/
theorem addDefinition_start_iff {declared : FlagRegistry} {d : SpaceDefinition} :
    (start declared).addDefinition d = (b, none) ↔
      ((d.flags.map (·.name)).Nodup ∧ ∀ flag ∈ d.flags, ∀ type,
        declared.type? flag.name = some type → type = flag.calculator.type) ∧
      ((d.criteria.map (·.id)).Nodup ∧ ∀ criterion ∈ d.criteria, 0 < criterion.buckets) ∧
      addPasses d.layers.length (loaded declared d) d.layers d.segments = (b, none) := by
  have hagrees : ∀ flag : FlagDefinition, (start declared).Agrees flag ↔
      ∀ type, declared.type? flag.name = some type → type = flag.calculator.type := fun flag => by
    rw [Agrees, lookup_start]
  rw [addDefinition_eq_iff]
  constructor
  · rintro ⟨b₁, b₂, hflags, hcriteria, hpasses⟩
    obtain ⟨hnames, hall, rfl⟩ := addEach_addFlag_iff.1 hflags
    obtain ⟨hids, hpos, rfl⟩ := addEach_addCriterion_iff.1 hcriteria
    refine ⟨⟨hnames, fun flag hf => (hagrees flag).1 (hall flag hf).2⟩,
      ⟨hids, fun c hc => (hpos c hc).2⟩, ?_⟩
    rw [foldl_withCriterion, foldl_withFlag] at hpasses
    exact hpasses
  · rintro ⟨⟨hnames, htypes⟩, ⟨hids, hpos⟩, hpasses⟩
    refine ⟨_, _, addEach_addFlag_iff.2 ⟨hnames, fun flag hf => ⟨by simp [start], ?_⟩, rfl⟩,
      addEach_addCriterion_iff.2 ⟨hids, fun c hc => ⟨?_, hpos c hc⟩, rfl⟩, ?_⟩
    · exact (hagrees flag).2 (htypes flag hf)
    · rw [foldl_withFlag]
      simp [start]
    · rw [foldl_withCriterion, foldl_withFlag]
      exact hpasses

/-! ## 4. What is accepted is well-formed -/

/-- All windows of the segments that were accepted end after they start, or when they start. -/
def Upright (b : Builder) : Prop :=
  ∀ s ∈ b.segments, s.info.active.isInverted = false ∧ s.info.overridesWindow.isInverted = false

theorem Upright.step (hb : b.Upright) (h : Step b b') : b'.Upright := by
  cases h with
  | flag h => rwa [Upright, segments_addFlag h]
  | criterion h => rwa [Upright, segments_addCriterion h]
  | layer h => rwa [Upright, segments_addLayer h]
  | segment h =>
    obtain ⟨-, -, -, -, -, hwindows, -⟩ := addSegment_eq_ok_iff.1 h
    intro s hs
    rcases List.mem_cons.1 ((perm_segments_addSegment h).mem_iff.1 hs) with rfl | hs
    · exact hwindows
    · exact hb s hs

theorem Upright.reaches (hb : b.Upright) (h : Reaches b b') : b'.Upright := by
  induction h with
  | refl => exact hb
  | tail _ step ih => exact ih.step step

/-- The passes add each layer once. -/
theorem perm_infos_addPasses : ∀ {passes : Nat} {b b' : Builder} {layers : List LayerInfo}
    {segments : List SegmentDefinition}, addPasses passes b layers segments = (b', none) →
    (b'.drafts.map (·.info)).Perm (layers ++ b.drafts.map (·.info))
  | _, b, b', [], segments, h => by
    obtain ⟨-, rfl⟩ := addPasses_nil_iff.1 h
    exact .refl _
  | 0, b, b', layer :: rest, segments, h => by
    obtain ⟨_, _, _, hpasses, -⟩ := addPasses_cons_iff.1 h
    cases hpasses
  | passes + 1, b, b', layer :: rest, segments, h => by
    obtain ⟨_, b₁, b₂, hpasses, -, hlayers, hsegments, hrest⟩ := addPasses_cons_iff.1 h
    cases hpasses
    have hfirst := perm_addEach (fun b => b.drafts.map (·.info)) (fun layer => [layer])
      (fun _ _ _ => perm_infos_addLayer) hlayers
    rw [List.flatMap_singleton'] at hfirst
    have hsecond := eq_of_addEach (fun b => b.drafts.map (·.info))
      (fun _ _ _ => infos_addSegment) hsegments
    have hparts := List.perm_append_comm.trans (b.perm_readyLayers (layer :: rest))
    calc b'.drafts.map (·.info)
      _ |>.Perm ((b.readyLayers (layer :: rest)).2 ++ b₂.drafts.map (·.info)) :=
        perm_infos_addPasses hrest
      _ |>.Perm ((b.readyLayers (layer :: rest)).2 ++
            ((b.readyLayers (layer :: rest)).1 ++ b.drafts.map (·.info))) := by
        rw [hsecond]
        exact hfirst.append_left _
      _ |>.Perm (layer :: rest ++ b.drafts.map (·.info)) := by
        rw [← List.append_assoc]
        exact hparts.append_right _

/-- The passes leave the flags and the criteria alone. -/
theorem tables_addPasses : ∀ {passes : Nat} {b b' : Builder} {layers : List LayerInfo}
    {segments : List SegmentDefinition}, addPasses passes b layers segments = (b', none) →
    (b'.flags, b'.criteria) = (b.flags, b.criteria)
  | _, b, b', [], segments, h => by
    obtain ⟨-, rfl⟩ := addPasses_nil_iff.1 h
    rfl
  | 0, b, b', layer :: rest, segments, h => by
    obtain ⟨_, _, _, hpasses, -⟩ := addPasses_cons_iff.1 h
    cases hpasses
  | passes + 1, b, b', layer :: rest, segments, h => by
    obtain ⟨_, b₁, b₂, hpasses, -, hlayers, hsegments, hrest⟩ := addPasses_cons_iff.1 h
    cases hpasses
    have hfirst := eq_of_addEach (fun b => (b.flags, b.criteria, b.segments))
      (fun _ _ _ => tables_addLayer) hlayers
    have hsecond := eq_of_addEach (fun b => (b.flags, b.criteria))
      (fun _ _ _ => tables_addSegment) hsegments
    simp only [Prod.mk.injEq] at hfirst
    exact (tables_addPasses hrest).trans (hsecond.trans (by rw [hfirst.1, hfirst.2.1]))

/-- A builder holds what a definition lists, each part once, and nothing else. -/
structure Holds (b : Builder) (d : SpaceDefinition) : Prop where
  sound : b.Sound
  upright : b.Upright
  flags : b.flags = d.calculators
  criteria : b.criteria = d.criterionTable
  layers : (b.drafts.map (·.info)).Perm d.layers
  segments : b.segments.Perm d.segments

/-- **Nothing is left out.**  A new builder that has accepted a definition holds what it lists. -/
theorem holds_of_accepted {declared : FlagRegistry} {d : SpaceDefinition}
    (h : (start declared).addDefinition d = (b, none)) : b.Holds d := by
  obtain ⟨-, -, hpasses⟩ := addDefinition_start_iff.1 h
  have hb : ((start declared).addDefinition d).1 = b := by rw [h]
  have hupright : (start declared).Upright := fun s hs => by cases hs
  have htables := Prod.mk.inj (tables_addPasses hpasses)
  constructor
  · exact hb ▸ sound_addDefinition declared d
  · exact hb ▸ hupright.reaches (reaches_addDefinition _ d)
  · exact htables.1
  · exact htables.2
  · simpa [loaded, start] using perm_infos_addPasses hpasses
  · simpa [loaded, start, segments] using perm_segments_addPasses hpasses

variable {declared : FlagRegistry} {d : SpaceDefinition}

namespace Holds

/-- A layer of the definition is a layer of the builder. -/
theorem exists_draft (h : b.Holds d) {layer : LayerInfo} (hl : layer ∈ d.layers) :
    ∃ draft ∈ b.drafts, draft.info = layer :=
  List.mem_map.1 (h.layers.mem_iff.2 hl)

theorem mem_layers (h : b.Holds d) {draft : LayerDraft} (hd : draft ∈ b.drafts) :
    draft.info ∈ d.layers :=
  h.layers.mem_iff.1 (List.mem_map.2 ⟨draft, hd, rfl⟩)

/-- **Nesting ends.**  The layers are listed before those that enclose them, so that no chain of
enclosing layers is longer than the list. -/
theorem acc_encloses (h : b.Holds d) : ∀ {newer older : List LayerDraft},
    newer ++ older = b.drafts → ∀ draft ∈ older, Acc d.Encloses draft.info.id
  | newer, [], _, draft, hd => by cases hd
  | newer, first :: older, heq, draft, hd => by
    have hfirst : first ∈ b.drafts := heq ▸ by simp
    have hsplit : (newer ++ [first]) ++ older = b.drafts := by simp [heq]
    have holder : ∀ e ∈ older, Acc d.Encloses e.info.id := h.acc_encloses hsplit
    rcases List.mem_cons.1 hd with rfl | hd
    swap
    · exact holder draft hd
    refine ⟨_, ?_⟩
    rintro outer ⟨layer, hlayer, hid, htop, s, hs, -, hsid, rfl⟩
    -- the layer is the first one, and its domain is in a layer that is older
    obtain ⟨draft', hdraft', rfl⟩ := h.exists_draft hlayer
    obtain rfl := List.inj_on_of_nodup_map h.sound.layerIds hdraft' hfirst hid
    obtain ⟨e, he, t, ht, -, htid⟩ := Nested.domain (heq ▸ h.sound.nested) htop
    have he' : e ∈ b.drafts := heq ▸ by simp [he]
    have hst : s = t := List.inj_on_of_nodup_map h.sound.segmentIds (h.segments.mem_iff.2 hs)
      (mem_segments_iff.2 ⟨e, he', ht⟩) (hsid.trans htid.symm)
    rw [hst, (h.sound.drafts e he').layer t ht]
    exact holder e he

/-- The builder shows that the definition is well-formed, its flags and criteria apart. -/
theorem wellFormed (h : b.Holds d) (hnames : (d.flags.map (·.name)).Nodup)
    (htypes : ∀ flag ∈ d.flags, ∀ type, declared.type? flag.name = some type →
      type = flag.calculator.type)
    (hids : (d.criteria.map (·.id)).Nodup)
    (hpos : ∀ criterion ∈ d.criteria, 0 < criterion.buckets) : d.WellFormed declared := by
  -- where a segment of the definition is in the builder
  have hplace : ∀ s ∈ d.segments, ∃ draft ∈ b.drafts, s ∈ draft.segments ∧
      draft.info.id = s.info.layer := fun s hs => by
    obtain ⟨draft, hd, hsd⟩ := mem_segments_iff.1 (h.segments.mem_iff.2 hs)
    exact ⟨draft, hd, hsd, ((h.sound.drafts draft hd).layer s hsd).symm⟩
  refine {
    flagNames := hnames, flagTypes := htypes, criterionIds := hids, buckets := hpos
    layerIds := ?layerIds, launchTop := ?launchTop, segmentIds := ?segmentIds, notTop := ?notTop
    layer := ?layer, criterion := ?criterion, windows := ?windows, apart := ?apart
    overrides := ?overrides, nested := ?nested, wellFounded := ?wellFounded }
  case layerIds =>
    refine ((h.layers.map (·.id)).nodup_iff).1 ?_
    rw [List.map_map]
    exact h.sound.layerIds
  case launchTop =>
    intro layer hl
    obtain ⟨draft, hd, rfl⟩ := h.exists_draft hl
    exact h.sound.launchTop draft hd
  case segmentIds => exact ((h.segments.map (·.info.id)).nodup_iff).1 h.sound.segmentIds
  case notTop => exact fun s hs => h.sound.notTop s (h.segments.mem_iff.2 hs)
  case layer =>
    intro s hs
    obtain ⟨draft, hd, -, hid⟩ := hplace s hs
    exact ⟨draft.info, h.mem_layers hd, hid⟩
  case criterion =>
    intro s hs
    obtain ⟨draft, hd, hsd, -⟩ := hplace s hs
    obtain ⟨criterion, hget, hrange⟩ := (h.sound.drafts draft hd).inRange s hsd
    rw [h.criteria, SpaceDefinition.get?_criterionTable hids] at hget
    exact ⟨criterion, hget.1, hget.2, hrange⟩
  case windows =>
    intro s hs
    have hupright := h.upright s (h.segments.mem_iff.2 hs)
    simpa [Window.isInverted] using hupright
  case apart =>
    have hsymm : ∀ {s t : SegmentDefinition}, (s.info.layer = t.info.layer → s.info.Apart t.info) →
        (t.info.layer = s.info.layer → t.info.Apart s.info) := fun hst heq => (hst heq.symm).symm
    refine h.segments.pairwise (List.pairwise_flatMap.2 ⟨fun draft hd => ?_, ?_⟩) hsymm
    · refine (h.sound.drafts draft hd).apart.imp ?_
      exact fun hapart _ => hapart
    · refine (List.pairwise_map.1 h.sound.layerIds).imp_of_mem fun hd he hne s hs t ht heq => ?_
      refine absurd ?_ hne
      rw [← (h.sound.drafts _ hd).layer s hs, heq, (h.sound.drafts _ he).layer t ht]
  case overrides =>
    intro s hs name change hc
    obtain ⟨calculator, hget, hsuits⟩ :=
      h.sound.overrides s (h.segments.mem_iff.2 hs) name change hc
    rw [h.flags, SpaceDefinition.get?_calculators hnames] at hget
    obtain ⟨flag, hf, rfl, rfl⟩ := hget
    exact ⟨flag, hf, rfl, FlagOverride.expectType_eq_ok_iff.1 hsuits⟩
  case nested =>
    intro layer hl htop
    obtain ⟨draft, hd, rfl⟩ := h.exists_draft hl
    obtain ⟨e, he, s, hs, hdomain, hid⟩ := h.sound.nested.exists_domain hd htop
    exact ⟨s, h.segments.mem_iff.1 (mem_segments_iff.2 ⟨e, he, hs⟩), hdomain, hid⟩
  case wellFounded =>
    refine ⟨fun inner => ⟨_, ?_⟩⟩
    rintro outer ⟨layer, hl, rfl, henc⟩
    obtain ⟨draft, hd, rfl⟩ := h.exists_draft hl
    exact (h.acc_encloses (List.nil_append _) draft hd).inv ⟨draft.info, hl, rfl, henc⟩

end Holds

/-- **What is accepted is well-formed.** -/
theorem wellFormed_of_accepted (h : (start declared).addDefinition d = (b, none)) :
    d.WellFormed declared := by
  obtain ⟨⟨hnames, htypes⟩, ⟨hids, hpos⟩, -⟩ := addDefinition_start_iff.1 h
  exact (holds_of_accepted h).wellFormed hnames htypes hids hpos

end Builder

end Rollout
