import Mathlib.Data.List.Perm.Basic
import Rollout.Proofs.Builder
/-!
# When a builder accepts many parts

`Rollout.Proofs.Builder` has the exact conditions on which a builder accepts a single part.  Parts
are accepted one after the other, and a definition is accepted if its parts are, in the order of the
passes; then it leaves its segments in the builder, each once (`perm_segments_addDefinition`).
-/

namespace Rollout

namespace Builder

variable {b b' : Builder}

/-! ## 1. Many parts -/

variable {α : Type} {add : Builder → α → Except ValidationError Builder}

theorem addEach_nil_iff : addEach add b [] = (b', none) ↔ b = b' := by
  simp [addEach]

/-- Parts are accepted one after the other. -/
theorem addEach_cons_iff {part : α} {rest : List α} : addEach add b (part :: rest) = (b', none) ↔
    ∃ b₁, add b part = .ok b₁ ∧ addEach add b₁ rest = (b', none) := by
  rw [addEach]
  cases add b part <;> simp

/-- What no part changes, many parts do not change. -/
theorem eq_of_addEach {β : Type} (there : Builder → β)
    (hadd : ∀ b part b', add b part = .ok b' → there b' = there b) :
    ∀ {parts : List α} {b b' : Builder}, addEach add b parts = (b', none) → there b' = there b
  | [], b, b', h => by rw [addEach_nil_iff.1 h]
  | part :: rest, b, b', h => by
    obtain ⟨b₁, hpart, hrest⟩ := addEach_cons_iff.1 h
    exact (eq_of_addEach there hadd hrest).trans (hadd b part b₁ hpart)

/-- What each part adds to a list, many parts add together. -/
theorem perm_addEach {β : Type} (there : Builder → List β) (brings : α → List β)
    (hadd : ∀ b part b', add b part = .ok b' → (there b').Perm (brings part ++ there b)) :
    ∀ {parts : List α} {b b' : Builder}, addEach add b parts = (b', none) →
      (there b').Perm (parts.flatMap brings ++ there b)
  | [], b, b', h => by
    rw [addEach_nil_iff.1 h]
    exact .refl _
  | part :: rest, b, b', h => by
    obtain ⟨b₁, hpart, hrest⟩ := addEach_cons_iff.1 h
    refine (perm_addEach there brings hadd hrest).trans
      (((hadd b part b₁ hpart).append_left _).trans ?_)
    rw [List.flatMap_cons, List.append_assoc]
    exact List.perm_append_comm_assoc ..

/-- The layers of a pass, those whose domain is there, and those that wait. -/
def readyLayers (b : Builder) (layers : List LayerInfo) : List LayerInfo × List LayerInfo :=
  layers.partition fun layer => layer.isTop || b.hasDomain layer.domain

/-- The segments of a pass, those whose layer is there, and those that wait. -/
def readySegments (b : Builder) (segments : List SegmentDefinition) :
    List SegmentDefinition × List SegmentDefinition :=
  segments.partition fun segment => b.hasLayer segment.info.layer

theorem addPasses_nil_iff {passes : Nat} {segments : List SegmentDefinition} :
    addPasses passes b [] segments = (b', none) ↔ segments = [] ∧ b = b' := by
  unfold addPasses
  cases segments <;> simp

/-- **One pass**, and then the others. -/
theorem addPasses_cons_iff {passes : Nat} {layer : LayerInfo} {rest : List LayerInfo}
    {segments : List SegmentDefinition} :
    addPasses passes b (layer :: rest) segments = (b', none) ↔ ∃ fewer b₁ b₂,
      passes = fewer + 1 ∧ (b.readyLayers (layer :: rest)).1 ≠ [] ∧
      addEach addLayer b (b.readyLayers (layer :: rest)).1 = (b₁, none) ∧
      addEach addSegment b₁ (b₁.readySegments segments).1 = (b₂, none) ∧
      addPasses fewer b₂ (b.readyLayers (layer :: rest)).2 (b₁.readySegments segments).2 =
        (b', none) := by
  cases passes with
  | zero =>
    unfold addPasses
    simp
  | succ fewer =>
    have hready : (layer :: rest).partition (fun layer => layer.isTop || b.hasDomain layer.domain) =
        b.readyLayers (layer :: rest) := rfl
    have hpending : ∀ b₁ : Builder, segments.partition (fun s => b₁.hasLayer s.info.layer) =
        b₁.readySegments segments := fun _ => rfl
    rw [addPasses, hready]
    swap
    · simp
    rcases b.readyLayers (layer :: rest) with ⟨ready, waiting⟩
    by_cases hnone : ready = []
    · simp [hnone]
    rcases hlayers : addEach addLayer b ready with ⟨b₁, _ | e⟩
    swap
    · simp [hnone, hlayers]
    rcases hsegments : addEach addSegment b₁ (b₁.readySegments segments).1 with ⟨b₂, _ | e⟩ <;>
      simp only [hlayers, hpending] <;> simp [hnone, hsegments]

/-- A definition is accepted part by part: its flags, its criteria, and then the rest in passes. -/
theorem addDefinition_eq_iff {definition : SpaceDefinition} :
    b.addDefinition definition = (b', none) ↔ ∃ b₁ b₂,
      addEach addFlag b definition.flags = (b₁, none) ∧
      addEach addCriterion b₁ definition.criteria = (b₂, none) ∧
      addPasses definition.layers.length b₂ definition.layers definition.segments = (b', none) := by
  unfold addDefinition
  rcases hflags : addEach addFlag b definition.flags with ⟨b₁, _ | e⟩
  swap
  · simp
  rcases hcriteria : addEach addCriterion b₁ definition.criteria with ⟨b₂, _ | e⟩ <;>
    simp [hcriteria]

/-! ## 2. The segments of a definition -/

/-- **Everything is added.**  The passes add each segment once. -/
theorem perm_segments_addPasses : ∀ {passes : Nat} {b b' : Builder} {layers : List LayerInfo}
    {segments : List SegmentDefinition}, addPasses passes b layers segments = (b', none) →
    b'.segments.Perm (segments ++ b.segments)
  | _, b, b', [], segments, h => by
    obtain ⟨rfl, rfl⟩ := addPasses_nil_iff.1 h
    exact .refl _
  | 0, b, b', layer :: rest, segments, h => by
    obtain ⟨_, _, _, hpasses, -⟩ := addPasses_cons_iff.1 h
    cases hpasses
  | passes + 1, b, b', layer :: rest, segments, h => by
    obtain ⟨_, b₁, b₂, hpasses, -, hlayers, hsegments, hrest⟩ := addPasses_cons_iff.1 h
    cases hpasses
    have hfirst : b₁.segments = b.segments :=
      eq_of_addEach Builder.segments (fun _ _ _ => segments_addLayer) hlayers
    have hsecond := perm_addEach Builder.segments (fun s => [s])
      (fun _ _ _ h => perm_segments_addSegment h) hsegments
    rw [List.flatMap_singleton'] at hsecond
    have hparts :
        ((b₁.readySegments segments).2 ++ (b₁.readySegments segments).1).Perm segments := by
      rw [readySegments, List.partition_eq_filter_filter]
      exact List.perm_append_comm.trans (List.filter_append_perm _ _)
    calc b'.segments
      _ |>.Perm ((b₁.readySegments segments).2 ++ b₂.segments) := perm_segments_addPasses hrest
      _ |>.Perm ((b₁.readySegments segments).2 ++
            ((b₁.readySegments segments).1 ++ b₁.segments)) := hsecond.append_left _
      _ |>.Perm (segments ++ b.segments) := by
        rw [← List.append_assoc, hfirst]
        exact hparts.append_right _

/-- An accepted definition leaves its segments in the builder, each once. -/
theorem perm_segments_addDefinition {definition : SpaceDefinition}
    (h : b.addDefinition definition = (b', none)) :
    b'.segments.Perm (definition.segments ++ b.segments) := by
  obtain ⟨b₁, b₂, hflags, hcriteria, hpasses⟩ := addDefinition_eq_iff.1 h
  have hfirst : b₁.segments = b.segments :=
    eq_of_addEach Builder.segments (fun _ _ _ => segments_addFlag) hflags
  have hsecond : b₂.segments = b₁.segments :=
    eq_of_addEach Builder.segments (fun _ _ _ => segments_addCriterion) hcriteria
  rw [← hfirst, ← hsecond]
  exact perm_segments_addPasses hpasses

end Builder

end Rollout
