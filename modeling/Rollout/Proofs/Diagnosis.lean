import Mathlib.Data.Fintype.Card
import Mathlib.Data.List.Find
import Mathlib.Data.Set.Finite.Basic
import Rollout.Proofs.Refusal
/-!
# What it means that domains cannot be resolved

A builder that can add none of the layers that wait says why: it blames the first of them that has a
reason of its own, and if none has, the nesting of all.  For that it looks only at the domain of
each layer, not at the layer that the domain is in.

* `Stalled` is what is known when the nesting is blamed: each of the layers has its domain in the
  definition, and the domain is in another of the layers, or in a layer that the definition does not
  have.
* So the way from a layer to the one around it never leaves the layers that are blamed; it runs into
  a cycle, or it ends where a domain is in no layer of the definition (`Stalled.loops_or_strays`).
  In the second case the nesting need not be cyclic at all.
-/

namespace Rollout

open Relation (ReflTransGen TransGen)

/-! ## 1. The way out of a layer -/

namespace SpaceDefinition

/-- The segment that a layer is nested in: the first that has the id. -/
def home? (d : SpaceDefinition) (layer : LayerInfo) : Option SegmentDefinition :=
  d.segments.find? fun s => s.info.id == layer.domain

/-- The domain that one layer is nested in is in the other one. -/
def NestedIn (d : SpaceDefinition) (inner outer : LayerInfo) : Prop :=
  outer ∈ d.layers ∧ ∃ s, d.home? inner = some s ∧ s.isDomain = true ∧ s.info.layer = outer.id

/-- The domain that a layer is nested in is in no layer of the definition. -/
def Strays (d : SpaceDefinition) (layer : LayerInfo) : Prop :=
  ∃ s, d.home? layer = some s ∧ s.isDomain = true ∧ ∀ outer ∈ d.layers, outer.id ≠ s.info.layer

/-- Layers of which none can be added before another one of them, or before one that the definition
does not have. -/
structure Stalled (d : SpaceDefinition) (layers : List LayerInfo) : Prop where
  among : layers.Sublist d.layers
  nested : ∀ layer ∈ layers, layer.isTop = false ∧ layer.launch = false
  domain : ∀ layer ∈ layers, ∃ s, d.home? layer = some s ∧ s.isDomain = true
  /-- The way out of the layers leads back to them. -/
  closed : ∀ layer ∈ layers, ∀ outer, d.NestedIn layer outer → outer ∈ layers

variable {d : SpaceDefinition} {layers : List LayerInfo}

namespace Stalled

theorem stays (h : d.Stalled layers) {layer other : LayerInfo} (hl : layer ∈ layers)
    (hway : ReflTransGen d.NestedIn layer other) : other ∈ layers := by
  induction hway with
  | refl => exact hl
  | tail _ step ih => exact h.closed _ ih _ step

/-- There is a way on, unless the domain is in no layer of the definition. -/
theorem goes_on_or_strays (h : d.Stalled layers) {layer : LayerInfo} (hl : layer ∈ layers) :
    (∃ outer, d.NestedIn layer outer) ∨ d.Strays layer := by
  obtain ⟨s, hs, hdomain⟩ := h.domain layer hl
  by_cases houter : ∃ outer ∈ d.layers, outer.id = s.info.layer
  · obtain ⟨outer, hmem, hid⟩ := houter
    exact .inl ⟨outer, hmem, s, hs, hdomain, hid.symm⟩
  · exact .inr ⟨s, hs, hdomain, fun outer hmem hid => houter ⟨outer, hmem, hid⟩⟩

/-- **The way ends in one of two manners.**  There are finitely many layers, so a way that meets
none of them twice comes to one from which it does not go on. -/
theorem loops_or_strays (h : d.Stalled layers) {layer : LayerInfo} (hl : layer ∈ layers) :
    (∃ loop ∈ layers, ReflTransGen d.NestedIn layer loop ∧ TransGen d.NestedIn loop loop) ∨
      ∃ last ∈ layers, ReflTransGen d.NestedIn layer last ∧ d.Strays last := by
  by_contra hneither
  obtain ⟨hloop, hstray⟩ := not_or.1 hneither
  -- what the way comes to are finitely many layers, none of them twice
  let Met := {other // ReflTransGen d.NestedIn layer other}
  have : Finite Met :=
    ((List.finite_toSet layers).subset fun other hway => h.stays hl hway).to_subtype
  let Outward (other inner : Met) : Prop := TransGen d.NestedIn inner.1 other.1
  have : IsTrans Met Outward := ⟨fun _ _ _ hab hbc => hbc.trans hab⟩
  have : Std.Irrefl Outward :=
    ⟨fun other hcycle => hloop ⟨other.1, h.stays hl other.2, other.2, hcycle⟩⟩
  obtain ⟨⟨last, hway⟩, -, hmin⟩ := (Finite.wellFounded_of_trans_of_irrefl Outward).has_min
    Set.univ ⟨⟨layer, .refl⟩, trivial⟩
  rcases h.goes_on_or_strays (h.stays hl hway) with ⟨outer, hstep⟩ | hstrays
  · exact hmin ⟨outer, hway.tail hstep⟩ trivial (.single hstep)
  · exact hstray ⟨last, h.stays hl hway, hway, hstrays⟩

end Stalled

end SpaceDefinition

/-! ## 2. Who blames the nesting -/

/-- The error is about a part of its own, not about how layers are nested in each other. -/
def ValidationError.OfPart : ValidationError → Prop
  | .unresolvableDomains _ => False
  | _ => True

theorem ValidationError.OfPart.ne {e : ValidationError} (h : e.OfPart) (layers : List LayerId) :
    e ≠ .unresolvableDomains layers := by
  rintro rfl
  exact h

/-- Whatever is refused is refused for a part of its own. -/
def BlamesParts {α : Type} (result : Except ValidationError α) : Prop :=
  ∀ e, result = .error e → e.OfPart

namespace Builder

variable (b : Builder)

/-- **A part that is refused** is refused for a reason of its own. -/
theorem blamesParts_add (part : Part) : BlamesParts (b.add part) := by
  intro e h
  cases refuses_of_add h <;> trivial

/-- Parts that are added in order are refused for a reason of one of them. -/
theorem ofPart_of_addEach {α : Type} {addPart : Builder → α → Except ValidationError Builder}
    (part : α → Part) (hadd : ∀ b a, b.add (part a) = addPart b a) {e : ValidationError}
    {as : List α} {b b' : Builder} (h : addEach addPart b as = (b', some e)) : e.OfPart := by
  obtain ⟨_, a, _, -, -, hrefused⟩ := exists_refused h
  exact b'.blamesParts_add (part a) e (hadd b' a ▸ hrefused)

/-- Each of the layers, asked alone, has no reason of its own. -/
theorem hopeless?_ofPart {pending : List SegmentDefinition} {layer : LayerInfo}
    {e : ValidationError} (h : b.hopeless? pending layer = some e) : e.OfPart := by
  rcases hopeless?_cases h with rfl | rfl | rfl <;> trivial

/-- The nesting is blamed if none of the layers that wait has a reason of its own: its domain waits
too. -/
theorem unresolved_eq_unresolvable_iff {waiting : List LayerInfo} {pending : List SegmentDefinition}
    {ids : List LayerId} : b.unresolved waiting pending = .unresolvableDomains ids ↔
      ids = (waiting.map (·.id)).mergeSort (· ≤ ·) ∧ ∀ layer ∈ waiting, layer.launch = false ∧
        b.hasSegment layer.domain = false ∧ ∃ s,
          pending.find? (fun s => s.info.id == layer.domain) = some s ∧ s.isDomain = true := by
  have hlayer : ∀ layer, b.hopeless? pending layer = none ↔ layer.launch = false ∧
      b.hasSegment layer.domain = false ∧ ∃ s,
        pending.find? (fun s => s.info.id == layer.domain) = some s ∧ s.isDomain = true := by
    intro layer
    unfold hopeless?
    cases layer.launch <;> cases b.hasSegment layer.domain <;> simp
    split <;> simp [SegmentDefinition.isDomain, *]
  simp only [← hlayer, ← List.findSome?_eq_none_iff]
  unfold unresolved
  cases hfound : waiting.findSome? (b.hopeless? pending) with
  | none => simp [eq_comm]
  | some e =>
    obtain ⟨layer, -, hlayer⟩ := List.exists_of_findSome?_eq_some hfound
    simp [(b.hopeless?_ofPart hlayer).ne ids]

/-! ## 3. The passes over a definition -/

variable {b} {b₁ b₂ : Builder} {d : SpaceDefinition} {layers : List LayerInfo}
  {segments : List SegmentDefinition} {ids : List LayerId}

/-- If no layer is ready, each of them waits, for a domain that is not there. -/
theorem readyLayers_of_none (h : (b.readyLayers layers).1 = []) :
    (b.readyLayers layers).2 = layers ∧
      ∀ layer ∈ layers, layer.isTop = false ∧ b.hasDomain layer.domain = false := by
  rw [readyLayers, List.partition_eq_filter_filter] at h ⊢
  have hwaits : ∀ layer ∈ layers, layer.isTop = false ∧ b.hasDomain layer.domain = false := by
    simpa using h
  exact ⟨List.filter_eq_self.2 fun layer hl => by simp [hwaits layer hl], hwaits⟩

/-- A builder between two passes over a definition, which need not be well-formed: each layer is
there or waits, a segment is there if its layer is, and the other segments wait. -/
structure Midway (b : Builder) (layers : List LayerInfo) (segments : List SegmentDefinition)
    (d : SpaceDefinition) : Prop where
  among : layers.Sublist d.layers
  layers : ∀ layer ∈ d.layers, b.hasLayer layer.id = true ∨ layer ∈ layers
  pending : segments = d.segments.filter fun s => !b.hasLayer s.info.layer
  added : ∀ s ∈ d.segments, b.hasLayer s.info.layer = true → b.hasSegment s.info.id = true

namespace Midway

/-- **The step.**  So it is after a pass. -/
theorem pass (h : b.Midway layers segments d)
    (hlayers : addEach addLayer b (b.readyLayers layers).1 = (b₁, none))
    (hsegments : addEach addSegment b₁ (b₁.readySegments segments).1 = (b₂, none)) :
    b₂.Midway (b.readyLayers layers).2 (b₁.readySegments segments).2 d := by
  have hinfos := perm_addEach (fun b => b.drafts.map (·.info)) (fun layer => [layer])
    (fun _ _ _ => perm_infos_addLayer) hlayers
  have hold := eq_of_addEach Builder.segments (fun _ _ _ => segments_addLayer) hlayers
  have hperm := perm_addEach Builder.segments (fun s => [s])
    (fun _ _ _ => perm_segments_addSegment) hsegments
  have hsame := hasLayer_congr (eq_of_addEach (fun b => b.drafts.map (·.info))
    (fun _ _ _ => infos_addSegment) hsegments)
  rw [List.flatMap_singleton'] at hinfos hperm
  rw [readySegments, List.partition_eq_filter_filter] at hperm ⊢
  rw [readyLayers, List.partition_eq_filter_filter] at hinfos ⊢
  -- the layers after the pass are those before it and those that were ready
  have hthere : ∀ id, b₁.hasLayer id = true ↔ b.hasLayer id = true ∨
      ∃ layer ∈ layers, (layer.isTop || b.hasDomain layer.domain) = true ∧ layer.id = id := by
    intro id
    have hmem : ∀ b : Builder, b.hasLayer id = true ↔
        ∃ info ∈ b.drafts.map (·.info), info.id = id :=
      fun b => by simp [hasLayer_iff]
    simp only [hmem, hinfos.mem_iff, List.mem_append, List.mem_filter, or_and_right, exists_or,
      and_assoc]
    exact or_comm
  constructor
  case among => exact List.filter_sublist.trans h.among
  case layers =>
    intro layer hl
    rw [hsame, hthere]
    rcases h.layers layer hl with hb | hwaits
    · exact .inl (.inl hb)
    · cases hready : layer.isTop || b.hasDomain layer.domain with
      | true => exact .inl (.inr ⟨layer, hwaits, hready, rfl⟩)
      | false => exact .inr (List.mem_filter.2 ⟨hwaits, by simp [hready]⟩)
  case pending =>
    change List.filter _ segments = _
    rw [h.pending, List.filter_filter]
    refine List.filter_congr fun s hs => ?_
    dsimp only [Function.comp]
    rw [hsame]
    cases hb : b.hasLayer s.info.layer with
    | false => simp
    | true => simp [(hthere _).2 (.inl hb)]
  case added =>
    intro s hs hlayer
    rw [hsame] at hlayer
    rw [hasSegment_iff]
    cases hb : b.hasLayer s.info.layer with
    | true =>
      obtain ⟨t, ht, hid⟩ := hasSegment_iff.1 (h.added s hs hb)
      exact ⟨t, hperm.mem_iff.2 (List.mem_append_right _ (hold ▸ ht)), hid⟩
    | false =>
      have hwaits : s ∈ segments := by simp [h.pending, hs, hb]
      exact ⟨s, hperm.mem_iff.2 (List.mem_append_left _ (List.mem_filter.2 ⟨hwaits, hlayer⟩)), rfl⟩

/-- A segment that is not there waits. -/
theorem hasLayer_eq_false (h : b.Midway layers segments d) {s : SegmentDefinition}
    (hs : s ∈ d.segments) (hnew : b.hasSegment s.info.id = false) :
    b.hasLayer s.info.layer = false := by
  refine Bool.eq_false_iff.2 fun hlayer => ?_
  rw [h.added s hs hlayer] at hnew
  cases hnew

/-- If the domain of a layer is not there, all segments of its id wait. -/
theorem find?_pending (h : b.Midway layers segments d) {layer : LayerInfo}
    (hnew : b.hasSegment layer.domain = false) :
    segments.find? (fun s => s.info.id == layer.domain) = d.home? layer := by
  rw [h.pending, List.find?_filter, SpaceDefinition.home?]
  refine List.find?_congr fun s hs => ?_
  cases hid : s.info.id == layer.domain with
  | false => simp
  | true => simp [h.hasLayer_eq_false hs (eq_of_beq hid ▸ hnew)]

/-- **Where the nesting is blamed**, the layers that wait are stalled. -/
theorem stalled (h : b.Midway layers segments d) (hnone : (b.readyLayers layers).1 = [])
    (hblamed : b.unresolved (b.readyLayers layers).2 segments = .unresolvableDomains ids) :
    d.Stalled layers ∧ ids = (layers.map (·.id)).mergeSort (· ≤ ·) := by
  obtain ⟨hall, hwaits⟩ := readyLayers_of_none hnone
  rw [hall] at hblamed
  obtain ⟨hids, hblamed⟩ := (unresolved_eq_unresolvable_iff b).1 hblamed
  refine ⟨⟨h.among, fun layer hl => ⟨(hwaits layer hl).1, (hblamed layer hl).1⟩, ?_, ?_⟩, hids⟩
  · intro layer hl
    obtain ⟨-, hnew, hdomain⟩ := hblamed layer hl
    rwa [h.find?_pending hnew] at hdomain
  · rintro layer hl outer ⟨houter, s, hs, -, hid⟩
    obtain ⟨-, hnew, -⟩ := hblamed layer hl
    have hsid : s.info.id = layer.domain := by simpa using List.find?_some hs
    have hlayer := h.hasLayer_eq_false (List.mem_of_find?_eq_some hs) (hsid ▸ hnew)
    refine (h.layers outer houter).resolve_left fun hthere => ?_
    rw [hid, hthere] at hlayer
    cases hlayer

end Midway

/-- **The run.**  If the passes end with the nesting to blame, the layers that it is blamed on are
stalled. -/
theorem stalled_of_passes {result : Builder × Option ValidationError}
    (h : Passes b layers segments result) (hmid : b.Midway layers segments d)
    (hblamed : result.2 = some (.unresolvableDomains ids)) :
    ∃ waiting, waiting ≠ [] ∧ d.Stalled waiting ∧ ids = (waiting.map (·.id)).mergeSort (· ≤ ·) := by
  induction h with
  | done => cases hblamed
  | layerless => cases hblamed
  | stuck hlayers hnone => exact ⟨_, hlayers, hmid.stalled hnone (Option.some.inj hblamed)⟩
  | layerRefused _ hadd =>
    exact absurd (Option.some.inj hblamed) ((ofPart_of_addEach .layer (fun _ _ => rfl) hadd).ne ids)
  | segmentRefused _ _ hadd =>
    exact absurd (Option.some.inj hblamed)
      ((ofPart_of_addEach .segment (fun _ _ => rfl) hadd).ne ids)
  | again _ hlayers hsegments _ ih => exact ih (hmid.pass hlayers hsegments) hblamed

/-- Before the first pass everything waits. -/
theorem midway_start (h : b.drafts = []) (d : SpaceDefinition) :
    b.Midway d.layers d.segments d where
  among := .refl _
  layers _ hl := .inr hl
  pending := by simp [hasLayer, draft?, h]
  added _ _ hlayer := by simp [hasLayer, draft?, h] at hlayer

/-- A definition is refused for a reason of a part, or its passes end with the nesting to blame. -/
theorem stalled_of_takes {result : Builder × Option ValidationError} (h : Takes b d result)
    (hb : b.drafts = []) (hblamed : result.2 = some (.unresolvableDomains ids)) :
    ∃ waiting, waiting ≠ [] ∧ d.Stalled waiting ∧ ids = (waiting.map (·.id)).mergeSort (· ≤ ·) := by
  cases h with
  | flagRefused hflags =>
    exact absurd (Option.some.inj hblamed)
      ((ofPart_of_addEach .flag (fun _ _ => rfl) hflags).ne ids)
  | criterionRefused _ hcriteria =>
    exact absurd (Option.some.inj hblamed)
      ((ofPart_of_addEach .criterion (fun _ _ => rfl) hcriteria).ne ids)
  | passes hflags hcriteria hpasses =>
    have hfirst := eq_of_addEach Builder.drafts (fun b flag b' hadd => by
      obtain ⟨-, -, rfl⟩ := addFlag_eq_ok_iff.1 hadd
      rfl) hflags
    have hsecond := eq_of_addEach Builder.drafts (fun b criterion b' hadd => by
      obtain ⟨-, -, rfl⟩ := addCriterion_eq_ok_iff.1 hadd
      rfl) hcriteria
    exact stalled_of_passes hpasses (midway_start (hsecond.trans (hfirst.trans hb)) d) hblamed

/-- **What it means that domains cannot be resolved.**  If a new builder refuses a definition
because of the nesting, it blames layers of the definition that are stalled.  So the way from one of
them to the layer around it, and on, stays among them, and either runs into a cycle or comes to a
layer whose domain is in no layer of the definition.  Where each segment is in a layer of the
definition, it runs into a cycle. -/
theorem stalled_of_unresolvable {declared : FlagRegistry} {d : SpaceDefinition} {ids : List LayerId}
    (h : ((start declared).addDefinition d).2 = some (.unresolvableDomains ids)) :
    ∃ waiting, waiting ≠ [] ∧ ids = (waiting.map (·.id)).mergeSort (· ≤ ·) ∧ d.Stalled waiting ∧
      ∀ layer ∈ waiting, (∀ other, ReflTransGen d.NestedIn layer other → other ∈ waiting) ∧
        ((∃ loop ∈ waiting, ReflTransGen d.NestedIn layer loop ∧ TransGen d.NestedIn loop loop) ∨
          ∃ last ∈ waiting, ReflTransGen d.NestedIn layer last ∧ d.Strays last) ∧
        ((∀ s ∈ d.segments, ∃ outer ∈ d.layers, outer.id = s.info.layer) →
          ∃ loop ∈ waiting, ReflTransGen d.NestedIn layer loop ∧
            TransGen d.NestedIn loop loop) := by
  obtain ⟨waiting, hne, hstalled, hids⟩ := stalled_of_takes (takes_iff.2 rfl) rfl h
  refine ⟨waiting, hne, hids, hstalled, fun layer hl => ⟨fun _ => hstalled.stays hl, ?_, ?_⟩⟩
  · exact hstalled.loops_or_strays hl
  · intro hlayers
    refine (hstalled.loops_or_strays hl).resolve_right ?_
    rintro ⟨last, -, -, s, hs, -, hnone⟩
    obtain ⟨outer, houter, hid⟩ := hlayers s (List.mem_of_find?_eq_some hs)
    exact hnone outer houter hid

end Builder

/-- Two layers that are nested in each other. -/
def SpaceDefinition.ring : SpaceDefinition :=
  let domain (id : SegmentId) (layer : LayerId) : SegmentDefinition :=
    .domain ⟨id, layer, 0, KeySet.ofKeys [0], .always, .always, .always⟩
  ⟨[], [⟨0, 1, true⟩], [⟨1, 20, false, 101, 102, 103⟩, ⟨2, 10, false, 201, 202, 203⟩],
    [domain 10 1, domain 20 2]⟩

theorem Builder.stalled_of_unresolvable_ring :
    ((start .empty).addDefinition .ring).2 = some (.unresolvableDomains [1, 2]) ∧
    ∃ waiting, waiting ≠ [] ∧ [1, 2] = (waiting.map (·.id)).mergeSort (· ≤ ·) ∧
    SpaceDefinition.ring.Stalled waiting ∧
    ∀ layer ∈ waiting, ∃ loop ∈ waiting, ReflTransGen SpaceDefinition.ring.NestedIn layer loop ∧
      TransGen SpaceDefinition.ring.NestedIn loop loop := by
  have hblamed : ((start .empty).addDefinition .ring).2 =
      some (.unresolvableDomains ([1, 2].mergeSort (· ≤ ·))) := rfl
  rw [List.mergeSort_of_pairwise (by decide)] at hblamed
  obtain ⟨waiting, hne, hids, hstalled, hway⟩ := stalled_of_unresolvable hblamed
  exact ⟨hblamed, waiting, hne, hids, hstalled, fun layer hl => (hway layer hl).2.2 (by decide)⟩

/-- A layer nested in a domain of a layer that is not listed. -/
def SpaceDefinition.adrift : SpaceDefinition :=
  ⟨[], [⟨0, 1, true⟩], [⟨2, 20, false, 201, 202, 203⟩],
    [.domain ⟨20, 99, 0, KeySet.ofKeys [0], .always, .always, .always⟩]⟩

/-- The nesting is blamed where nothing is nested in itself. -/
theorem Builder.unresolvable_adrift :
    ((start .empty).addDefinition .adrift).2 = some (.unresolvableDomains [2]) ∧
    ∀ layer ∈ SpaceDefinition.adrift.layers,
      (∀ outer, ¬ SpaceDefinition.adrift.NestedIn layer outer) ∧
      ¬ ∃ loop, ReflTransGen SpaceDefinition.adrift.NestedIn layer loop ∧
        TransGen SpaceDefinition.adrift.NestedIn loop loop := by
  have hblamed : ((start .empty).addDefinition .adrift).2 =
      some (.unresolvableDomains ([2].mergeSort (· ≤ ·))) := rfl
  rw [List.mergeSort_singleton] at hblamed
  have hnone : ∀ layer outer, ¬ SpaceDefinition.adrift.NestedIn layer outer := by
    rintro layer outer ⟨houter, s, hs, -, hid⟩
    have hsid : ∀ s ∈ SpaceDefinition.adrift.segments, s.info.layer = 99 := by decide
    have hlayers : ∀ layer ∈ SpaceDefinition.adrift.layers, layer.id ≠ 99 := by decide
    exact hlayers outer houter (hid.symm.trans (hsid s (List.mem_of_find?_eq_some hs)))
  refine ⟨hblamed, fun layer _ => ⟨hnone layer, ?_⟩⟩
  rintro ⟨loop, -, hcycle⟩
  obtain ⟨outer, hstep, -⟩ := TransGen.head'_iff.1 hcycle
  exact hnone loop outer hstep

end Rollout
