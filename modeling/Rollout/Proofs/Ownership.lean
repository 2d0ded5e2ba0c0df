import Rollout.Proofs.Assembly
import Rollout.Proofs.Visits
/-!
# What a layer owns

A layer keeps the set of the ids that a request can gain in it, and passes a request by that carries
one of them.  `Layer.Owns` says what the set is to hold without computing it: the fallback ids of
the layer and of the layers in its domains, and the ids of the experiments of all of these.

* `contains_owned_iff`: in a layer that is made of its segments, the set holds exactly these ids;
* `owns_of_recorded`: whatever a request records on its way through a layer is owned by the layer;
* `Layer.New.of_mem_tree`: a request that is new to a layer is new to everything in it.
-/

namespace Rollout

/-! ## 1. Owned ids -/

/-- The layer is made of its segments: its index and the ids that it owns are worked out from
them. -/
def Layer.Made (l : Layer) : Prop := l = .ofSegments l.info l.segments

/-- The id is a fallback id of the layer, or that of an experiment that stands in it directly. -/
def Layer.Names (l : Layer) (id : SegmentId) : Prop :=
  id ∈ [l.info.unbiased, l.info.fixedBiased, l.info.randomBiased] ∨
    ∃ info effect, .experiment info effect ∈ l.segments ∧ info.id = id

/-- The id is named in the layer or in a layer that is nested in it, at any depth. -/
def Layer.Owns (l : Layer) (id : SegmentId) : Prop := ∃ m ∈ l.tree, m.Names id

/-- The segment is an experiment of that id, or a domain in which the id is named at some depth. -/
def Segment.Owns (s : Segment) (id : SegmentId) : Prop :=
  (∃ info effect, s = .experiment info effect ∧ info.id = id) ∨ ∃ m ∈ s.tree, m.Names id

theorem Segment.owns_experiment {info : SegmentInfo} {effect : Effect} {id : SegmentId} :
    (Segment.experiment info effect).Owns id ↔ info.id = id := by
  simp [Segment.Owns]

theorem Segment.owns_domain {info : SegmentInfo} {layers : List Layer} {id : SegmentId} :
    (Segment.domain info layers).Owns id ↔ ∃ l ∈ layers, l.Owns id := by
  simp only [Segment.Owns, Segment.tree_domain, List.mem_flatMap, Layer.Owns]
  constructor
  · rintro (⟨_, _, heq, -⟩ | ⟨m, ⟨l, hl, hm⟩, hid⟩)
    · cases heq
    · exact ⟨l, hl, m, hm, hid⟩
  · rintro ⟨l, hl, m, hm, hid⟩
    exact .inr ⟨m, ⟨l, hl, hm⟩, hid⟩

/-- A layer owns its fallback ids and what its segments own. -/
theorem Layer.owns_iff {l : Layer} {id : SegmentId} :
    l.Owns id ↔ id ∈ [l.info.unbiased, l.info.fixedBiased, l.info.randomBiased] ∨
      ∃ s ∈ l.segments, s.Owns id := by
  rw [Layer.Owns, Layer.tree_eq]
  simp only [List.mem_cons, exists_eq_or_imp, List.mem_flatMap]
  constructor
  · rintro ((hid | ⟨info, effect, hs, rfl⟩) | ⟨m, ⟨s, hs, hm⟩, hid⟩)
    · exact .inl (by simpa using hid)
    · exact .inr ⟨_, hs, .inl ⟨info, effect, rfl, rfl⟩⟩
    · exact .inr ⟨s, hs, .inr ⟨m, hm, hid⟩⟩
  · rintro (hid | ⟨s, hs, ⟨info, effect, rfl, rfl⟩ | ⟨m, hm, hid⟩⟩)
    · exact .inl (.inl (by simpa using hid))
    · exact .inl (.inr ⟨info, effect, hs, rfl⟩)
    · exact .inr ⟨m, ⟨s, hs, hm⟩, hid⟩

theorem Layer.owns_of_mem_tree {l m : Layer} (hm : m ∈ l.tree) {id : SegmentId} (h : m.Owns id) :
    l.Owns id := by
  obtain ⟨k, hk, hid⟩ := h
  exact ⟨k, tree_trans.2 l m hm k hk, hid⟩

/-! ## 2. The set that a layer keeps -/

/-- **The set is right.**  Where the layers are made of their segments, the sets that are kept hold
exactly the ids that are owned. -/
theorem contains_owned_iff (id : SegmentId) :
    (∀ s : Segment, (∀ l ∈ s.tree, l.Made) → (s.owned.contains id = true ↔ s.Owns id)) ∧
    ∀ l : Layer, (∀ m ∈ l.tree, m.Made) → (l.owned.contains id = true ↔ l.Owns id) := by
  refine forest_induction ?_ ?_ ?_
  · intro info effect _
    rw [Segment.owned, KeySet.contains_ofKeys, List.mem_singleton, Segment.owns_experiment]
    exact eq_comm
  · intro info layers ih hmade
    rw [Segment.owned, KeySet.contains_foldl_union, Segment.owns_domain]
    simp only [Table.contains_empty, Bool.false_eq_true, false_or]
    refine exists_congr fun l => and_congr_right fun hl => ih l hl fun m hm => hmade m ?_
    rw [Segment.tree_domain]
    exact List.mem_flatMap.2 ⟨l, hl, hm⟩
  · intro info segments index owned ih hmade
    have hself : Layer.mk info segments index owned = .ofSegments info segments :=
      hmade _ (Layer.self_mem_tree _)
    have howned := congrArg Layer.owned hself
    rw [howned, Layer.ofSegments, Layer.owned, KeySet.contains_foldl_union,
      KeySet.contains_ofKeys, Layer.owns_iff]
    refine or_congr Iff.rfl (exists_congr fun s => and_congr_right fun hs => ih s hs fun l hl => ?_)
    refine hmade l ?_
    exact Layer.mem_tree_of_mem hs hl

/-- Every layer of a built space, at any depth, is made of its segments. -/
theorem Builder.made_build {b : Builder} {version : String} {space : Space} (hb : b.Sound)
    (h : b.build version = .ok space) : ∀ l ∈ space.layers, l.Made := by
  intro l hl
  obtain ⟨d, -, rfl⟩ := layer_of_build hb h hl
  rfl

/-! ## 3. What is recorded -/

/-- **What is recorded is owned.**  Every id that a request records on its way into a segment or
through a layer is owned there. -/
theorem owns_of_recorded (scope : Scope) :
    (∀ s : Segment, ∀ asked, ∀ v ∈ s.visits scope asked, ∀ id, v.recorded? = some id → s.Owns id) ∧
    ∀ l : Layer, ∀ v ∈ l.visits scope, ∀ id, v.recorded? = some id → l.Owns id := by
  refine forest_induction ?_ ?_ ?_
  · intro info effect asked v hv id hid
    rw [Segment.visits_experiment, List.mem_singleton] at hv
    subst hv
    exact Segment.owns_experiment.2 (by simpa [Visit.recorded?] using hid)
  · intro info layers ih asked v hv id hid
    rw [Segment.visits_domain, List.mem_cons, List.mem_flatMap] at hv
    rcases hv with rfl | ⟨l, hl, hv⟩
    · cases hid
    · exact Segment.owns_domain.2 ⟨l, hl, ih l hl v hv id hid⟩
  · intro info segments index owned ih v hv id hid
    rw [Layer.owns_iff]
    rcases Layer.visits_cases scope (.mk info segments index owned) with
      ⟨outcome, hr, heq⟩ | ⟨s, hs, -, heq⟩
    · rw [heq, List.mem_singleton] at hv
      subst hv
      have hruling := Layer.ruling_ruling scope (.mk info segments index owned)
      rw [hr] at hruling
      cases hruling with
      | carried => cases hid
      | contested => cases hid
      | unclaimed =>
        obtain rfl := Option.some.inj hid
        exact .inl (by simp)
      | @refused criterion =>
        obtain rfl := Option.some.inj hid
        exact .inl (by cases criterion.random <;> simp)
    · rw [heq] at hv
      exact .inr ⟨s, hs, ih s hs _ v hv id hid⟩

/-! ## 4. Requests that are new to a layer -/

/-- The request carries none of the ids that the layer owns. -/
def Layer.New (scope : Scope) (l : Layer) : Prop :=
  ∀ id, l.Owns id → scope.carried.contains id = false

theorem Layer.New.of_mem_tree {scope : Scope} {l m : Layer} (h : l.New scope) (hm : m ∈ l.tree) :
    m.New scope :=
  fun id hid => h id (Layer.owns_of_mem_tree hm hid)

/-- The set is asked whether the request is new. -/
theorem Layer.disjoint_owned_iff {scope : Scope} {l : Layer} (hmade : ∀ m ∈ l.tree, m.Made) :
    KeySet.disjoint scope.carried l.owned = true ↔ l.New scope := by
  rw [KeySet.disjoint_iff]
  constructor
  · intro h id hid
    have howned := ((contains_owned_iff id).2 l hmade).2 hid
    refine Bool.eq_false_iff.2 fun hc => ?_
    rw [h id hc] at howned
    cases howned
  · intro h id hc
    refine Bool.eq_false_iff.2 fun hid => ?_
    rw [h id (((contains_owned_iff id).2 l hmade).1 hid)] at hc
    cases hc

/-- A request that is not new to a layer is passed by. -/
theorem Layer.visits_of_not_new {scope : Scope} {l : Layer} (hmade : ∀ m ∈ l.tree, m.Made)
    (h : ¬ l.New scope) : l.visits scope = [⟨l.info.id, .carried, []⟩] := by
  have hknown : KeySet.disjoint scope.carried l.owned = false :=
    Bool.eq_false_iff.2 fun hd => h ((disjoint_owned_iff hmade).1 hd)
  have hr : l.ruling scope = (.inr .carried, []) := by
    rw [ruling, verdict, hknown]
    rfl
  have hfirst : (l.ruling scope).1 = .inr .carried := congrArg Prod.fst hr
  rw [visits_of_inr hfirst, hr]

end Rollout
