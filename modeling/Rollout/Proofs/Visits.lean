import Rollout.Proofs.Index
import Rollout.Proofs.Tree
/-!
# What a request meets, layer by layer

The account of a request in a layer is a list of visits.  This module opens it up without the
recursion that computes it:

* `Layer.ruling_verdict` lists what the verdict of a layer can be, and what must hold for each;
* `Layer.visits_cases` says where the account of a layer comes from: the layer has one outcome, or
  the account is that of a segment that took the request in;
* `enters_member` says that whatever is entered is a segment of the tree, and one that took the
  request in, unless the account starts there.

`Snapshot.visits` is the account of one diversion.  `Rollout.Proofs.Gain` shows that nothing but
these visits decides on what the request gains.
-/

namespace Rollout

/-! ## 1. Verdicts -/

namespace Layer

/-- The verdicts that a layer can give, with what holds for each. -/
inductive Ruling (scope : Scope) (info : LayerInfo) (infos : List SegmentInfo)
    (index : BucketIndex) (owned : KeySet SegmentId) : Nat ⊕ Outcome → Prop
  /-- The request carries an id of the layer. -/
  | carried (known : KeySet.disjoint scope.carried owned = false) :
      Ruling scope info infos index owned (.inr .carried)
  /-- Under no criterion does a segment claim the bucket of the request. -/
  | unclaimed (new : KeySet.disjoint scope.carried owned = true)
      (none : deciding? scope info.id index infos = none) :
      Ruling scope info infos index owned (.inr (.fallback info.unbiased))
  /-- Segments claim the bucket, and none of them takes the request in. -/
  | refused {criterion : Criterion} {bucket : Bucket} {positions : List Nat}
      (new : KeySet.disjoint scope.carried owned = true)
      (decides : deciding? scope info.id index infos = some (criterion, bucket, positions))
      (refuse : ∀ p ∈ positions, ∀ i, infos[p]? = some i → i.accepts scope = false) :
      Ruling scope info infos index owned
        (.inr (.fallback (if criterion.random then info.randomBiased else info.fixedBiased)))
  /-- A segment that claims the bucket takes the request in. -/
  | entered {criterion : Criterion} {bucket : Bucket} {positions : List Nat} {position : Nat}
      {entering : SegmentInfo} (new : KeySet.disjoint scope.carried owned = true)
      (decides : deciding? scope info.id index infos = some (criterion, bucket, positions))
      (mem : position ∈ positions) (stands : infos[position]? = some entering)
      (accepts : entering.accepts scope = true) :
      Ruling scope info infos index owned (.inl position)
  /-- Several segments that claim the bucket would take the request in. -/
  | contested {criterion : Criterion} {bucket : Bucket} {positions : List Nat}
      {segments : List SegmentId} (new : KeySet.disjoint scope.carried owned = true)
      (decides : deciding? scope info.id index infos = some (criterion, bucket, positions))
      (several : 2 ≤ positions.length) :
      Ruling scope info infos index owned (.inr (.contested bucket segments))

theorem mem_candidates {infos : List SegmentInfo} {positions : List Nat} {c : Nat × SegmentInfo} :
    c ∈ (positions.filterMap fun p => infos[p]?.map fun i => (p, i)) ↔
      c.1 ∈ positions ∧ infos[c.1]? = some c.2 := by
  obtain ⟨position, info⟩ := c
  simp only [List.mem_filterMap, Option.map_eq_some_iff, Prod.mk.injEq]
  constructor
  · rintro ⟨p, hp, i, hi, rfl, rfl⟩
    exact ⟨hp, hi⟩
  · rintro ⟨hp, hi⟩
    exact ⟨position, hp, info, hi, rfl, rfl⟩

/-- **What a layer can rule.** -/
theorem ruling_verdict (scope : Scope) (info : LayerInfo) (infos : List SegmentInfo)
    (index : BucketIndex) (owned : KeySet SegmentId) :
    Ruling scope info infos index owned (verdict scope info infos index owned).1 := by
  unfold verdict
  by_cases hnew : KeySet.disjoint scope.carried owned = true
  swap
  · rw [if_pos (by simpa using hnew)]
    exact .carried (by simpa using hnew)
  rw [if_neg (by simp [hnew])]
  cases hdec : deciding? scope info.id index infos with
  | none => exact .unclaimed hnew hdec
  | some found =>
    obtain ⟨criterion, bucket, positions⟩ := found
    dsimp only
    generalize hkept : List.filter (fun c : Nat × SegmentInfo => c.2.accepts scope)
      (positions.filterMap fun p => infos[p]?.map fun i => (p, i)) = kept
    rcases kept with _ | ⟨c, _ | ⟨d, rest⟩⟩
    · refine .refused hnew hdec fun p hp i hi => ?_
      have hc := List.filter_eq_nil_iff.1 hkept (p, i) (mem_candidates.2 ⟨hp, hi⟩)
      simpa using hc
    · have hc : c ∈ [c] := List.mem_cons_self
      rw [← hkept, List.mem_filter] at hc
      obtain ⟨hp, hi⟩ := mem_candidates.1 hc.1
      exact .entered hnew hdec hp hi hc.2
    · refine .contested hnew hdec ?_
      have hlong : 2 ≤ (c :: d :: rest).length := by simp
      rw [← hkept] at hlong
      exact Nat.le_trans hlong
        (Nat.le_trans (List.length_filter_le ..) (List.length_filterMap_le ..))

end Layer

/-! ## 2. Where a visit comes from -/

theorem visitsOfPosition_eq (scope : Scope) (asked : List Leaf) :
    ∀ (segments : List Segment) (position : Nat), visitsOfPosition scope asked segments position =
      (segments[position]?.map (·.visits scope asked)).getD []
  | [], _ => by rw [visitsOfPosition]; rfl
  | segment :: _, 0 => by rw [visitsOfPosition]; rfl
  | _ :: rest, position + 1 => by
    rw [visitsOfPosition, visitsOfPosition_eq scope asked rest position, List.getElem?_cons_succ]

theorem visitsOfLayers_eq (scope : Scope) : ∀ layers : List Layer,
    visitsOfLayers scope layers = layers.flatMap (·.visits scope)
  | [] => by rw [visitsOfLayers]; rfl
  | layer :: rest => by rw [visitsOfLayers, visitsOfLayers_eq scope rest, List.flatMap_cons]

/-- The verdict of a layer on a request. -/
def Layer.ruling (scope : Scope) (l : Layer) : (Nat ⊕ Outcome) × List Leaf :=
  verdict scope l.info (l.segments.map Segment.info) l.index l.owned

theorem Layer.ruling_ruling (scope : Scope) (l : Layer) :
    Ruling scope l.info (l.segments.map Segment.info) l.index l.owned (l.ruling scope).1 :=
  ruling_verdict ..

/-- The account of a layer that a request does not get into. -/
theorem Layer.visits_of_inr {scope : Scope} {l : Layer} {outcome : Outcome}
    (h : (l.ruling scope).1 = .inr outcome) :
    l.visits scope = [⟨l.info.id, outcome, (l.ruling scope).2⟩] := by
  obtain ⟨info, segments, index, owned⟩ := l
  rw [Layer.visits]
  generalize hv : verdict scope info (segments.map Segment.info) index owned = v
  have hv' : (Layer.mk info segments index owned).ruling scope = v := hv
  rw [hv'] at h ⊢
  obtain ⟨first, asked⟩ := v
  cases h
  rfl

/-- The account of a layer in which a request enters a segment. -/
theorem Layer.visits_of_inl {scope : Scope} {l : Layer} {position : Nat} {s : Segment}
    (h : (l.ruling scope).1 = .inl position) (hs : l.segments[position]? = some s) :
    l.visits scope = s.visits scope (l.ruling scope).2 := by
  obtain ⟨info, segments, index, owned⟩ := l
  rw [Layer.visits]
  generalize hv : verdict scope info (segments.map Segment.info) index owned = v
  have hv' : (Layer.mk info segments index owned).ruling scope = v := hv
  rw [hv'] at h ⊢
  obtain ⟨first, asked⟩ := v
  cases h
  have hs' : segments[position]? = some s := hs
  simp [visitsOfPosition_eq, hs']

/-- **A layer has one outcome.**  Either it is the only visit of the account, or a segment of the
layer took the request in, and the account is that of the segment. -/
theorem Layer.visits_cases (scope : Scope) (l : Layer) :
    (∃ outcome, (l.ruling scope).1 = .inr outcome ∧
      l.visits scope = [⟨l.info.id, outcome, (l.ruling scope).2⟩]) ∨
    ∃ s ∈ l.segments, s.info.accepts scope = true ∧
      l.visits scope = s.visits scope (l.ruling scope).2 := by
  cases hr : (l.ruling scope).1 with
  | inr outcome => exact .inl ⟨outcome, rfl, visits_of_inr hr⟩
  | inl position =>
    have hruling := l.ruling_ruling scope
    rw [hr] at hruling
    cases hruling with
    | entered _ _ _ stands accepts =>
      obtain ⟨s, hs, rfl⟩ := List.getElem?_map .. ▸ stands |> Option.map_eq_some_iff.1
      exact .inr ⟨s, List.mem_of_getElem? hs, accepts, visits_of_inl hr hs⟩

@[simp] theorem Segment.visits_experiment (scope : Scope) (asked : List Leaf) (info : SegmentInfo)
    (effect : Effect) : (Segment.experiment info effect).visits scope asked =
      [⟨info.layer, .experiment info effect, asked⟩] := by
  rw [Segment.visits]

@[simp] theorem Segment.visits_domain (scope : Scope) (asked : List Leaf) (info : SegmentInfo)
    (layers : List Layer) : (Segment.domain info layers).visits scope asked =
      ⟨info.layer, .domain info, asked⟩ :: layers.flatMap (·.visits scope) := by
  rw [Segment.visits, visitsOfLayers_eq]

/-! ## 3. What is entered -/

/-- The visit is the one in which a request enters the segment. -/
def Visit.Enters (v : Visit) : Segment → Prop
  | .experiment info effect => v.outcome = .experiment info effect
  | .domain info _ => v.outcome = .domain info

/-- The id of the segment that a request enters in a visit. -/
def Visit.entered? (v : Visit) : Option SegmentId :=
  match v.outcome with
  | .experiment info _ | .domain info => some info.id
  | _ => none

/-- The id that a visit records. -/
def Visit.recorded? (v : Visit) : Option SegmentId :=
  match v.outcome with
  | .fallback id => some id
  | .experiment info _ => some info.id
  | _ => none

/-- Whether several segments would take the request in. -/
def Visit.isContested (v : Visit) : Bool :=
  match v.outcome with
  | .contested _ _ => true
  | _ => false

theorem Visit.entered?_of_enters {v : Visit} {s : Segment} (h : v.Enters s) :
    v.entered? = some s.info.id := by
  cases s with
  | experiment info effect =>
    have h' : v.outcome = .experiment info effect := h
    simp [entered?, h', Segment.info]
  | domain info layers =>
    have h' : v.outcome = .domain info := h
    simp [entered?, h', Segment.info]

/-- A request that enters an experiment enters nothing else in that visit. -/
theorem Visit.eq_of_enters {v : Visit} {s : Segment} {info : SegmentInfo} {effect : Effect}
    (h : v.Enters s) (hout : v.outcome = .experiment info effect) :
    s = .experiment info effect := by
  cases s with
  | experiment info' effect' =>
    obtain ⟨rfl, rfl⟩ := Outcome.experiment.inj (hout.symm.trans h)
    rfl
  | domain info' layers => cases hout.symm.trans h

/-- A layer that a request does not get into enters nothing. -/
theorem Layer.not_enters_of_inr {scope : Scope} {l : Layer} {outcome : Outcome}
    (h : (l.ruling scope).1 = .inr outcome) (id : LayerId) (asked : List Leaf) :
    (⟨id, outcome, asked⟩ : Visit).entered? = none := by
  have hruling := l.ruling_ruling scope
  rw [h] at hruling
  cases hruling <;> rfl

/-- **Whatever is entered stands in the tree.**  On the way into a segment the request enters the
segment itself or segments inside it, and those took it in. -/
theorem enters_member (scope : Scope) :
    (∀ s : Segment, ∀ asked, ∀ v ∈ s.visits scope asked, ∀ id, v.entered? = some id →
      v.Enters s ∧ s.info.id = id ∨
        ∃ t ∈ s.members, v.Enters t ∧ t.info.id = id ∧ t.info.accepts scope = true) ∧
    ∀ l : Layer, ∀ v ∈ l.visits scope, ∀ id, v.entered? = some id →
      ∃ t ∈ l.members, v.Enters t ∧ t.info.id = id ∧ t.info.accepts scope = true := by
  refine forest_induction ?_ ?_ ?_
  · intro info effect asked v hv id hid
    rw [Segment.visits_experiment, List.mem_singleton] at hv
    subst hv
    exact .inl ⟨rfl, by simpa [Visit.entered?] using hid⟩
  · intro info layers ih asked v hv id hid
    rw [Segment.visits_domain, List.mem_cons, List.mem_flatMap] at hv
    rcases hv with rfl | ⟨l, hl, hv⟩
    · exact .inl ⟨rfl, by simpa [Visit.entered?] using hid⟩
    · obtain ⟨t, ht, hent⟩ := ih l hl v hv id hid
      rw [Segment.members_domain]
      exact .inr ⟨t, List.mem_flatMap.2 ⟨l, hl, ht⟩, hent⟩
  · intro info segments index owned ih v hv id hid
    rcases Layer.visits_cases scope (.mk info segments index owned) with
      ⟨outcome, hr, heq⟩ | ⟨s, hs, hacc, heq⟩
    · rw [heq, List.mem_singleton] at hv
      subst hv
      rw [Layer.not_enters_of_inr hr] at hid
      cases hid
    · rw [heq] at hv
      rcases ih s hs _ v hv id hid with ⟨hent, hid⟩ | ⟨t, ht, hent⟩
      · exact ⟨s, Layer.mem_members_of_mem hs, hent, hid, hacc⟩
      · exact ⟨t, Layer.mem_members_iff.2 ⟨s, hs, .inr ht⟩, hent⟩

/-- A request that is in a segment entered it. -/
theorem Segment.exists_entered (scope : Scope) (asked : List Leaf) (s : Segment) :
    ∃ v ∈ s.visits scope asked, v.entered? = some s.info.id := by
  cases s with
  | experiment info effect =>
    exact ⟨_, by rw [visits_experiment]; exact .head _, rfl⟩
  | domain info layers =>
    exact ⟨_, by rw [visits_domain]; exact .head _, rfl⟩

theorem Segment.mem_ids_of_entered {scope : Scope} {s : Segment} {asked : List Leaf} {v : Visit}
    (hv : v ∈ s.visits scope asked) {id : SegmentId} (hid : v.entered? = some id) : id ∈ s.ids := by
  rcases (enters_member scope).1 s asked v hv id hid with ⟨-, rfl⟩ | ⟨t, ht, -, rfl, -⟩
  · exact s.mem_ids_self
  · exact Segment.ids_subset_of_mem ht _ t.mem_ids_self

theorem Layer.mem_ids_of_entered {scope : Scope} {l : Layer} {v : Visit} (hv : v ∈ l.visits scope)
    {id : SegmentId} (hid : v.entered? = some id) : id ∈ l.ids := by
  obtain ⟨t, ht, -, rfl, -⟩ := (enters_member scope).2 l v hv id hid
  exact List.mem_map_of_mem ht

/-! ## 4. The account of a diversion -/

namespace Snapshot

/-- What a request meets in the launch layers. -/
def launchVisits (snapshot : Snapshot) (host : Host) (draws : Draws) (context : Context)
    (carried : KeySet SegmentId) : List Visit :=
  visitsOfLayers (snapshot.scope host draws context carried topDomain) snapshot.space.launchLayers

/-- What a request meets in the other layers that stand in the space itself. -/
def permanentVisits (snapshot : Snapshot) (host : Host) (draws : Draws) (context : Context)
    (carried : KeySet SegmentId) : List Visit :=
  visitsOfLayers (snapshot.scope host draws context carried topDomain)
    snapshot.space.permanentLayers

/-- What a request meets in one diversion. -/
def visits (snapshot : Snapshot) (host : Host) (draws : Draws) (context : Context)
    (carried : KeySet SegmentId) : List Visit :=
  if context.forced.isEmpty then
    snapshot.launchVisits host draws context carried ++
      snapshot.permanentVisits host draws context carried
  else context.forced.keys.flatMap fun id =>
    snapshot.forcedVisits (snapshot.scope host draws context carried id) id

theorem launchVisits_eq (snapshot : Snapshot) (host : Host) (draws : Draws)
    (context : Context) (carried : KeySet SegmentId) :
    snapshot.launchVisits host draws context carried = snapshot.space.launchLayers.flatMap
      (·.visits (snapshot.scope host draws context carried topDomain)) :=
  visitsOfLayers_eq ..

theorem permanentVisits_eq (snapshot : Snapshot) (host : Host) (draws : Draws)
    (context : Context) (carried : KeySet SegmentId) :
    snapshot.permanentVisits host draws context carried = snapshot.space.permanentLayers.flatMap
      (·.visits (snapshot.scope host draws context carried topDomain)) :=
  visitsOfLayers_eq ..

/-- A request that is not forced meets the layers of the space itself, the launch layers first. -/
theorem visits_unforced (snapshot : Snapshot) (host : Host) (draws : Draws)
    {context : Context} (carried : KeySet SegmentId) (hf : context.forced.isEmpty = true) :
    snapshot.visits host draws context carried = snapshot.space.topLayers.flatMap
      (·.visits (snapshot.scope host draws context carried topDomain)) := by
  rw [visits, if_pos hf, launchVisits_eq, permanentVisits_eq, ← List.flatMap_append]
  rfl

/-- The visits of a request that is forced into a segment are those of the segment, unless it is
carried already or turned off. -/
theorem mem_forcedVisits_iff {snapshot : Snapshot} {scope : Scope} {id : SegmentId} {v : Visit} :
    v ∈ snapshot.forcedVisits scope id ↔ ∃ s, snapshot.space.segments.get? id = some s ∧
      scope.carried.contains id = false ∧ snapshot.disabled.contains id = false ∧
      v ∈ s.visits scope [] := by
  unfold forcedVisits
  cases hs : snapshot.space.segments.get? id with
  | none => simp
  | some s =>
    cases hc : scope.carried.contains id <;> cases hd : snapshot.disabled.contains id <;> simp

end Snapshot

end Rollout
