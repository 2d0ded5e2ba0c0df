import Rollout.Proofs.Assembly
import Rollout.Proofs.Gain
/-!
# No two segments contend for a request

A layer of a built space divides the requests: its segments claim buckets that exist, and no two of
them claim the same one (`divides_build`).  So at most one segment can take a request in, and the
one way in which a diversion can fail never comes up, however the space was put together, whichever
segments are turned off, and whatever the request brings along (`diversion_succeeds`).
-/

namespace Rollout

/-! ## 1. Buckets -/

namespace Bucket

/-- A remainder by a count is a bucket. -/
theorem ofInt_emod {count : Bucket} (h : 0 < count) (n : Int) :
    0 ≤ Int32.ofInt (n % count.toInt) ∧ Int32.ofInt (n % count.toInt) < count := by
  have hpos : 0 < count.toInt := Int32.lt_iff_toInt_lt.1 h
  have hlow := Int.emod_nonneg n (Int.ne_of_gt hpos)
  have hhigh := Int.emod_lt_of_pos n hpos
  have hcount := count.toInt_lt
  have hto : (Int32.ofInt (n % count.toInt)).toInt = n % count.toInt :=
    Int32.toInt_ofInt_of_le (by omega) (by omega)
  rw [Int32.le_iff_toInt_le, Int32.lt_iff_toInt_lt, hto]
  exact ⟨hlow, hhigh⟩

theorem stable?_of_pos {count : Bucket} (h : 0 < count) (layer : LayerId) (identifier : String) :
    ∃ bucket, stable? layer identifier count = some bucket ∧ 0 ≤ bucket ∧ bucket < count := by
  have hne : count ≠ 0 := fun h0 => Int32.lt_irrefl (h0 ▸ h)
  exact ⟨_, if_neg hne, ofInt_emod h _⟩

theorem drawn?_of_pos {count : Bucket} (h : 0 < count) (draw : Nat) :
    ∃ bucket, drawn? draw count = some bucket ∧ 0 ≤ bucket ∧ bucket < count :=
  ⟨_, if_neg (Int32.not_le.2 h), ofInt_emod h _⟩

end Bucket

/-- Under a criterion with buckets, a request has a bucket among them if the criterion is random or
the request has an identifier for it, and otherwise none. -/
theorem Scope.bucket?_of_pos {criterion : Criterion} (h : 0 < criterion.buckets) (scope : Scope)
    (layer : LayerId) :
    (∀ bucket, scope.bucket? layer criterion = some bucket →
      0 ≤ bucket ∧ bucket < criterion.buckets) ∧
    ((scope.bucket? layer criterion).isSome = true ↔
      criterion.random = true ∨ scope.context.identifiers.contains criterion.id = true) := by
  unfold Scope.bucket?
  by_cases hrandom : criterion.random = true
  · obtain ⟨bucket, hb, hrange⟩ := Bucket.drawn?_of_pos h (scope.draw layer criterion.id)
    rw [if_pos hrandom, hb]
    refine ⟨fun _ heq => Option.some.inj heq ▸ hrange, by simp [hrandom]⟩
  · rw [if_neg hrandom, Table.contains]
    cases scope.context.identifiers.get? criterion.id with
    | none => simp [hrandom]
    | some identifier =>
      obtain ⟨bucket, hb, hrange⟩ := Bucket.stable?_of_pos h layer identifier
      rw [Option.bind_some, hb]
      refine ⟨fun _ heq => Option.some.inj heq ▸ hrange, by simp⟩

/-! ## 2. Layers that divide the requests -/

/-- The segments of a layer claim buckets that exist, no two of them the same, and the index of the
layer has what they claim. -/
structure Layer.Divides (criteria : List Criterion) (l : Layer) : Prop where
  apart : l.segments.Pairwise fun s t => s.info.Apart t.info
  inRange : ∀ s ∈ l.segments, ∃ criterion ∈ criteria, criterion.id = s.info.criterion ∧
    ∀ bucket, s.info.buckets.contains bucket = true → 0 ≤ bucket ∧ bucket < criterion.buckets
  indexed : l.index = Layer.indexFrom .empty 0 (l.segments.map Segment.info)

/-- The layer of a draft divides the requests, since the draft keeps its books. -/
theorem Builder.divides_layerOf {b : Builder} (hb : b.Sound) (done : Assembled) {d : LayerDraft}
    (hd : d ∈ b.drafts) : (b.layerOf done d).Divides b.criteria.values := by
  have hsound := hb.drafts d hd
  refine ⟨?_, fun s hs => ?_, rfl⟩
  · rw [segments_layerOf]
    refine List.pairwise_map.2 (hsound.apart.imp fun h => ?_)
    rw [info_segmentOf, info_segmentOf]
    exact h
  · obtain ⟨t, ht, rfl⟩ := List.mem_map.1 hs
    obtain ⟨criterion, hget, hrange⟩ := hsound.inRange t ht
    rw [info_segmentOf]
    exact ⟨criterion, Table.mem_values_iff.2 ⟨_, hget⟩, (hb.criteria _ _ hget).1, hrange⟩

/-- **Every layer of a built space**, at any depth, divides the requests. -/
theorem Builder.divides_build {b : Builder} {version : String} {space : Space} (hb : b.Sound)
    (h : b.build version = .ok space) : ∀ l ∈ space.layers, l.Divides space.criteria := by
  intro l hl
  obtain ⟨d, hd, rfl⟩ := layer_of_build hb h hl
  have hcriteria : space.criteria = b.criteria.values := by
    rw [(build_ok h).2]
    rfl
  rw [hcriteria]
  exact divides_layerOf hb _ hd

/-! ## 3. No visit is contested -/

/-- Where no two segments claim the same bucket, a bucket has at most one claimant. -/
theorem Layer.length_claimants_le {infos : List SegmentInfo} (h : infos.Pairwise SegmentInfo.Apart)
    (criterion : CriterionId) (bucket : Bucket) :
    (claimants criterion bucket 0 infos).length ≤ 1 := by
  have hasc := ascending_claimants criterion bucket infos 0
  generalize hpositions : claimants criterion bucket 0 infos = positions at hasc
  rcases positions with _ | ⟨p, _ | ⟨q, rest⟩⟩
  · simp
  · simp
  · -- two claimants stand at different positions, and segments at different positions are apart
    have hlt : p < q := List.rel_of_pairwise_cons hasc List.mem_cons_self
    have hp : p ∈ claimants criterion bucket 0 infos := by simp [hpositions]
    have hq : q ∈ claimants criterion bucket 0 infos := by simp [hpositions]
    obtain ⟨i, hi, hic⟩ := mem_claimants_zero.1 hp
    obtain ⟨j, hj, hjc⟩ := mem_claimants_zero.1 hq
    obtain ⟨hp', rfl⟩ := List.getElem?_eq_some_iff.1 hi
    obtain ⟨hq', rfl⟩ := List.getElem?_eq_some_iff.1 hj
    have hij := List.pairwise_iff_getElem.1 h p q hp' hq' hlt
    rw [hij criterion bucket hic] at hjc
    cases hjc

/-- The bucket that decides in a layer has one claimant. -/
theorem Layer.Divides.length_positions {criteria : List Criterion} {l : Layer}
    (h : l.Divides criteria) {scope : Scope} {criterion : Criterion} {bucket : Bucket}
    {positions : List Nat}
    (hdecides : deciding? scope l.info.id l.index (l.segments.map Segment.info) =
      some (criterion, bucket, positions)) : positions.length ≤ 1 := by
  obtain ⟨c, -, hc⟩ := List.exists_of_findSome?_eq_some hdecides
  obtain ⟨found, -, hmatch⟩ := Option.bind_eq_some_iff.1 hc
  have hclaimed : positions =
      claimants criterion.id bucket 0 (l.segments.map Segment.info) := by
    rw [h.indexed, claimed_eq_claimants] at hmatch
    split at hmatch
    · cases hmatch
    · cases hmatch
      rfl
  rw [hclaimed]
  exact length_claimants_le (List.pairwise_map.2 h.apart) _ _

theorem Layer.Divides.not_contested {criteria : List Criterion} {l : Layer}
    (h : l.Divides criteria) {scope : Scope} {outcome : Outcome}
    (hr : (l.ruling scope).1 = .inr outcome) (id : LayerId) (asked : List Leaf) :
    (⟨id, outcome, asked⟩ : Visit).isContested = false := by
  have hruling := l.ruling_ruling scope
  rw [hr] at hruling
  cases hruling with
  | carried => rfl
  | unclaimed => rfl
  | refused => rfl
  | contested _ decides several =>
    have hone := h.length_positions decides
    omega

/-- Where every layer divides the requests, no visit is contested. -/
theorem not_contested_visits {criteria : List Criterion} (scope : Scope) :
    (∀ s : Segment, (∀ l ∈ s.tree, l.Divides criteria) →
      ∀ asked, ∀ v ∈ s.visits scope asked, v.isContested = false) ∧
    ∀ l : Layer, (∀ m ∈ l.tree, m.Divides criteria) →
      ∀ v ∈ l.visits scope, v.isContested = false := by
  refine forest_induction ?_ ?_ ?_
  · intro info effect _ asked v hv
    rw [Segment.visits_experiment, List.mem_singleton] at hv
    subst hv
    rfl
  · intro info layers ih h asked v hv
    rw [Segment.visits_domain, List.mem_cons, List.mem_flatMap] at hv
    rcases hv with rfl | ⟨l, hl, hv⟩
    · rfl
    · refine ih l hl (fun m hm => h m ?_) v hv
      rw [Segment.tree_domain]
      exact List.mem_flatMap.2 ⟨l, hl, hm⟩
  · intro info segments index owned ih h v hv
    rcases Layer.visits_cases scope (.mk info segments index owned) with
      ⟨outcome, hr, heq⟩ | ⟨s, hs, -, heq⟩
    · rw [heq, List.mem_singleton] at hv
      subst hv
      exact (h _ (Layer.self_mem_tree _)).not_contested hr _ _
    · rw [heq] at hv
      refine ih s hs (fun l hl => h l ?_) _ v hv
      exact Layer.mem_tree_of_mem hs hl

/-- **Where a request starts.**  A request meets the layers that stand in the space itself, or, if
it is forced into segments, these segments, unless it carries them already or they are turned
off. -/
theorem Builder.mem_visits_iff {b : Builder} {version : String} {space : Space} (hb : b.Sound)
    (h : b.build version = .ok space) {disabled : KeySet SegmentId} {host : Host}
    {draws : Draws} {context : Context} {carried : KeySet SegmentId} {v : Visit} :
    v ∈ Snapshot.visits ⟨space, disabled⟩ host draws context carried ↔
      (context.forced.isEmpty = true ∧ ∃ l ∈ space.topLayers,
        v ∈ l.visits (Snapshot.scope ⟨space, disabled⟩ host draws context carried topDomain)) ∨
      ∃ s ∈ space.members, context.forced.contains s.info.id = true ∧
        carried.contains s.info.id = false ∧ disabled.contains s.info.id = false ∧
        v ∈ s.visits
          (Snapshot.scope ⟨space, disabled⟩ host draws context carried s.info.id) [] := by
  by_cases hf : context.forced.isEmpty = true
  · -- nothing is forced, so the second way is closed
    have hnone : ∀ id, context.forced.contains id = false :=
      fun id => Table.contains_eq_false_iff.2 (Table.isEmpty_iff.1 hf id)
    rw [Snapshot.visits_unforced _ _ _ _ hf, List.mem_flatMap]
    simp [hf, hnone]
  · rw [Snapshot.visits, if_neg hf, List.mem_flatMap]
    constructor
    · rintro ⟨id, hid, hv⟩
      obtain ⟨s, hs, hnew, hon, hv⟩ := Snapshot.mem_forcedVisits_iff.1 hv
      obtain ⟨hmem, rfl⟩ := (get?_segments_build hb h).1 hs
      exact .inr ⟨s, hmem, Table.mem_keys_iff.1 hid, hnew, hon, hv⟩
    · rintro (⟨hf', -⟩ | ⟨s, hs, hforced, hnew, hon, hv⟩)
      · exact absurd hf' hf
      · exact ⟨s.info.id, Table.mem_keys_iff.2 hforced, Snapshot.mem_forcedVisits_iff.2
          ⟨s, (get?_segments_build hb h).2 ⟨hs, rfl⟩, hnew, hon, hv⟩⟩

/-- A request that is not forced meets the layers that stand in the space itself. -/
theorem Builder.mem_visits_iff_unforced {b : Builder} {version : String} {space : Space}
    (hb : b.Sound) (h : b.build version = .ok space) {disabled : KeySet SegmentId}
    {host : Host} {draws : Draws} {context : Context} {carried : KeySet SegmentId}
    {v : Visit} (hforced : context.forced.isEmpty = true) :
    v ∈ Snapshot.visits ⟨space, disabled⟩ host draws context carried ↔ ∃ l ∈ space.topLayers,
      v ∈ l.visits (Snapshot.scope ⟨space, disabled⟩ host draws context carried topDomain) := by
  rw [mem_visits_iff hb h, and_iff_right hforced]
  refine or_iff_left fun ⟨s, _, hs, _⟩ => ?_
  rw [Table.contains_eq_false_iff.2 (Table.isEmpty_iff.1 hforced s.info.id)] at hs
  cases hs

/-- **Whatever a request enters stands in the space**, and is not turned off. -/
theorem Builder.entered_member {b : Builder} {version : String} {space : Space} (hb : b.Sound)
    (h : b.build version = .ok space) {disabled : KeySet SegmentId} {host : Host}
    {draws : Draws} {context : Context} {carried : KeySet SegmentId} {v : Visit}
    (hv : v ∈ Snapshot.visits ⟨space, disabled⟩ host draws context carried) {id : SegmentId}
    (hid : v.entered? = some id) :
    ∃ t ∈ space.members, v.Enters t ∧ t.info.id = id ∧ disabled.contains id = false := by
  have hon : ∀ {root} {info : SegmentInfo},
      info.accepts (Snapshot.scope ⟨space, disabled⟩ host draws context carried root) = true →
        disabled.contains info.id = false := by
    intro root info haccepts
    simp only [SegmentInfo.accepts, SegmentInfo.isOpen, Bool.and_eq_true, Bool.not_eq_true']
      at haccepts
    exact haccepts.1.1
  rcases (mem_visits_iff hb h).1 hv with ⟨-, l, hl, hv⟩ | ⟨s, hs, -, -, hself, hv⟩
  · obtain ⟨t, ht, hent, rfl, haccepts⟩ := (enters_member _).2 l v hv id hid
    exact ⟨t, List.mem_flatMap.2 ⟨l, hl, ht⟩, hent, rfl, hon haccepts⟩
  · rcases (enters_member _).1 s [] v hv id hid with ⟨hent, rfl⟩ | ⟨t, ht, hent, rfl, haccepts⟩
    · exact ⟨s, hs, hent, rfl, hself⟩
    · exact ⟨t, Space.mem_members_of_member hs ht, hent, rfl, hon haccepts⟩

/-- No visit of a request to a built space is contested. -/
theorem Builder.not_contested_build {b : Builder} {version : String} {space : Space} (hb : b.Sound)
    (h : b.build version = .ok space) (disabled : KeySet SegmentId) (host : Host)
    (draws : Draws) (context : Context) (carried : KeySet SegmentId) :
    ∀ v ∈ Snapshot.visits ⟨space, disabled⟩ host draws context carried, v.isContested = false := by
  have hdivides := divides_build hb h
  intro v hv
  rcases (mem_visits_iff hb h).1 hv with ⟨-, l, hl, hv⟩ | ⟨s, hs, -, -, -, hv⟩
  · exact (not_contested_visits _).2 l (fun m hm => hdivides m (List.mem_flatMap.2 ⟨l, hl, hm⟩))
      v hv
  · exact (not_contested_visits _).1 s (fun l hl => hdivides l (Space.mem_layers_of_member hs hl))
      [] v hv

/-! ## 4. Diversion -/

/-- **Diversion succeeds.**  Whatever calls a space was built by, its segments claim buckets that
exist and share none within a layer.  So every diversion succeeds, and every bucket that a request
can have is one of its criterion. -/
theorem diversion_succeeds {declared : FlagRegistry} {calls : List Builder.Call} {version : String}
    {space : Space} (h : ((Builder.start declared).run calls).build version = .ok space) :
    (∀ l ∈ space.layers, l.segments.Pairwise (fun s t => s.info.Apart t.info) ∧
      ∀ s ∈ l.segments, ∃ criterion ∈ space.criteria, criterion.id = s.info.criterion ∧
        ∀ bucket, s.info.buckets.contains bucket = true →
          0 ≤ bucket ∧ bucket < criterion.buckets) ∧
    (∀ disabled host draws context carried,
      ∃ d, Snapshot.divert ⟨space, disabled⟩ host draws context carried = .ok d) ∧
    ∀ criterion ∈ space.criteria, 0 < criterion.buckets ∧ ∀ (scope : Scope) (layer : LayerId),
      (∀ bucket, scope.bucket? layer criterion = some bucket →
        0 ≤ bucket ∧ bucket < criterion.buckets) ∧
      ((scope.bucket? layer criterion).isSome = true ↔
        criterion.random = true ∨ scope.context.identifiers.contains criterion.id = true) := by
  have hb := Builder.sound_run declared calls
  have hdivides := Builder.divides_build hb h
  refine ⟨fun l hl => ⟨(hdivides l hl).apart, (hdivides l hl).inRange⟩, ?_, ?_⟩
  · intro disabled host draws context carried
    exact Snapshot.divert_isOk
      (Builder.not_contested_build hb h disabled host draws context carried)
  · intro criterion hmem
    have hcriteria : space.criteria = ((Builder.start declared).run calls).criteria.values := by
      rw [(Builder.build_ok h).2]
      rfl
    obtain ⟨id, hget⟩ := Table.mem_values_iff.1 (hcriteria ▸ hmem)
    have hpos := (hb.criteria id criterion hget).2
    exact ⟨hpos, fun scope layer => Scope.bucket?_of_pos hpos scope layer⟩

/-- Calls of which four are refused: a criterion without buckets, a segment in a layer that is not
there yet, one that claims a bucket of another one, and one whose bucket does not exist. -/
def Builder.someCalls : List Builder.Call :=
  let info (id : SegmentId) (layer : LayerId) (buckets : List Bucket) : SegmentInfo :=
    ⟨id, layer, 0, KeySet.ofKeys buckets, .always, .always, .always⟩
  [.flag ⟨"f", ⟨.int 1, []⟩⟩, .criterion ⟨0, 0, false⟩, .criterion ⟨0, 4, false⟩,
    .layer ⟨1, topDomain, true, 101, 102, 103⟩, .segment (.domain (info 10 1 [0, 1])),
    .segment (.domain (info 20 2 [0])), .segment (.domain (info 11 1 [1, 2])),
    .layer ⟨2, 10, false, 201, 202, 203⟩, .segment (.domain (info 20 2 [3, 4])),
    .segment (.experiment (info 20 2 [0, 3])
      (Table.ofList [("f", .replace ⟨.int 2, []⟩)]))]

theorem diversion_succeeds_someCalls : ∃ space,
    ((Builder.start .empty).run Builder.someCalls).build "v" = .ok space ∧
    space.ids = [10, 20] ∧ ∀ disabled host draws context carried,
      ∃ d, Snapshot.divert ⟨space, disabled⟩ host draws context carried = .ok d :=
  ⟨_, rfl, rfl,
    (diversion_succeeds (rfl : ((Builder.start .empty).run Builder.someCalls).build "v" =
    .ok _)).2.1⟩

end Rollout
