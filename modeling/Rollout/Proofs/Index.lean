import Rollout.Layer
import Rollout.Proofs.Table
/-!
# The bucket index of a layer

A layer looks up the segments that claim a bucket in an index, by a floor search.  This module
proves that the index is only a faster way to scan the segments: `claimed_eq_claimants` says that
the search gives the positions of exactly the segments that claim the bucket, in the order of the
layer, and `claimed_ofSegments` says the same of a layer and its segments.

The floor search may well land on another bucket than the one that was asked for.  It does no harm,
because the index lists a bucket as soon as one segment claims it: if the search lands elsewhere, no
segment claims the bucket, and the filter behind the search leaves nothing.
-/

namespace Rollout

/-- Whether a segment claims a bucket under a criterion. -/
def SegmentInfo.claims (criterion : CriterionId) (bucket : Bucket) (info : SegmentInfo) : Bool :=
  info.criterion == criterion && info.buckets.contains bucket

theorem SegmentInfo.claims_iff {criterion : CriterionId} {bucket : Bucket} {info : SegmentInfo} :
    info.claims criterion bucket = true ↔
      info.criterion = criterion ∧ info.buckets.contains bucket = true := by
  simp [claims]

namespace Layer

/-- The positions of the segments that claim a bucket, the first segment standing at `position`. -/
def claimants (criterion : CriterionId) (bucket : Bucket) : Nat → List SegmentInfo → List Nat
  | _, [] => []
  | position, info :: rest =>
    (if info.claims criterion bucket then [position] else []) ++
      claimants criterion bucket (position + 1) rest

/-! ## 1. Positions -/

theorem mem_claimants {criterion : CriterionId} {bucket : Bucket} {position : Nat} :
    ∀ {infos : List SegmentInfo} {start : Nat},
    position ∈ claimants criterion bucket start infos ↔
      ∃ i info, position = start + i ∧ infos[i]? = some info ∧ info.claims criterion bucket = true
  | [], start => by simp [claimants]
  | info :: rest, start => by
    rw [claimants, List.mem_append, mem_claimants]
    constructor
    · rintro (h | ⟨i, other, rfl, hi, hc⟩)
      · split at h
        · next hc => exact ⟨0, info, by simpa using h, rfl, hc⟩
        · cases h
      · exact ⟨i + 1, other, by omega, by simpa using hi, hc⟩
    · rintro ⟨i, other, rfl, hi, hc⟩
      cases i with
      | zero =>
        obtain rfl : info = other := by simpa using hi
        exact .inl (by simp [hc])
      | succ i => exact .inr ⟨i, other, by omega, by simpa using hi, hc⟩

theorem mem_claimants_zero {criterion : CriterionId} {bucket : Bucket} {infos : List SegmentInfo}
    {position : Nat} :
    position ∈ claimants criterion bucket 0 infos ↔
      ∃ info, infos[position]? = some info ∧ info.claims criterion bucket = true := by
  rw [mem_claimants]
  constructor
  · rintro ⟨i, info, rfl, hi, hc⟩
    exact ⟨info, by simpa using hi, hc⟩
  · rintro ⟨info, hi, hc⟩
    exact ⟨position, info, by omega, hi, hc⟩

/-- The positions ascend, so that no segment is named twice. -/
theorem ascending_claimants (criterion : CriterionId) (bucket : Bucket) :
    ∀ (infos : List SegmentInfo) (start : Nat),
    (claimants criterion bucket start infos).Pairwise (· < ·)
  | [], _ => .nil
  | info :: rest, start => by
    have later : ∀ p ∈ claimants criterion bucket (start + 1) rest, start < p := by
      intro p hp
      obtain ⟨i, _, rfl, _⟩ := mem_claimants.1 hp
      omega
    rw [claimants]
    split
    · exact .cons later (ascending_claimants criterion bucket rest (start + 1))
    · exact ascending_claimants criterion bucket rest (start + 1)

/-! ## 2. What the index says -/

/-- The index gives `positions` for each criterion and bucket, and has no entry for a bucket that
nobody claims. -/
def Indexes (index : BucketIndex) (positions : CriterionId → Bucket → List Nat) : Prop :=
  ∀ c b, ((index.get? c).bind (·.get? b)) =
    if positions c b = [] then none else some (positions c b)

theorem indexes_empty : Indexes .empty fun _ _ => [] := fun _ _ => rfl

/-- One more segment: its position comes after the others, at each bucket that it claims. -/
theorem indexes_indexSegment {index : BucketIndex} {positions : CriterionId → Bucket → List Nat}
    (h : Indexes index positions) (position : Nat) (info : SegmentInfo) :
    Indexes (indexSegment index position info) fun c b =>
      positions c b ++ if info.claims c b then [position] else [] := by
  intro c b
  have hb := h c b
  rw [indexSegment, Table.get?_update]
  by_cases hc : c = info.criterion
  · subst hc
    rw [if_pos rfl, Option.bind_some, Table.get?_foldr_update _ _ _ _ (Table.nodup_keys _)]
    have hold : ((index.get? info.criterion).getD .empty).get? b =
        if positions info.criterion b = [] then none else some (positions info.criterion b) := by
      rw [← hb]
      cases index.get? info.criterion <;> rfl
    by_cases hm : info.buckets.contains b = true
    · have hcl : info.claims info.criterion b = true := SegmentInfo.claims_iff.2 ⟨rfl, hm⟩
      rw [if_pos (Table.mem_keys_iff.2 hm), hold]
      split <;> simp [*]
    · have hcl : info.claims info.criterion b = false := by
        simpa [SegmentInfo.claims] using hm
      rw [if_neg (fun hk => hm (Table.mem_keys_iff.1 hk)), hold]
      simp [hcl]
  · have hcl : info.claims c b = false := by
      simp [SegmentInfo.claims, Ne.symm hc]
    rw [if_neg hc, hb]
    simp [hcl]

theorem indexes_indexFrom : ∀ (infos : List SegmentInfo) {index : BucketIndex}
    {positions : CriterionId → Bucket → List Nat}, Indexes index positions → ∀ start : Nat,
    Indexes (indexFrom index start infos) fun c b => positions c b ++ claimants c b start infos
  | [], _, _, h, _ => by simpa [indexFrom, claimants] using h
  | info :: rest, _, _, h, start => by
    have ih := indexes_indexFrom rest (indexes_indexSegment h start info) (start + 1)
    simpa only [indexFrom, claimants, List.append_assoc] using ih

/-- The index of a whole layer gives the claimants of each bucket. -/
theorem indexes_claimants (infos : List SegmentInfo) :
    Indexes (indexFrom .empty 0 infos) fun c b => claimants c b 0 infos := by
  simpa using indexes_indexFrom infos indexes_empty 0

/-! ## 3. What the search finds -/

/-- **The floor search is a scan.**  In the index of a layer it gives the positions of exactly the
segments that claim the bucket, in the order of the layer. -/
theorem claimed_eq_claimants (infos : List SegmentInfo) (criterion : CriterionId)
    (bucket : Bucket) :
    claimed (indexFrom .empty 0 infos) infos criterion bucket =
      claimants criterion bucket 0 infos := by
  have hscan : ∀ b, _ = if claimants criterion b 0 infos = [] then none else some _ :=
    indexes_claimants infos criterion
  have hb := hscan bucket
  unfold claimed
  cases hcl : (indexFrom .empty 0 infos).get? criterion with
  | none =>
    rw [hcl, Option.bind_none] at hb
    split at hb
    · next hnil => rw [hnil]; rfl
    · cases hb
  | some claims =>
    rw [hcl, Option.bind_some] at hb
    rw [Option.bind_some]
    split at hb
    · next hnil =>
      -- nobody claims the bucket: wherever the search lands, the filter leaves nothing
      rw [hnil]
      split
      · rfl
      · next landed positions hfloor =>
        have hat := hscan landed
        rw [hcl, Option.bind_some, Table.mem_of_floor? hfloor] at hat
        split at hat
        · cases hat
        · cases hat
          refine List.filter_eq_nil_iff.2 fun position hp hkept => ?_
          obtain ⟨info, hi, hc⟩ := mem_claimants_zero.1 hp
          have hkept' : info.buckets.contains bucket = true := by simpa [hi] using hkept
          have hmem : position ∈ claimants criterion bucket 0 infos :=
            mem_claimants_zero.2
              ⟨info, hi, SegmentInfo.claims_iff.2 ⟨(SegmentInfo.claims_iff.1 hc).1, hkept'⟩⟩
          rw [hnil] at hmem
          cases hmem
    · rw [Table.floor?_of_get? hb]
      refine List.filter_eq_self.2 fun position hp => ?_
      obtain ⟨info, hi, hc⟩ := mem_claimants_zero.1 hp
      simp [hi, (SegmentInfo.claims_iff.1 hc).2]

/-! ## 4. The segments of a layer -/

/-- The segments at the positions of the claimants.  Those in `front` stand before the first of
them. -/
theorem filterMap_claimants (criterion : CriterionId) (bucket : Bucket) :
    ∀ segments front : List Segment,
    (claimants criterion bucket front.length (segments.map Segment.info)).filterMap
        (fun position => (front ++ segments)[position]?) =
      segments.filter fun segment => segment.info.claims criterion bucket
  | [], _ => rfl
  | segment :: rest, front => by
    have ih := filterMap_claimants criterion bucket rest (front ++ [segment])
    rw [List.append_assoc, List.singleton_append, List.length_append, List.length_singleton] at ih
    rw [List.map_cons, claimants, List.filterMap_append, ih]
    by_cases hc : segment.info.claims criterion bucket = true <;> simp [hc]

/-- **What is looked up in a layer.**  Whatever segments it has, the positions that are found for a
bucket ascend, and they are those of the segments that have the criterion and list the bucket; so
each of these segments is found once, in the order of the layer. -/
theorem claimed_ofSegments (info : LayerInfo) (segments : List Segment) (criterion : CriterionId)
    (bucket : Bucket) :
    let layer := ofSegments info segments
    let found := claimed layer.index (layer.segments.map Segment.info) criterion bucket
    found.Pairwise (· < ·) ∧
    (∀ position, position ∈ found ↔ ∃ segment, layer.segments[position]? = some segment ∧
      segment.info.criterion = criterion ∧ segment.info.buckets.contains bucket = true) ∧
    found.filterMap (fun position => layer.segments[position]?) =
      segments.filter fun segment =>
        segment.info.criterion == criterion && segment.info.buckets.contains bucket := by
  intro layer found
  have hfound : found = claimants criterion bucket 0 (segments.map Segment.info) :=
    claimed_eq_claimants (segments.map Segment.info) criterion bucket
  rw [hfound]
  refine ⟨ascending_claimants criterion bucket _ 0, fun position => ?_,
    filterMap_claimants criterion bucket segments []⟩
  rw [mem_claimants_zero]
  simp only [List.getElem?_map, Option.map_eq_some_iff, SegmentInfo.claims_iff]
  exact ⟨fun ⟨_, ⟨segment, hat, hinfo⟩, hc⟩ => ⟨segment, hat, hinfo ▸ hc⟩,
    fun ⟨segment, hat, hc⟩ => ⟨_, ⟨segment, hat, rfl⟩, hc⟩⟩

end Layer

end Rollout
