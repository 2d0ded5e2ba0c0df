import Rollout.Draft
import Rollout.Proofs.Index
/-!
# The ledger of a layer in the making

A draft refuses a segment whose buckets do not exist or have an owner.  `LayerDraft.Sound` says what
that comes to: the buckets of each segment are buckets of its criterion, no two segments claim the
same bucket under the same criterion, and the ledger has exactly the claimed buckets, each with its
owner.  `LayerDraft.sound_add` is the step: a segment that gets in keeps all of it.
-/

namespace Rollout

/-- Two segments claim no bucket of the same criterion. -/
def SegmentInfo.Apart (s t : SegmentInfo) : Prop :=
  ∀ criterion bucket, s.claims criterion bucket = true → t.claims criterion bucket = false

theorem SegmentInfo.Apart.symm {s t : SegmentInfo} (h : s.Apart t) : t.Apart s := by
  intro criterion bucket ht
  refine Bool.eq_false_iff.2 fun hs => ?_
  rw [h criterion bucket hs] at ht
  cases ht

/-- The buckets of a segment are buckets of its criterion. -/
def SegmentInfo.InRange (criteria : Table CriterionId Criterion) (s : SegmentInfo) : Prop :=
  ∃ criterion, criteria.get? s.criterion = some criterion ∧
    ∀ bucket, s.buckets.contains bucket = true → 0 ≤ bucket ∧ bucket < criterion.buckets

/-- Two steps that both succeed. -/
theorem bind_ok {ε α β : Type} {x : Except ε α} {f : α → Except ε β} {b : β}
    (h : (x >>= f) = .ok b) : ∃ a, x = .ok a ∧ f a = .ok b := by
  cases x with
  | error e => cases h
  | ok a => exact ⟨a, rfl, h⟩

namespace LayerDraft

/-! ## 1. The checks -/

theorem checkRange_ok {segment : SegmentId} {count : Bucket} : ∀ {buckets : List Bucket},
    checkRange segment count buckets = .ok () → ∀ bucket ∈ buckets, 0 ≤ bucket ∧ bucket < count
  | [], _, bucket, hb => by cases hb
  | first :: rest, h, bucket, hb => by
    unfold checkRange at h
    split at h
    · cases h
    · next hneg =>
      split at h
      · cases h
      · next hout =>
        rcases List.mem_cons.1 hb with rfl | hb
        · exact ⟨Int32.not_lt.1 hneg, Int32.not_le.1 hout⟩
        · exact checkRange_ok h bucket hb

/-- A bucket with an owner leaves a conflict behind, whatever is found besides. -/
theorem isEmpty_foldl_conflicts (owners : Table Bucket SegmentId) :
    ∀ (buckets : List Bucket) (found : Table SegmentId (KeySet Bucket)),
    Table.isEmpty (buckets.foldl (fun found bucket =>
      match owners.get? bucket with
      | none => found
      | some owner => found.update owner fun theirs => KeySet.add (theirs.getD .empty) bucket)
        found) = true →
    found.isEmpty = true ∧ ∀ bucket ∈ buckets, owners.get? bucket = none
  | [], found, h => ⟨h, fun _ hb => by cases hb⟩
  | first :: rest, found, h => by
    rw [List.foldl_cons] at h
    obtain ⟨hfound, hrest⟩ := isEmpty_foldl_conflicts owners rest _ h
    cases howner : owners.get? first with
    | none =>
      rw [howner] at hfound
      exact ⟨hfound, List.forall_mem_cons.2 ⟨howner, hrest⟩⟩
    | some owner =>
      rw [howner] at hfound
      have hnone := Table.isEmpty_iff.1 hfound owner
      rw [Table.get?_update, if_pos rfl] at hnone
      cases hnone

/-- **What a draft takes in.**  A segment gets in if its buckets are in range and free, and then the
ledger has them under its id. -/
theorem add_ok {draft draft' : LayerDraft} {segment : SegmentDefinition} {criterion : Criterion}
    (h : draft.add segment criterion = .ok draft') :
    (∀ bucket, segment.info.buckets.contains bucket = true →
      (0 ≤ bucket ∧ bucket < criterion.buckets) ∧ (draft.owners criterion.id).get? bucket = none) ∧
    draft' = { draft with
      segments := draft.segments ++ [segment]
      allocated := draft.allocated.insert criterion.id
        (allocate (draft.owners criterion.id) segment.info.id segment.info.buckets.keys) } := by
  obtain ⟨_, hrange, h⟩ := bind_ok h
  dsimp only at h
  split at h
  · cases h
  · next hfree =>
    cases h
    have hfree' :
        (conflicts (draft.owners criterion.id) segment.info.buckets.keys).isEmpty = true :=
      by simpa using hfree
    refine ⟨fun bucket hb => ?_, rfl⟩
    have hk := Table.mem_keys_iff.2 hb
    exact ⟨checkRange_ok hrange bucket hk, (isEmpty_foldl_conflicts _ _ _ hfree').2 bucket hk⟩

/-! ## 2. The ledger -/

@[simp] theorem owners_start (info : LayerInfo) (criterion : CriterionId) :
    (start info).owners criterion = .empty := rfl

/-- The owners under each criterion after a segment got its buckets. -/
theorem get?_owners_add {draft draft' : LayerDraft} {segment : SegmentDefinition}
    {criterion : Criterion} (h : draft.add segment criterion = .ok draft')
    (c : CriterionId) (bucket : Bucket) : (draft'.owners c).get? bucket =
      if c = criterion.id ∧ segment.info.buckets.contains bucket = true then some segment.info.id
      else (draft.owners c).get? bucket := by
  obtain ⟨-, rfl⟩ := add_ok h
  rw [owners, Table.get?_insert]
  by_cases hc : c = criterion.id
  · rw [if_pos hc, Option.getD_some, allocate, Table.get?_foldr_insert]
    simp only [Table.mem_keys_iff, hc, true_and]
  · rw [if_neg hc, if_neg fun h => hc h.1, owners]

/-- A draft keeps its books. -/
structure Sound (criteria : Table CriterionId Criterion) (draft : LayerDraft) : Prop where
  /-- The segments belong to the layer. -/
  layer : ∀ s ∈ draft.segments, s.info.layer = draft.info.id
  /-- They claim buckets that exist. -/
  inRange : ∀ s ∈ draft.segments, s.info.InRange criteria
  /-- No two of them claim the same one. -/
  apart : draft.segments.Pairwise fun s t => s.info.Apart t.info
  /-- The ledger has every claimed bucket with its owner, and no other bucket. -/
  ledger : ∀ criterion bucket owner, (draft.owners criterion).get? bucket = some owner ↔
    ∃ s ∈ draft.segments, s.info.claims criterion bucket = true ∧ s.info.id = owner

theorem sound_start (criteria : Table CriterionId Criterion) (info : LayerInfo) :
    (start info).Sound criteria where
  layer _ hs := by cases hs
  inRange _ hs := by cases hs
  apart := .nil
  ledger criterion bucket owner := by
    rw [owners_start, Table.get?_empty]
    simp [start]

/-- A draft stays sound when criteria are added. -/
theorem Sound.mono {criteria criteria' : Table CriterionId Criterion} {draft : LayerDraft}
    (h : draft.Sound criteria)
    (hmono : ∀ id c, criteria.get? id = some c → criteria'.get? id = some c) :
    draft.Sound criteria' :=
  { h with inRange := fun s hs =>
      (h.inRange s hs).imp fun _ hc => ⟨hmono _ _ hc.1, hc.2⟩ }

/-- **The step.**  A draft stays sound when a segment gets in. -/
theorem sound_add {criteria : Table CriterionId Criterion} {draft draft' : LayerDraft}
    {segment : SegmentDefinition} {criterion : Criterion} (hd : draft.Sound criteria)
    (hlayer : segment.info.layer = draft.info.id)
    (hcriterion : criteria.get? segment.info.criterion = some criterion)
    (hid : criterion.id = segment.info.criterion)
    (h : draft.add segment criterion = .ok draft') : draft'.Sound criteria := by
  obtain ⟨hnew, heq⟩ := add_ok h
  have hsegments : draft'.segments = draft.segments ++ [segment] := by rw [heq]
  have hinfo : draft'.info = draft.info := by rw [heq]
  have hmem : ∀ {p : SegmentDefinition → Prop}, (∀ s ∈ draft.segments, p s) → p segment →
      ∀ s ∈ draft'.segments, p s := by
    intro p hold hlast s hs
    rw [hsegments, List.mem_append, List.mem_singleton] at hs
    rcases hs with hs | rfl
    · exact hold s hs
    · exact hlast
  constructor
  · exact hinfo ▸ hmem hd.layer hlayer
  · exact hmem hd.inRange ⟨criterion, hcriterion, fun bucket hb => (hnew bucket hb).1⟩
  · rw [hsegments, List.pairwise_append]
    refine ⟨hd.apart, List.pairwise_singleton .., fun s hs t ht => ?_⟩
    obtain rfl := List.mem_singleton.1 ht
    intro c bucket hc
    -- a bucket of `s` has an owner, and the new segment got free buckets only
    have howner := (hd.ledger c bucket s.info.id).2 ⟨s, hs, hc, rfl⟩
    refine Bool.eq_false_iff.2 fun ht => ?_
    obtain ⟨rfl, hb⟩ := SegmentInfo.claims_iff.1 ht
    rw [← hid, (hnew bucket hb).2] at howner
    cases howner
  · intro c bucket owner
    rw [get?_owners_add h, hsegments]
    split
    · next hc =>
      have hclaims : segment.info.claims c bucket = true :=
        SegmentInfo.claims_iff.2 ⟨(hc.1.trans hid).symm, hc.2⟩
      constructor
      · intro ho
        exact ⟨segment, by simp, hclaims, by simpa using ho⟩
      · rintro ⟨s, hs, hcs, rfl⟩
        rcases List.mem_append.1 hs with hs | hs
        · have howner := (hd.ledger c bucket s.info.id).2 ⟨s, hs, hcs, rfl⟩
          rw [hc.1, (hnew bucket hc.2).2] at howner
          cases howner
        · rw [List.mem_singleton.1 hs]
    · next hc =>
      rw [hd.ledger]
      have hclaims : segment.info.claims c bucket ≠ true := fun hcl =>
        hc ⟨(SegmentInfo.claims_iff.1 hcl).1.symm.trans hid.symm, (SegmentInfo.claims_iff.1 hcl).2⟩
      simp only [List.mem_append, List.mem_singleton, or_and_right, exists_or]
      simp [hclaims]

end LayerDraft

end Rollout
