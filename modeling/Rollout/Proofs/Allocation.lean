import Rollout.Proofs.Workbook
/-!
# The ledger of a layer is exact

A layer in the making keeps its segments twice: as the list of what it took in, and as a ledger that
has an owner for each bucket.  Only the ledger is looked at when the next segment comes.  This
module follows a layer to which segments are offered one after the other, some of which it refuses.

* `LayerDraft.Books` is what the two have to do with each other: a bucket of a criterion has an
  owner exactly if a segment that was taken in asked for it, and then it is that segment.  Every
  offer keeps the books (`Books.take`), so a layer has them after all offers (`books_serve`).
* The conflicts that a refusal reports are read off the ledger, and are exact as well
  (`get?_conflicts_eq_some_iff`).
* `LayerDraft.allocation_exact` puts them together: who owns what, who is refused, and what is said
  then.

The criterion of an offer is the one that it is made under.  Nothing here needs that it is the one
the segment names, or that a criterion has as many buckets each time that it is named.
-/

namespace Rollout

namespace LayerDraft

/-! ## 1. Offers -/

/-- A segment that is offered to a layer, and the criterion whose buckets it asks for. -/
structure Offer where
  segment : SegmentDefinition
  criterion : Criterion

namespace Offer

/-- The offer asks for a bucket of a criterion. -/
def Wants (offer : Offer) (criterion : CriterionId) (bucket : Bucket) : Prop :=
  offer.criterion.id = criterion ∧ offer.segment.info.buckets.contains bucket = true

/-- The offer asks only for buckets that its criterion has. -/
def InRange (offer : Offer) : Prop :=
  ∀ bucket, offer.segment.info.buckets.contains bucket = true →
    0 ≤ bucket ∧ bucket < offer.criterion.buckets

/-- The bucket is one that both ask for, and the first of them is the segment of this id. -/
def Shares (taken offer : Offer) (owner : SegmentId) (bucket : Bucket) : Prop :=
  taken.segment.info.id = owner ∧ taken.Wants offer.criterion.id bucket ∧
    offer.Wants offer.criterion.id bucket

/-- An offer that is made under the criterion that its segment names wants what the segment
claims. -/
theorem wants_iff_claims {offer : Offer} (h : offer.criterion.id = offer.segment.info.criterion)
    {criterion : CriterionId} {bucket : Bucket} :
    offer.Wants criterion bucket ↔ offer.segment.info.claims criterion bucket = true := by
  rw [Wants, SegmentInfo.claims_iff, h]

end Offer

/-- The draft after offers were made to it one after the other, and the offers that it took, in
order.  One that it refuses is followed by the next. -/
def serve (draft : LayerDraft) : List Offer → LayerDraft × List Offer
  | [] => (draft, [])
  | offer :: rest =>
    match draft.add offer.segment offer.criterion with
    | .ok draft' => ((serve draft' rest).1, offer :: (serve draft' rest).2)
    | .error _ => serve draft rest

/-- The draft after the offers were written into it in place.  What a refused one has written by the
time it is refused stays. -/
def writeAll (draft : LayerDraft) (offers : List Offer) : LayerDraft :=
  offers.foldl (fun draft offer => match write offer.segment offer.criterion draft with
    | .ok _ draft' | .error _ draft' => draft') draft

/-- Offers that are written in place leave the draft that serving them leaves. -/
theorem writeAll_eq : ∀ (offers : List Offer) (draft : LayerDraft),
    draft.writeAll offers = (draft.serve offers).1
  | [], _ => rfl
  | offer :: rest, draft => by
    rw [writeAll, List.foldl_cons, write_eq, serve]
    cases draft.add offer.segment offer.criterion with
    | ok draft' => exact writeAll_eq rest draft'
    | error _ => exact writeAll_eq rest draft

/-! ## 2. The books -/

/-- A draft has the offers that it took in its books, and nothing else. -/
structure Books (info : LayerInfo) (draft : LayerDraft) (taken : List Offer) : Prop where
  /-- It is the layer that it was. -/
  info : draft.info = info
  /-- It has their segments, in order. -/
  segments : draft.segments = taken.map (·.segment)
  /-- No two of them asked for the same bucket. -/
  apart : taken.Pairwise fun t u => ∀ c b, t.Wants c b → ¬ u.Wants c b
  /-- A bucket has an owner if one of them asked for it, and it is that one. -/
  ledger : ∀ c b owner, (draft.owners c).get? b = some owner ↔
    ∃ t ∈ taken, t.Wants c b ∧ t.segment.info.id = owner

theorem books_start (info : LayerInfo) : Books info (start info) [] where
  info := rfl
  segments := rfl
  apart := .nil
  ledger c b owner := by simp

section

variable {info : LayerInfo} {draft draft' : LayerDraft} {taken : List Offer} {offer : Offer}

/-- A bucket that was asked for has an owner. -/
theorem Books.not_free (hd : Books info draft taken) {t : Offer} (ht : t ∈ taken) {c : CriterionId}
    {b : Bucket} (hwants : t.Wants c b) : (draft.owners c).get? b ≠ none := by
  rw [(hd.ledger c b t.segment.info.id).2 ⟨t, ht, hwants, rfl⟩]
  exact Option.some_ne_none _

/-- **The step.**  An offer that is taken is entered in the books. -/
theorem Books.take (hd : Books info draft taken)
    (h : draft.add offer.segment offer.criterion = .ok draft') :
    Books info draft' (taken ++ [offer]) := by
  obtain ⟨hfree, heq⟩ := add_ok h
  have hapart : ∀ t ∈ taken, ∀ c b, t.Wants c b → ¬ offer.Wants c b := by
    rintro t ht c b hwants ⟨rfl, hb⟩
    exact hd.not_free ht hwants (hfree b hb).2
  constructor
  · rw [heq]
    exact hd.info
  · rw [heq, List.map_append, ← hd.segments]
    rfl
  · refine List.pairwise_append.2 ⟨hd.apart, List.pairwise_singleton .., fun t ht u hu => ?_⟩
    rw [List.mem_singleton.1 hu]
    exact hapart t ht
  · intro c b owner
    rw [get?_owners_add h]
    simp only [List.mem_append, List.mem_singleton, or_and_right, exists_or, exists_eq_left]
    split
    · next hnew =>
      have hwants : offer.Wants c b := ⟨hnew.1.symm, hnew.2⟩
      have hold : ¬ ∃ t ∈ taken, t.Wants c b ∧ t.segment.info.id = owner := by
        rintro ⟨t, ht, htwants, -⟩
        exact hapart t ht c b htwants hwants
      simp [hold, hwants]
    · next hnew =>
      have hwants : ¬ offer.Wants c b := fun hw => hnew ⟨hw.1.symm, hw.2⟩
      simp [hd.ledger, hwants]

end

/-- **The run.**  A draft with its books in order has them in order after all offers. -/
theorem Books.serve {info : LayerInfo} : ∀ (offers : List Offer) {draft : LayerDraft}
    {taken : List Offer}, Books info draft taken →
    Books info (draft.serve offers).1 (taken ++ (draft.serve offers).2)
  | [], _, _, hd => by
    rw [LayerDraft.serve, List.append_nil]
    exact hd
  | offer :: rest, draft, taken, hd => by
    rw [LayerDraft.serve]
    cases hadd : draft.add offer.segment offer.criterion with
    | ok draft' =>
      have h := Books.serve rest (hd.take hadd)
      rwa [List.append_assoc] at h
    | error _ => exact Books.serve rest hd

theorem books_serve (info : LayerInfo) (offers : List Offer) :
    Books info ((start info).serve offers).1 ((start info).serve offers).2 :=
  (books_start info).serve offers

/-- Nothing is taken that was not offered. -/
theorem mem_of_mem_serve {t : Offer} : ∀ {offers : List Offer} {draft : LayerDraft},
    t ∈ (draft.serve offers).2 → t ∈ offers
  | [], _, h => h
  | offer :: rest, draft, h => by
    rw [serve] at h
    split at h
    · exact (List.mem_cons.1 h).elim (fun heq => heq ▸ List.mem_cons_self)
        fun hrest => List.mem_cons_of_mem _ (mem_of_mem_serve hrest)
    · exact List.mem_cons_of_mem _ (mem_of_mem_serve h)

/-! ## 3. Conflicts -/

/-- One more bucket is looked at. -/
theorem conflicts_append_singleton (owners : Table Bucket SegmentId) (buckets : List Bucket)
    (bucket : Bucket) : conflicts owners (buckets ++ [bucket]) = match owners.get? bucket with
      | none => conflicts owners buckets
      | some owner => (conflicts owners buckets).update owner fun theirs =>
        KeySet.add (theirs.getD .empty) bucket := by
  rw [conflicts, List.foldl_append, List.foldl_cons, List.foldl_nil]
  cases owners.get? bucket <;> rfl

section

variable (owners : Table Bucket SegmentId) (owner : SegmentId)

/-- Someone is in conflict if it owns one of the buckets. -/
theorem contains_conflicts_iff (buckets : List Bucket) :
    (conflicts owners buckets).contains owner = true ↔
      ∃ b ∈ buckets, owners.get? b = some owner := by
  induction buckets using List.reverseRecOn with
  | nil => simp [conflicts]
  | append_singleton buckets last ih =>
    simp only [conflicts_append_singleton, List.mem_append, List.mem_singleton, or_and_right,
      exists_or, exists_eq_left, ← ih]
    cases howner : owners.get? last with
    | none => simp
    | some other =>
      rw [Option.some.injEq, or_comm, eq_comm (a := other)]
      exact Table.contains_insert_iff

/-- What is reported of an owner is the buckets that it owns. -/
theorem contains_getD_conflicts_iff (buckets : List Bucket) (b : Bucket) :
    (((conflicts owners buckets).get? owner).getD .empty).contains b = true ↔
      b ∈ buckets ∧ owners.get? b = some owner := by
  induction buckets using List.reverseRecOn with
  | nil => simp [conflicts]
  | append_singleton buckets last ih =>
    rw [conflicts_append_singleton, List.mem_append, List.mem_singleton, or_and_right, ← ih]
    cases howner : owners.get? last with
    | none =>
      refine (or_iff_left ?_).symm
      rintro ⟨rfl, hb⟩
      rw [howner] at hb
      cases hb
    | some other =>
      rw [Table.get?_update]
      by_cases heq : owner = other
      · subst heq
        rw [if_pos rfl, Option.getD_some, KeySet.contains_add_iff, or_comm]
        refine or_congr_right ⟨fun hb => ⟨hb, hb ▸ howner⟩, And.left⟩
      · rw [if_neg heq]
        refine (or_iff_left ?_).symm
        rintro ⟨rfl, hb⟩
        rw [howner, Option.some.injEq] at hb
        exact heq hb.symm

/-- **What conflicts say.**  The owners among them are those of the buckets, each with the buckets
that it owns. -/
theorem get?_conflicts_eq_some_iff {buckets : List Bucket} {theirs : KeySet Bucket} :
    (conflicts owners buckets).get? owner = some theirs ↔
      (∃ b, theirs.contains b = true) ∧
        ∀ b, theirs.contains b = true ↔ b ∈ buckets ∧ owners.get? b = some owner := by
  have hentry : ∀ {found}, (conflicts owners buckets).get? owner = some found →
      ∀ b, found.contains b = true ↔ b ∈ buckets ∧ owners.get? b = some owner := by
    intro found hfound b
    rw [← contains_getD_conflicts_iff, hfound, Option.getD_some]
  constructor
  · intro h
    obtain ⟨b, hb⟩ := (contains_conflicts_iff owners owner buckets).1 (Table.contains_iff.2 ⟨_, h⟩)
    exact ⟨⟨b, (hentry h b).2 hb⟩, hentry h⟩
  · rintro ⟨⟨b, hb⟩, hall⟩
    obtain ⟨found, hfound⟩ := Table.contains_iff.1
      ((contains_conflicts_iff owners owner buckets).2 ⟨b, (hall b).1 hb⟩)
    have hsame : found = theirs :=
      KeySet.ext_contains fun b => (hentry hfound b).trans (hall b).symm
    rw [hfound, hsame]

end

/-! ## 4. Refusals -/

section

variable {info : LayerInfo} {draft : LayerDraft} {taken : List Offer} {offer : Offer}

/-- Where the buckets are in range, conflicts decide. -/
theorem add_of_inRange (hrange : offer.InRange) :
    draft.add offer.segment offer.criterion =
      let found := conflicts (draft.owners offer.criterion.id) offer.segment.info.buckets.keys
      if found.isEmpty then
        .ok { draft with
          segments := draft.segments ++ [offer.segment]
          allocated := draft.allocated.insert offer.criterion.id
            (allocate (draft.owners offer.criterion.id) offer.segment.info.id
              offer.segment.info.buckets.keys) }
      else .error (.overlappingBuckets offer.segment.info.id draft.info.id found) := by
  rw [add_eq, (checkRange_eq_ok_iff offer.segment.info.id).2 fun b hb =>
    hrange b (Table.mem_keys_iff.1 hb)]

/-- The buckets of an offer that others own are those that it shares with what was taken. -/
theorem Books.shares_iff (hd : Books info draft taken) (owner : SegmentId) (b : Bucket) :
    b ∈ offer.segment.info.buckets.keys ∧
        (draft.owners offer.criterion.id).get? b = some owner ↔
      ∃ t ∈ taken, t.Shares offer owner b := by
  rw [hd.ledger, Table.mem_keys_iff]
  constructor
  · rintro ⟨hb, t, ht, hwants, hid⟩
    exact ⟨t, ht, hid, hwants, rfl, hb⟩
  · rintro ⟨t, ht, hid, hwants, -, hb⟩
    exact ⟨hb, t, ht, hwants, hid⟩

/-- There is a conflict exactly if there is a bucket that both this offer and one that was taken ask
for. -/
theorem Books.conflict_iff (hd : Books info draft taken) :
    (conflicts (draft.owners offer.criterion.id) offer.segment.info.buckets.keys).isEmpty = false ↔
      ∃ t ∈ taken, ∃ c b, t.Wants c b ∧ offer.Wants c b := by
  rw [← Bool.not_eq_true, Table.isEmpty_iff, not_forall]
  constructor
  · rintro ⟨owner, hne⟩
    obtain ⟨theirs, hfound⟩ := Option.ne_none_iff_exists'.1 hne
    obtain ⟨b, hb⟩ := (contains_conflicts_iff _ owner _).1 (Table.contains_iff.2 ⟨theirs, hfound⟩)
    obtain ⟨t, ht, -, hwants, hmine⟩ := (hd.shares_iff owner b).1 hb
    exact ⟨t, ht, _, b, hwants, hmine⟩
  · rintro ⟨t, ht, c, b, hwants, rfl, hb⟩
    refine ⟨t.segment.info.id, Option.isSome_iff_ne_none.1 ?_⟩
    exact (contains_conflicts_iff _ _ _).2
      ⟨b, (hd.shares_iff _ b).2 ⟨t, ht, rfl, hwants, rfl, hb⟩⟩

end

/-! ## 5. Allocation -/

/-- **Allocation is exact.**  Take a layer after any offers, with the ones that it took.

* It is the same layer if it is written in place, and its segments are those that it took, in order.
* A bucket of a criterion belongs to a segment exactly if the segment was taken and asked for it; if
  all segments are offered under the criterion that they name, exactly if a segment of the layer
  claims it.
* A segment whose buckets are in range is refused exactly if it shares a bucket with one that was
  taken, under the same criterion.  It is told of each owner that it shares a bucket with, and of
  exactly the buckets that they share. -/
theorem allocation_exact {info : LayerInfo} {offers : List Offer} {draft : LayerDraft}
    {taken : List Offer} (h : (start info).serve offers = (draft, taken)) :
    ((start info).writeAll offers = draft ∧ draft.segments = taken.map (·.segment)) ∧
    (∀ c b owner, (draft.owners c).get? b = some owner ↔
      ∃ t ∈ taken, t.Wants c b ∧ t.segment.info.id = owner) ∧
    ((∀ offer ∈ offers, offer.criterion.id = offer.segment.info.criterion) →
      ∀ c b owner, (draft.owners c).get? b = some owner ↔
        ∃ s ∈ draft.segments, s.info.claims c b = true ∧ s.info.id = owner) ∧
    ∀ offer : Offer, offer.InRange →
      ((∃ e, draft.add offer.segment offer.criterion = .error e) ↔
        ∃ t ∈ taken, ∃ c b, t.Wants c b ∧ offer.Wants c b) ∧
      ∀ e, draft.add offer.segment offer.criterion = .error e →
        ∃ found, e = .overlappingBuckets offer.segment.info.id info.id found ∧
          ∀ owner theirs, found.get? owner = some theirs ↔
            (∃ b, theirs.contains b = true) ∧
              ∀ b, theirs.contains b = true ↔ ∃ t ∈ taken, t.Shares offer owner b := by
  have hd := books_serve info offers
  have hwritten := writeAll_eq offers (start info)
  rw [h] at hd hwritten
  refine ⟨⟨hwritten, hd.segments⟩, hd.ledger, fun hown c b owner => ?_, fun offer hrange => ?_⟩
  · have hclaims : ∀ t ∈ taken, (t.Wants c b ↔ t.segment.info.claims c b = true) := by
      intro t ht
      have hmem : t ∈ ((start info).serve offers).2 := by
        rw [h]
        exact ht
      exact Offer.wants_iff_claims (hown t (mem_of_mem_serve hmem))
    rw [hd.ledger, hd.segments]
    simp only [List.mem_map, exists_exists_and_eq_and]
    exact exists_congr fun t => and_congr_right fun ht => and_congr_left' (hclaims t ht)
  · rw [← hd.conflict_iff, add_of_inRange hrange]
    dsimp only
    cases hempty : Table.isEmpty (conflicts (draft.owners offer.criterion.id)
        offer.segment.info.buckets.keys) with
    | true => simp
    | false =>
      refine ⟨by simp, fun e he => ⟨conflicts (draft.owners offer.criterion.id)
        offer.segment.info.buckets.keys, ?_, fun owner theirs => ?_⟩⟩
      · rw [← hd.info]
        exact (Except.error.inj he).symm
      · rw [get?_conflicts_eq_some_iff]
        simp only [hd.shares_iff]

/-- A domain that asks for buckets of a criterion that has ten. -/
def domainOffer (id : SegmentId) (criterion : CriterionId) (buckets : List Bucket) : Offer :=
  ⟨.domain ⟨id, 1, criterion, KeySet.ofKeys buckets, .always, .always, .always⟩,
    ⟨criterion, 10, false⟩⟩

/-- The third of these asks for buckets of the first two and is refused, so the fourth gets a bucket
that the third asked for too.  The last one asks for the buckets of the first, of another
criterion. -/
def rivals : List Offer :=
  [domainOffer 10 0 [0, 1, 2], domainOffer 11 0 [5], domainOffer 12 0 [2, 3, 5],
    domainOffer 13 0 [3], domainOffer 14 1 [0, 1, 2]]

theorem allocation_exact_rivals : ∃ draft taken,
    (start ⟨1, topDomain, false, 101, 102, 103⟩).serve rivals = (draft, taken) ∧
      taken.map (·.segment.info.id) = [10, 11, 13, 14] ∧
      (draft.owners 0).get? 3 = some 13 ∧ (draft.owners 1).get? 0 = some 14 ∧
      ∃ found, draft.add (domainOffer 12 0 [2, 3, 5]).segment ⟨0, 10, false⟩ =
          .error (.overlappingBuckets 12 1 found) ∧
        found.get? 11 = some (KeySet.ofKeys [5]) := by
  have hserve : (start ⟨1, topDomain, false, 101, 102, 103⟩).serve rivals =
      ((start ⟨1, topDomain, false, 101, 102, 103⟩).writeAll rivals,
        [domainOffer 10 0 [0, 1, 2], domainOffer 11 0 [5], domainOffer 13 0 [3],
          domainOffer 14 1 [0, 1, 2]]) := rfl
  obtain ⟨-, hledger, -, hrefused⟩ := allocation_exact hserve
  have hrange : (domainOffer 12 0 [2, 3, 5]).InRange := by
    intro bucket hb
    rcases (by simpa using KeySet.contains_ofKeys.1 hb : bucket = 2 ∨ bucket = 3 ∨ bucket = 5) with
      rfl | rfl | rfl <;> decide
  obtain ⟨hiff, herror⟩ := hrefused _ hrange
  have hshares : (domainOffer 11 0 [5]).Wants 0 5 ∧ (domainOffer 12 0 [2, 3, 5]).Wants 0 5 :=
    ⟨⟨rfl, by decide⟩, ⟨rfl, by decide⟩⟩
  obtain ⟨e, he⟩ := hiff.2 ⟨domainOffer 11 0 [5], by simp, 0, 5, hshares⟩
  obtain ⟨found, rfl, hfound⟩ := herror e he
  refine ⟨_, _, hserve, rfl,
    (hledger 0 3 13).2 ⟨domainOffer 13 0 [3], by simp, ⟨rfl, by decide⟩, rfl⟩,
    (hledger 1 0 14).2 ⟨domainOffer 14 1 [0, 1, 2], by simp, ⟨rfl, by decide⟩, rfl⟩, found, he, ?_⟩
  -- the second domain has one bucket, and it is shared
  refine (hfound 11 (KeySet.ofKeys [5])).2 ⟨⟨5, by decide⟩, fun b => ?_⟩
  rw [KeySet.contains_ofKeys, List.mem_singleton]
  constructor
  · rintro rfl
    exact ⟨domainOffer 11 0 [5], by simp, rfl, hshares⟩
  · rintro ⟨t, ht, hid, hwants, -⟩
    have hsecond : t = domainOffer 11 0 [5] := by
      rcases (by simpa using ht : t = _ ∨ t = _ ∨ t = _ ∨ t = _) with rfl | rfl | rfl | rfl
      · exact absurd hid (by decide)
      · rfl
      · exact absurd hid (by decide)
      · exact absurd hid (by decide)
    subst hsecond
    simpa using KeySet.contains_ofKeys.1 hwants.2

end LayerDraft

end Rollout
