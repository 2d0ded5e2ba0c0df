import Rollout.Proofs.Assembly
import Rollout.Proofs.Description
/-!
# Ranges of buckets are shorthand

A segment of a document lists buckets one by one, by ranges, or both.  The ranges are checked
against the criteria of the document before they are written out, and what they are written out to
is checked bucket by bucket when a builder takes the segment.

Writing out all ranges of a document first makes no difference
(`SpaceDocument.describes_expanded_iff`).  If the document as it stands is accepted, its definition
is that of the document that is written out.  The other way round, the check of a range asks for no
more than the builder: it needs a criterion with buckets up to the end of the range, and if the last
bucket of the range was taken, there was one (`SpaceDocument.checkRanges_of_accepted`).
-/

namespace Rollout

/-! ## 1. Ranges -/

namespace BucketRange

/-- A range has the buckets from its start up to but not including its end. -/
theorem mem_toList {r : BucketRange} {b : Bucket} : b ∈ r.toList ↔ r.start ≤ b ∧ b < r.stop := by
  have hlow := r.start.le_toInt
  have hhigh := r.stop.toInt_lt
  rw [toList, take, min_self, List.mem_map, Int32.le_iff_toInt_le, Int32.lt_iff_toInt_lt]
  constructor
  · rintro ⟨i, hi, rfl⟩
    rw [List.mem_range, size] at hi
    rw [Int32.toInt_ofInt_of_le (by omega) (by omega)]
    omega
  · rintro ⟨hstart, hstop⟩
    refine ⟨(b.toInt - r.start.toInt).toNat, ?_, ?_⟩
    · rw [List.mem_range, size]
      omega
    · have hsum : r.start.toInt + ((b.toInt - r.start.toInt).toNat : Int) = b.toInt := by omega
      rw [hsum, Int32.ofInt_toInt]

/-- A range that is not empty has a last bucket; there is one before its end. -/
theorem toInt_last {r : BucketRange} (h : r.start < r.stop) :
    (r.stop - 1).toInt = r.stop.toInt - 1 := by
  have hlow := r.start.le_toInt
  have hhigh := r.stop.toInt_lt
  rw [Int32.lt_iff_toInt_lt] at h
  rw [Int32.toInt_sub, Int32.toInt_one]
  exact Int.bmod_eq_of_le (by omega) (by omega)

theorem last_mem {r : BucketRange} (h : r.start < r.stop) : r.stop - 1 ∈ r.toList := by
  have hlast := toInt_last h
  rw [Int32.lt_iff_toInt_lt] at h
  rw [mem_toList, Int32.le_iff_toInt_le, Int32.lt_iff_toInt_lt, hlast]
  omega

/-- What stands before the last bucket ends with the range or after it. -/
theorem stop_le_of_last_lt {r : BucketRange} {count : Bucket} (h : r.start < r.stop)
    (hlast : r.stop - 1 < count) : r.stop ≤ count := by
  rw [Int32.lt_iff_toInt_lt, toInt_last h] at hlast
  rw [Int32.le_iff_toInt_le]
  omega

end BucketRange

/-- **What is asked of ranges**: none is upside down, and one that is not empty ends where the
buckets of the criterion do, or before. -/
theorem checkRanges_eq_ok_iff {counts : Table CriterionId Bucket} (segment : SegmentId)
    {criterion : CriterionId} : ∀ {ranges : List BucketRange},
    checkRanges counts segment criterion ranges = .ok () ↔ ∀ r ∈ ranges,
      (0 ≤ r.start ∧ r.start ≤ r.stop) ∧
        (r.start ≠ r.stop → ∃ count, counts.get? criterion = some count ∧ r.stop ≤ count)
  | [] => by simp [checkRanges]
  | r :: rest => by
    rw [checkRanges, List.forall_mem_cons, ← checkRanges_eq_ok_iff segment]
    by_cases hdown : r.start < 0 ∨ r.stop < r.start
    · have hnot : ¬(0 ≤ r.start ∧ r.start ≤ r.stop) := by
        rwa [not_and_or, Int32.not_le, Int32.not_le]
      simp [hdown, hnot]
    have hup : 0 ≤ r.start ∧ r.start ≤ r.stop := by
      rwa [not_or, Int32.not_lt, Int32.not_lt] at hdown
    rw [if_neg hdown]
    by_cases hempty : r.start = r.stop
    · simp [hempty, hempty ▸ hup.1]
    rw [if_neg hempty]
    cases counts.get? criterion with
    | none => simp [hempty]
    | some count =>
      by_cases hcount : count < r.stop
      · simp [hempty, hcount, Int32.not_le.2 hcount]
      · simp [hempty, hcount, hup, Int32.not_lt.1 hcount]

/-- **What a range is refused for beyond the buckets**: the last bucket of the range is named, and
it is the number before its end. -/
theorem last_of_checkRanges {counts : Table CriterionId Bucket} {segment segment' : SegmentId}
    {criterion : CriterionId} {bucket count : Bucket} : ∀ {ranges : List BucketRange},
    checkRanges counts segment criterion ranges =
      .error (.validation (.bucketOutOfRange segment' bucket count)) →
    ∃ r ∈ ranges, (0 ≤ r.start ∧ r.start < r.stop) ∧ count < r.stop ∧
      bucket.toInt = r.stop.toInt - 1
  | [], h => by cases h
  | r :: rest, h => by
    have hrest : checkRanges counts segment criterion rest =
          .error (.validation (.bucketOutOfRange segment' bucket count)) →
        ∃ r' ∈ r :: rest, (0 ≤ r'.start ∧ r'.start < r'.stop) ∧ count < r'.stop ∧
          bucket.toInt = r'.stop.toInt - 1 := fun h => by
      obtain ⟨r', hmem, hlast⟩ := last_of_checkRanges h
      exact ⟨r', List.mem_cons_of_mem r hmem, hlast⟩
    unfold checkRanges at h
    split at h
    · cases h
    next hdown =>
    rw [not_or, Int32.not_lt, Int32.not_lt] at hdown
    split at h
    · exact hrest h
    next hne =>
    split at h
    · cases h
    split at h
    · next hcount =>
      cases h
      have hlt := Int32.lt_of_le_of_ne hdown.2 hne
      exact ⟨r, List.mem_cons_self, ⟨hdown.1, hlt⟩, hcount, BucketRange.toInt_last hlt⟩
    · exact hrest h

/-! ## 2. Documents that are written out -/

namespace SegmentDocument

/-- The segment with the buckets of its ranges listed one by one. -/
def expanded (d : SegmentDocument) : SegmentDocument :=
  { d with buckets := d.allBuckets, ranges := [] }

/-- What stands in the document besides overrides and conditions. -/
theorem info_of_meaning {registry : ConditionRegistry} {types : List (String × FlagType)}
    {counts : Table CriterionId Bucket} {d : SegmentDocument} {s : SegmentDefinition}
    (h : d.meaning registry types counts = .ok s) : s.info.id = d.id ∧
      s.info.criterion = d.criterion ∧ s.info.buckets = KeySet.ofKeys d.allBuckets := by
  unfold meaning at h
  obtain ⟨-, -, h⟩ := bind_ok h
  obtain ⟨condition, -, h⟩ := bind_ok h
  dsimp only at h
  split at h
  · cases h
    exact ⟨rfl, rfl, rfl⟩
  · obtain ⟨overrides, -, h⟩ := bind_ok h
    cases h
    exact ⟨rfl, rfl, rfl⟩

theorem mem_allBuckets {d : SegmentDocument} {b : Bucket} : b ∈ d.allBuckets ↔
    b ∈ d.buckets ∨ ∃ r ∈ d.ranges, r.start ≤ b ∧ b < r.stop := by
  rw [allBuckets, List.mem_append, List.mem_flatMap]
  simp only [BucketRange.mem_toList]

/-- The check of the ranges apart, a segment means what it means when it is written out. -/
theorem meaning_eq (registry : ConditionRegistry) (types : List (String × FlagType))
    (counts : Table CriterionId Bucket) (d : SegmentDocument) :
    d.meaning registry types counts = (checkRanges counts d.id d.criterion d.ranges >>= fun _ =>
      d.expanded.meaning registry types counts) := by
  have hbuckets : d.expanded.allBuckets = d.allBuckets := List.append_nil d.allBuckets
  unfold meaning
  rw [hbuckets]
  rfl

theorem meaning_eq_ok_iff {registry : ConditionRegistry} {types : List (String × FlagType)}
    {counts : Table CriterionId Bucket} {d : SegmentDocument} {s : SegmentDefinition} :
    d.meaning registry types counts = .ok s ↔
      checkRanges counts d.id d.criterion d.ranges = .ok () ∧
        d.expanded.meaning registry types counts = .ok s := by
  rw [meaning_eq]
  cases checkRanges counts d.id d.criterion d.ranges <;> simp [bind, Except.bind]

end SegmentDocument

namespace SpaceDocument

/-- The document with all ranges written out. -/
def expanded (d : SpaceDocument) : SpaceDocument :=
  { d with segments := d.segments.map SegmentDocument.expanded }

/-- The document describes a space: it means a definition that a new builder takes, and builds. -/
def Describes (conditions : ConditionRegistry) (declared : FlagRegistry) (version : String)
    (d : SpaceDocument) (space : Space) : Prop :=
  ∃ definition, d.meaning conditions = .ok definition ∧
    definition.build declared version = .ok space

variable {conditions : ConditionRegistry} {declared : FlagRegistry} {version : String}
  {d : SpaceDocument} {definition : SpaceDefinition} {space : Space}

/-- The checks of all ranges apart, a document means what it means when it is written out. -/
theorem meaning_expanded_iff : d.meaning conditions = .ok definition ↔
    (∀ s ∈ d.segments, checkRanges d.counts s.id s.criterion s.ranges = .ok ()) ∧
      d.expanded.meaning conditions = .ok definition := by
  have hsegments : ∀ (types : List (String × FlagType)) (segments : List SegmentDefinition),
      List.Forall₂ (fun s t => s.meaning conditions types d.counts = .ok t) d.segments segments ↔
        (∀ s ∈ d.segments, checkRanges d.counts s.id s.criterion s.ranges = .ok ()) ∧
          List.Forall₂ (fun s t => s.meaning conditions types d.counts = .ok t)
            d.expanded.segments segments := by
    intro types segments
    rw [expanded, List.forall₂_map_left_iff, ← List.forall₂_and_left]
    exact ⟨fun h => h.imp fun _ _ => SegmentDocument.meaning_eq_ok_iff.1,
      fun h => h.imp fun _ _ => SegmentDocument.meaning_eq_ok_iff.2⟩
  rw [meaning_eq_ok_iff, meaning_eq_ok_iff]
  simp only [hsegments]
  constructor
  · rintro ⟨hflags, flags, segments, hmeanings, ⟨hchecks, hexpanded⟩, rfl⟩
    exact ⟨hchecks, hflags, flags, segments, hmeanings, hexpanded, rfl⟩
  · rintro ⟨hchecks, hflags, flags, segments, hmeanings, hexpanded, rfl⟩
    exact ⟨hflags, flags, segments, hmeanings, ⟨hchecks, hexpanded⟩, rfl⟩

/-! ## 3. Documents that are accepted -/

/-- If the criteria have different ids, the number of buckets is that of the criterion of the id. -/
theorem get?_counts (h : (d.criteria.map (·.id)).Nodup) {id : CriterionId} {count : Bucket} :
    d.counts.get? id = some count ↔ ∃ c ∈ d.criteria, c.id = id ∧ c.buckets = count := by
  have hkeys : ((d.criteria.map fun c => (c.id, c.buckets)).map (·.1)).Nodup := by
    simpa [Function.comp_def] using h
  rw [counts, Table.get?_ofList hkeys]
  simp

/-- **The builder asks for no less.**  If a document is accepted when it is written out, its ranges
pass their check, unless one is upside down. -/
theorem checkRanges_of_accepted
    (hranges : ∀ s ∈ d.segments, ∀ r ∈ s.ranges, 0 ≤ r.start ∧ r.start ≤ r.stop)
    (h : d.expanded.Describes conditions declared version space) :
    ∀ s ∈ d.segments, checkRanges d.counts s.id s.criterion s.ranges = .ok () := by
  obtain ⟨definition, hmeaning, hbuild⟩ := h
  obtain ⟨b, hadd, -⟩ := SpaceDefinition.build_eq_ok_iff.1 hbuild
  have hwell := Builder.wellFormed_of_accepted hadd
  obtain ⟨-, flags, segments, -, hsegments, rfl⟩ := meaning_eq_ok_iff.1 hmeaning
  have hids : (d.criteria.map (·.id)).Nodup := by
    have hcriteria := hwell.criterionIds
    rwa [List.map_map] at hcriteria
  intro s hs
  rw [checkRanges_eq_ok_iff]
  intro r hr
  refine ⟨hranges s hs r hr, fun hne => ?_⟩
  have hlt : r.start < r.stop := Int32.lt_of_le_of_ne (hranges s hs r hr).2 hne
  obtain ⟨t, ht, hmeans⟩ := exists_of_forall₂ hsegments s.expanded (List.mem_map_of_mem hs)
  obtain ⟨-, hcriterion, hbuckets⟩ := SegmentDocument.info_of_meaning hmeans
  -- the last bucket of the range was taken, so there is one
  have hlast : t.info.buckets.contains (r.stop - 1) = true := by
    rw [hbuckets, KeySet.contains_ofKeys, SegmentDocument.mem_allBuckets]
    refine .inl (SegmentDocument.mem_allBuckets.2 (.inr ⟨r, hr, ?_⟩))
    exact BucketRange.mem_toList.1 (BucketRange.last_mem hlt)
  obtain ⟨criterion, hc, hid, hinRange⟩ := hwell.criterion t ht
  obtain ⟨c, hcd, rfl⟩ := List.mem_map.1 hc
  exact ⟨c.buckets, (get?_counts hids).2 ⟨c, hcd, hid.trans hcriterion, rfl⟩,
    BucketRange.stop_le_of_last_lt hlt (hinRange _ hlast).2⟩

/-- **Writing out the ranges makes no difference.** -/
theorem describes_expanded_iff
    (hranges : ∀ s ∈ d.segments, ∀ r ∈ s.ranges, 0 ≤ r.start ∧ r.start ≤ r.stop) :
    d.Describes conditions declared version space ↔
      d.expanded.Describes conditions declared version space := by
  constructor
  · rintro ⟨definition, hmeaning, hbuild⟩
    exact ⟨definition, (meaning_expanded_iff.1 hmeaning).2, hbuild⟩
  · intro h
    have hchecks := checkRanges_of_accepted hranges h
    obtain ⟨definition, hmeaning, hbuild⟩ := h
    exact ⟨definition, meaning_expanded_iff.2 ⟨hchecks, hmeaning⟩, hbuild⟩

/-- The segments of a space are what those of the document mean. -/
theorem Describes.segments (h : d.Describes conditions declared version space) : ∃ types segments,
    List.Forall₂ (fun s t => s.meaning conditions types d.counts = .ok t) d.segments segments ∧
      (segments.map (·.info.id)).Nodup ∧
      (space.members.map (·.info)).Perm (segments.map (·.info)) := by
  obtain ⟨definition, hmeaning, hbuild⟩ := h
  obtain ⟨b, hadd, hspace⟩ := SpaceDefinition.build_eq_ok_iff.1 hbuild
  have hholds := Builder.holds_of_accepted hadd
  have hwell := Builder.wellFormed_of_accepted hadd
  obtain ⟨-, flags, segments, -, hsegments, rfl⟩ := meaning_eq_ok_iff.1 hmeaning
  have hinfos : (space.members.map (·.info)).Perm (segments.map (·.info)) := by
    have hmembers := ((Builder.members_build hholds.sound hspace).map Prod.fst).trans
      ((hholds.segments.map fun t => (t.info, t.isDomain)).map Prod.fst)
    simpa only [List.map_map, Function.comp_def] using hmembers
  exact ⟨_, segments, hsegments, hwell.segmentIds, hinfos⟩

/-- **Where the segments of a space come from**: they are those of the document, each once. -/
theorem Describes.members (h : d.Describes conditions declared version space) :
    (space.members.map (·.info.id)).Perm (d.segments.map (·.id)) ∧ (d.segments.map (·.id)).Nodup ∧
      ∀ t ∈ space.members, ∃ s ∈ d.segments, s.id = t.info.id ∧
        t.info.buckets = KeySet.ofKeys s.allBuckets := by
  obtain ⟨types, segments, hsegments, hnodup, hinfos⟩ := h.segments
  have hids : segments.map (·.info.id) = d.segments.map (·.id) :=
    map_eq_of_forall₂ hsegments fun _ _ h => (SegmentDocument.info_of_meaning h).1
  refine ⟨?_, hids ▸ hnodup, fun t ht => ?_⟩
  · have hperm := hinfos.map (·.id)
    simp only [List.map_map, Function.comp_def] at hperm
    exact hids ▸ hperm
  · obtain ⟨s', hs', hinfo⟩ := List.mem_map.1 (hinfos.mem_iff.1 (List.mem_map_of_mem ht))
    obtain ⟨s, hs, hmeans⟩ := exists_of_forall₂ hsegments.flip s' hs'
    obtain ⟨hid, -, hbuckets⟩ := SegmentDocument.info_of_meaning hmeans
    exact ⟨s, hs, hinfo ▸ hid.symm, hinfo ▸ hbuckets⟩

/-- A segment of the space has the buckets that are listed for it and those of its ranges. -/
theorem Describes.contains_iff (h : d.Describes conditions declared version space) {t : Segment}
    (ht : t ∈ space.members) {s : SegmentDocument} (hs : s ∈ d.segments) (hid : s.id = t.info.id)
    (b : Bucket) : t.info.buckets.contains b = true ↔
      b ∈ s.buckets ∨ ∃ r ∈ s.ranges, r.start ≤ b ∧ b < r.stop := by
  obtain ⟨-, hnodup, hfrom⟩ := h.members
  obtain ⟨s', hs', hid', hbuckets⟩ := hfrom t ht
  obtain rfl : s = s' := List.inj_on_of_nodup_map hnodup hs hs' (hid.trans hid'.symm)
  rw [hbuckets, KeySet.contains_ofKeys, SegmentDocument.mem_allBuckets]

end SpaceDocument

/-- **Ranges of buckets are shorthand.**

* Let no range of a document be upside down or start below zero.  Then the document describes a
  space exactly if it does when each range is replaced by the buckets in it, and it is the same
  space.
* The segments of a space are those of the document, and each has the buckets that are listed for it
  and those of its ranges, and no others.
* A range that is not empty passes its check only if it lies within the buckets of its criterion.
  One that ends too late is refused for its last bucket, which is the number before its end: it
  starts at zero or above, so there is such a number. -/
theorem ranges_are_shorthand (conditions : ConditionRegistry) (declared : FlagRegistry)
    (version : String) (d : SpaceDocument) :
    ((∀ s ∈ d.segments, ∀ r ∈ s.ranges, 0 ≤ r.start ∧ r.start ≤ r.stop) → ∀ space,
      d.Describes conditions declared version space ↔
        d.expanded.Describes conditions declared version space) ∧
    (∀ space, d.Describes conditions declared version space →
      (space.members.map (·.info.id)).Perm (d.segments.map (·.id)) ∧
      ∀ t ∈ space.members, ∀ s ∈ d.segments, s.id = t.info.id → ∀ b,
        t.info.buckets.contains b = true ↔
          b ∈ s.buckets ∨ ∃ r ∈ s.ranges, r.start ≤ b ∧ b < r.stop) ∧
    ∀ counts segment criterion ranges,
      (checkRanges counts segment criterion ranges = .ok () → ∀ r ∈ ranges, r.toList ≠ [] →
        (0 ≤ r.start ∧ r.start < r.stop) ∧
          ∃ count, counts.get? criterion = some count ∧ r.stop ≤ count) ∧
      ∀ bucket count, checkRanges counts segment criterion ranges =
          .error (.validation (.bucketOutOfRange segment bucket count)) →
        ∃ r ∈ ranges, (0 ≤ r.start ∧ r.start < r.stop) ∧ count < r.stop ∧
          bucket.toInt = r.stop.toInt - 1 := by
  refine ⟨fun hranges space => SpaceDocument.describes_expanded_iff hranges,
    fun space h => ⟨h.members.1, fun t ht s hs hid b => h.contains_iff ht hs hid b⟩, ?_⟩
  intro counts segment criterion ranges
  refine ⟨fun hok r hr hsome => ?_, fun bucket count hrefused => last_of_checkRanges hrefused⟩
  obtain ⟨hup, hcount⟩ := (checkRanges_eq_ok_iff segment).1 hok r hr
  obtain ⟨b, hb⟩ := List.exists_mem_of_ne_nil _ hsome
  obtain ⟨hstart, hstop⟩ := BucketRange.mem_toList.1 hb
  have hlt : r.start < r.stop := Int32.lt_of_le_of_lt hstart hstop
  exact ⟨⟨hup.1, hlt⟩, hcount (Int32.ne_of_lt hlt)⟩

/-- A document with two experiments in a layer: one with a bucket, a range and an empty range, and
the other with all buckets from there on. -/
def SpaceDocument.adjoining : SpaceDocument where
  flags := [⟨"f", "bool", .bool true, []⟩]
  criteria := [⟨0, 10, false⟩]
  layers := [⟨1, none, 0, false, 101, 102, 103⟩]
  segments :=
    let experiment (id : SegmentId) (buckets : List Bucket) (ranges : List BucketRange) :
        SegmentDocument := {
      id, name := none, layer := 1, criterion := 0, domain := false, buckets, ranges
      conditions := [], merge := .and, start := none, stop := none
      overridesStart := none, overridesStop := none, overrides := [] }
    [experiment 5 [0] [⟨2, 5⟩, ⟨20, 20⟩], experiment 6 [] [⟨5, 10⟩]]

/-- It describes the same space when it is written out, in which the first experiment has bucket 4
and not bucket 5; and a range up to the greatest number is refused for the number before that. -/
theorem ranges_are_shorthand_adjoining :
    (∃ space, SpaceDocument.adjoining.Describes .empty .empty "v" space ∧
      SpaceDocument.adjoining.expanded.Describes .empty .empty "v" space ∧
      (space.members.map (·.info.id)).Perm [5, 6] ∧
      ∀ t ∈ space.members, t.info.id = 5 →
        t.info.buckets.contains 4 = true ∧ t.info.buckets.contains 5 = false) ∧
    checkRanges SpaceDocument.adjoining.counts 5 0 [⟨0, 2147483647⟩] =
      .error (.validation (.bucketOutOfRange 5 2147483646 10)) ∧
    ∃ r ∈ [BucketRange.mk 0 2147483647], (2147483646 : Bucket).toInt = r.stop.toInt - 1 := by
  obtain ⟨hiff, hmembers, hchecks⟩ := ranges_are_shorthand .empty .empty "v" .adjoining
  have hread : ((SpaceDocument.adjoining.meaning .empty).toOption.bind fun definition =>
      (definition.build .empty "v").toOption).isSome = true := by
    decide +kernel
  have hrefused : checkRanges SpaceDocument.adjoining.counts 5 0 [⟨0, 2147483647⟩] =
      .error (.validation (.bucketOutOfRange 5 2147483646 10)) := rfl
  obtain ⟨space, hspace⟩ := Option.isSome_iff_exists.1 hread
  obtain ⟨definition, hmeaning, hbuild⟩ := Option.bind_eq_some_iff.1 hspace
  have hdescribes : SpaceDocument.adjoining.Describes .empty .empty "v" space :=
    ⟨definition, ok_of_toOption hmeaning, ok_of_toOption hbuild⟩
  obtain ⟨hids, hbuckets⟩ := hmembers space hdescribes
  obtain ⟨r, hr, -, -, hlast⟩ := (hchecks _ _ _ _).2 _ _ hrefused
  have hexpanded := (hiff (by decide) space).1 hdescribes
  refine ⟨⟨space, hdescribes, hexpanded, hids, fun t ht hid => ?_⟩, hrefused, r, hr, hlast⟩
  have hcontains := hbuckets t ht _ List.mem_cons_self hid.symm
  refine ⟨(hcontains 4).2 (by decide), Bool.eq_false_iff.2 fun hfive => ?_⟩
  exact absurd ((hcontains 5).1 hfive) (by decide)

end Rollout
