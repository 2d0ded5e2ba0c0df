import Rollout.Proofs.Acceptance
/-!
# What a builder admits

A builder looks at each part by itself, with what it has so far.  This module says when it takes
many parts one after the other: flags, criteria and layers by one statement about parts with a key
that must be new (`addEach_iff`), and segments by `Builder.Admits`, which is all that a segment
needs of a builder.  A segment that is admitted stays so while others get in, if its id is its own
and it claims none of their buckets (`Admits.after`).
-/

namespace Rollout

/-! ## 1. The ledger of a layer -/

namespace LayerDraft

theorem checkRange_eq_ok_iff (segment : SegmentId) {count : Bucket} : ∀ {buckets : List Bucket},
    checkRange segment count buckets = .ok () ↔ ∀ bucket ∈ buckets, 0 ≤ bucket ∧ bucket < count
  | [] => by simp [checkRange]
  | first :: rest => by
    rw [checkRange, List.forall_mem_cons, ← checkRange_eq_ok_iff segment]
    by_cases hneg : first < 0
    · simp [hneg, Int32.not_le.2 hneg]
    · by_cases hout : count ≤ first
      · simp [hneg, hout, Int32.not_lt.2 hout]
      · simp [hneg, hout, Int32.not_lt.1 hneg, Int32.not_le.1 hout]

/-- Buckets that nobody owns leave no conflict behind. -/
theorem foldl_conflicts_of_free (owners : Table Bucket SegmentId) :
    ∀ (buckets : List Bucket), (∀ bucket ∈ buckets, owners.get? bucket = none) →
    ∀ found : Table SegmentId (KeySet Bucket), buckets.foldl (fun found bucket =>
      match owners.get? bucket with
      | none => found
      | some owner => found.update owner fun theirs => KeySet.add (theirs.getD .empty) bucket)
        found = found
  | [], _, _ => rfl
  | first :: rest, h, found => by
    rw [List.foldl_cons, h first List.mem_cons_self]
    exact foldl_conflicts_of_free owners rest (fun b hb => h b (List.mem_cons_of_mem _ hb)) found

/-- A segment gets in exactly if its buckets are in range and free. -/
theorem add_isOk_iff {draft : LayerDraft} {segment : SegmentDefinition} {criterion : Criterion} :
    (∃ draft', draft.add segment criterion = .ok draft') ↔
      ∀ bucket, segment.info.buckets.contains bucket = true →
        (0 ≤ bucket ∧ bucket < criterion.buckets) ∧
          (draft.owners criterion.id).get? bucket = none := by
  refine ⟨fun ⟨_, h⟩ => (add_ok h).1, fun h => ?_⟩
  have hrange := (checkRange_eq_ok_iff segment.info.id).2 fun bucket hb =>
    (h bucket (Table.mem_keys_iff.1 hb)).1
  have hfree : conflicts (draft.owners criterion.id) segment.info.buckets.keys = .empty :=
    foldl_conflicts_of_free _ _ (fun bucket hb => (h bucket (Table.mem_keys_iff.1 hb)).2) _
  unfold add
  simp only [hrange, hfree, bind, Except.bind]
  exact ⟨_, rfl⟩

/-- In a draft that keeps its books, the buckets that a segment claims are free exactly if no
segment of the draft claims one of them. -/
theorem Sound.free_iff {criteria : Table CriterionId Criterion} {draft : LayerDraft}
    (hd : draft.Sound criteria) {info : SegmentInfo} :
    (∀ bucket, info.buckets.contains bucket = true →
      (draft.owners info.criterion).get? bucket = none) ↔
      ∀ s ∈ draft.segments, s.info.Apart info := by
  constructor
  · intro hfree s hs c bucket hclaims
    have howner := (hd.ledger c bucket s.info.id).2 ⟨s, hs, hclaims, rfl⟩
    refine Bool.eq_false_iff.2 fun hmine => ?_
    obtain ⟨rfl, hb⟩ := SegmentInfo.claims_iff.1 hmine
    rw [hfree bucket hb] at howner
    cases howner
  · intro hapart bucket hb
    refine Option.eq_none_iff_forall_ne_some.2 fun owner howner => ?_
    obtain ⟨s, hs, hclaims, -⟩ := (hd.ledger info.criterion bucket owner).1 howner
    have hmine := hapart s hs info.criterion bucket hclaims
    rw [SegmentInfo.claims_iff.2 ⟨rfl, hb⟩] at hmine
    cases hmine

end LayerDraft

namespace Builder

variable {b b' : Builder}

/-! ## 2. Parts with a key -/

/-- **Parts with a key.**  Where a part needs only that its key is new, and something else that
other parts do not touch, parts are accepted one after the other exactly if their keys are new and
different and each has what else it needs. -/
theorem addEach_iff {α κ : Type} {add : Builder → α → Except ValidationError Builder}
    (key : α → κ) (taken : Builder → κ → Prop) (needs : Builder → α → Prop)
    (after : Builder → α → Builder)
    (hadd : ∀ b part b', add b part = .ok b' ↔
      ¬ taken b (key part) ∧ needs b part ∧ after b part = b')
    (htaken : ∀ b part k, taken (after b part) k ↔ k = key part ∨ taken b k)
    (hneeds : ∀ b part other, needs (after b part) other ↔ needs b other) :
    ∀ (parts : List α) (b b' : Builder), addEach add b parts = (b', none) ↔
      (parts.map key).Nodup ∧ (∀ part ∈ parts, ¬ taken b (key part) ∧ needs b part) ∧
        parts.foldl after b = b'
  | [], b, b' => by simp [addEach_nil_iff]
  | part :: rest, b, b' => by
    have ih := addEach_iff key taken needs after hadd htaken hneeds rest (after b part) b'
    rw [addEach_cons_iff, List.map_cons, List.nodup_cons, List.forall_mem_cons, List.foldl_cons]
    constructor
    · rintro ⟨b₁, hpart, hrest⟩
      obtain ⟨hnew, hneed, rfl⟩ := (hadd _ _ _).1 hpart
      obtain ⟨hnodup, hall, hb'⟩ := ih.1 hrest
      have hfresh : ∀ other ∈ rest, key other ≠ key part ∧ ¬ taken b (key other) := fun other ho =>
        not_or.1 (mt (htaken _ _ _).2 (hall other ho).1)
      refine ⟨⟨fun hmem => ?_, hnodup⟩, ⟨⟨hnew, hneed⟩, fun other ho => ?_⟩, hb'⟩
      · obtain ⟨other, ho, heq⟩ := List.mem_map.1 hmem
        exact (hfresh other ho).1 heq
      · exact ⟨(hfresh other ho).2, (hneeds _ _ _).1 (hall other ho).2⟩
    · rintro ⟨⟨hmem, hnodup⟩, ⟨⟨hnew, hneed⟩, hall⟩, hb'⟩
      refine ⟨after b part, (hadd _ _ _).2 ⟨hnew, hneed, rfl⟩,
        ih.2 ⟨hnodup, fun other ho => ?_, hb'⟩⟩
      refine ⟨fun htakes => ?_, (hneeds _ _ _).2 (hall other ho).2⟩
      rcases (htaken _ _ _).1 htakes with heq | hold
      · exact hmem (List.mem_map.2 ⟨other, ho, heq⟩)
      · exact (hall other ho).1 hold

/-- The builder with one more flag, unchecked. -/
def withFlag (b : Builder) (flag : FlagDefinition) : Builder :=
  { b with flags := b.flags.insert flag.name flag.calculator }

/-- The builder with one more criterion, unchecked. -/
def withCriterion (b : Builder) (criterion : Criterion) : Builder :=
  { b with criteria := b.criteria.insert criterion.id criterion }

/-- The builder with one more layer, unchecked. -/
def withLayer (b : Builder) (layer : LayerInfo) : Builder :=
  { b with drafts := .start layer :: b.drafts }

/-- A flag has the type that it is declared with, if it is. -/
def Agrees (b : Builder) (flag : FlagDefinition) : Prop :=
  ∀ declared, b.declared.lookup flag.name = some declared → declared = flag.calculator.type

/-- A layer stands in the space itself, or else it is not a launch layer and its domain is there. -/
def Hosts (b : Builder) (layer : LayerInfo) : Prop :=
  (layer.launch = true → layer.isTop = true) ∧
    (layer.isTop = false → b.hasDomain layer.domain = true)

theorem addEach_addFlag_iff {flags : List FlagDefinition} :
    addEach addFlag b flags = (b', none) ↔
      (flags.map (·.name)).Nodup ∧
      (∀ flag ∈ flags, ¬ b.flags.contains flag.name = true ∧ b.Agrees flag) ∧
      flags.foldl withFlag b = b' := by
  refine addEach_iff FlagDefinition.name (fun b name => b.flags.contains name = true)
    Agrees withFlag
    (fun b flag b' => ?_) (fun _ _ _ => Table.contains_insert_iff) (fun _ _ _ => Iff.rfl) _ _ _
  rw [addFlag_eq_ok_iff, Bool.not_eq_true]
  rfl

theorem addEach_addCriterion_iff {criteria : List Criterion} :
    addEach addCriterion b criteria = (b', none) ↔
      (criteria.map (·.id)).Nodup ∧
      (∀ criterion ∈ criteria, ¬ b.criteria.contains criterion.id = true ∧
        0 < criterion.buckets) ∧
      criteria.foldl withCriterion b = b' := by
  refine addEach_iff Criterion.id (fun b id => b.criteria.contains id = true)
    (fun _ criterion => 0 < criterion.buckets) withCriterion (fun b criterion b' => ?_)
    (fun _ _ _ => Table.contains_insert_iff) (fun _ _ _ => Iff.rfl) _ _ _
  rw [addCriterion_eq_ok_iff, Bool.not_eq_true, and_left_comm]
  rfl

theorem addEach_addLayer_iff {layers : List LayerInfo} :
    addEach addLayer b layers = (b', none) ↔
      (layers.map (·.id)).Nodup ∧
      (∀ layer ∈ layers, ¬ b.hasLayer layer.id = true ∧ b.Hosts layer) ∧
      layers.foldl withLayer b = b' := by
  refine addEach_iff LayerInfo.id (fun b id => b.hasLayer id = true) Hosts withLayer
    (fun b layer b' => ?_) (fun b layer id => ?_) (fun _ _ _ => Iff.rfl) _ _ _
  · rw [addLayer_eq_ok_iff, Bool.not_eq_true, Hosts, and_assoc]
    rfl
  · rw [hasLayer_iff, hasLayer_iff, withLayer, List.exists_mem_cons_iff]
    exact or_congr_left eq_comm

/-! ## 3. Segments -/

/-- All that a segment needs of a builder. -/
structure Admits (b : Builder) (s : SegmentDefinition) : Prop where
  notTop : s.info.id ≠ topDomain
  new : ∀ t ∈ b.segments, t.info.id ≠ s.info.id
  layer : b.hasLayer s.info.layer = true
  inRange : s.info.InRange b.criteria
  active : s.info.active.isInverted = false
  overridesWindow : s.info.overridesWindow.isInverted = false
  fits : b.Fits s
  apart : ∀ t ∈ b.segments, t.info.layer = s.info.layer → t.info.Apart s.info

/-- A segment gets into the layer that it names if the draft of that layer takes it in. -/
theorem addToDraft_isOk {segment : SegmentDefinition} {criterion : Criterion} :
    ∀ {drafts : List LayerDraft}, (∀ d ∈ drafts, d.info.id = segment.info.layer →
      ∃ d', d.add segment criterion = .ok d') →
    ∃ drafts', addToDraft segment criterion drafts = .ok drafts'
  | [], _ => ⟨[], rfl⟩
  | d :: rest, h => by
    rw [addToDraft]
    split
    · next hid =>
      obtain ⟨d', hd'⟩ := h d List.mem_cons_self hid
      exact ⟨d' :: rest, by rw [hd']; rfl⟩
    · obtain ⟨rest', hrest⟩ := addToDraft_isOk fun e he => h e (List.mem_cons_of_mem _ he)
      exact ⟨d :: rest', by rw [hrest]; rfl⟩

/-- **A segment that is admitted gets in.** -/
theorem Admits.add (hb : b.Sound) {s : SegmentDefinition} (h : b.Admits s) :
    ∃ b', b.addSegment s = .ok b' := by
  obtain ⟨criterion, hcriterion, hrange⟩ := h.inRange
  have hnew : b.hasSegment s.info.id = false := Bool.eq_false_iff.2 fun hold => by
    obtain ⟨t, ht, hid⟩ := hasSegment_iff.1 hold
    exact h.new t ht hid
  have hdrafts : ∀ d ∈ b.drafts, d.info.id = s.info.layer → ∃ d', d.add s criterion = .ok d' := by
    intro d hd hid
    refine LayerDraft.add_isOk_iff.2 fun bucket hbucket => ⟨hrange bucket hbucket, ?_⟩
    rw [(hb.criteria _ criterion hcriterion).1]
    refine (hb.drafts d hd).free_iff.2 (fun t ht => ?_) bucket hbucket
    exact h.apart t (mem_segments_iff.2 ⟨d, hd, ht⟩) (((hb.drafts d hd).layer t ht).trans hid)
  obtain ⟨drafts, hadded⟩ := addToDraft_isOk hdrafts
  exact ⟨_, addSegment_eq_ok_iff.2 ⟨h.notTop, hnew, h.layer, criterion, hcriterion,
    ⟨h.active, h.overridesWindow⟩, h.fits, drafts, hadded, rfl⟩⟩

/-- What a layer changes: there is one layer more, with no segments. -/
theorem perm_infos_addLayer {layer : LayerInfo} (h : b.addLayer layer = .ok b') :
    (b'.drafts.map (·.info)).Perm ([layer] ++ b.drafts.map (·.info)) := by
  obtain ⟨-, -, -, rfl⟩ := addLayer_eq_ok_iff.1 h
  exact .refl _

theorem tables_addLayer {layer : LayerInfo} (h : b.addLayer layer = .ok b') :
    (b'.flags, b'.criteria, b'.segments) = (b.flags, b.criteria, b.segments) := by
  obtain ⟨-, -, -, rfl⟩ := addLayer_eq_ok_iff.1 h
  rfl

/-- What a segment changes: only the layer that it gets into has one segment more. -/
theorem infos_addSegment {segment : SegmentDefinition} (h : b.addSegment segment = .ok b') :
    b'.drafts.map (·.info) = b.drafts.map (·.info) := by
  obtain ⟨-, -, -, criterion, before, d, d', after, -, hdrafts, rfl, -, hadd⟩ := addSegment_ok h
  obtain ⟨-, rfl⟩ := LayerDraft.add_ok hadd
  simp [hdrafts]

theorem tables_addSegment {segment : SegmentDefinition} (h : b.addSegment segment = .ok b') :
    (b'.flags, b'.criteria) = (b.flags, b.criteria) := by
  obtain ⟨-, -, -, _, _, _, _, _, -, -, rfl, -⟩ := addSegment_ok h
  rfl

/-- Which layers there are shows in what is known of them. -/
theorem hasLayer_congr (h : b'.drafts.map (·.info) = b.drafts.map (·.info)) (id : LayerId) :
    b'.hasLayer id = b.hasLayer id := by
  have hids : ∀ b : Builder, b.hasLayer id = true ↔
      ∃ info ∈ b.drafts.map (·.info), info.id = id := by
    simp [hasLayer_iff]
  rw [Bool.eq_iff_iff, hids, hids, h]

/-- **The step.**  A segment stays admitted when another one gets in that has another id and claims
none of its buckets in its layer. -/
theorem Admits.after {s t : SegmentDefinition} (h : b.Admits t) (hs : b.addSegment s = .ok b')
    (hid : s.info.id ≠ t.info.id)
    (hapart : s.info.layer = t.info.layer → s.info.Apart t.info) : b'.Admits t := by
  have hmem : ∀ {p : SegmentDefinition → Prop}, p s → (∀ u ∈ b.segments, p u) →
      ∀ u ∈ b'.segments, p u := by
    intro p hfirst hold u hu
    rcases List.mem_cons.1 ((perm_segments_addSegment hs).mem_iff.1 hu) with rfl | hu
    · exact hfirst
    · exact hold u hu
  obtain ⟨hflags, hcriteria⟩ := Prod.mk.inj (tables_addSegment hs)
  exact { h with
    new := hmem hid h.new
    layer := (hasLayer_congr (infos_addSegment hs) _).trans h.layer
    inRange := hcriteria ▸ h.inRange
    fits := fun flag change hc => hflags ▸ h.fits flag change hc
    apart := hmem hapart h.apart }

/-- **The run.**  Segments get in one after the other if each is admitted at first, their ids are
different, and no two of a layer claim the same bucket. -/
theorem addEach_addSegment : ∀ {segments : List SegmentDefinition} {b : Builder}, b.Sound →
    (∀ s ∈ segments, b.Admits s) → (segments.map (·.info.id)).Nodup →
    (segments.Pairwise fun s t => s.info.layer = t.info.layer → s.info.Apart t.info) →
    ∃ b', addEach addSegment b segments = (b', none)
  | [], b, _, _, _, _ => ⟨b, rfl⟩
  | s :: rest, b, hb, hall, hids, hapart => by
    obtain ⟨hs, hrest⟩ := List.forall_mem_cons.1 hall
    obtain ⟨hid, hids⟩ := List.nodup_cons.1 hids
    obtain ⟨hapart, haparts⟩ := List.pairwise_cons.1 hapart
    obtain ⟨b₁, hb₁⟩ := hs.add hb
    have hstill : ∀ t ∈ rest, b₁.Admits t := fun t ht =>
      (hrest t ht).after hb₁ (fun heq => hid (List.mem_map.2 ⟨t, ht, heq.symm⟩)) (hapart t ht)
    obtain ⟨b', hb'⟩ := addEach_addSegment (hb.addSegment hb₁) hstill hids haparts
    exact ⟨b', addEach_cons_iff.2 ⟨b₁, hb₁, hb'⟩⟩

end Builder

end Rollout
