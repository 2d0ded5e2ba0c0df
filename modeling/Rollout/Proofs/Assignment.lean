import Rollout.Proofs.Contention
import Rollout.Proofs.Ownership
/-!
# Which ids a request gains

A diversion scans criteria, searches an index of buckets, filters candidates and descends into
domains.  This module says without any of that which ids it records.

In a layer that is new to the request, the least criterion decides under which a segment claims the
bucket of the request (`Layer.Decides`).  The one segment that claims it takes the request in or not
(`SegmentInfo.Takes`).  From there on two inductive definitions carry the whole reading:
`Layer.Yields`, for the id that a layer contributes, and `Visited`, for the layers that contribute.

`Layer.reading` is the step, from the verdict of one layer to this reading; `Visited.of_visit` and
`Visited.visits_subset` are the two inductions over the tree; `gains_what_visited_layers_yield` puts
them together.
-/

namespace Rollout

/-! ## 1. The reading of one layer -/

/-- The segment takes the request in: it is turned on, the time is right and its condition holds. -/
structure SegmentInfo.Takes (scope : Scope) (info : SegmentInfo) : Prop where
  enabled : scope.disabled.contains info.id = false
  active : info.active.contains scope.context.time = true
  condition : info.condition.holds scope.answers = true

theorem SegmentInfo.accepts_iff_takes {scope : Scope} {info : SegmentInfo} :
    info.accepts scope = true ↔ info.Takes scope := by
  simp only [accepts, isOpen, Bool.and_eq_true, Bool.not_eq_true']
  constructor
  · rintro ⟨⟨henabled, hactive⟩, hcondition⟩
    exact ⟨henabled, hactive, hcondition⟩
  · intro h
    exact ⟨⟨h.enabled, h.active⟩, h.condition⟩

namespace Layer

/-- Under the criterion the request has a bucket in the layer, and a segment claims it. -/
def ClaimsUnder (scope : Scope) (l : Layer) (criterion : Criterion) : Prop :=
  ∃ bucket, scope.bucket? l.info.id criterion = some bucket ∧
    ∃ s ∈ l.segments, s.info.claims criterion.id bucket = true

/-- The criterion decides for the segment: it is the least one under which a segment claims the
bucket of the request, and this is the only segment that does. -/
structure Decides (scope : Scope) (l : Layer) (criterion : Criterion) (s : Segment) : Prop where
  among : criterion ∈ scope.criteria
  stands : s ∈ l.segments
  claims : ∃ bucket, scope.bucket? l.info.id criterion = some bucket ∧
    s.info.claims criterion.id bucket = true ∧
      ∀ t ∈ l.segments, t.info.claims criterion.id bucket = true → t = s
  least : ∀ other ∈ scope.criteria, l.ClaimsUnder scope other → criterion.id ≤ other.id

/-- The id that a layer contributes to what the request gains. -/
inductive Yields (scope : Scope) (l : Layer) : SegmentId → Prop
  /-- The request is assigned to an experiment, which takes it in. -/
  | experiment {criterion : Criterion} {info : SegmentInfo} {effect : Effect} (new : l.New scope)
      (decides : l.Decides scope criterion (.experiment info effect)) (takes : info.Takes scope) :
      Yields scope l info.id
  /-- The segment that claims a drawn bucket refuses the request. -/
  | randomBiased {criterion : Criterion} {s : Segment} (new : l.New scope)
      (decides : l.Decides scope criterion s) (refuses : ¬ s.info.Takes scope)
      (random : criterion.random = true) : Yields scope l l.info.randomBiased
  /-- The segment that claims a hashed bucket refuses the request. -/
  | fixedBiased {criterion : Criterion} {s : Segment} (new : l.New scope)
      (decides : l.Decides scope criterion s) (refuses : ¬ s.info.Takes scope)
      (hashed : criterion.random = false) : Yields scope l l.info.fixedBiased
  /-- Under no criterion a segment claims the bucket of the request. -/
  | unbiased (new : l.New scope)
      (none : ∀ criterion ∈ scope.criteria, ¬ l.ClaimsUnder scope criterion) :
      Yields scope l l.info.unbiased

end Layer

/-- The layers that a request comes to: those at the top, and those in the domains that it is
assigned to and that take it in. -/
inductive Visited (scope : Scope) (tops : List Layer) : Layer → Prop
  | top {l : Layer} (mem : l ∈ tops) : Visited scope tops l
  | nested {l m : Layer} {criterion : Criterion} {info : SegmentInfo} {layers : List Layer}
      (visited : Visited scope tops l) (new : l.New scope)
      (decides : l.Decides scope criterion (.domain info layers)) (takes : info.Takes scope)
      (mem : m ∈ layers) : Visited scope tops m

/-! ## 2. From the verdict to the reading -/

/-- What makes the verdicts of a layer readable: it divides the requests and is made of its
segments, with everything nested in it. -/
structure Layer.Readable (criteria : List Criterion) (l : Layer) : Prop where
  divides : l.Divides criteria
  made : ∀ m ∈ l.tree, m.Made

/-- The criteria are scanned in ascending order. -/
def Scope.Ordered (scope : Scope) : Prop := scope.criteria.Pairwise fun c c' => c.id < c'.id

namespace Layer

variable {scope : Scope} {criteria : List Criterion} {l : Layer}

theorem claimants_ne_nil_iff {criterion : CriterionId} {bucket : Bucket} :
    claimants criterion bucket 0 (l.segments.map Segment.info) ≠ [] ↔
      ∃ s ∈ l.segments, s.info.claims criterion bucket = true := by
  rw [List.ne_nil_iff_exists_cons]
  constructor
  · rintro ⟨position, rest, heq⟩
    obtain ⟨info, hget, hclaims⟩ := mem_claimants_zero.1 (heq ▸ List.mem_cons_self)
    obtain ⟨s, hs, rfl⟩ := List.getElem?_map .. ▸ hget |> Option.map_eq_some_iff.1
    exact ⟨s, List.mem_of_getElem? hs, hclaims⟩
  · rintro ⟨s, hs, hclaims⟩
    obtain ⟨position, hget⟩ := List.getElem?_of_mem hs
    have hmem : position ∈ claimants criterion bucket 0 (l.segments.map Segment.info) :=
      mem_claimants_zero.2 ⟨s.info, by rw [List.getElem?_map, hget]; rfl, hclaims⟩
    exact List.exists_cons_of_ne_nil (List.ne_nil_of_mem hmem)

/-- One step of the scan finds what claims the bucket of the request, if anything does. -/
theorem scan_eq_some_iff (hindex : l.index = indexFrom .empty 0 (l.segments.map Segment.info))
    {criterion : Criterion} {found : Criterion × Bucket × List Nat} :
    ((scope.bucket? l.info.id criterion).bind fun bucket =>
      match claimed l.index (l.segments.map Segment.info) criterion.id bucket with
      | [] => none
      | positions => some (criterion, bucket, positions)) = some found ↔
    ∃ bucket, scope.bucket? l.info.id criterion = some bucket ∧
      (∃ s ∈ l.segments, s.info.claims criterion.id bucket = true) ∧
      found = (criterion, bucket,
        claimants criterion.id bucket 0 (l.segments.map Segment.info)) := by
  rw [Option.bind_eq_some_iff]
  refine exists_congr fun bucket => and_congr_right fun _ => ?_
  rw [← claimants_ne_nil_iff, hindex, claimed_eq_claimants]
  split
  · next hnil => simp [hnil]
  · next hne =>
    rw [Option.some.injEq, and_iff_right hne]
    exact eq_comm

/-- The scan finds nothing exactly if nothing is claimed under any criterion. -/
theorem deciding?_eq_none_iff
    (hindex : l.index = indexFrom .empty 0 (l.segments.map Segment.info)) :
    deciding? scope l.info.id l.index (l.segments.map Segment.info) = none ↔
      ∀ criterion ∈ scope.criteria, ¬ l.ClaimsUnder scope criterion := by
  rw [deciding?, List.findSome?_eq_none_iff]
  refine forall₂_congr fun criterion _ => ?_
  rw [Option.eq_none_iff_forall_ne_some, ← not_exists, not_iff_not]
  constructor
  · rintro ⟨found, hfound⟩
    obtain ⟨bucket, hb, hs, -⟩ := (scan_eq_some_iff hindex).1 hfound
    exact ⟨bucket, hb, hs⟩
  · rintro ⟨bucket, hb, hs⟩
    exact ⟨_, (scan_eq_some_iff hindex).2 ⟨bucket, hb, hs, rfl⟩⟩

/-- **The scan decides.**  What it finds is the least criterion under which the bucket of the
request is claimed; and one segment claims it, the one that stands at the positions found. -/
theorem Divides.decides (h : l.Divides criteria) (hordered : scope.Ordered) {criterion : Criterion}
    {bucket : Bucket} {positions : List Nat}
    (hfound : deciding? scope l.info.id l.index (l.segments.map Segment.info) =
      some (criterion, bucket, positions)) :
    ∃ position s, positions = [position] ∧ l.segments[position]? = some s ∧
      l.Decides scope criterion s := by
  have hlength := h.length_positions hfound
  obtain ⟨before, criterion, after, hsplit, hscan, hbefore⟩ := List.findSome?_eq_some_iff.1 hfound
  obtain ⟨bucket, hbucket, hclaimed, heq⟩ := (scan_eq_some_iff h.indexed).1 hscan
  cases heq
  obtain ⟨position, rest, hpositions⟩ :=
    List.exists_cons_of_ne_nil (claimants_ne_nil_iff.2 hclaimed)
  obtain rfl : rest = [] := by
    rw [hpositions, List.length_cons] at hlength
    exact List.eq_nil_of_length_eq_zero (by omega)
  -- every segment that claims the bucket stands at the one position
  have honly : ∀ t ∈ l.segments, t.info.claims criterion.id bucket = true →
      l.segments[position]? = some t := by
    intro t ht hclaims
    obtain ⟨p, hp⟩ := List.getElem?_of_mem ht
    have hmem : p ∈ claimants criterion.id bucket 0 (l.segments.map Segment.info) :=
      mem_claimants_zero.2 ⟨t.info, by rw [List.getElem?_map, hp]; rfl, hclaims⟩
    rw [hpositions, List.mem_singleton] at hmem
    exact hmem ▸ hp
  obtain ⟨s, hs, hclaims⟩ := hclaimed
  refine ⟨position, s, hpositions, honly s hs hclaims, ?_, hs, ⟨bucket, hbucket, hclaims, ?_⟩, ?_⟩
  · simp [hsplit]
  · intro t ht htclaims
    exact Option.some.inj ((honly t ht htclaims).symm.trans (honly s hs hclaims))
  · intro other hother ⟨b, hb, hclaimant⟩
    rw [hsplit, List.mem_append] at hother
    rcases hother with hother | hother
    · cases (hbefore other hother).symm.trans
        ((scan_eq_some_iff h.indexed).2 ⟨b, hb, hclaimant, rfl⟩)
    · rw [Scope.Ordered, hsplit] at hordered
      have hafter := (List.pairwise_append.1 hordered).2.1
      rcases List.mem_cons.1 hother with rfl | hother
      · exact Int32.le_refl _
      · exact Int32.le_of_lt (List.rel_of_pairwise_cons hafter hother)

/-- **What a request meets in a layer**, by what decides there. -/
inductive Reading (scope : Scope) (l : Layer) : List Visit → Prop
  | carried (old : ¬ l.New scope) : Reading scope l [⟨l.info.id, .carried, []⟩]
  | unclaimed {asked : List Leaf} (new : l.New scope)
      (none : ∀ criterion ∈ scope.criteria, ¬ l.ClaimsUnder scope criterion) :
      Reading scope l [⟨l.info.id, .fallback l.info.unbiased, asked⟩]
  | refused {criterion : Criterion} {s : Segment} {asked : List Leaf} (new : l.New scope)
      (decides : l.Decides scope criterion s) (refuses : ¬ s.info.Takes scope) :
      Reading scope l [⟨l.info.id,
        .fallback (if criterion.random then l.info.randomBiased else l.info.fixedBiased), asked⟩]
  | entered {criterion : Criterion} {s : Segment} {asked : List Leaf} (new : l.New scope)
      (decides : l.Decides scope criterion s) (takes : s.info.Takes scope) :
      Reading scope l (s.visits scope asked)

theorem Readable.reading (h : l.Readable criteria) (hordered : scope.Ordered) :
    Reading scope l (l.visits scope) := by
  by_cases hnew : l.New scope
  swap
  · rw [visits_of_not_new h.made hnew]
    exact .carried hnew
  have hdisjoint := (disjoint_owned_iff h.made).2 hnew
  have hruling := l.ruling_ruling scope
  generalize hr : (l.ruling scope).1 = verdict at hruling
  cases hruling with
  | carried known =>
    rw [hdisjoint] at known
    cases known
  | unclaimed _ hnone =>
    rw [visits_of_inr hr]
    exact .unclaimed hnew ((deciding?_eq_none_iff h.divides.indexed).1 hnone)
  | refused _ hfound refuse =>
    obtain ⟨position, s, rfl, hs, hdecides⟩ := h.divides.decides hordered hfound
    rw [visits_of_inr hr]
    refine .refused hnew hdecides fun htakes => ?_
    have hrefuse := refuse position List.mem_cons_self s.info (by rw [List.getElem?_map, hs]; rfl)
    rw [SegmentInfo.accepts_iff_takes.2 htakes] at hrefuse
    cases hrefuse
  | entered _ hfound mem stands accepts =>
    obtain ⟨position, s, rfl, hs, hdecides⟩ := h.divides.decides hordered hfound
    obtain rfl := List.mem_singleton.1 mem
    rw [List.getElem?_map, hs] at stands
    obtain rfl := Option.some.inj stands
    rw [visits_of_inl hr hs]
    exact .entered hnew hdecides (SegmentInfo.accepts_iff_takes.1 accepts)
  | contested _ hfound several =>
    have hone := h.divides.length_positions hfound
    omega

/-! ## 3. One layer has one reading -/

theorem Decides.claimsUnder {criterion : Criterion} {s : Segment}
    (h : l.Decides scope criterion s) : l.ClaimsUnder scope criterion := by
  obtain ⟨bucket, hb, hs, -⟩ := h.claims
  exact ⟨bucket, hb, s, h.stands, hs⟩

/-- There is one criterion that decides, and one segment that it decides for. -/
theorem Decides.unique (hordered : scope.Ordered) {c c' : Criterion} {s s' : Segment}
    (h : l.Decides scope c s) (h' : l.Decides scope c' s') : c = c' ∧ s = s' := by
  have hid : c.id = c'.id := Int32.le_antisymm (h.least c' h'.among h'.claimsUnder)
    (h'.least c h.among h.claimsUnder)
  obtain rfl : c = c' := by
    by_contra hne
    have hirrefl : ∀ a b : Criterion, a.id < b.id → a.id ≠ b.id :=
      fun a b hlt heq => Int32.lt_irrefl (heq ▸ hlt)
    have hsymm : Std.Symm fun a b : Criterion => a.id ≠ b.id := ⟨fun _ _ hne => hne.symm⟩
    exact (hordered.imp (hirrefl _ _)).forall h.among h'.among hne hid
  obtain ⟨bucket, hb, hs, -⟩ := h.claims
  obtain ⟨bucket', hb', -, honly⟩ := h'.claims
  obtain rfl := Option.some.inj (hb.symm.trans hb')
  exact ⟨rfl, honly s h.stands hs⟩

/-- Where a segment claims the bucket of the request under some criterion, one decides. -/
theorem Readable.exists_decides (h : l.Readable criteria) (hordered : scope.Ordered)
    (hclaimed : ∃ criterion ∈ scope.criteria, l.ClaimsUnder scope criterion) :
    ∃ criterion s, l.Decides scope criterion s := by
  cases hfound : deciding? scope l.info.id l.index (l.segments.map Segment.info) with
  | none =>
    obtain ⟨criterion, hc, hclaims⟩ := hclaimed
    exact absurd hclaims ((deciding?_eq_none_iff h.divides.indexed).1 hfound criterion hc)
  | some found =>
    obtain ⟨_, s, -, -, hdecides⟩ := h.divides.decides hordered hfound
    exact ⟨_, s, hdecides⟩

/-- What a request meets in a layer where a segment takes it in is what it meets in the segment. -/
theorem Readable.visits_of_takes (h : l.Readable criteria) (hordered : scope.Ordered)
    {criterion : Criterion} {s : Segment} (hnew : l.New scope)
    (hdecides : l.Decides scope criterion s) (htakes : s.info.Takes scope) :
    ∃ asked, l.visits scope = s.visits scope asked := by
  have hreading := h.reading hordered
  generalize l.visits scope = visits at hreading
  cases hreading with
  | carried old => exact absurd hnew old
  | unclaimed _ none => exact absurd hdecides.claimsUnder (none _ hdecides.among)
  | refused _ decides refuses =>
    obtain ⟨rfl, rfl⟩ := decides.unique hordered hdecides
    exact absurd htakes refuses
  | entered _ decides _ =>
    obtain ⟨rfl, rfl⟩ := decides.unique hordered hdecides
    exact ⟨_, rfl⟩

/-- What a layer yields is recorded there. -/
theorem Readable.recorded_of_yields (h : l.Readable criteria) (hordered : scope.Ordered)
    {id : SegmentId} (hyields : l.Yields scope id) :
    ∃ v ∈ l.visits scope, v.recorded? = some id := by
  have hreading := h.reading hordered
  cases hyields with
  | experiment new decides takes =>
    obtain ⟨asked, heq⟩ := h.visits_of_takes hordered new decides takes
    rw [heq, Segment.visits_experiment]
    exact ⟨_, List.mem_cons_self, rfl⟩
  | @randomBiased criterion s new decides refuses random
  | @fixedBiased criterion s new decides refuses random =>
    generalize l.visits scope = visits at hreading
    cases hreading with
    | carried old => exact absurd new old
    | unclaimed _ none => exact absurd decides.claimsUnder (none _ decides.among)
    | refused _ decides' _ =>
      obtain ⟨rfl, rfl⟩ := decides.unique hordered decides'
      exact ⟨_, List.mem_cons_self, by simp [Visit.recorded?, random]⟩
    | entered _ decides' takes =>
      obtain ⟨rfl, rfl⟩ := decides.unique hordered decides'
      exact absurd takes refuses
  | unbiased new none =>
    generalize l.visits scope = visits at hreading
    cases hreading with
    | carried old => exact absurd new old
    | unclaimed _ _ => exact ⟨_, List.mem_cons_self, rfl⟩
    | refused _ decides _ | entered _ decides _ =>
      exact absurd decides.claimsUnder (none _ decides.among)

end Layer

/-! ## 4. The layers that contribute -/

/-- What a request meets in a layer that it comes to, it meets on its way from the top. -/
theorem Visited.visits_subset {scope : Scope} {criteria : List Criterion} {tops : List Layer}
    (hreadable : ∀ t ∈ tops, ∀ m ∈ t.tree, m.Readable criteria) (hordered : scope.Ordered)
    {l : Layer} (h : Visited scope tops l) :
    ∃ t ∈ tops, l ∈ t.tree ∧ ∀ v ∈ l.visits scope, v ∈ t.visits scope := by
  induction h with
  | @top l mem => exact ⟨l, mem, l.self_mem_tree, fun _ hv => hv⟩
  | @nested l m criterion info layers _ new decides takes mem ih =>
    obtain ⟨t, ht, hl, hsubset⟩ := ih
    obtain ⟨asked, heq⟩ := (hreadable t ht l hl).visits_of_takes hordered new decides takes
    refine ⟨t, ht, tree_trans.2 t l hl m ?_, fun v hv => hsubset v ?_⟩
    · refine Layer.mem_tree_of_mem decides.stands ?_
      rw [Segment.tree_domain]
      exact List.mem_flatMap.2 ⟨m, mem, m.self_mem_tree⟩
    · rw [heq, Segment.visits_domain]
      exact List.mem_cons_of_mem _ (List.mem_flatMap.2 ⟨m, mem, hv⟩)

/-- Whatever is recorded on the way through a layer that the request comes to, a layer yields that
the request comes to. -/
theorem Visited.of_visit {scope : Scope} {criteria : List Criterion} (tops : List Layer)
    (hordered : scope.Ordered) :
    (∀ s : Segment, (∀ m ∈ s.tree, m.Readable criteria) →
      ∀ l criterion, Visited scope tops l → l.New scope → l.Decides scope criterion s →
        s.info.Takes scope → ∀ asked, ∀ v ∈ s.visits scope asked, ∀ id, v.recorded? = some id →
          ∃ m, Visited scope tops m ∧ m.Yields scope id) ∧
    ∀ l : Layer, (∀ m ∈ l.tree, m.Readable criteria) → Visited scope tops l →
      ∀ v ∈ l.visits scope, ∀ id, v.recorded? = some id →
        ∃ m, Visited scope tops m ∧ m.Yields scope id := by
  refine forest_induction ?_ ?_ ?_
  · intro info effect _ l criterion hl hnew hdecides htakes asked v hv id hid
    rw [Segment.visits_experiment, List.mem_singleton] at hv
    subst hv
    obtain rfl := Option.some.inj hid
    exact ⟨l, hl, .experiment hnew hdecides htakes⟩
  · intro info layers ih hreadable l criterion hl hnew hdecides htakes asked v hv id hid
    rw [Segment.visits_domain, List.mem_cons, List.mem_flatMap] at hv
    rcases hv with rfl | ⟨m, hm, hv⟩
    · cases hid
    · refine ih m hm (fun k hk => hreadable k ?_) (.nested hl hnew hdecides htakes hm) v hv id hid
      rw [Segment.tree_domain]
      exact List.mem_flatMap.2 ⟨m, hm, hk⟩
  · intro info segments index owned ih hreadable hl v hv id hid
    have hreading := (hreadable _ (Layer.self_mem_tree _)).reading hordered
    generalize (Layer.mk info segments index owned).visits scope = visits at hv hreading
    cases hreading with
    | carried _ =>
      rw [List.mem_singleton] at hv
      subst hv
      cases hid
    | unclaimed new none =>
      rw [List.mem_singleton] at hv
      subst hv
      obtain rfl := Option.some.inj hid
      exact ⟨_, hl, .unbiased new none⟩
    | @refused criterion s _ new decides refuses =>
      rw [List.mem_singleton] at hv
      subst hv
      obtain rfl := Option.some.inj hid
      refine ⟨_, hl, ?_⟩
      cases hrandom : criterion.random with
      | true => exact .randomBiased new decides refuses hrandom
      | false => exact .fixedBiased new decides refuses hrandom
    | entered new decides takes =>
      refine ih _ decides.stands (fun m hm => hreadable m ?_) _ _ hl new decides takes _ v hv id hid
      exact Layer.mem_tree_of_mem decides.stands hm

/-! ## 5. Diversion -/

namespace Builder

variable {b : Builder} {version : String} {space : Space}

/-- Every layer of a built space can be read, with everything nested in it. -/
theorem readable_build (hb : b.Sound) (h : b.build version = .ok space) :
    ∀ l ∈ space.layers, ∀ m ∈ l.tree, m.Readable space.criteria := by
  intro l hl m hm
  have hmem := Space.mem_layers_of_mem_tree hl hm
  refine ⟨divides_build hb h m hmem, fun k hk => made_build hb h k ?_⟩
  exact Space.mem_layers_of_mem_tree hmem hk

/-- The criteria of a built space ascend. -/
theorem ordered_build (hb : b.Sound) (h : b.build version = .ok space) :
    space.criteria.Pairwise fun c c' => c.id < c'.id := by
  rw [criteria_build h]
  exact (Table.ascending_values fun k c hc => (hb.criteria k c hc).1).imp Std.compare_eq_lt.1

/-- What a request that is not forced records on its way is what the layers yield that it comes
to. -/
theorem recorded_iff_yields (hb : b.Sound) (h : b.build version = .ok space)
    {disabled carried : KeySet SegmentId} {host : Host} {draws : Draws} {context : Context}
    (hforced : context.forced.isEmpty = true) {id : SegmentId} :
    (∃ v ∈ Snapshot.visits ⟨space, disabled⟩ host draws context carried, v.recorded? = some id) ↔
      ∃ l, Visited (Snapshot.scope ⟨space, disabled⟩ host draws context carried topDomain)
          space.topLayers l ∧
        l.Yields (Snapshot.scope ⟨space, disabled⟩ host draws context carried topDomain) id := by
  have hreadable : ∀ t ∈ space.topLayers, ∀ m ∈ t.tree, m.Readable space.criteria :=
    fun t ht => readable_build hb h t (Space.mem_layers_of_top ht)
  have hordered : (Snapshot.scope ⟨space, disabled⟩ host draws context carried topDomain).Ordered :=
    ordered_build hb h
  constructor
  · rintro ⟨v, hv, hid⟩
    obtain ⟨t, ht, hv⟩ := (mem_visits_iff_unforced hb h hforced).1 hv
    exact (Visited.of_visit space.topLayers hordered).2 t (hreadable t ht) (.top ht) v hv id hid
  · rintro ⟨l, hl, hyields⟩
    obtain ⟨t, ht, hmem, hsubset⟩ := hl.visits_subset hreadable hordered
    obtain ⟨v, hv, hid⟩ := (hreadable t ht l hmem).recorded_of_yields hordered hyields
    exact ⟨v, (mem_visits_iff_unforced hb h hforced).2 ⟨t, ht, hsubset v hv⟩, hid⟩

end Builder

/-- **What a request gains.**  Whatever calls a space was built by, a request that is not forced
gains exactly the ids that the layers yield that it comes to: in each layer that is new to it, the
id of the experiment that it is assigned to and that takes it in, or else a fallback id for the
reason why none does.  Where segments claim the bucket of the request, one of them is the one that
it is assigned to. -/
theorem gains_what_visited_layers_yield {declared : FlagRegistry} {calls : List Builder.Call}
    {version : String} {space : Space}
    (h : ((Builder.start declared).run calls).build version = .ok space)
    (disabled : KeySet SegmentId) (host : Host) (draws : Draws) (context : Context)
    (carried : KeySet SegmentId) (hforced : context.forced.isEmpty = true) :
    let scope := Snapshot.scope ⟨space, disabled⟩ host draws context carried topDomain
    (∀ l, Visited scope space.topLayers l → l.New scope →
      (∃ criterion ∈ scope.criteria, l.ClaimsUnder scope criterion) →
        ∃ criterion s, l.Decides scope criterion s) ∧
    ∃ d, Snapshot.divert ⟨space, disabled⟩ host draws context carried = .ok d ∧
      ∀ id, d.ids.contains id = true ↔
        ∃ l, Visited scope space.topLayers l ∧ l.Yields scope id := by
  intro scope
  have hb := Builder.sound_run declared calls
  have hordered : scope.Ordered := Builder.ordered_build hb h
  obtain ⟨d, hd⟩ :=
    Snapshot.divert_isOk (Builder.not_contested_build hb h disabled host draws context carried)
  refine ⟨fun l hl _ hclaimed => ?_, d, hd, fun id =>
    (Snapshot.mem_ids_divert hd).trans (Builder.recorded_iff_yields hb h hforced)⟩
  obtain ⟨t, ht, hmem, -⟩ := hl.visits_subset
    (fun t ht => Builder.readable_build hb h t (Space.mem_layers_of_top ht)) hordered
  exact (Builder.readable_build hb h t (Space.mem_layers_of_top ht) l hmem).exists_decides hordered
    hclaimed

/-- A domain under a random criterion.  In its layer a segment under a hashed criterion comes first,
and an experiment under the random one is over. -/
def Builder.lateCalls : List Builder.Call :=
  let info (id : SegmentId) (layer : LayerId) (criterion : CriterionId) (active : Window) :
      SegmentInfo := ⟨id, layer, criterion, KeySet.ofKeys [0], .always, active, .always⟩
  [.criterion ⟨0, 1, false⟩, .criterion ⟨1, 2, true⟩,
    .layer ⟨1, topDomain, false, 101, 102, 103⟩, .segment (.domain (info 10 1 1 .always)),
    .layer ⟨2, 10, false, 201, 202, 203⟩, .segment (.domain (info 11 2 0 .always)),
    .segment (.experiment (info 20 2 1 ⟨0, 100⟩) .empty)]

/-- A request without identifiers draws the bucket of the domain and then that of the experiment,
which refuses it. -/
theorem gains_what_visited_layers_yield_late : ∃ space d,
    ((Builder.start .empty).run Builder.lateCalls).build "v" = .ok space ∧
    (Context.at 200).forced.isEmpty = true ∧
    (Snapshot.of space).divert (fun _ _ => false) (fun _ _ _ => 0) (.at 200) .empty = .ok d ∧
    d.ids.keys = [203] ∧
    ∃ l, Visited ((Snapshot.of space).scope (fun _ _ => false) (fun _ _ _ => 0) (.at 200) .empty
        topDomain) space.topLayers l ∧
      l.Yields ((Snapshot.of space).scope (fun _ _ => false) (fun _ _ _ => 0) (.at 200) .empty
        topDomain) 203 := by
  have hbuild : ((Builder.start .empty).run Builder.lateCalls).build "v" = .ok _ := rfl
  obtain ⟨-, d, hd, hgains⟩ := gains_what_visited_layers_yield hbuild .empty (fun _ _ => false)
    (fun _ _ _ => 0) (.at 200) .empty rfl
  have hkeys : d.ids.keys = [203] := by
    cases hd
    rfl
  refine ⟨_, d, hbuild, rfl, hd, hkeys, (hgains 203).1 (Table.mem_keys_iff.1 ?_)⟩
  rw [hkeys]
  exact List.mem_cons_self

end Rollout
