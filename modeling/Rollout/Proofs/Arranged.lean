import Mathlib.Data.List.Sort
import Rollout.Proofs.Assignment
/-!
# The order of the segments of a layer does not matter

A layer keeps its segments in the order in which they were added, and its index names them by their
positions.  `Layer.arranged` is the layer with its segments in ascending order of their ids, at
every depth; `Space.Alike` says of two spaces that they differ in this order at most.

Where the segments of a layer are apart, the bucket of a request has at most one claimant, wherever
that stands (`Layer.Divides.visits_eq`).  So a request meets in a layer what it meets in the
arranged one (`visits_arranged`), and whatever calls two alike spaces were built by, a request fares
the same in both (`handle_alike`).
-/

namespace Rollout

/-! ## 1. Arranged layers -/

/-- Segments in ascending order of their ids. -/
def Segment.byId (segments : List Segment) : List Segment :=
  segments.mergeSort fun s t => s.info.id ≤ t.info.id

mutual

/-- The segment with the layers in it arranged. -/
def Segment.arranged : Segment → Segment
  | .experiment info effect => .experiment info effect
  | .domain info layers => .domain info (arrangedLayers layers)

/-- The layer of the same segments, arranged themselves, in ascending order of their ids. -/
def Layer.arranged : Layer → Layer
  | .mk info segments _ _ => .ofSegments info (Segment.byId (arrangedSegments segments))

/-- Each of several segments arranged. -/
def arrangedSegments : List Segment → List Segment
  | [] => []
  | segment :: rest => segment.arranged :: arrangedSegments rest

/-- Each of several layers arranged. -/
def arrangedLayers : List Layer → List Layer
  | [] => []
  | layer :: rest => layer.arranged :: arrangedLayers rest

end

/-- The space with all its layers arranged. -/
def Space.arranged (space : Space) : Space :=
  { space with
    segments := space.segments.mapValues fun _ s => s.arranged
    launchLayers := space.launchLayers.map Layer.arranged
    permanentLayers := space.permanentLayers.map Layer.arranged }

/-- The spaces are the same but for the order of the segments within layers. -/
def Space.Alike (space space' : Space) : Prop := space.arranged = space'.arranged

theorem arrangedSegments_eq : ∀ segments : List Segment,
    arrangedSegments segments = segments.map Segment.arranged
  | [] => by rw [arrangedSegments]; rfl
  | s :: rest => by rw [arrangedSegments, arrangedSegments_eq rest, List.map_cons]

theorem arrangedLayers_eq : ∀ layers : List Layer,
    arrangedLayers layers = layers.map Layer.arranged
  | [] => by rw [arrangedLayers]; rfl
  | l :: rest => by rw [arrangedLayers, arrangedLayers_eq rest, List.map_cons]

@[simp] theorem Segment.arranged_experiment (info : SegmentInfo) (effect : Effect) :
    (Segment.experiment info effect).arranged = .experiment info effect := by
  rw [arranged]

@[simp] theorem Segment.arranged_domain (info : SegmentInfo) (layers : List Layer) :
    (Segment.domain info layers).arranged = .domain info (layers.map Layer.arranged) := by
  rw [arranged, arrangedLayers_eq]

theorem Layer.arranged_eq (l : Layer) :
    l.arranged = .ofSegments l.info (Segment.byId (l.segments.map Segment.arranged)) := by
  obtain ⟨info, segments, index, owned⟩ := l
  rw [arranged, arrangedSegments_eq]
  rfl

@[simp] theorem Segment.info_arranged (s : Segment) : s.arranged.info = s.info := by
  cases s <;> simp

@[simp] theorem Layer.info_arranged (l : Layer) : l.arranged.info = l.info := by
  rw [arranged_eq]
  rfl

theorem Segment.perm_byId (segments : List Segment) : (byId segments).Perm segments :=
  List.mergeSort_perm _ _

/-- The order in which segments with different ids come is forgotten. -/
theorem Segment.byId_congr {segments segments' : List Segment} (h : segments.Perm segments')
    (hids : (segments'.map (·.info.id)).Nodup) : byId segments = byId segments' := by
  have hsorted : ∀ segments : List Segment,
      (byId segments).Pairwise fun s t => s.info.id ≤ t.info.id := fun segments => by
    refine (List.pairwise_mergeSort (fun s t u hst htu => ?_) (fun s t => ?_) segments).imp
      of_decide_eq_true
    · exact decide_eq_true (Int32.le_trans (of_decide_eq_true hst) (of_decide_eq_true htu))
    · simpa using Int32.le_total s.info.id t.info.id
  have hperm : (byId segments).Perm (byId segments') :=
    ((perm_byId segments).trans h).trans (perm_byId segments').symm
  refine hperm.eq_of_pairwise (fun s t hs ht hst hts => ?_) (hsorted _) (hsorted _)
  refine List.inj_on_of_nodup_map hids ?_ ((perm_byId segments').mem_iff.1 ht)
    (Int32.le_antisymm hst hts)
  exact (perm_byId segments').mem_iff.1 (hperm.mem_iff.1 hs)

/-- The segments of the arranged layer are those of the layer, arranged. -/
theorem Layer.perm_segments_arranged (l : Layer) :
    l.arranged.segments.Perm (l.segments.map Segment.arranged) := by
  rw [arranged_eq]
  exact Segment.perm_byId _

/-- The ids that a layer of given segments owns do not depend on their order. -/
theorem Layer.owned_ofSegments_congr (info : LayerInfo) {segments segments' : List Segment}
    (h : (segments.map Segment.owned).Perm (segments'.map Segment.owned)) :
    (ofSegments info segments).owned = (ofSegments info segments').owned := by
  refine KeySet.ext_contains fun id => ?_
  have howned : ∀ segments : List Segment, (ofSegments info segments).owned.contains id = true ↔
      (KeySet.ofKeys [info.unbiased, info.fixedBiased, info.randomBiased]).contains id = true ∨
        ∃ set ∈ segments.map Segment.owned, set.contains id = true := fun segments => by
    rw [ofSegments, owned, KeySet.contains_foldl_union]
    simp
  rw [howned, howned]
  simp only [h.mem_iff]

/-- Arranged layers own the same ids. -/
theorem owned_arranged :
    (∀ s : Segment, (∀ l ∈ s.tree, l.Made) → s.arranged.owned = s.owned) ∧
    ∀ l : Layer, (∀ m ∈ l.tree, m.Made) → l.arranged.owned = l.owned := by
  refine forest_induction ?_ ?_ ?_
  · intro info effect _
    rw [Segment.arranged_experiment]
  · intro info layers ih hmade
    rw [Segment.arranged_domain, Segment.owned, Segment.owned, List.foldl_map]
    refine List.foldl_ext _ _ _ fun ids l hl => ?_
    rw [ih l hl fun m hm => hmade m ?_]
    rw [Segment.tree_domain]
    exact List.mem_flatMap.2 ⟨l, hl, hm⟩
  · intro info segments index owned ih hmade
    have hself := hmade _ (Layer.self_mem_tree _)
    rw [Layer.arranged_eq, hself]
    refine Layer.owned_ofSegments_congr info (((Segment.perm_byId _).map _).trans (.of_eq ?_))
    rw [List.map_map]
    refine List.map_congr_left fun s hs => ih s hs fun l hl => hmade l ?_
    exact Layer.mem_tree_of_mem hs hl

/-! ## 2. Who claims the bucket of a request -/

/-- Where at most one member of a list passes a test, it is found in any order. -/
theorem find?_congr_of_perm {α : Type} {p : α → Bool} {l l' : List α} (h : l.Perm l')
    (hone : ∀ a ∈ l, ∀ b ∈ l, p a = true → p b = true → a = b) : l.find? p = l'.find? p := by
  cases hfound : l.find? p with
  | none =>
    have hnone : ∀ a ∈ l', ¬ p a = true := fun a ha =>
      List.find?_eq_none.1 hfound a (h.mem_iff.2 ha)
    exact (List.find?_eq_none.2 hnone).symm
  | some a =>
    have ha := List.mem_of_find?_eq_some hfound
    have hpa := List.find?_some hfound
    obtain ⟨b, hb⟩ := Option.isSome_iff_exists.1
      (List.find?_isSome.2 ⟨a, h.mem_iff.1 ha, hpa⟩)
    rw [hb, hone a ha b (h.mem_iff.2 (List.mem_of_find?_eq_some hb)) hpa (List.find?_some hb)]

namespace Layer

/-- The first criterion under which a segment claims the bucket of the request, with the bucket and
the segment. -/
def claimant? (scope : Scope) (l : Layer) : Option (Criterion × Bucket × Segment) :=
  scope.criteria.findSome? fun criterion =>
    (scope.bucket? l.info.id criterion).bind fun bucket =>
      (l.segments.find? fun s => s.info.claims criterion.id bucket).map fun s =>
        (criterion, bucket, s)

variable {scope : Scope} {criteria : List Criterion} {l : Layer}

/-- No two segments claim the same bucket. -/
theorem Divides.eq_of_claims (h : l.Divides criteria) {criterion : CriterionId} {bucket : Bucket}
    {s t : Segment} (hs : s ∈ l.segments) (ht : t ∈ l.segments)
    (hcs : s.info.claims criterion bucket = true) (hct : t.info.claims criterion bucket = true) :
    s = t := by
  have hsymm : Std.Symm fun s t : Segment => s.info.Apart t.info := ⟨fun _ _ => .symm⟩
  by_contra hne
  have hapart := h.apart.forall hs ht hne criterion bucket hcs
  rw [hct] at hapart
  cases hapart

/-- The segment that claims a bucket is the one whose position the index has. -/
theorem Divides.claimants_eq (h : l.Divides criteria) {criterion : CriterionId} {bucket : Bucket}
    {s : Segment} (hs : s ∈ l.segments) (hclaims : s.info.claims criterion bucket = true) :
    ∃ position, claimants criterion bucket 0 (l.segments.map Segment.info) = [position] ∧
      l.segments[position]? = some s := by
  have hne := claimants_ne_nil_iff.2 ⟨s, hs, hclaims⟩
  have hle := length_claimants_le (List.pairwise_map.2 h.apart) criterion bucket
  obtain ⟨position, hone⟩ := List.length_eq_one_iff.1
    (Nat.le_antisymm hle (List.length_pos_iff.2 hne))
  obtain ⟨info, hget, hinfo⟩ := mem_claimants_zero.1 (hone ▸ List.mem_singleton_self position)
  obtain ⟨t, ht, rfl⟩ := List.getElem?_map .. ▸ hget |> Option.map_eq_some_iff.1
  obtain rfl := h.eq_of_claims hs (List.mem_of_getElem? ht) hclaims hinfo
  exact ⟨position, hone, ht⟩

/-- What decides in a layer is the claimant of the bucket. -/
theorem Divides.deciding?_eq (h : l.Divides criteria) (scope : Scope) :
    deciding? scope l.info.id l.index (l.segments.map Segment.info) =
      (l.claimant? scope).map fun c =>
        (c.1, c.2.1, claimants c.1.id c.2.1 0 (l.segments.map Segment.info)) := by
  rw [claimant?, List.map_findSome?, deciding?, h.indexed]
  congr 1
  funext criterion
  simp only [Function.comp_apply]
  cases scope.bucket? l.info.id criterion with
  | none => rfl
  | some bucket =>
    simp only [Option.bind_some, claimed_eq_claimants, Option.map_map]
    cases hfind : l.segments.find? fun s => s.info.claims criterion.id bucket with
    | none =>
      have hnil : claimants criterion.id bucket 0 (l.segments.map Segment.info) = [] := by
        by_contra hne
        obtain ⟨s, hs, hclaims⟩ := claimants_ne_nil_iff.1 hne
        exact List.find?_eq_none.1 hfind s hs hclaims
      rw [hnil]
      rfl
    | some s =>
      have hclaims : s.info.claims criterion.id bucket = true := by
        simpa using List.find?_some hfind
      obtain ⟨position, hone, -⟩ := h.claimants_eq (List.mem_of_find?_eq_some hfind) hclaims
      simp only [Option.map_some, Function.comp_apply, hone]

/-- The claimant is a segment of the layer, and claims its bucket. -/
theorem claims_of_claimant {criterion : Criterion} {bucket : Bucket} {s : Segment}
    (h : l.claimant? scope = some (criterion, bucket, s)) :
    s ∈ l.segments ∧ s.info.claims criterion.id bucket = true := by
  obtain ⟨c, -, hc⟩ := List.exists_of_findSome?_eq_some h
  obtain ⟨found, -, hfound⟩ := Option.bind_eq_some_iff.1 hc
  obtain ⟨t, ht, heq⟩ := Option.map_eq_some_iff.1 hfound
  cases heq
  exact ⟨List.mem_of_find?_eq_some ht, by simpa using List.find?_some ht⟩

/-- **What a request meets in a layer**, with no word about positions. -/
theorem Divides.visits_eq (h : l.Divides criteria) (scope : Scope) : l.visits scope =
    if KeySet.disjoint scope.carried l.owned then
      match l.claimant? scope with
      | none => [⟨l.info.id, .fallback l.info.unbiased, []⟩]
      | some (criterion, _, s) =>
        if s.info.accepts scope then s.visits scope (s.info.asked scope)
        else [⟨l.info.id,
          .fallback (if criterion.random then l.info.randomBiased else l.info.fixedBiased),
          s.info.asked scope⟩]
    else [⟨l.info.id, .carried, []⟩] := by
  cases hnew : KeySet.disjoint scope.carried l.owned with
  | false =>
    have hr : l.ruling scope = (.inr .carried, []) := by
      rw [ruling, verdict, hnew]
      rfl
    rw [visits_of_inr (congrArg Prod.fst hr), hr]
    simp
  | true =>
    have hverdict := h.deciding?_eq scope
    cases hclaimant : l.claimant? scope with
    | none =>
      rw [hclaimant, Option.map_none] at hverdict
      have hr : l.ruling scope = (.inr (.fallback l.info.unbiased), []) := by
        rw [ruling, verdict, hnew, hverdict]
        rfl
      rw [visits_of_inr (congrArg Prod.fst hr), hr]
      simp
    | some found =>
      obtain ⟨criterion, bucket, s⟩ := found
      rw [hclaimant, Option.map_some] at hverdict
      obtain ⟨position, hone, hstands⟩ := h.claimants_eq (claims_of_claimant hclaimant).1
        (claims_of_claimant hclaimant).2
      rw [hone] at hverdict
      have hcandidates : ([position].filterMap fun p =>
          (l.segments.map Segment.info)[p]?.map fun info => (p, info)) = [(position, s.info)] := by
        rw [List.filterMap_cons, List.getElem?_map, hstands]
        rfl
      simp only [if_true]
      by_cases haccepts : s.info.accepts scope = true
      · have hr : l.ruling scope = (.inl position, s.info.asked scope) := by
          simp only [ruling, verdict, hnew, hverdict, hcandidates]
          simp [haccepts]
        rw [visits_of_inl (congrArg Prod.fst hr) hstands, hr, if_pos haccepts]
      · have hr : l.ruling scope = (.inr (.fallback
            (if criterion.random then l.info.randomBiased else l.info.fixedBiased)),
            s.info.asked scope) := by
          simp only [ruling, verdict, hnew, hverdict, hcandidates]
          simp [haccepts]
        rw [visits_of_inr (congrArg Prod.fst hr), hr, if_neg haccepts]

/-- A layer decides on requests the same way in two scopes. -/
structure Agrees (criteria : List Criterion) (scope scope' : Scope) (l : Layer) : Prop where
  divides : l.Divides criteria
  carried : scope'.carried = scope.carried
  claimant : l.claimant? scope' = l.claimant? scope
  accepts : ∀ s ∈ l.segments, s.info.accepts scope' = s.info.accepts scope
  asked : ∀ s ∈ l.segments, s.info.asked scope' = s.info.asked scope

end Layer

/-- A request meets the same in scopes in which every layer decides the same way. -/
theorem visits_congr {criteria : List Criterion} {scope scope' : Scope} :
    (∀ s : Segment, (∀ m ∈ s.tree, m.Agrees criteria scope scope') →
      ∀ asked, s.visits scope' asked = s.visits scope asked) ∧
    ∀ l : Layer, (∀ m ∈ l.tree, m.Agrees criteria scope scope') →
      l.visits scope' = l.visits scope := by
  refine forest_induction ?_ ?_ ?_
  · intro info effect _ asked
    rw [Segment.visits_experiment, Segment.visits_experiment]
  · intro info layers ih hagrees asked
    rw [Segment.tree_domain] at hagrees
    rw [Segment.visits_domain, Segment.visits_domain]
    congr 1
    exact List.flatMap_congr fun l hl => ih l hl fun m hm =>
      hagrees m (List.mem_flatMap.2 ⟨l, hl, hm⟩)
  · intro info segments index owned ih hagrees
    have hself := hagrees _ (Layer.self_mem_tree _)
    rw [hself.divides.visits_eq, hself.divides.visits_eq, hself.carried, hself.claimant]
    congr 1
    cases hfound : (Layer.mk info segments index owned).claimant? scope with
    | none => rfl
    | some found =>
      obtain ⟨criterion, bucket, t⟩ := found
      have ht := (Layer.claims_of_claimant hfound).1
      have hvisits := ih t ht (fun m hm => hagrees m (Layer.mem_tree_of_mem ht hm))
        (t.info.asked scope)
      simp only [hself.accepts t ht, hself.asked t ht, hvisits]

/-! ## 3. The same way -/

namespace Layer

variable {scope : Scope} {criteria : List Criterion} {l : Layer}

/-- Whoever claims the bucket of a request does so in the arranged layer. -/
theorem Divides.claimant?_arranged (h : l.Divides criteria) (scope : Scope) :
    l.arranged.claimant? scope =
      (l.claimant? scope).map fun c => (c.1, c.2.1, c.2.2.arranged) := by
  rw [claimant?, claimant?, List.map_findSome?, info_arranged]
  congr 1
  funext criterion
  simp only [Function.comp_apply]
  cases scope.bucket? l.info.id criterion with
  | none => rfl
  | some bucket =>
    have hfind : (l.arranged.segments.find? fun s => s.info.claims criterion.id bucket) =
        (l.segments.find? fun s => s.info.claims criterion.id bucket).map Segment.arranged := by
      rw [find?_congr_of_perm l.perm_segments_arranged, List.find?_map]
      · simp only [Function.comp_def, Segment.info_arranged]
      · intro s hs t ht hcs hct
        obtain ⟨u, hu, rfl⟩ := List.mem_map.1 (l.perm_segments_arranged.mem_iff.1 hs)
        obtain ⟨v, hv, rfl⟩ := List.mem_map.1 (l.perm_segments_arranged.mem_iff.1 ht)
        rw [Segment.info_arranged] at hcs hct
        rw [h.eq_of_claims hu hv hcs hct]
    rw [Option.bind_some, Option.bind_some, hfind, Option.map_map, Option.map_map]
    rfl

/-- The arranged layer divides the requests too. -/
theorem Divides.arranged (h : l.Divides criteria) : l.arranged.Divides criteria := by
  have hperm := l.perm_segments_arranged
  refine ⟨?_, fun s hs => ?_, ?_⟩
  · refine hperm.symm.pairwise (List.pairwise_map.2 (h.apart.imp ?_)) .symm
    intro s t hapart
    rw [Segment.info_arranged, Segment.info_arranged]
    exact hapart
  · obtain ⟨t, ht, rfl⟩ := List.mem_map.1 (hperm.mem_iff.1 hs)
    rw [Segment.info_arranged]
    exact h.inRange t ht
  · rw [arranged_eq]
    rfl

end Layer

/-- The layer divides the requests and is made of its segments. -/
structure Layer.Orderly (criteria : List Criterion) (l : Layer) : Prop where
  divides : l.Divides criteria
  made : l.Made

/-- **The same way.**  Where every layer divides the requests, a request meets in the arranged layer
what it meets in the layer. -/
theorem visits_arranged {criteria : List Criterion} (scope : Scope) :
    (∀ s : Segment, (∀ l ∈ s.tree, l.Orderly criteria) →
      ∀ asked, s.arranged.visits scope asked = s.visits scope asked) ∧
    ∀ l : Layer, (∀ m ∈ l.tree, m.Orderly criteria) → l.arranged.visits scope = l.visits scope := by
  refine forest_induction ?_ ?_ ?_
  · intro info effect _ asked
    rw [Segment.arranged_experiment]
  · intro info layers ih h asked
    rw [Segment.arranged_domain, Segment.visits_domain, Segment.visits_domain, List.flatMap_map]
    congr 1
    refine List.flatMap_congr fun l hl => ih l hl fun m hm => h m ?_
    rw [Segment.tree_domain]
    exact List.mem_flatMap.2 ⟨l, hl, hm⟩
  · intro info segments index owned ih h
    have hself := h _ (Layer.self_mem_tree _)
    have howned := owned_arranged.2 (.mk info segments index owned) fun m hm => (h m hm).made
    rw [hself.divides.arranged.visits_eq, hself.divides.visits_eq, howned, Layer.info_arranged,
      hself.divides.claimant?_arranged]
    cases hclaimant : (Layer.mk info segments index owned).claimant? scope with
    | none => rfl
    | some found =>
      obtain ⟨criterion, bucket, s⟩ := found
      have hs : s ∈ segments := (Layer.claims_of_claimant hclaimant).1
      have hvisits := ih s hs (fun l hl => h l (Layer.mem_tree_of_mem hs hl)) (s.info.asked scope)
      simp only [Option.map_some, Segment.info_arranged, hvisits]

/-! ## 4. The same space -/

namespace Builder

variable {b b' : Builder} {version version' : String} {space space' : Space}

theorem orderly_build (hb : b.Sound) (h : b.build version = .ok space) :
    ∀ l ∈ space.layers, l.Orderly space.criteria :=
  fun l hl => ⟨divides_build hb h l hl, made_build hb h l hl⟩

/-- A diversion through a built space is one through the arranged space. -/
theorem divert_arranged (hb : b.Sound) (h : b.build version = .ok space)
    (disabled : KeySet SegmentId) (host : Host) (draws : Draws) (context : Context)
    (carried : KeySet SegmentId) :
    Snapshot.divert ⟨space.arranged, disabled⟩ host draws context carried =
      Snapshot.divert ⟨space, disabled⟩ host draws context carried := by
  have horderly := orderly_build hb h
  have hlayers : ∀ (scope : Scope) {layers : List Layer}, (∀ l ∈ layers, l ∈ space.topLayers) →
      visitsOfLayers scope (layers.map Layer.arranged) = visitsOfLayers scope layers := by
    intro scope layers htop
    rw [visitsOfLayers_eq, visitsOfLayers_eq, List.flatMap_map]
    refine List.flatMap_congr fun l hl => (visits_arranged scope).2 l fun m hm => horderly m ?_
    exact List.mem_flatMap.2 ⟨l, htop l hl, hm⟩
  have hforced : ∀ scope id, Snapshot.forcedVisits ⟨space.arranged, disabled⟩ scope id =
      Snapshot.forcedVisits ⟨space, disabled⟩ scope id := by
    intro scope id
    simp only [Snapshot.forcedVisits, Space.arranged, Table.get?_mapValues]
    cases hs : space.segments.get? id with
    | none => rfl
    | some s =>
      have hmem := ((get?_segments_build hb h).1 hs).1
      have hvisits := (visits_arranged scope).1 s
        (fun l hl => horderly l (Space.mem_layers_of_member hmem hl)) []
      simp only [Option.map_some, hvisits]
  have hbucket : ∀ scope, Snapshot.divertByBucket ⟨space.arranged, disabled⟩ scope =
      Snapshot.divertByBucket ⟨space, disabled⟩ scope := by
    intro scope
    simp only [Snapshot.divertByBucket, Space.arranged]
    rw [hlayers scope fun l hl => List.mem_append_left _ hl,
      hlayers scope fun l hl => List.mem_append_right _ hl]
  have hscope : Snapshot.scope ⟨space.arranged, disabled⟩ host draws context carried =
      Snapshot.scope ⟨space, disabled⟩ host draws context carried := rfl
  simp only [Snapshot.divert, Snapshot.divertForced, hscope, hbucket, hforced]

/-- **A request fares the same in alike spaces**, whatever calls they were built by. -/
theorem handle_alike (hb : b.Sound) (hb' : b'.Sound) (h : b.build version = .ok space)
    (h' : b'.build version' = .ok space') (halike : space.Alike space')
    (disabled : KeySet SegmentId) (host : Host) (draws : Draws) (r : Request) :
    Snapshot.handle ⟨space, disabled⟩ host draws r =
      Snapshot.handle ⟨space', disabled⟩ host draws r := by
  have harranged : ∀ {b : Builder} {version : String} {space : Space}, b.Sound →
      b.build version = .ok space → Snapshot.handle ⟨space, disabled⟩ host draws r =
        Snapshot.handle ⟨space.arranged, disabled⟩ host draws r := by
    intro b version space hb h
    rw [Snapshot.handle, Snapshot.handle, divert_arranged hb h]
    rfl
  rw [harranged hb h, harranged hb' h', halike]

end Builder

end Rollout
