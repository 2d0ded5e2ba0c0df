import Rollout.Proofs.Arranged
import Rollout.Proofs.KillSwitch
import Rollout.Proofs.Lockstep
/-!
# Turning a segment off changes one layer

Which segment claims the bucket of a request has nothing to do with kill switches.  So once a
segment is turned off, a request that is not assigned to it fares as before, and a request that is
assigned to it gets the fallback id of its layer for those who are refused; it never falls through
to another segment or another criterion, and the layers beside stay as they are.

`Detour` compares the two accounts of a request, before and after a segment is turned off: they are
the same but for the leaves that are looked at, or what the request meets in the segment is replaced
by one fallback, and nothing else is.  It is kept by putting the accounts of layers side by side
(`Detour.between`), so that it goes up the tree by induction (`detour`).
-/

namespace Rollout

/-! ## 1. Layers side by side -/

/-- Layers side by side, with all that is nested in them, as they stand in a built space: they
divide the requests, their segments know where they stand, and no id is used twice. -/
structure Grove (criteria : List Criterion) (layers : List Layer) : Prop where
  divides : ∀ m ∈ layers.flatMap Layer.tree, m.Divides criteria
  placed : ∀ m ∈ layers.flatMap Layer.tree, ∀ t ∈ m.segments, t.info.layer = m.info.id
  ids : (layers.flatMap Layer.ids).Nodup
  layerIds : ((layers.flatMap Layer.tree).map (·.info.id)).Nodup

namespace Grove

variable {criteria : List Criterion} {layers : List Layer} {l : Layer}

/-- Some of the layers, in the same order. -/
theorem sublist (h : Grove criteria layers) {some : List Layer} (hsub : some.Sublist layers) :
    Grove criteria some where
  divides m hm := h.divides m ((hsub.flatMap _).subset hm)
  placed m hm := h.placed m ((hsub.flatMap _).subset hm)
  ids := h.ids.sublist (hsub.flatMap _)
  layerIds := h.layerIds.sublist ((hsub.flatMap _).map _)

/-- One of the layers. -/
theorem of_mem (h : Grove criteria layers) (hl : l ∈ layers) : Grove criteria [l] :=
  h.sublist (List.singleton_sublist.2 hl)

theorem mem_tree : l ∈ [l].flatMap Layer.tree := by
  rw [List.flatMap_singleton]
  exact l.self_mem_tree

/-- A segment, with the layers in it, as it stands in a built space. -/
structure Holds (criteria : List Criterion) (t : Segment) : Prop where
  nested : Grove criteria t.nested
  id : t.info.id ∉ t.nested.flatMap Layer.ids
  layer : t.info.layer ∉ (t.nested.flatMap Layer.tree).map (·.info.id)

/-- The segments of a layer. -/
theorem segment (h : Grove criteria [l]) {t : Segment} (ht : t ∈ l.segments) :
    Holds criteria t := by
  have hmem : ∀ m ∈ t.nested.flatMap Layer.tree, m ∈ [l].flatMap Layer.tree := by
    intro m hm
    rw [← Segment.tree_eq] at hm
    rw [List.flatMap_singleton]
    exact Layer.mem_tree_of_mem ht hm
  have hlayerIds := h.layerIds
  rw [List.flatMap_singleton, Layer.tree_eq, List.map_cons, List.nodup_cons] at hlayerIds
  have hids := h.ids
  rw [List.flatMap_singleton] at hids
  have htids := (List.nodup_flatMap.1 ((Layer.ids_perm l).nodup_iff.1 hids)).1 t ht
  have hsub : ((t.nested.flatMap Layer.tree).map (·.info.id)).Sublist
      ((l.segments.flatMap Segment.tree).map (·.info.id)) := by
    have hone := (List.singleton_sublist.2 ht).flatMap Segment.tree
    rw [List.flatMap_singleton, Segment.tree_eq t] at hone
    exact hone.map _
  rw [Segment.ids, List.map_cons, List.nodup_cons, Segment.members_eq, List.map_flatMap] at htids
  refine ⟨⟨fun m hm => h.divides m (hmem m hm), fun m hm => h.placed m (hmem m hm), htids.2,
    hlayerIds.2.sublist hsub⟩, htids.1, ?_⟩
  · rw [h.placed l mem_tree t ht]
    exact fun hmem => hlayerIds.1 (hsub.subset hmem)

end Grove

/-! ## 2. What does not depend on the segment -/

/-- The scope with one more segment turned off. -/
def Scope.without (scope : Scope) (id : SegmentId) : Scope :=
  { scope with disabled := KeySet.add scope.disabled id }

section Without

variable {scope : Scope} {id : SegmentId}

theorem SegmentInfo.isOpen_without {info : SegmentInfo} (h : info.id ≠ id) :
    info.isOpen (scope.without id) = info.isOpen scope := by
  rw [isOpen, isOpen, Scope.without, KeySet.contains_add, decide_eq_false h, Bool.false_or]

theorem SegmentInfo.accepts_without {info : SegmentInfo} (h : info.id ≠ id) :
    info.accepts (scope.without id) = info.accepts scope := by
  rw [accepts, accepts, isOpen_without h]
  rfl

theorem SegmentInfo.asked_without {info : SegmentInfo} (h : info.id ≠ id) :
    info.asked (scope.without id) = info.asked scope := by
  rw [asked, asked, isOpen_without h]
  rfl

theorem SegmentInfo.isOpen_without_self (info : SegmentInfo) :
    info.isOpen (scope.without info.id) = false := by
  rw [isOpen, Scope.without, KeySet.contains_add]
  simp

/-- A layer in which the segment does not stand decides as before. -/
theorem Layer.Divides.agrees_without {criteria : List Criterion} {l : Layer}
    (h : l.Divides criteria) (hid : ∀ t ∈ l.segments, t.info.id ≠ id) :
    l.Agrees criteria scope (scope.without id) where
  divides := h
  carried := rfl
  claimant := rfl
  accepts t ht := SegmentInfo.accepts_without (hid t ht)
  asked t ht := SegmentInfo.asked_without (hid t ht)

/-- **Apart from the segment** everything stays as it is. -/
theorem Segment.visits_without {criteria : List Criterion} {s : Segment}
    (hdivides : ∀ m ∈ s.tree, m.Divides criteria) (hid : id ∉ s.ids) (asked : List Leaf) :
    s.visits (scope.without id) asked = s.visits scope asked := by
  refine visits_congr.1 s (fun m hm => (hdivides m hm).agrees_without fun t ht heq => ?_) asked
  have hmem : t ∈ s.members := List.mem_flatMap.2 ⟨m, hm, ht⟩
  exact hid (heq ▸ Segment.ids_subset_of_mem hmem _ t.mem_ids_self)

theorem Layer.visits_without {criteria : List Criterion} {l : Layer}
    (hdivides : ∀ m ∈ l.tree, m.Divides criteria) (hid : id ∉ l.ids) :
    l.visits (scope.without id) = l.visits scope := by
  refine visits_congr.2 l fun m hm => (hdivides m hm).agrees_without fun t ht heq => ?_
  have hmem : t ∈ l.members := List.mem_flatMap.2 ⟨m, hm, ht⟩
  exact hid (heq ▸ Layer.ids_subset_of_mem hmem _ t.mem_ids_self)

end Without

/-! ## 3. The detour -/

/-- A visit is in the layer itself or in one that is nested in it. -/
theorem layer_of_visit (scope : Scope) :
    (∀ s : Segment, (∀ m ∈ s.tree, ∀ t ∈ m.segments, t.info.layer = m.info.id) → ∀ asked,
      ∀ v ∈ s.visits scope asked, v.layer = s.info.layer ∨ ∃ m ∈ s.tree, v.layer = m.info.id) ∧
    ∀ l : Layer, (∀ m ∈ l.tree, ∀ t ∈ m.segments, t.info.layer = m.info.id) →
      ∀ v ∈ l.visits scope, ∃ m ∈ l.tree, v.layer = m.info.id := by
  refine forest_induction ?_ ?_ ?_
  · intro info effect _ asked v hv
    rw [Segment.visits_experiment, List.mem_singleton] at hv
    exact .inl (hv ▸ rfl)
  · intro info layers ih hplaced asked v hv
    rw [Segment.visits_domain, List.mem_cons, List.mem_flatMap] at hv
    rw [Segment.tree_domain] at hplaced ⊢
    rcases hv with rfl | ⟨l, hl, hv⟩
    · exact .inl rfl
    · obtain ⟨m, hm, heq⟩ := ih l hl (fun m hm => hplaced m (List.mem_flatMap.2 ⟨l, hl, hm⟩)) v hv
      exact .inr ⟨m, List.mem_flatMap.2 ⟨l, hl, hm⟩, heq⟩
  · intro info segments index owned ih hplaced v hv
    rcases Layer.visits_cases scope (.mk info segments index owned) with
      ⟨outcome, -, heq⟩ | ⟨t, ht, -, heq⟩
    · rw [heq, List.mem_singleton] at hv
      exact ⟨_, Layer.self_mem_tree _, hv ▸ rfl⟩
    · have hmem : ∀ m ∈ t.tree, m ∈ (Layer.mk info segments index owned).tree :=
        fun m hm => Layer.mem_tree_of_mem ht hm
      rw [heq] at hv
      rcases ih t ht (fun m hm => hplaced m (hmem m hm)) _ v hv with hlayer | ⟨m, hm, hlayer⟩
      · exact ⟨_, Layer.self_mem_tree _, hlayer.trans (hplaced _ (Layer.self_mem_tree _) t ht)⟩
      · exact ⟨m, hmem m hm, hlayer⟩

/-- The visit, whatever was looked at in it. -/
def Visit.bare (v : Visit) : Visit := { v with asked := [] }

theorem Visit.recorded?_bare (v : Visit) : v.bare.recorded? = v.recorded? := rfl

/-- What the layer records for a request that the segment refuses which the criterion decides
for. -/
def LayerInfo.refusal (info : LayerInfo) (criterion : Criterion) : SegmentId :=
  if criterion.random then info.randomBiased else info.fixedBiased

/-- The visit is not in the segment, nor in a layer that is nested in it. -/
structure Segment.Misses (s : Segment) (v : Visit) : Prop where
  entered : v.entered? ≠ some s.info.id
  layer : ∀ m ∈ s.tree, v.layer ≠ m.info.id

/-- The account of a request before and after a segment of a layer is turned off. -/
inductive Detour (scope : Scope) (l : Layer) (s : Segment) (visits visits' : List Visit) :
    Prop where
  /-- The request does not get into the segment, and meets the same. -/
  | apart (avoids : ∀ v ∈ visits, v.entered? ≠ some s.info.id)
    (same : visits'.map Visit.bare = visits.map Visit.bare)
  /-- The request is assigned to the segment, and a fallback takes the place of what it met
  there. -/
  | around {criterion : Criterion} {asked : List Leaf} {before after : List Visit}
    (decides : l.Decides scope criterion s) (met : visits = before ++ s.visits scope asked ++ after)
    (meets : visits' =
      before ++ ⟨l.info.id, .fallback (l.info.refusal criterion), []⟩ :: after)
    (misses : ∀ v ∈ visits', s.Misses v)

variable {scope : Scope} {criteria : List Criterion} {l : Layer} {s : Segment}
  {visits visits' : List Visit}

/-- Visits beside that miss the segment make no difference. -/
theorem Detour.between (h : Detour scope l s visits visits') {before after : List Visit}
    (hbefore : ∀ v ∈ before, s.Misses v) (hafter : ∀ v ∈ after, s.Misses v) :
    Detour scope l s (before ++ visits ++ after) (before ++ visits' ++ after) := by
  cases h with
  | apart avoids same =>
    refine .apart (fun v hv => ?_) (by simp only [List.map_append, same])
    rw [List.mem_append, List.mem_append] at hv
    rcases hv with (hv | hv) | hv
    · exact (hbefore v hv).entered
    · exact avoids v hv
    · exact (hafter v hv).entered
  | @around criterion asked first last decides met meets misses =>
    have hmet : before ++ visits ++ after =
        (before ++ first) ++ s.visits scope asked ++ (last ++ after) := by
      rw [met]
      simp only [List.append_assoc]
    have hmeets : before ++ visits' ++ after = (before ++ first) ++
        ⟨l.info.id, .fallback (l.info.refusal criterion), []⟩ :: (last ++ after) := by
      rw [meets]
      simp only [List.append_assoc, List.cons_append]
    refine .around decides hmet hmeets fun v hv => ?_
    rw [List.mem_append, List.mem_append] at hv
    rcases hv with (hv | hv) | hv
    · exact hbefore v hv
    · exact misses v hv
    · exact hafter v hv

/-- The other layers do not have the id of a segment of one. -/
theorem Grove.not_mem_ids {before after : List Layer} {k : Layer}
    (h : Grove criteria (before ++ k :: after)) (hs : s ∈ k.members) {m : Layer}
    (hm : m ∈ before ++ after) : s.info.id ∉ m.ids := by
  have hids := (List.perm_middle.flatMap_right Layer.ids).nodup_iff.1 h.ids
  rw [List.flatMap_cons] at hids
  exact fun hid => List.disjoint_of_nodup_append hids
    (Layer.ids_subset_of_mem hs _ s.mem_ids_self) (List.mem_flatMap.2 ⟨m, hm, hid⟩)

/-- What a request meets in the other layers misses a segment of one. -/
theorem Grove.misses {before after : List Layer} {k : Layer}
    (h : Grove criteria (before ++ k :: after)) (hs : s ∈ k.members) {m : Layer}
    (hm : m ∈ before ++ after) {v : Visit} (hv : v ∈ m.visits scope) : s.Misses v := by
  refine ⟨fun hid => h.not_mem_ids hs hm (Layer.mem_ids_of_entered hv hid), fun n hn heq => ?_⟩
  have hmem : m ∈ before ++ k :: after := List.perm_middle.mem_iff.2 (List.mem_cons_of_mem _ hm)
  have hlayerIds := ((List.perm_middle.flatMap_right Layer.tree).map (·.info.id)).nodup_iff.1
    h.layerIds
  rw [List.flatMap_cons, List.map_append] at hlayerIds
  obtain ⟨n', hn', hlayer⟩ := (layer_of_visit scope).2 m
    (fun n hn => h.placed n (List.mem_flatMap.2 ⟨m, hmem, hn⟩)) v hv
  have hnk : n ∈ k.tree := by
    obtain ⟨r, hr, hsr⟩ := List.mem_flatMap.1 hs
    exact tree_trans.2 k r hr n (Layer.mem_tree_of_mem hsr hn)
  refine List.disjoint_of_nodup_append hlayerIds (List.mem_map_of_mem hnk) ?_
  exact List.mem_map.2 ⟨n', List.mem_flatMap.2 ⟨m, hm, hn'⟩, hlayer.symm.trans heq⟩

/-- **Layers side by side.**  One of them has the segment, and nothing changes in the others. -/
theorem Grove.detour {layers : List Layer} (h : Grove criteria layers) {k : Layer} (hk : k ∈ layers)
    (hs : s ∈ k.members)
    (hdetour : Detour scope l s (k.visits scope) (k.visits (scope.without s.info.id))) :
    Detour scope l s (layers.flatMap (·.visits scope))
      (layers.flatMap (·.visits (scope.without s.info.id))) := by
  obtain ⟨before, after, rfl⟩ := List.append_of_mem hk
  have hsame : ∀ m ∈ before ++ after, m.visits (scope.without s.info.id) = m.visits scope := by
    intro m hm
    refine Layer.visits_without (fun n hn => h.divides n ?_) (h.not_mem_ids hs hm)
    exact List.mem_flatMap.2 ⟨m, List.perm_middle.mem_iff.2 (List.mem_cons_of_mem _ hm), hn⟩
  have hmisses : ∀ some : List Layer, (∀ m ∈ some, m ∈ before ++ after) →
      ∀ v ∈ some.flatMap (·.visits scope), s.Misses v := by
    intro some hsub v hv
    obtain ⟨m, hm, hv⟩ := List.mem_flatMap.1 hv
    exact h.misses hs (hsub m hm) hv
  rw [List.flatMap_append, List.flatMap_cons, List.flatMap_append, List.flatMap_cons,
    List.flatMap_congr fun m hm => hsame m (List.mem_append_left _ hm),
    List.flatMap_congr fun m hm => hsame m (List.mem_append_right _ hm), ← List.append_assoc,
    ← List.append_assoc]
  exact hdetour.between (hmisses before fun m hm => List.mem_append_left _ hm)
    (hmisses after fun m hm => List.mem_append_right _ hm)

/-- A segment stands in one layer. -/
theorem Grove.eq_of_segment {k r : Layer} (h : Grove criteria [k]) (hl : l ∈ k.tree)
    (hr : r ∈ k.tree) (hs : s ∈ l.segments) (hs' : s ∈ r.segments) : l = r := by
  have hlayerIds := h.layerIds
  have hplaced := h.placed
  rw [List.flatMap_singleton] at hlayerIds hplaced
  refine List.inj_on_of_nodup_map hlayerIds hl hr ?_
  exact (hplaced l hl s hs).symm.trans (hplaced r hr s hs')

/-- A segment of another id that has the id of the segment inside has its layer inside. -/
theorem Grove.mem_tree_of_mem_ids {k : Layer} (h : Grove criteria [k]) (hl : l ∈ k.tree)
    (hs : s ∈ l.segments) {t : Segment} (ht : t ∈ k.segments) (hne : t.info.id ≠ s.info.id)
    (hid : s.info.id ∈ t.ids) : l ∈ t.tree := by
  have hids := h.ids
  rw [List.flatMap_singleton] at hids
  obtain ⟨u, hu, hus⟩ := List.mem_map.1 hid
  rcases List.mem_cons.1 hu with rfl | hu
  · exact absurd hus hne
  have huk : u ∈ k.members := Layer.mem_members_iff.2 ⟨t, ht, .inr hu⟩
  obtain rfl : u = s := List.inj_on_of_nodup_map hids huk (List.mem_flatMap.2 ⟨l, hl, hs⟩) hus
  obtain ⟨r, hr, hur⟩ := List.mem_flatMap.1 hu
  have hrk : r ∈ k.tree := Layer.mem_tree_of_mem ht hr
  exact h.eq_of_segment hl hrk hs hur ▸ hr

/-- The claimant of the bucket of a request is what a criterion decides for. -/
theorem Layer.Divides.decides_of_claimant (h : l.Divides criteria) (hordered : scope.Ordered)
    {criterion : Criterion} {bucket : Bucket}
    (hfound : l.claimant? scope = some (criterion, bucket, s)) : l.Decides scope criterion s := by
  have hdeciding := h.deciding?_eq scope
  rw [hfound, Option.map_some] at hdeciding
  obtain ⟨position, t, hpositions, ht, hdecides⟩ := h.decides hordered hdeciding
  obtain ⟨hs, hclaims⟩ := claims_of_claimant hfound
  obtain ⟨position', hpositions', hs'⟩ := h.claimants_eq hs hclaims
  obtain rfl : position' = position :=
    List.singleton_inj.1 (hpositions'.symm.trans hpositions)
  obtain rfl : s = t := Option.some.inj (hs'.symm.trans ht)
  exact hdecides

/-- **One layer.**  Turning a segment off changes what the request meets in the layer at most where
a segment takes it in: it is that segment, which refuses now, or the segment is somewhere inside. -/
theorem Layer.Divides.visits_without (h : l.Divides criteria) (scope : Scope) (id : SegmentId) :
    ((∀ v ∈ l.visits scope, v.entered? = none) ∧
      (l.visits (scope.without id)).map Visit.bare = (l.visits scope).map Visit.bare) ∨
    ∃ criterion bucket t, l.claimant? scope = some (criterion, bucket, t) ∧
      l.visits scope = t.visits scope (t.info.asked scope) ∧
      l.visits (scope.without id) =
        if t.info.id = id then [⟨l.info.id, .fallback (l.info.refusal criterion), []⟩]
        else t.visits (scope.without id) (t.info.asked scope) := by
  have hclaimant : l.claimant? (scope.without id) = l.claimant? scope := rfl
  have hcarried : (scope.without id).carried = scope.carried := rfl
  rw [h.visits_eq, h.visits_eq, hclaimant, hcarried]
  by_cases hnew : KeySet.disjoint scope.carried l.owned = true
  swap
  · rw [if_neg hnew, if_neg hnew]
    exact .inl ⟨by simp [Visit.entered?], rfl⟩
  rw [if_pos hnew, if_pos hnew]
  cases hfound : l.claimant? scope with
  | none => exact .inl ⟨by simp [Visit.entered?], rfl⟩
  | some found =>
    obtain ⟨criterion, bucket, t⟩ := found
    dsimp only
    by_cases haccepts : t.info.accepts scope = true
    · refine .inr ⟨criterion, bucket, t, rfl, if_pos haccepts, ?_⟩
      by_cases htid : t.info.id = id
      · subst htid
        have hoff : t.info.isOpen (scope.without t.info.id) = false :=
          SegmentInfo.isOpen_without_self t.info
        rw [SegmentInfo.accepts, SegmentInfo.asked, hoff, if_pos rfl]
        rfl
      · rw [SegmentInfo.accepts_without htid, SegmentInfo.asked_without htid, if_pos haccepts,
          if_neg htid]
    · have hrefuses : t.info.accepts (scope.without id) ≠ true := by
        intro h'
        by_cases htid : t.info.id = id
        · subst htid
          rw [SegmentInfo.accepts, SegmentInfo.isOpen_without_self, Bool.false_and] at h'
          cases h'
        · exact haccepts (SegmentInfo.accepts_without htid ▸ h')
      rw [if_neg haccepts, if_neg hrefuses]
      exact .inl ⟨by simp [Visit.entered?], rfl⟩

/-- **The detour goes up the tree.**  Wherever the layer of the segment is nested, turning the
segment off changes at most what the request meets in the segment. -/
theorem detour (hordered : scope.Ordered) (hs : s ∈ l.segments) :
    (∀ t : Segment, Grove.Holds criteria t → l ∈ t.tree → ∀ asked,
      Detour scope l s (t.visits scope asked) (t.visits (scope.without s.info.id) asked)) ∧
    ∀ k : Layer, Grove criteria [k] → l ∈ k.tree →
      Detour scope l s (k.visits scope) (k.visits (scope.without s.info.id)) := by
  have hmember : ∀ {k : Layer}, l ∈ k.tree → s ∈ k.members :=
    fun hl => List.mem_flatMap.2 ⟨l, hl, hs⟩
  refine forest_induction ?_ ?_ ?_
  · intro info effect _ hl
    simp at hl
  · intro info layers ih hholds hl asked
    rw [Segment.tree_domain] at hl
    obtain ⟨k, hk, hlk⟩ := List.mem_flatMap.1 hl
    have hinside : Detour scope l s (layers.flatMap (·.visits scope))
        (layers.flatMap (·.visits (scope.without s.info.id))) :=
      hholds.nested.detour hk (hmember hlk) (ih k hk (hholds.nested.of_mem hk) hlk)
    have hdomain : s.Misses ⟨info.layer, .domain info, asked⟩ := by
      refine ⟨fun hid => hholds.id ?_, fun m hm heq => hholds.layer ?_⟩
      · refine List.mem_flatMap.2 ⟨k, hk, Layer.ids_subset_of_mem (hmember hlk) _ ?_⟩
        exact (Option.some.inj hid : info.id = s.info.id) ▸ s.mem_ids_self
      · refine List.mem_map.2 ⟨m, List.mem_flatMap.2 ⟨k, hk, tree_trans.2 k l hlk m ?_⟩, heq.symm⟩
        exact Layer.mem_tree_of_mem hs hm
    rw [Segment.visits_domain, Segment.visits_domain]
    simpa using hinside.between (List.forall_mem_singleton.2 hdomain) (List.forall_mem_nil _)
  · intro info segments index owned ih hgrove hl
    have hdivides := hgrove.divides _ Grove.mem_tree
    rcases hdivides.visits_without scope s.info.id with
      ⟨hnone, hsame⟩ | ⟨criterion, bucket, t, hfound, hvisits, hvisits'⟩
    · exact .apart (fun v hv hid => by rw [hnone v hv] at hid; cases hid) hsame
    obtain ⟨ht, -⟩ := Layer.claims_of_claimant hfound
    rw [hvisits, hvisits']
    by_cases htid : t.info.id = s.info.id
    · -- the segment itself is entered, and refuses once it is turned off
      have hids := hgrove.ids
      rw [List.flatMap_singleton] at hids
      obtain rfl : t = s :=
        List.inj_on_of_nodup_map hids (Layer.mem_members_of_mem ht) (hmember hl) htid
      obtain rfl := hgrove.eq_of_segment hl (Layer.self_mem_tree _) hs ht
      rw [if_pos rfl]
      have hmet : ∀ asked, t.visits scope asked = [] ++ t.visits scope asked ++ [] := by simp
      refine .around (hdivides.decides_of_claimant hordered hfound) (hmet _) rfl
        (List.forall_mem_singleton.2 ⟨by simp [Visit.entered?], fun m hm heq => ?_⟩)
      refine (hgrove.segment ht).layer (List.mem_map.2 ⟨m, Segment.tree_eq t ▸ hm, ?_⟩)
      exact heq.symm.trans (hgrove.placed _ Grove.mem_tree t ht).symm
    · rw [if_neg htid]
      by_cases hlt : l ∈ t.tree
      · exact ih t ht (hgrove.segment ht) hlt _
      · have hid : s.info.id ∉ t.ids :=
          fun hid => hlt (hgrove.mem_tree_of_mem_ids hl hs ht htid hid)
        have htree : ∀ m ∈ t.tree, m.Divides criteria := fun m hm => by
          refine hgrove.divides m ?_
          rw [List.flatMap_singleton]
          exact Layer.mem_tree_of_mem ht hm
        rw [Segment.visits_without htree hid]
        exact .apart (fun v hv heq => hid (Segment.mem_ids_of_entered hv heq)) rfl

/-! ## 4. A built space -/

namespace Builder

variable {b : Builder} {version : String} {space : Space} {scope : Scope} {s : Segment}

/-- The layers of a built space, with all that is nested in them. -/
theorem grove_build (hb : b.Sound) (h : b.build version = .ok space) :
    Grove space.criteria space.topLayers where
  divides := divides_build hb h
  placed m hm t ht := by
    obtain ⟨d, hd, rfl⟩ := layer_of_build hb h hm
    obtain ⟨u, hu, rfl⟩ := List.mem_map.1 ht
    rw [info_segmentOf]
    exact (hb.drafts d hd).layer u hu
  ids := Space.ids_eq space ▸ nodup_ids_build hb h
  layerIds := by
    have hperm := (layers_build hb h).map LayerInfo.id
    rw [List.map_map, List.map_map] at hperm
    exact hperm.nodup_iff.2 hb.layerIds

/-- The accounts of layers of a built space, before and after a segment is turned off that is not
entered, are the same but for the leaves that are looked at. -/
theorem bare_without (hb : b.Sound) (h : b.build version = .ok space) (hs : s ∈ space.members)
    (hordered : scope.Ordered) {pass : List Layer} (hpass : ∀ k ∈ pass, k ∈ space.topLayers)
    (havoids : ∀ v ∈ pass.flatMap (·.visits scope), v.entered? ≠ some s.info.id) :
    (pass.flatMap (·.visits (scope.without s.info.id))).map Visit.bare =
      (pass.flatMap (·.visits scope)).map Visit.bare := by
  have hgrove := grove_build hb h
  rw [List.map_flatMap, List.map_flatMap]
  refine List.flatMap_congr fun k hk => ?_
  by_cases hid : s.info.id ∈ k.ids
  · obtain ⟨u, hu, hus⟩ := List.mem_map.1 hid
    obtain rfl : u = s := Space.eq_of_id_eq (nodup_ids_build hb h)
      (List.mem_flatMap.2 ⟨k, hpass k hk, hu⟩) hs hus
    obtain ⟨l, hl, hul⟩ := List.mem_flatMap.1 hu
    cases (detour hordered hul).2 k (hgrove.of_mem (hpass k hk)) hl with
    | apart _ same => exact same
    | @around criterion asked first last _ met _ _ =>
      obtain ⟨v, hv, hent⟩ := u.exists_entered scope asked
      refine absurd hent (havoids v (List.mem_flatMap.2 ⟨k, hk, ?_⟩))
      simp [met, hv]
  · rw [Layer.visits_without (fun m hm => hgrove.divides m ?_) hid]
    exact List.mem_flatMap.2 ⟨k, hpass k hk, hm⟩

/-- Such accounts go side by side for every flag. -/
theorem alongside_without (hb : b.Sound) (h : b.build version = .ok space) (hs : s ∈ space.members)
    (hordered : scope.Ordered) {pass : List Layer} (hpass : ∀ k ∈ pass, k ∈ space.topLayers)
    (havoids : ∀ v ∈ pass.flatMap (·.visits scope), v.entered? ≠ some s.info.id) (time : Int64)
    (flag : String) (seen : SegmentId → Prop) :
    Gain.Alongside time flag (fun _ => False) seen (pass.flatMap (·.visits scope))
      (pass.flatMap (·.visits (scope.without s.info.id))) := by
  refine Gain.alongside_of_map Visit.recorded?_bare
    (bare_without hb h hs hordered hpass havoids) fun _ v _ v' _ _ heq isIn isIn' _ hin => ?_
  obtain rfl : isIn' = isIn := funext fun id => hin id not_false
  have hout : v'.bare.outcome = v.bare.outcome := congrArg Visit.outcome heq
  change v'.outcome = v.outcome at hout
  rw [Visit.calculator?, hout]
  rfl

/-- **A request that does not get into the segment** fares the same once the segment is turned
off. -/
theorem unchanged_without (hb : b.Sound) (h : b.build version = .ok space) (hs : s ∈ space.members)
    {disabled : KeySet SegmentId} {host : Host} {draws : Draws} {context : Context}
    (hf : context.forced.isEmpty = true)
    (havoids : ∀ v ∈ Snapshot.visits ⟨space, disabled⟩ host draws context .empty,
      v.entered? ≠ some s.info.id) :
    ∃ r r', (Snapshot.handle ⟨space, disabled⟩ host draws (.start context)).result = .ok r ∧
      (Snapshot.handle ⟨space, KeySet.add disabled s.info.id⟩ host draws (.start context)).result =
        .ok r' ∧
      r'.ids = r.ids ∧ ∀ flag, r'.calculator? flag = r.calculator? flag := by
  obtain ⟨launched, settled, r, hl, hsettled, hr, hids, hcalc⟩ :=
    handle_unforced hb h hf disabled host draws
  obtain ⟨launched', settled', r', hl', hsettled', hr', hids', hcalc'⟩ :=
    handle_unforced hb h hf (KeySet.add disabled s.info.id) host draws
  rw [Snapshot.visits_unforced _ _ _ _ hf] at hids hids' havoids
  rw [Snapshot.launchVisits_eq] at hl hl'
  rw [Snapshot.permanentVisits_eq] at hsettled hsettled'
  have hordered : (Snapshot.scope ⟨space, disabled⟩ host draws context .empty topDomain).Ordered :=
    ordered_build hb h
  have hpass : ∀ {pass : List Layer}, (∀ k ∈ pass, k ∈ space.topLayers) →
      ∀ v ∈ pass.flatMap (·.visits (Snapshot.scope ⟨space, disabled⟩ host draws context .empty
        topDomain)), v.entered? ≠ some s.info.id := by
    intro pass hsub v hv
    obtain ⟨k, hk, hv⟩ := List.mem_flatMap.1 hv
    exact havoids v (List.mem_flatMap.2 ⟨k, hsub k hk, hv⟩)
  refine ⟨r, r', hr, hr', KeySet.ext_contains fun id => ?_, fun flag => ?_⟩
  · have hbare := bare_without hb h hs hordered (fun _ hk => hk) havoids
    rw [hids', hids]
    exact (recorded_map Visit.recorded?_bare).symm.trans
      ((iff_of_eq (congrArg (Recorded · id) hbare)).trans (recorded_map Visit.recorded?_bare))
  · have hsub := launchLayers_subset space
    have hsub' := permanentLayers_subset space
    obtain ⟨hfirst, hsecond⟩ := Gain.lockstep_passes rfl (fun _ => rfl) (fun _ => rfl)
      hl hl' hsettled
      hsettled' (alongside_without hb h hs hordered hsub (hpass hsub) context.time flag _)
      (alongside_without hb h hs hordered hsub' (hpass hsub') context.time flag _)
    rw [hcalc, hcalc', hfirst, hsecond]

end Builder

/-- **A kill switch changes one layer.**  A segment of a space is turned off, whatever was turned
off before.  A new request that is not forced and did not get into the segment records the same ids,
and every flag has the same calculator for it.  For a request that got into the segment, its layer
records the fallback id of the criterion that decided; nothing in the segment is visited any more,
and what the request meets elsewhere is what it met. -/
theorem disable_changes_one_layer {declared : FlagRegistry} {calls : List Builder.Call}
    {version : String} {space : Space}
    (h : ((Builder.start declared).run calls).build version = .ok space) {s : Segment}
    (hs : s ∈ space.members) (disabled : KeySet SegmentId) (host : Host) (draws : Draws)
    {context : Context} (hf : context.forced.isEmpty = true) :
    let on : Snapshot := ⟨space, disabled⟩
    let off := (on.disable s.info.id).2.1
    let scope := on.scope host draws context .empty topDomain
    let visits := on.visits host draws context .empty
    let visits' := off.visits host draws context .empty
    (on.disable s.info.id).1 = true ∧ ∃ r r',
      (on.handle host draws (.start context)).result = .ok r ∧
      (off.handle host draws (.start context)).result = .ok r' ∧
      ((∀ v ∈ visits, v.entered? ≠ some s.info.id) →
        r'.ids = r.ids ∧ ∀ flag, r'.calculator? flag = r.calculator? flag) ∧
      ((∃ v ∈ visits, v.entered? = some s.info.id) →
        ∃ l ∈ space.layers, s ∈ l.segments ∧ ∃ criterion asked first last,
          l.Decides scope criterion s ∧
          visits = first ++ s.visits scope asked ++ last ∧
          visits' = first ++ ⟨l.info.id, .fallback (l.info.refusal criterion), []⟩ :: last ∧
          (∀ v ∈ visits', s.Misses v) ∧
          ∀ id, r'.ids.contains id = true ↔
            id = l.info.refusal criterion ∨ Recorded (first ++ last) id) := by
  have hb := Builder.sound_run declared calls
  have hgrove := Builder.grove_build hb h
  have hhas : space.segments.contains s.info.id = true :=
    Table.contains_iff.2 ⟨s, (Builder.get?_segments_build hb h).2 ⟨hs, rfl⟩⟩
  have hdisable : Snapshot.disable ⟨space, disabled⟩ s.info.id =
      (true, ⟨space, KeySet.add disabled s.info.id⟩, [.of .disabled]) := by
    rw [Snapshot.disable_eq, if_pos hhas]
  intro on off scope visits visits'
  have hoff : off = ⟨space, KeySet.add disabled s.info.id⟩ := congrArg (·.2.1) hdisable
  have hordered : scope.Ordered := Builder.ordered_build hb h
  have hvisits : visits = space.topLayers.flatMap (·.visits scope) :=
    Snapshot.visits_unforced _ _ _ _ hf
  have hvisits' : visits' = space.topLayers.flatMap (·.visits (scope.without s.info.id)) := by
    change off.visits host draws context .empty = _
    rw [hoff]
    exact Snapshot.visits_unforced _ _ _ _ hf
  obtain ⟨-, -, r, -, -, hr, -⟩ := Builder.handle_unforced hb h hf disabled host draws
  obtain ⟨-, -, r', -, -, hr', hids', -⟩ :=
    Builder.handle_unforced hb h hf (KeySet.add disabled s.info.id) host draws
  rw [← hoff] at hr' hids'
  refine ⟨congrArg Prod.fst hdisable, r, r', hr, hr', fun havoids => ?_, ?_⟩
  · obtain ⟨_, _, hr₂, hr₂', hsame⟩ := Builder.unchanged_without hb h hs hf havoids
    rw [← hoff] at hr₂'
    cases hr.symm.trans hr₂
    cases hr'.symm.trans hr₂'
    exact hsame
  · rintro ⟨v, hv, hent⟩
    obtain ⟨k, hk, hsk⟩ := List.mem_flatMap.1 hs
    obtain ⟨l, hl, hsl⟩ := List.mem_flatMap.1 hsk
    have hdetour := hgrove.detour hk hsk ((detour hordered hsl).2 k (hgrove.of_mem hk) hl)
    rw [← hvisits, ← hvisits'] at hdetour
    cases hdetour with
    | apart avoids _ => exact absurd hent (avoids v hv)
    | @around criterion asked first last decides met meets misses =>
      refine ⟨l, List.mem_flatMap.2 ⟨k, hk, hl⟩, hsl, criterion, asked, first, last, decides, met,
        meets, misses, fun id => (hids' id).trans ?_⟩
      change Recorded visits' id ↔ _
      rw [meets, recorded_append, recorded_cons, recorded_append, or_left_comm]
      exact or_congr_left ⟨fun h => (Option.some.inj h).symm, fun h => congrArg some h.symm⟩

/-- A domain is turned off that a request got into, and into the experiment in it.  Its layer
records a fallback id, the layer in it is not visited any more, and the experiments beside it keep
the request. -/
theorem disable_changes_one_layer_domain : ∃ space s r r',
    ((Builder.start .empty).run Builder.sharedCalls).build "v" = .ok space ∧ s ∈ space.members ∧
    s.info.id = 20 ∧ (Context.at 0).forced.isEmpty = true ∧
    ((Snapshot.of space).handle (fun _ _ => false) (fun _ _ _ => 0) (.start (.at 0))).result =
      .ok r ∧
    (((Snapshot.of space).disable 20).2.1.handle (fun _ _ => false) (fun _ _ _ => 0)
      (.start (.at 0))).result = .ok r' ∧
    r.ids.keys = [10, 30, 40] ∧ r'.ids.keys = [10, 40, 203] ∧
    ∀ v ∈ ((Snapshot.of space).disable 20).2.1.visits (fun _ _ => false) (fun _ _ _ => 0)
      (.at 0) .empty, v.layer ≠ 3 := by
  have hbuild : ((Builder.start .empty).run Builder.sharedCalls).build "v" = .ok _ := rfl
  obtain ⟨-, r, r', hr, hr', -, hassigned⟩ := disable_changes_one_layer hbuild
    (.tail _ (.tail _ (.head _))) .empty (fun _ _ => false) (fun _ _ _ => 0)
    (rfl : (Context.at 0).forced.isEmpty = true)
  obtain ⟨-, -, -, -, -, -, -, -, -, -, hmisses, -⟩ :=
    hassigned ⟨_, .tail _ (.tail _ (.head _)), rfl⟩
  have hkeys : r.ids.keys = [10, 30, 40] := by
    cases hr
    rfl
  have hkeys' : r'.ids.keys = [10, 40, 203] := by
    cases hr'
    rfl
  exact ⟨_, _, r, r', hbuild, .tail _ (.tail _ (.head _)), rfl, rfl, hr, hr', hkeys, hkeys',
    fun v hv => (hmisses v hv).layer _ (.head _)⟩

end Rollout
