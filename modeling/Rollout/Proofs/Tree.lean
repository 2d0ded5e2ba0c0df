import Mathlib.Data.List.Nodup
import Mathlib.Data.List.Pairwise
import Mathlib.Data.List.Perm.Basic
import Rollout.Space
/-!
# Layers within domains within layers

A space is a forest: layers have segments, and domains have layers again.  This module lists what
stands in it at any depth, `Layer.tree` for layers and `members` for segments, and gives the one
induction by which everything about a forest is proved (`forest_induction`).

The last section is about ids.  Where no id is used twice, two segments are either nested, one in
the other, or have nothing in common (`nested_or_apart`).
-/

namespace Rollout

/-! ## 1. What stands at any depth -/

mutual

/-- The layers that are nested in a segment, at any depth. -/
def Segment.tree : Segment → List Layer
  | .experiment _ _ => []
  | .domain _ layers => treeOfLayers layers

/-- The layer, and the layers that are nested in it at any depth. -/
def Layer.tree : Layer → List Layer
  | .mk info segments index owned => .mk info segments index owned :: treeOfSegments segments

/-- The layers that are nested in segments, at any depth. -/
def treeOfSegments : List Segment → List Layer
  | [] => []
  | segment :: rest => segment.tree ++ treeOfSegments rest

/-- Layers, and the layers that are nested in them at any depth. -/
def treeOfLayers : List Layer → List Layer
  | [] => []
  | layer :: rest => layer.tree ++ treeOfLayers rest

end

/-- The segments that are nested in a segment, at any depth. -/
def Segment.members (segment : Segment) : List Segment := segment.tree.flatMap Layer.segments

/-- The segments of a layer, and those that are nested in them at any depth. -/
def Layer.members (layer : Layer) : List Segment := layer.tree.flatMap Layer.segments

/-- Whether layers can be nested in the segment. -/
def Segment.isDomain : Segment → Bool
  | .experiment _ _ => false
  | .domain _ _ => true

/-- The layers that stand in the segment. -/
def Segment.nested : Segment → List Layer
  | .experiment _ _ => []
  | .domain _ layers => layers

namespace Space

/-- The layers that stand in the space itself. -/
def topLayers (space : Space) : List Layer := space.launchLayers ++ space.permanentLayers

/-- All layers, at any depth. -/
def layers (space : Space) : List Layer := space.topLayers.flatMap Layer.tree

/-- All segments, at any depth. -/
def members (space : Space) : List Segment := space.topLayers.flatMap Layer.members

end Space

/-! ## 2. Induction -/

/-- **Induction over a forest.**  A property of segments and one of layers that hold of a domain or
a layer as soon as they hold of what stands directly in it hold of all. -/
theorem forest_induction {P : Segment → Prop} {Q : Layer → Prop}
    (experiment : ∀ info effect, P (.experiment info effect))
    (domain : ∀ info layers, (∀ l ∈ layers, Q l) → P (.domain info layers))
    (layer : ∀ info segments index owned, (∀ s ∈ segments, P s) →
      Q (.mk info segments index owned)) : (∀ s, P s) ∧ ∀ l, Q l := by
  have nil {α : Type} {R : α → Prop} : ∀ a ∈ ([] : List α), R a := fun _ h => by cases h
  have cons {α : Type} {R : α → Prop} (first : α) (rest : List α) (h : R first)
      (hs : ∀ a ∈ rest, R a) : ∀ a ∈ first :: rest, R a :=
    List.forall_mem_cons.2 ⟨h, hs⟩
  constructor
  · exact Segment.rec (motive_3 := fun layers => ∀ l ∈ layers, Q l)
      (motive_4 := fun segments => ∀ s ∈ segments, P s) experiment domain layer nil cons nil cons
  · exact Layer.rec (motive_3 := fun layers => ∀ l ∈ layers, Q l)
      (motive_4 := fun segments => ∀ s ∈ segments, P s) experiment domain layer nil cons nil cons

/-! ## 3. Membership -/

@[simp] theorem Segment.info_experiment (info : SegmentInfo) (effect : Effect) :
    (Segment.experiment info effect).info = info := rfl

@[simp] theorem Segment.info_domain (info : SegmentInfo) (layers : List Layer) :
    (Segment.domain info layers).info = info := rfl

theorem treeOfSegments_eq : ∀ segments : List Segment,
    treeOfSegments segments = segments.flatMap Segment.tree
  | [] => rfl
  | s :: rest => by rw [treeOfSegments, treeOfSegments_eq rest, List.flatMap_cons]

theorem treeOfLayers_eq : ∀ layers : List Layer, treeOfLayers layers = layers.flatMap Layer.tree
  | [] => rfl
  | l :: rest => by rw [treeOfLayers, treeOfLayers_eq rest, List.flatMap_cons]

@[simp] theorem Segment.tree_experiment (info : SegmentInfo) (effect : Effect) :
    (Segment.experiment info effect).tree = [] := by
  rw [Segment.tree]

@[simp] theorem Segment.tree_domain (info : SegmentInfo) (layers : List Layer) :
    (Segment.domain info layers).tree = layers.flatMap Layer.tree := by
  rw [Segment.tree, treeOfLayers_eq]

theorem Layer.tree_eq (l : Layer) : l.tree = l :: l.segments.flatMap Segment.tree := by
  cases l
  rw [Layer.tree, treeOfSegments_eq, Layer.segments]

theorem Layer.self_mem_tree (l : Layer) : l ∈ l.tree := by
  rw [Layer.tree_eq]
  exact List.mem_cons_self

/-- The layers that are nested in a segment of the layer are nested in the layer. -/
theorem Layer.mem_tree_of_mem {l m : Layer} {s : Segment} (hs : s ∈ l.segments) (hm : m ∈ s.tree) :
    m ∈ l.tree := by
  rw [Layer.tree_eq]
  exact List.mem_cons_of_mem _ (List.mem_flatMap.2 ⟨s, hs, hm⟩)

@[simp] theorem Segment.members_experiment (info : SegmentInfo) (effect : Effect) :
    (Segment.experiment info effect).members = [] := by
  simp [Segment.members]

@[simp] theorem Segment.members_domain (info : SegmentInfo) (layers : List Layer) :
    (Segment.domain info layers).members = layers.flatMap Layer.members := by
  simp only [Segment.members, Segment.tree_domain, List.flatMap_assoc]
  rfl

theorem Segment.tree_eq (s : Segment) : s.tree = s.nested.flatMap Layer.tree := by
  cases s <;> simp [nested]

theorem Segment.members_eq (s : Segment) : s.members = s.nested.flatMap Layer.members := by
  cases s <;> simp [nested]

theorem Layer.members_eq (l : Layer) :
    l.members = l.segments ++ l.segments.flatMap Segment.members := by
  rw [Layer.members, Layer.tree_eq, List.flatMap_cons, List.flatMap_assoc]
  rfl

/-- A segment stands in a layer directly, or inside a segment that does. -/
theorem Layer.mem_members_iff {l : Layer} {s : Segment} :
    s ∈ l.members ↔ ∃ t ∈ l.segments, s = t ∨ s ∈ t.members := by
  rw [Layer.members_eq, List.mem_append, List.mem_flatMap]
  constructor
  · rintro (h | ⟨t, ht, h⟩)
    · exact ⟨s, h, .inl rfl⟩
    · exact ⟨t, ht, .inr h⟩
  · rintro ⟨t, ht, rfl | h⟩
    · exact .inl ht
    · exact .inr ⟨t, ht, h⟩

theorem Layer.mem_members_of_mem {l : Layer} {s : Segment} (h : s ∈ l.segments) : s ∈ l.members :=
  Layer.mem_members_iff.2 ⟨s, h, .inl rfl⟩

/-- What is nested in something nested is nested. -/
theorem members_trans : (∀ s : Segment, ∀ t ∈ s.members, ∀ u ∈ t.members, u ∈ s.members) ∧
    ∀ l : Layer, ∀ t ∈ l.members, ∀ u ∈ t.members, u ∈ l.members := by
  refine forest_induction ?_ ?_ ?_
  · intro info effect t ht
    simp at ht
  · intro info layers ih t ht u hu
    rw [Segment.members_domain, List.mem_flatMap] at ht ⊢
    obtain ⟨l, hl, ht⟩ := ht
    exact ⟨l, hl, ih l hl t ht u hu⟩
  · intro info segments index owned ih t ht u hu
    rw [Layer.mem_members_iff] at ht ⊢
    obtain ⟨s, hs, rfl | ht⟩ := ht
    · exact ⟨t, hs, .inr hu⟩
    · exact ⟨s, hs, .inr (ih s hs t ht u hu)⟩

/-- A layer of the tree of a layer brings its own tree along. -/
theorem tree_trans : (∀ s : Segment, ∀ l ∈ s.tree, ∀ m ∈ l.tree, m ∈ s.tree) ∧
    ∀ k : Layer, ∀ l ∈ k.tree, ∀ m ∈ l.tree, m ∈ k.tree := by
  refine forest_induction ?_ ?_ ?_
  · intro info effect l hl
    simp at hl
  · intro info layers ih l hl m hm
    rw [Segment.tree_domain, List.mem_flatMap] at hl ⊢
    obtain ⟨k, hk, hl⟩ := hl
    exact ⟨k, hk, ih k hk l hl m hm⟩
  · intro info segments index owned ih l hl m hm
    rw [Layer.tree_eq, List.mem_cons, List.mem_flatMap] at hl
    rcases hl with rfl | ⟨s, hs, hl⟩
    · exact hm
    · exact Layer.mem_tree_of_mem hs (ih s hs l hl m hm)

theorem Space.mem_members_iff {space : Space} {s : Segment} :
    s ∈ space.members ↔ ∃ l ∈ space.layers, s ∈ l.segments := by
  simp only [Space.members, Space.layers, Layer.members, List.mem_flatMap]
  constructor
  · rintro ⟨l, hl, m, hm, hs⟩
    exact ⟨m, ⟨l, hl, hm⟩, hs⟩
  · rintro ⟨m, ⟨l, hl, hm⟩, hs⟩
    exact ⟨l, hl, m, hm, hs⟩

/-- What is nested in a segment of the space is a segment of the space. -/
theorem Space.mem_members_of_member {space : Space} {s t : Segment} (hs : s ∈ space.members)
    (ht : t ∈ s.members) : t ∈ space.members := by
  obtain ⟨l, hl, hs⟩ := List.mem_flatMap.1 hs
  exact List.mem_flatMap.2 ⟨l, hl, members_trans.2 l s hs t ht⟩

/-- A layer that stands in the space itself is a layer of the space. -/
theorem Space.mem_layers_of_top {space : Space} {l : Layer} (hl : l ∈ space.topLayers) :
    l ∈ space.layers :=
  List.mem_flatMap.2 ⟨l, hl, l.self_mem_tree⟩

/-- The layers in a layer of the space are layers of the space. -/
theorem Space.mem_layers_of_mem_tree {space : Space} {l m : Layer} (hl : l ∈ space.layers)
    (hm : m ∈ l.tree) : m ∈ space.layers := by
  obtain ⟨k, hk, hl⟩ := List.mem_flatMap.1 hl
  exact List.mem_flatMap.2 ⟨k, hk, tree_trans.2 k l hl m hm⟩

/-- The layers that are nested in a segment of the space are layers of the space. -/
theorem Space.mem_layers_of_member {space : Space} {s : Segment} (hs : s ∈ space.members)
    {l : Layer} (hl : l ∈ s.tree) : l ∈ space.layers := by
  obtain ⟨m, hm, hs⟩ := Space.mem_members_iff.1 hs
  exact Space.mem_layers_of_mem_tree hm (Layer.mem_tree_of_mem hs hl)

/-! ## 4. Ids -/

/-- The id of a segment and the ids of what is nested in it. -/
def Segment.ids (s : Segment) : List SegmentId := (s :: s.members).map (·.info.id)

/-- The ids of the segments of a layer, at any depth. -/
def Layer.ids (l : Layer) : List SegmentId := l.members.map (·.info.id)

theorem Segment.mem_ids_self (s : Segment) : s.info.id ∈ s.ids := by simp [Segment.ids]

theorem Segment.ids_subset_of_mem {s t : Segment} (h : t ∈ s.members) :
    ∀ id ∈ t.ids, id ∈ s.ids := by
  intro id hid
  obtain ⟨u, hu, rfl⟩ := List.mem_map.1 hid
  refine List.mem_map.2 ⟨u, List.mem_cons_of_mem _ ?_, rfl⟩
  rcases List.mem_cons.1 hu with rfl | hu
  · exact h
  · exact members_trans.1 s t h u hu

/-- The ids of a layer are those of its segments, one after the other. -/
theorem Layer.ids_perm (l : Layer) : l.ids.Perm (l.segments.flatMap Segment.ids) := by
  have hperm : (l.segments ++ l.segments.flatMap Segment.members).Perm
      (l.segments.flatMap fun s => s :: s.members) := by
    simpa using List.map_append_flatMap_perm l.segments id Segment.members
  rw [Layer.ids, Layer.members_eq]
  refine (hperm.map _).trans ?_
  rw [List.map_flatMap]
  rfl

theorem Segment.ids_domain (info : SegmentInfo) (layers : List Layer) :
    (Segment.domain info layers).ids = info.id :: layers.flatMap Layer.ids := by
  simp only [Segment.ids, List.map_cons, Segment.members_domain, List.map_flatMap]
  rfl

theorem Layer.ids_subset_of_mem {l : Layer} {t : Segment} (h : t ∈ l.members) :
    ∀ id ∈ t.ids, id ∈ l.ids := by
  intro id hid
  obtain ⟨u, hu, rfl⟩ := List.mem_map.1 hid
  refine List.mem_map.2 ⟨u, ?_, rfl⟩
  rcases List.mem_cons.1 hu with rfl | hu
  · exact h
  · exact members_trans.2 l t h u hu

/-- Where parts have no id in common, parts that share one are the same. -/
theorem eq_of_shared {α : Type} {parts : List α} {ids : α → List SegmentId}
    (h : (parts.flatMap ids).Nodup) {a b : α} (ha : a ∈ parts) (hb : b ∈ parts) {id : SegmentId}
    (hia : id ∈ ids a) (hib : id ∈ ids b) : a = b := by
  have : Std.Symm (Function.onFun List.Disjoint ids) := ⟨fun _ _ h _ ha hb => h hb ha⟩
  by_contra hne
  exact (List.nodup_flatMap.1 h).2.forall ha hb hne hia hib

/-- Two segments are the same, or one is nested in the other, or they have no id in common. -/
def Segment.NestedOrApart (r s : Segment) : Prop :=
  r = s ∨ r ∈ s.members ∨ s ∈ r.members ∨ r.ids.Disjoint s.ids

/-- Where the parts of a list have no id in common, segments of different parts are apart. -/
theorem nestedOrApart_of_parts {α : Type} {parts : List α} {ids : α → List SegmentId}
    {members : α → List Segment} (hids : ∀ a, ∀ s ∈ members a, ∀ id ∈ s.ids, id ∈ ids a)
    (hnodup : (parts.flatMap ids).Nodup)
    (ih : ∀ a ∈ parts, ∀ r ∈ members a, ∀ s ∈ members a, r.NestedOrApart s) :
    ∀ r ∈ parts.flatMap members, ∀ s ∈ parts.flatMap members, r.NestedOrApart s := by
  intro r hr s hs
  obtain ⟨a, ha, hr⟩ := List.mem_flatMap.1 hr
  obtain ⟨b, hb, hs⟩ := List.mem_flatMap.1 hs
  by_cases hab : a = b
  · subst hab
    exact ih a ha r hr s hs
  · refine .inr (.inr (.inr fun id hir his => hab ?_))
    exact eq_of_shared hnodup ha hb (hids a r hr id hir) (hids b s hs id his)

/-- **Nested or apart.**  Where no id is used twice, two segments inside a segment or a layer are
nested, one in the other, or have no id in common. -/
theorem nested_or_apart :
    (∀ t : Segment, t.ids.Nodup → ∀ r ∈ t.members, ∀ s ∈ t.members, r.NestedOrApart s) ∧
    ∀ l : Layer, l.ids.Nodup → ∀ r ∈ l.members, ∀ s ∈ l.members, r.NestedOrApart s := by
  refine forest_induction ?_ ?_ ?_
  · intro info effect _ r hr
    simp at hr
  · intro info layers ih hnodup
    rw [Segment.ids_domain, List.nodup_cons] at hnodup
    rw [Segment.members_domain]
    refine nestedOrApart_of_parts (fun l _ => Layer.ids_subset_of_mem) hnodup.2 fun l hl => ?_
    exact ih l hl ((List.nodup_flatMap.1 hnodup.2).1 l hl)
  · intro info segments index owned ih hnodup r hr s hs
    have hparts := (Layer.ids_perm _).nodup_iff.1 hnodup
    have hmem : ∀ t ∈ (Layer.mk info segments index owned).members,
        t ∈ segments.flatMap fun s => s :: s.members := by
      intro t ht
      obtain ⟨u, hu, h⟩ := Layer.mem_members_iff.1 ht
      exact List.mem_flatMap.2 ⟨u, hu, List.mem_cons.2 h⟩
    refine nestedOrApart_of_parts ?_ hparts ?_
      r (hmem r hr) s (hmem s hs)
    · intro t u hu id hid
      rcases List.mem_cons.1 hu with rfl | hu
      · exact hid
      · exact Segment.ids_subset_of_mem hu id hid
    · intro t ht r hr s hs
      have hnodup' := (List.nodup_flatMap.1 hparts).1 t ht
      rcases List.mem_cons.1 hr with rfl | hr <;> rcases List.mem_cons.1 hs with rfl | hs
      · exact .inl rfl
      · exact .inr (.inr (.inl hs))
      · exact .inr (.inl hr)
      · exact ih t ht hnodup' r hr s hs

/-- The ids of all segments of a space, at any depth. -/
def Space.ids (space : Space) : List SegmentId := space.members.map (·.info.id)

theorem Space.ids_eq (space : Space) : space.ids = space.topLayers.flatMap Layer.ids := by
  rw [Space.ids, Space.members, List.map_flatMap]
  rfl

theorem Space.nested_or_apart {space : Space} (h : space.ids.Nodup) :
    ∀ r ∈ space.members, ∀ s ∈ space.members, r.NestedOrApart s := by
  rw [Space.ids_eq] at h
  refine nestedOrApart_of_parts (fun l _ => Layer.ids_subset_of_mem) h fun l hl => ?_
  exact Rollout.nested_or_apart.2 l ((List.nodup_flatMap.1 h).1 l hl)

/-- Where no id is used twice, none is used twice inside a segment. -/
theorem nodup_ids_of_member :
    (∀ t : Segment, t.ids.Nodup → ∀ s ∈ t.members, s.ids.Nodup) ∧
    ∀ l : Layer, l.ids.Nodup → ∀ s ∈ l.members, s.ids.Nodup := by
  refine forest_induction ?_ ?_ ?_
  · intro info effect _ s hs
    simp at hs
  · intro info layers ih hnodup s hs
    rw [Segment.ids_domain, List.nodup_cons] at hnodup
    rw [Segment.members_domain] at hs
    obtain ⟨l, hl, hs⟩ := List.mem_flatMap.1 hs
    exact ih l hl ((List.nodup_flatMap.1 hnodup.2).1 l hl) s hs
  · intro info segments index owned ih hnodup s hs
    have hparts := (List.nodup_flatMap.1 ((Layer.ids_perm _).nodup_iff.1 hnodup)).1
    obtain ⟨t, ht, rfl | hs⟩ := Layer.mem_members_iff.1 hs
    · exact hparts s ht
    · exact ih t ht (hparts t ht) s hs

theorem Space.nodup_ids_of_member {space : Space} (h : space.ids.Nodup) {s : Segment}
    (hs : s ∈ space.members) : s.ids.Nodup := by
  rw [Space.ids_eq] at h
  obtain ⟨l, hl, hs⟩ := List.mem_flatMap.1 hs
  exact Rollout.nodup_ids_of_member.2 l ((List.nodup_flatMap.1 h).1 l hl) s hs

/-- Where no id is used twice, the id of a segment is its own. -/
theorem Space.eq_of_id_eq {space : Space} (h : space.ids.Nodup) {r s : Segment}
    (hr : r ∈ space.members) (hs : s ∈ space.members) (hid : r.info.id = s.info.id) : r = s :=
  List.inj_on_of_nodup_map h hr hs hid

/-- Where no id is used twice, a launch layer has none in common with another layer of the space
itself. -/
theorem Space.disjoint_passes {space : Space} (h : space.ids.Nodup) {l m : Layer}
    (hl : l ∈ space.launchLayers) (hm : m ∈ space.permanentLayers) : l.ids.Disjoint m.ids := by
  rw [Space.ids_eq, Space.topLayers, List.flatMap_append, List.nodup_append] at h
  intro id hil him
  exact h.2.2 id (List.mem_flatMap.2 ⟨l, hl, hil⟩) id (List.mem_flatMap.2 ⟨m, hm, him⟩) rfl

/-- Where no id is used twice, layers of the space itself that share one are the same. -/
theorem Space.eq_of_mem_ids {space : Space} (h : space.ids.Nodup) {l m : Layer}
    (hl : l ∈ space.topLayers) (hm : m ∈ space.topLayers) {id : SegmentId} (hil : id ∈ l.ids)
    (him : id ∈ m.ids) : l = m := by
  rw [Space.ids_eq] at h
  exact eq_of_shared h hl hm hil him

/-- Where no id is used twice, a segment that is nested in a segment of a layer does not stand in
the layer itself. -/
theorem Layer.id_ne_of_nested {l : Layer} (h : l.ids.Nodup) {s t u : Segment} (hs : s ∈ l.segments)
    (ht : t ∈ s.members) (hu : u ∈ l.segments) : u.info.id ≠ t.info.id := by
  have hparts := (Layer.ids_perm l).nodup_iff.1 h
  have hts : t.info.id ∈ s.members.map (·.info.id) := List.mem_map_of_mem ht
  intro heq
  obtain rfl : s = u :=
    eq_of_shared hparts hs hu (List.mem_cons_of_mem _ hts) (heq ▸ u.mem_ids_self)
  have hself := (List.nodup_flatMap.1 hparts).1 s hs
  rw [Segment.ids, List.map_cons, List.nodup_cons] at hself
  exact hself.1 (heq ▸ hts)

end Rollout
