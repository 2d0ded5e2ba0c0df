import Rollout.Proofs.Contention
import Rollout.Proofs.Ownership
/-!
# Labels of what is recorded

A space works out the labels of ids once, when it is put together: for every segment, and for every
id that a layer of the space itself owns.  What a diversion records comes about elsewhere, on the
way of a request through layers and domains, and that way starts in the middle of the space if the
request is forced into a segment there.

The two agree.  A request gains no id from a layer but those that the layer owns, and what is owned
at any depth is owned at the top (`Space.owned_at_top`), wherever the way starts.  So every id that
a diversion records has its label (`records_only_owned`).
-/

namespace Rollout

/-! ## 1. From anywhere to the top -/

namespace Space

variable {space : Space} {id : SegmentId}

/-- What a layer of the space owns, at any depth, is owned by a layer that stands in the space
itself. -/
theorem owned_at_top {l : Layer} (hl : l ∈ space.layers) (h : l.Owns id) :
    ∃ top ∈ space.topLayers, top.Owns id := by
  obtain ⟨top, htop, hl⟩ := List.mem_flatMap.1 hl
  exact ⟨top, htop, Layer.owns_of_mem_tree hl h⟩

/-- So is what a segment of the space owns, by the layer that it stands in. -/
theorem owned_at_top_of_member {s : Segment} (hs : s ∈ space.members) (h : s.Owns id) :
    ∃ top ∈ space.topLayers, top.Owns id := by
  obtain ⟨l, hl, hs⟩ := mem_members_iff.1 hs
  exact owned_at_top hl (Layer.owns_iff.2 (.inr ⟨s, hs, h⟩))

theorem get?_labelsOf (segments : Table SegmentId Segment) (layers : List Layer) :
    (labelsOf segments layers).get? id = some (labelText id) ↔
      segments.contains id = true ∨ ∃ l ∈ layers, l.owned.contains id = true := by
  rw [labelsOf, Table.get?_mapValues, ← Table.mem_keys_iff, ← KeySet.contains_ofKeys,
    ← KeySet.contains_foldl_union, Table.contains_iff]
  simp

end Space

namespace Builder

variable {b : Builder} {version : String} {space : Space}

/-- The sets that the layers of a built space keep hold what the layers own. -/
theorem contains_owned_build (hb : b.Sound) (h : b.build version = .ok space) {l : Layer}
    (hl : l ∈ space.layers) (id : SegmentId) : l.owned.contains id = true ↔ l.Owns id :=
  (contains_owned_iff id).2 l fun m hm =>
    made_build hb h m (Space.mem_layers_of_mem_tree hl hm)

/-- **What has a label:** the segments of the space, and what the layers of the space itself own. -/
theorem get?_labels_build (hb : b.Sound) (h : b.build version = .ok space) {id : SegmentId} :
    space.labels.get? id = some (Space.labelText id) ↔
      id ∈ space.ids ∨ ∃ top ∈ space.topLayers, top.Owns id := by
  have hlabels : space.labels = Space.labelsOf space.segments space.topLayers := by
    rw [(build_ok h).2]
    rfl
  rw [hlabels, Space.get?_labelsOf]
  refine or_congr ?_ (exists_congr fun top => and_congr_right fun htop => ?_)
  · rw [Table.contains_iff, Space.ids, List.mem_map]
    exact exists_congr fun s => get?_segments_build hb h
  · exact contains_owned_build hb h (Space.mem_layers_of_top htop) id

/-! ## 2. What is recorded -/

/-- A request gets through every layer of a built space, and gains no id there that the layer does
not own. -/
theorem gain_owned (hb : b.Sound) (h : b.build version = .ok space) {l : Layer}
    (hl : l ∈ space.layers) (scope : Scope) (gain : Gain) :
    ∃ after, gain.visitAll scope (l.visits scope) = .ok after ∧ ∀ id,
      after.ids.contains id = true → gain.ids.contains id = true ∨ l.owned.contains id = true := by
  have hdivides : ∀ m ∈ l.tree, m.Divides space.criteria := fun m hm =>
    divides_build hb h m (Space.mem_layers_of_mem_tree hl hm)
  obtain ⟨after, hafter⟩ :=
    Gain.visitAll_isOk scope _ gain ((not_contested_visits scope).2 l hdivides)
  refine ⟨after, hafter, fun id hid => ?_⟩
  refine ((Gain.contains_ids_visitAll hafter).1 hid).imp_right fun ⟨v, hv, hrecorded⟩ => ?_
  exact (contains_owned_build hb h hl id).2 ((owns_of_recorded scope).2 l v hv id hrecorded)

/-- Wherever the way of a request starts, what it records is owned by a layer of the space
itself. -/
theorem owned_of_visit (hb : b.Sound) (h : b.build version = .ok space)
    {disabled carried : KeySet SegmentId} {host : Host} {draws : Draws} {context : Context}
    {v : Visit} (hv : v ∈ Snapshot.visits ⟨space, disabled⟩ host draws context carried)
    {id : SegmentId} (hid : v.recorded? = some id) : ∃ top ∈ space.topLayers, top.Owns id := by
  rcases (mem_visits_iff hb h).1 hv with ⟨-, l, hl, hv⟩ | ⟨s, hs, -, -, -, hv⟩
  · exact ⟨l, hl, (owns_of_recorded _).2 l v hv id hid⟩
  · exact Space.owned_at_top_of_member hs ((owns_of_recorded _).1 s [] v hv id hid)

end Builder

/-- **What is recorded is owned and has a label.**  Whatever calls a space was built by, each of its
layers, at any depth, keeps exactly the ids that are named in it or in what is nested there.  A
request that comes to the layer gains none but these, whatever it brings along and whatever is
drawn.  So each id that a diversion records, forced or not, has its label in the space. -/
theorem records_only_owned {declared : FlagRegistry} {calls : List Builder.Call} {version : String}
    {space : Space} (h : ((Builder.start declared).run calls).build version = .ok space) :
    (∀ l ∈ space.layers, (∀ id, l.owned.contains id = true ↔ l.Owns id) ∧
      ∀ (scope : Scope) (gain : Gain), ∃ after,
        gain.visitAll scope (l.visits scope) = .ok after ∧ ∀ id, after.ids.contains id = true →
          gain.ids.contains id = true ∨ l.owned.contains id = true) ∧
    ∀ disabled host draws context carried, ∃ d,
      Snapshot.divert ⟨space, disabled⟩ host draws context carried = .ok d ∧
      ∀ id, d.ids.contains id = true → space.labels.get? id = some (Space.labelText id) := by
  have hb := Builder.sound_run declared calls
  refine ⟨fun l hl => ⟨Builder.contains_owned_build hb h hl, Builder.gain_owned hb h hl⟩, ?_⟩
  intro disabled host draws context carried
  obtain ⟨d, hd⟩ :=
    Snapshot.divert_isOk (Builder.not_contested_build hb h disabled host draws context carried)
  refine ⟨d, hd, fun id hid => ?_⟩
  obtain ⟨v, hv, hrecorded⟩ := (Snapshot.mem_ids_divert hd).1 hid
  exact (Builder.get?_labels_build hb h).2 (.inr (Builder.owned_of_visit hb h hv hrecorded))

/-- A request that is forced into a domain falls back in the layer there.  The layer around the
domain owns the id, and the id has a label. -/
theorem records_only_owned_forced : ∃ space top d,
    ((Builder.start .empty).run Builder.someCalls).build "v" = .ok space ∧
    (Snapshot.of space).divert (fun _ _ => false) (fun _ _ _ => 0)
      ⟨.empty, .empty, KeySet.ofKeys [10], 0⟩ .empty = .ok d ∧
    d.ids.keys = [201] ∧ space.topLayers = [top] ∧ top.Owns 201 ∧
    space.labels.get? 201 = some "201" := by
  have hbuild : ((Builder.start .empty).run Builder.someCalls).build "v" = .ok _ := rfl
  obtain ⟨hlayers, hlabels⟩ := records_only_owned hbuild
  obtain ⟨d, hd, hids⟩ := hlabels .empty (fun _ _ => false) (fun _ _ _ => 0)
    ⟨.empty, .empty, KeySet.ofKeys [10], 0⟩ .empty
  have hkeys : d.ids.keys = [201] := by
    cases hd
    rfl
  have hid : d.ids.contains 201 = true := Table.mem_keys_iff.1 (hkeys ▸ List.mem_cons_self)
  have howns := ((hlayers _ (Space.mem_layers_of_top (.head _))).1 201).1 rfl
  exact ⟨_, _, d, hbuild, hd, hkeys, rfl, howns, hids 201 hid⟩

end Rollout
