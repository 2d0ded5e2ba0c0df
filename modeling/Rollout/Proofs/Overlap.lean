import Mathlib.Data.List.Pairwise
import Rollout.Assembly
import Rollout.Proofs.Builder
/-!
# Layers that get in each other's way

Two layers with experiments that override one flag must not meet in a request: not both of them may
be launch layers, and of two others neither may be nested in the other.  `Builder.Clash` says so for
two layers.  The builder lists the layers that override the flag and searches the list for a pair;
`flagError?_eq_none_iff` says that it finds one exactly if two layers clash, and `build_isOk_iff`
that the space is put together exactly if none do.
-/

namespace Rollout

namespace Builder

/-! ## 1. Searching for a pair -/

/-- The search finds nothing exactly if no two members of the list are related. -/
theorem findPair?_eq_none_iff {α : Type} {related : α → α → Bool} : ∀ {l : List α},
    findPair? related l = none ↔ l.Pairwise fun a b => related a b = false
  | [] => by simp [findPair?]
  | first :: rest => by
    rw [findPair?, List.pairwise_cons, ← findPair?_eq_none_iff]
    cases h : rest.find? (related first) with
    | none =>
      have hnone : ∀ other ∈ rest, related first other = false := by simpa using h
      exact (and_iff_right hnone).symm
    | some second =>
      have hsecond := List.find?_some h
      have hmem := List.mem_of_find?_eq_some h
      simp only [reduceCtorEq, false_iff, not_and]
      intro hnone
      rw [hnone second hmem] at hsecond
      cases hsecond

/-- A list that ascends by keys has at most one member exactly if all have the same key. -/
theorem length_le_one_iff {α : Type} {key : α → LayerId} {l : List α}
    (h : l.Pairwise fun a b => key a < key b) :
    l.length ≤ 1 ↔ ∀ a ∈ l, ∀ b ∈ l, key a = key b := by
  match l with
  | [] => simp
  | [a] => simp
  | a :: b :: rest =>
    have hlt := List.rel_of_pairwise_cons h List.mem_cons_self
    constructor
    · intro hlength
      simp at hlength
    · intro hall
      have heq := hall a List.mem_cons_self b (List.mem_cons_of_mem _ List.mem_cons_self)
      exact absurd (heq ▸ hlt) Int32.lt_irrefl

/-! ## 2. Lineages -/

variable {b : Builder}

/-- The search for the lineage of a layer passes by the layers that are not it. -/
theorem lineageIn_append {older : List LayerDraft} {id : LayerId} : ∀ {newer : List LayerDraft},
    (∀ d ∈ newer, d.info.id ≠ id) → lineageIn (newer ++ older) id = lineageIn older id
  | [], _ => rfl
  | d :: newer, h => by
    rw [List.cons_append, lineageIn, if_neg (h d List.mem_cons_self)]
    exact lineageIn_append fun e he => h e (List.mem_cons_of_mem _ he)

/-- What is not a layer has a lineage of its own id alone. -/
theorem lineage_of_not_hasLayer {id : LayerId} (h : ∀ d ∈ b.drafts, d.info.id ≠ id) :
    b.lineage id = [id] := by
  have hnone := @lineageIn_append [] id b.drafts h
  rw [List.append_nil] at hnone
  rw [lineage, hnone, lineageIn]

/-- The lineage of a layer is found where the layer is. -/
theorem Sound.lineage_eq (hb : b.Sound) {newer older : List LayerDraft} {d : LayerDraft}
    (hdrafts : b.drafts = newer ++ older) (hd : d ∈ older) :
    b.lineage d.info.id = lineageIn older d.info.id := by
  have hids := hb.layerIds
  rw [hdrafts, List.map_append, List.nodup_append] at hids
  rw [lineage, hdrafts]
  exact lineageIn_append fun e he =>
    hids.2.2 _ (List.mem_map_of_mem he) _ (List.mem_map_of_mem hd)

theorem Sound.lineage_top (hb : b.Sound) {d : LayerDraft} (hd : d ∈ b.drafts)
    (htop : d.info.isTop = true) : b.lineage d.info.id = [d.info.id] := by
  obtain ⟨newer, older, hdrafts⟩ := List.append_of_mem hd
  rw [hb.lineage_eq hdrafts List.mem_cons_self, lineageIn, if_pos rfl, if_pos htop]

/-- **A nested layer** has the lineage of the layer that its domain is in, and itself. -/
theorem Sound.lineage_nested (hb : b.Sound) {d e : LayerDraft} (hd : d ∈ b.drafts)
    (htop : d.info.isTop = false) (he : e ∈ b.drafts) {s : SegmentDefinition}
    (hs : s ∈ e.segments) (hid : s.info.id = d.info.domain) :
    b.lineage d.info.id = d.info.id :: b.lineage e.info.id := by
  obtain ⟨newer, older, hdrafts⟩ := List.append_of_mem hd
  have hdrafts' : b.drafts = (newer ++ [d]) ++ older := by simp [hdrafts]
  -- the only layer with a segment of that id is an older one
  have houter : ∀ f ∈ older, (∃ t ∈ f.segments, t.info.id = d.info.domain) → f = e := by
    rintro f hf ⟨t, ht, htid⟩
    have hf' : f ∈ b.drafts := by simp [hdrafts, hf]
    obtain rfl := List.inj_on_of_nodup_map hb.segmentIds (mem_segments_iff.2 ⟨f, hf', ht⟩)
      (mem_segments_iff.2 ⟨e, he, hs⟩) (htid.trans hid.symm)
    exact hb.eq_of_mem_segments hf' he ht hs
  have hnested : ∃ f ∈ older, ∃ t ∈ f.segments, t.info.id = d.info.domain := by
    obtain ⟨f, hf, t, ht, -, htid⟩ := Nested.domain (hdrafts ▸ hb.nested) htop
    exact ⟨f, hf, t, ht, htid⟩
  have hfind : (older.find? fun f => f.segments.any fun t => t.info.id == d.info.domain) =
      some e := by
    have hsome : (older.find? fun f => f.segments.any fun t =>
        t.info.id == d.info.domain).isSome = true := List.find?_isSome.2 (by simpa using hnested)
    obtain ⟨f, hf⟩ := Option.isSome_iff_exists.1 hsome
    have hany : ∃ t ∈ f.segments, t.info.id = d.info.domain := by simpa using List.find?_some hf
    rw [hf, houter f (List.mem_of_find?_eq_some hf) hany]
  have heolder := List.mem_of_find?_eq_some hfind
  rw [hb.lineage_eq hdrafts List.mem_cons_self, hb.lineage_eq hdrafts' heolder, lineageIn,
    if_pos rfl, if_neg (by simp [htop]), hfind]

/-! ## 3. The layers that override a flag -/

theorem mem_overridingLayers_iff (hb : b.Sound) {flag : String} {layer : LayerId × LayerDraft} :
    layer ∈ b.overridingLayers flag ↔
      layer.2 ∈ b.drafts ∧ overridesFlag flag layer.2 = true ∧ layer.1 = layer.2.info.id := by
  obtain ⟨id, d⟩ := layer
  have hnodup : (((b.drafts.filter (overridesFlag flag)).map fun d => (d.info.id, d)).map
      (·.1)).Nodup := by
    rw [List.map_map]
    exact hb.layerIds.sublist (List.filter_sublist.map _)
  rw [overridingLayers, ← Table.get?_eq_some_iff, Table.get?_ofList hnodup]
  simp only [List.mem_map, List.mem_filter, Prod.mk.injEq]
  constructor
  · rintro ⟨d, ⟨hd, ho⟩, rfl, rfl⟩
    exact ⟨hd, ho, rfl⟩
  · rintro ⟨hd, ho, rfl⟩
    exact ⟨d, ⟨hd, ho⟩, rfl, rfl⟩

/-- The layers that override a flag ascend. -/
theorem ascending_overridingLayers (b : Builder) (flag : String) :
    (b.overridingLayers flag).Pairwise fun l m => l.1 < m.1 :=
  (Table.ascending _).imp Std.compare_eq_lt.1

theorem overlapping_comm (b : Builder) (first second : LayerId) :
    b.overlapping first second = b.overlapping second first :=
  Bool.or_comm ..

/-- Two layers that override a flag must not meet in a request, but may. -/
structure Clash (b : Builder) (flag : String) (d e : LayerDraft) : Prop where
  first : overridesFlag flag d = true
  second : overridesFlag flag e = true
  different : d.info.id ≠ e.info.id
  meet : d.info.launch = true ∧ e.info.launch = true ∨
    d.info.launch = false ∧ e.info.launch = false ∧ b.overlapping d.info.id e.info.id = true

/-- The layers of a draft list that override a flag and pass a test, in the list of the builder. -/
theorem mem_filter_overridingLayers_iff (hb : b.Sound) {flag : String} (p : LayerDraft → Bool)
    {layer : LayerId × LayerDraft} :
    layer ∈ (b.overridingLayers flag).filter (fun l => p l.2) ↔
      (layer.2 ∈ b.drafts ∧ overridesFlag flag layer.2 = true ∧ layer.1 = layer.2.info.id) ∧
        p layer.2 = true := by
  rw [List.mem_filter, mem_overridingLayers_iff hb]

/-- At most one launch layer is listed exactly if no two of them override the flag. -/
theorem length_launch_le_one_iff (hb : b.Sound) {flag : String} :
    ((b.overridingLayers flag).filter fun l => l.2.info.launch).length ≤ 1 ↔
      ∀ d ∈ b.drafts, ∀ e ∈ b.drafts, overridesFlag flag d = true → overridesFlag flag e = true →
        d.info.launch = true → e.info.launch = true → d.info.id = e.info.id := by
  have hmem := @mem_filter_overridingLayers_iff b hb flag fun d => d.info.launch
  rw [length_le_one_iff ((ascending_overridingLayers b flag).filter _)]
  constructor
  · intro h d hd e he hod hoe hld hle
    exact h (d.info.id, d) (hmem.2 ⟨⟨hd, hod, rfl⟩, hld⟩) (e.info.id, e)
      (hmem.2 ⟨⟨he, hoe, rfl⟩, hle⟩)
  · intro h l hl m hm
    obtain ⟨⟨hd, hod, hlid⟩, hld⟩ := hmem.1 hl
    obtain ⟨⟨he, hoe, hmid⟩, hle⟩ := hmem.1 hm
    rw [hlid, hmid]
    exact h l.2 hd m.2 he hod hoe hld hle

/-- No pair of the other layers is found exactly if none of those that override the flag is nested
in another one. -/
theorem findPair?_permanent_iff (hb : b.Sound) {flag : String} :
    findPair? b.overlapping
        (((b.overridingLayers flag).filter fun l => !l.2.info.launch).map (·.1)) = none ↔
      ∀ d ∈ b.drafts, ∀ e ∈ b.drafts, overridesFlag flag d = true → overridesFlag flag e = true →
        d.info.launch = false → e.info.launch = false → d.info.id ≠ e.info.id →
          b.overlapping d.info.id e.info.id = false := by
  have hmem := @mem_filter_overridingLayers_iff b hb flag fun d => !d.info.launch
  simp only [Bool.not_eq_true'] at hmem
  rw [findPair?_eq_none_iff, List.pairwise_map]
  constructor
  · intro h d hd e he hod hoe hpd hpe hne
    have hsymm : Std.Symm fun l m : LayerId × LayerDraft => b.overlapping l.1 m.1 = false :=
      ⟨fun l m h => (b.overlapping_comm m.1 l.1).trans h⟩
    have hne' : (d.info.id, d) ≠ (e.info.id, e) := fun heq => hne (congrArg Prod.fst heq)
    exact h.forall (hmem.2 ⟨⟨hd, hod, rfl⟩, hpd⟩) (hmem.2 ⟨⟨he, hoe, rfl⟩, hpe⟩) hne'
  · intro h
    refine ((ascending_overridingLayers b flag).filter _).imp_of_mem fun {l m} hl hm hlt => ?_
    obtain ⟨⟨hd, hod, hlid⟩, hpd⟩ := hmem.1 hl
    obtain ⟨⟨he, hoe, hmid⟩, hpe⟩ := hmem.1 hm
    rw [hlid, hmid] at hlt ⊢
    exact h l.2 hd m.2 he hod hoe hpd hpe fun heq => Int32.lt_irrefl (heq ▸ hlt)

/-- **The search is exact.**  Something is wrong with the layers that override a flag exactly if two
of them clash. -/
theorem flagError?_eq_none_iff (hb : b.Sound) {flag : String} :
    b.flagError? flag = none ↔ ∀ d ∈ b.drafts, ∀ e ∈ b.drafts, ¬ b.Clash flag d e := by
  have hsplit : b.flagError? flag = none ↔
      ((b.overridingLayers flag).filter fun l => l.2.info.launch).length ≤ 1 ∧
        findPair? b.overlapping
          (((b.overridingLayers flag).filter fun l => !l.2.info.launch).map (·.1)) = none := by
    rw [flagError?, List.partition_eq_filter_filter]
    dsimp only
    split
    · next hmany => simp [Nat.not_le.2 hmany]
    · next hfew => simp [Nat.not_lt.1 hfew, Function.comp_def]
  rw [hsplit, length_launch_le_one_iff hb, findPair?_permanent_iff hb]
  constructor
  · rintro ⟨hone, hapart⟩ d hd e he ⟨hod, hoe, hne, ⟨hld, hle⟩ | ⟨hpd, hpe, hover⟩⟩
    · exact hne (hone d hd e he hod hoe hld hle)
    · rw [hapart d hd e he hod hoe hpd hpe hne] at hover
      cases hover
  · intro hnone
    refine ⟨fun d hd e he hod hoe hld hle => ?_, fun d hd e he hod hoe hpd hpe hne => ?_⟩
    · by_contra hne
      exact hnone d hd e he ⟨hod, hoe, hne, .inl ⟨hld, hle⟩⟩
    · exact Bool.eq_false_iff.2 fun hover =>
        hnone d hd e he ⟨hod, hoe, hne, .inr ⟨hpd, hpe, hover⟩⟩

/-- The builder looks at each flag that is overridden. -/
theorem mem_overriddenFlags_keys {flag : String} {d : LayerDraft} (hd : d ∈ b.drafts)
    (h : overridesFlag flag d = true) : flag ∈ b.overriddenFlags.keys := by
  obtain ⟨s, hs, ho⟩ := List.any_eq_true.1 h
  refine Table.mem_keys_iff.2 (KeySet.contains_ofKeys.2 (List.mem_flatMap.2 ⟨s, ?_, ?_⟩))
  · exact mem_segments_iff.2 ⟨d, hd, hs⟩
  · exact Table.mem_keys_iff.2 ho

/-- **When a space is put together**: exactly if no two layers clash over a flag. -/
theorem build_isOk_iff (hb : b.Sound) {version : String} :
    (∃ space, b.build version = .ok space) ↔
      ∀ flag, ∀ d ∈ b.drafts, ∀ e ∈ b.drafts, ¬ b.Clash flag d e := by
  have hbuild : (∃ space, b.build version = .ok space) ↔
      ∀ flag ∈ b.overriddenFlags.keys, b.flagError? flag = none := by
    rw [← List.findSome?_eq_none_iff]
    unfold build
    split
    · next e he => simp [he]
    · next he => simp [he]
  rw [hbuild]
  refine forall_congr' fun flag => ?_
  rw [flagError?_eq_none_iff hb]
  exact ⟨fun h d hd e he hclash =>
    h (mem_overriddenFlags_keys hd hclash.first) d hd e he hclash, fun h _ => h⟩

/-! ## 4. What is known of them -/

/-- What is known of the layers that override a flag, in ascending order. -/
def rivals (b : Builder) (flag : String) : List LayerInfo :=
  (b.overridingLayers flag).map (·.2.info)

/-- What is wrong with the layers that override a flag shows in what is known of them. -/
theorem flagError?_eq_rivals (hb : b.Sound) (flag : String) : b.flagError? flag =
    if 1 < ((b.rivals flag).filter (·.launch)).length then
      some (.multipleLaunchLayers flag (((b.rivals flag).filter (·.launch)).map (·.id)))
    else (findPair? b.overlapping (((b.rivals flag).filter fun info => !info.launch).map
      (·.id))).map fun pair => .overlappingLayers flag pair.1 pair.2 := by
  have hids : ∀ p : LayerInfo → Bool,
      ((b.overridingLayers flag).filter fun l => p l.2.info).map (·.1) =
        ((b.rivals flag).filter p).map (·.id) := by
    intro p
    rw [rivals, List.filter_map, List.map_map]
    refine List.map_congr_left fun l hl => ?_
    exact ((mem_overridingLayers_iff hb).1 (List.mem_filter.1 hl).1).2.2
  have hlength : ((b.overridingLayers flag).filter fun l => l.2.info.launch).length =
      ((b.rivals flag).filter (·.launch)).length := by
    rw [rivals, List.filter_map, List.length_map]
    rfl
  simp only [flagError?, List.partition_eq_filter_filter, hlength]
  rw [hids (·.launch)]
  exact congrArg _ (congrArg _ (congrArg _ (hids fun info => !info.launch)))

theorem mem_rivals_iff (hb : b.Sound) {flag : String} {info : LayerInfo} :
    info ∈ b.rivals flag ↔ ∃ d ∈ b.drafts, overridesFlag flag d = true ∧ d.info = info := by
  simp only [rivals, List.mem_map, mem_overridingLayers_iff hb]
  constructor
  · rintro ⟨l, ⟨hd, ho, -⟩, rfl⟩
    exact ⟨l.2, hd, ho, rfl⟩
  · rintro ⟨d, hd, ho, rfl⟩
    exact ⟨(d.info.id, d), ⟨hd, ho, rfl⟩, rfl⟩

theorem ascending_rivals (hb : b.Sound) (flag : String) :
    (b.rivals flag).Pairwise fun i j => i.id < j.id := by
  refine List.pairwise_map.2
    ((ascending_overridingLayers b flag).imp_of_mem fun {l m} hl hm hlt => ?_)
  rwa [((mem_overridingLayers_iff hb).1 hl).2.2, ((mem_overridingLayers_iff hb).1 hm).2.2] at hlt

end Builder

end Rollout
