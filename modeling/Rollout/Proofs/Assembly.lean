import Mathlib.Data.List.Nodup
import Mathlib.Data.List.Perm.Basic
import Rollout.Assembly
import Rollout.Proofs.Builder
import Rollout.Proofs.Tree
/-!
# The space is what the builder holds

A space is put together by one fold over the layers, the innermost first.  `Mirrors` says what the
fold has done at each point: every layer that it has come to waits under its domain, made of its
segments and of the layers that wait under those.  The point is that a domain is complete when the
fold comes to it, because every layer in it was added later (`mirrors_assembleLayer`).

What follows for a space that was built:

* every layer in it, at any depth, is that of a draft (`layer_of_build`), and every segment that of
  a definition (`member_of_build`);
* it has the ids of the accepted segments, each once (`ids_build`);
* the segments are found by their ids (`get?_segments_build`);
* layers that stand side by side are in ascending order of their ids (`ascending_build`).
-/

namespace Rollout

/-! ## 1. What hangs together by keys -/

section

variable {α κ : Type} [DecidableEq κ]

/-- A list sorted by keys that are named once each: what has the first, the second and so on, and
then what has none of them. -/
theorem perm_flatMap_filter (key : α → κ) : ∀ (keys : List κ) (l : List α), keys.Nodup →
    l.Perm (keys.flatMap (fun k => l.filter fun a => key a = k) ++ l.filter fun a => key a ∉ keys)
  | [], l, _ => by simp
  | k :: keys, l, h => by
    have h' := List.nodup_cons.1 h
    have hsplit := List.filter_append_perm (fun a => decide (key a = k)) l
    have ih := perm_flatMap_filter key keys (l.filter fun a => !decide (key a = k)) h'.2
    have hkeys : (keys.flatMap fun j => (l.filter fun a => !decide (key a = k)).filter
        fun a => key a = j) = keys.flatMap fun j => l.filter fun a => key a = j := by
      refine List.flatMap_congr fun j hj => ?_
      rw [List.filter_filter]
      refine List.filter_congr fun a _ => ?_
      have hne : j ≠ k := fun heq => h'.1 (heq ▸ hj)
      by_cases ha : key a = j <;> simp [ha, hne]
    have hrest : ((l.filter fun a => !decide (key a = k)).filter fun a => key a ∉ keys) =
        l.filter fun a => key a ∉ k :: keys := by
      rw [List.filter_filter]
      refine List.filter_congr fun a _ => ?_
      simp [Bool.and_comm]
    rw [hkeys, hrest] at ih
    rw [List.flatMap_cons, List.append_assoc]
    exact hsplit.symm.trans (ih.append_left _)

/-- What hangs on nothing in the rest of a list hangs on what its first member owns, or on nothing
in the whole list. -/
theorem perm_roots_cons (key : α → κ) (own : α → List κ) {first : α} {rest : List α}
    (hfirst : (own first).Nodup) (hdisj : ∀ k ∈ own first, k ∉ rest.flatMap own) :
    (rest.filter fun a => key a ∉ rest.flatMap own).Perm
      ((own first).flatMap (fun k => rest.filter fun a => key a = k) ++
        rest.filter fun a => key a ∉ (first :: rest).flatMap own) := by
  have hsort := perm_flatMap_filter key (own first)
    (rest.filter fun a => key a ∉ rest.flatMap own) hfirst
  have hhang : ((own first).flatMap fun k =>
      (rest.filter fun a => key a ∉ rest.flatMap own).filter fun a => key a = k) =
      (own first).flatMap fun k => rest.filter fun a => key a = k := by
    refine List.flatMap_congr fun k hk => ?_
    rw [List.filter_filter]
    refine List.filter_congr fun a _ => ?_
    by_cases ha : key a = k
    · simp only [ha, hdisj k hk, not_false_eq_true, decide_true, Bool.and_self]
    · simp only [ha, decide_false, Bool.false_and]
  have hstay : ((rest.filter fun a => key a ∉ rest.flatMap own).filter
      fun a => key a ∉ own first) = rest.filter fun a => key a ∉ (first :: rest).flatMap own := by
    rw [List.filter_filter]
    refine List.filter_congr fun a _ => ?_
    simp only [List.flatMap_cons, List.mem_append, not_or, Bool.decide_and]
  rw [hhang, hstay] at hsort
  exact hsort

/-- **What hangs on the roots is everything.**  The members of a list, the oldest first, own keys,
and each hangs on the owner of its key, which is older, or on nothing.  If a member brings
something, and under it is what it brings and what is under the members that hang on what it owns,
then under the members that hang on nothing is all that is brought, each thing once. -/
theorem perm_roots {β : Type} (key : α → κ) (own : α → List κ) (brings under : α → List β) :
    ∀ {l : List α}, (l.flatMap own).Nodup → l.Pairwise (fun older newer => key older ∉ own newer) →
    (∀ a ∈ l, key a ∉ own a) →
    (∀ a ∈ l, (under a).Perm
      (brings a ++ (own a).flatMap fun k => (l.filter fun b => key b = k).flatMap under)) →
    ((l.filter fun a => key a ∉ l.flatMap own).flatMap under).Perm (l.flatMap brings)
  | [], _, _, _, _ => .nil
  | first :: rest, hnodup, holder, hself, hunder => by
    rw [List.flatMap_cons, List.nodup_append] at hnodup
    obtain ⟨hfirst, hrest, hdisj⟩ := hnodup
    have holder' := List.pairwise_cons.1 holder
    -- nothing hangs on the first member but what is in the rest
    have hskip : ∀ a ∈ first :: rest, ∀ k ∈ own a,
        ((first :: rest).filter fun b => key b = k) = rest.filter fun b => key b = k := by
      intro a ha k hk
      refine List.filter_cons_of_neg ?_
      rintro hkey
      rw [decide_eq_true_iff] at hkey
      subst hkey
      rcases List.mem_cons.1 ha with rfl | ha
      · exact hself _ List.mem_cons_self hk
      · exact holder'.1 a ha hk
    have hunder' : ∀ a ∈ first :: rest, (under a).Perm
        (brings a ++ (own a).flatMap fun k => (rest.filter fun b => key b = k).flatMap under) := by
      intro a ha
      refine (hunder a ha).trans (List.Perm.append_left _ (List.Perm.flatMap_left _ fun k hk => ?_))
      rw [hskip a ha k hk]
    have ih := perm_roots key own brings under hrest holder'.2
      (fun a ha => hself a (List.mem_cons_of_mem _ ha))
      fun a ha => hunder' a (List.mem_cons_of_mem _ ha)
    have hroot : key first ∉ (first :: rest).flatMap own := by
      intro hmem
      obtain ⟨a, ha, hk⟩ := List.mem_flatMap.1 hmem
      rcases List.mem_cons.1 ha with rfl | ha
      · exact hself _ List.mem_cons_self hk
      · exact holder'.1 a ha hk
    have hsort := perm_roots_cons key own hfirst fun k hk hmem => hdisj k hk k hmem rfl
    rw [List.filter_cons_of_pos (by simpa using hroot), List.flatMap_cons, List.flatMap_cons]
    refine ((hunder' first List.mem_cons_self).append_right _).trans ?_
    rw [List.append_assoc]
    refine List.Perm.append_left _ ?_
    have hflat := hsort.flatMap_right under
    rw [List.flatMap_append, List.flatMap_assoc] at hflat
    exact hflat.symm.trans ih

end

section

variable {α : Type} {key : α → Int32} {as bs : List α}

theorem nodup_of_ascending (h : as.Pairwise fun a b => key a < key b) : as.Nodup := by
  refine h.imp fun {a b} hlt heq => ?_
  subst heq
  exact Int32.lt_irrefl hlt

/-- Lists with the same members that ascend are the same. -/
theorem eq_of_ascending (has : as.Pairwise fun a b => key a < key b)
    (hbs : bs.Pairwise fun a b => key a < key b) (h : ∀ a, a ∈ as ↔ a ∈ bs) : as = bs := by
  have hperm := (List.perm_ext_iff_of_nodup (nodup_of_ascending has) (nodup_of_ascending hbs)).2 h
  refine hperm.eq_of_pairwise (fun a b _ _ hab hba => ?_) has hbs
  exact absurd (Int32.lt_trans hab hba) Int32.lt_irrefl

end

namespace Builder

/-! ## 2. What the fold has done -/

/-- The layers that wait for a domain, or for the space itself. -/
def Assembled.waiting (done : Assembled) (domain : SegmentId) : Table LayerId Layer :=
  if domain = topDomain then done.top else (done.nested.get? domain).getD .empty

/-- The segment of a definition in a layer. -/
def segmentOf (b : Builder) (done : Assembled) (layer : LayerInfo) (t : SegmentDefinition) :
    Segment :=
  b.assembleSegment layer done.nested t

/-- The layer of a draft. -/
def layerOf (b : Builder) (done : Assembled) (d : LayerDraft) : Layer :=
  Layer.ofSegments d.info (d.segments.map (b.segmentOf done d.info))

@[simp] theorem info_segmentOf (b : Builder) (done : Assembled) (layer : LayerInfo)
    (t : SegmentDefinition) : (b.segmentOf done layer t).info = t.info := by
  cases t <;> rfl

@[simp] theorem isDomain_segmentOf (b : Builder) (done : Assembled) (layer : LayerInfo)
    (t : SegmentDefinition) : (b.segmentOf done layer t).isDomain = t.isDomain := by
  cases t <;> rfl

@[simp] theorem info_layerOf (b : Builder) (done : Assembled) (d : LayerDraft) :
    (b.layerOf done d).info = d.info := rfl

@[simp] theorem segments_layerOf (b : Builder) (done : Assembled) (d : LayerDraft) :
    (b.layerOf done d).segments = d.segments.map (b.segmentOf done d.info) := rfl

theorem waiting_assembleLayer (b : Builder) (done : Assembled) (draft : LayerDraft)
    (domain : SegmentId) : (b.assembleLayer done draft).waiting domain =
      if domain = draft.info.domain then
        (done.waiting domain).insert draft.info.id (b.layerOf done draft)
      else done.waiting domain := by
  unfold assembleLayer Assembled.waiting
  by_cases htop : draft.info.domain = topDomain
  · have htop' : draft.info.isTop = true := by simp [LayerInfo.isTop, htop]
    simp only [htop', if_true, htop]
    by_cases hd : domain = topDomain
    · simp only [hd, if_true]
      rfl
    · simp only [hd, if_false]
  · have htop' : draft.info.isTop = false := by simp [LayerInfo.isTop, htop]
    simp only [htop', Bool.false_eq_true, if_false, Table.get?_update]
    by_cases hd : domain = draft.info.domain
    · subst hd
      simp only [htop, if_false, if_true, Option.getD_some]
      rfl
    · simp only [hd, if_false]

/-- One more layer changes only what waits for its own domain. -/
theorem get?_nested_assembleLayer (b : Builder) (done : Assembled) (draft : LayerDraft)
    {id : SegmentId} (h : id ≠ draft.info.domain) :
    (b.assembleLayer done draft).nested.get? id = done.nested.get? id := by
  unfold assembleLayer
  cases htop : draft.info.isTop with
  | true => rfl
  | false => simp only [Bool.false_eq_true, if_false, Table.get?_update, h]

theorem segmentOf_congr {b : Builder} {done done' : Assembled} (layer : LayerInfo)
    {t : SegmentDefinition} (h : done'.nested.get? t.info.id = done.nested.get? t.info.id) :
    b.segmentOf done' layer t = b.segmentOf done layer t := by
  cases t with
  | experiment info overrides => rfl
  | domain info =>
    have h' : done'.nested.get? info.id = done.nested.get? info.id := h
    simp only [segmentOf, assembleSegment, h']

theorem layerOf_congr {b : Builder} {done done' : Assembled} {d : LayerDraft}
    (h : ∀ t ∈ d.segments, done'.nested.get? t.info.id = done.nested.get? t.info.id) :
    b.layerOf done' d = b.layerOf done d := by
  unfold layerOf
  congr 1
  exact List.map_congr_left fun t ht => segmentOf_congr d.info (h t ht)

/-- What the fold has done when it has come through some layers: each waits under its domain, and
each of their segments is known, made of what waits by now. -/
structure Mirrors (b : Builder) (processed : List LayerDraft) (done : Assembled) : Prop where
  waiting : ∀ domain id l, (done.waiting domain).get? id = some l ↔
    ∃ d ∈ processed, d.info.domain = domain ∧ d.info.id = id ∧ l = b.layerOf done d
  segments : ∀ id s, done.segments.get? id = some s ↔
    ∃ d ∈ processed, ∃ t ∈ d.segments, t.info.id = id ∧ s = b.segmentOf done d.info t

section

variable {b : Builder} {processed : List LayerDraft} {done : Assembled} {draft : LayerDraft}

theorem Mirrors.get?_waiting (h : Mirrors b processed done)
    (hnew : draft.info.id ∉ processed.map (·.info.id))
    (hkeep : ∀ d ∈ processed ++ [draft], ∀ t ∈ d.segments,
      (b.assembleLayer done draft).nested.get? t.info.id = done.nested.get? t.info.id)
    (domain : SegmentId) (id : LayerId) (l : Layer) :
    ((b.assembleLayer done draft).waiting domain).get? id = some l ↔
      ∃ d ∈ processed ++ [draft], d.info.domain = domain ∧ d.info.id = id ∧
        l = b.layerOf (b.assembleLayer done draft) d := by
  have hlayer : ∀ d ∈ processed ++ [draft],
      b.layerOf (b.assembleLayer done draft) d = b.layerOf done d :=
    fun d hd => layerOf_congr (hkeep d hd)
  have hlast : draft ∈ processed ++ [draft] := by simp
  rw [waiting_assembleLayer]
  have hold : (∃ d ∈ processed ++ [draft], d.info.domain = domain ∧ d.info.id = id ∧
      l = b.layerOf (b.assembleLayer done draft) d) ↔
      (done.waiting domain).get? id = some l ∨
        draft.info.domain = domain ∧ draft.info.id = id ∧ l = b.layerOf done draft := by
    rw [h.waiting]
    constructor
    · rintro ⟨d, hd, hdom, hid, rfl⟩
      rw [hlayer d hd]
      rcases List.mem_append.1 hd with hd | hd
      · exact .inl ⟨d, hd, hdom, hid, rfl⟩
      · obtain rfl := List.mem_singleton.1 hd
        exact .inr ⟨hdom, hid, rfl⟩
    · rintro (⟨d, hd, hdom, hid, rfl⟩ | ⟨hdom, hid, rfl⟩)
      · exact ⟨d, List.mem_append_left _ hd, hdom, hid, (hlayer d (List.mem_append_left _ hd)).symm⟩
      · exact ⟨draft, hlast, hdom, hid, (hlayer draft hlast).symm⟩
  rw [hold]
  by_cases hdom : domain = draft.info.domain
  · subst hdom
    rw [if_pos rfl, Table.get?_insert]
    by_cases hid : id = draft.info.id
    · subst hid
      -- no layer of this id waited before
      have hnone : (done.waiting draft.info.domain).get? draft.info.id ≠ some l := by
        rw [Ne, h.waiting]
        rintro ⟨d, hd, -, hdid, -⟩
        exact hnew (List.mem_map.2 ⟨d, hd, hdid⟩)
      simp only [if_true, hnone, false_or, true_and, Option.some.injEq]
      exact eq_comm
    · rw [if_neg hid]
      simp only [Ne.symm hid, false_and, and_false, or_false]
  · rw [if_neg hdom]
    simp only [Ne.symm hdom, false_and, or_false]

theorem Mirrors.get?_segments (h : Mirrors b processed done)
    (hnodup : ((processed ++ [draft]).flatMap (·.segments) |>.map (·.info.id)).Nodup)
    (hkeep : ∀ d ∈ processed ++ [draft], ∀ t ∈ d.segments,
      (b.assembleLayer done draft).nested.get? t.info.id = done.nested.get? t.info.id)
    (id : SegmentId) (s : Segment) :
    (b.assembleLayer done draft).segments.get? id = some s ↔
      ∃ d ∈ processed ++ [draft], ∃ t ∈ d.segments, t.info.id = id ∧
        s = b.segmentOf (b.assembleLayer done draft) d.info t := by
  have hlast : draft ∈ processed ++ [draft] := by simp
  have hknown : (b.assembleLayer done draft).segments =
      (draft.segments.map (b.segmentOf done draft.info)).foldl
        (fun known segment => known.insert segment.info.id segment) done.segments := by
    unfold assembleLayer
    split <;> rfl
  have hids : (draft.segments.map (b.segmentOf done draft.info)).map (·.info.id) =
      draft.segments.map (·.info.id) := by
    rw [List.map_map]
    exact List.map_congr_left fun t _ => by simp
  have hparts : (draft.segments.map (·.info.id)).Nodup ∧ ∀ d ∈ processed, ∀ t ∈ d.segments,
      t.info.id ∉ draft.segments.map (·.info.id) := by
    rw [List.flatMap_append, List.map_append, List.nodup_append] at hnodup
    simp only [List.flatMap_cons, List.flatMap_nil, List.append_nil] at hnodup
    refine ⟨hnodup.2.1, fun d hd t ht hmem => ?_⟩
    exact hnodup.2.2 _ (List.mem_map.2 ⟨t, List.mem_flatMap.2 ⟨d, hd, ht⟩, rfl⟩) _ hmem rfl
  have hwrite := Table.get?_foldl_insert_some (fun s : Segment => s.info.id) some id s
    (draft.segments.map (b.segmentOf done draft.info)) done.segments (hids ▸ hparts.1)
  simp only [Option.elim_some] at hwrite
  rw [hknown, hwrite, h.segments]
  constructor
  · rintro (⟨u, hu, hid, heq⟩ | ⟨-, d, hd, t, ht, hid, rfl⟩)
    · cases heq
      obtain ⟨t, ht, rfl⟩ := List.mem_map.1 hu
      refine ⟨draft, hlast, t, ht, by simpa using hid, ?_⟩
      exact (segmentOf_congr _ (hkeep draft hlast t ht)).symm
    · have hd' := List.mem_append_left [draft] hd
      exact ⟨d, hd', t, ht, hid, (segmentOf_congr _ (hkeep d hd' t ht)).symm⟩
  · rintro ⟨d, hd, t, ht, hid, rfl⟩
    rw [segmentOf_congr _ (hkeep d hd t ht)]
    rcases List.mem_append.1 hd with hd | hd
    · refine .inr ⟨fun u hu huid => ?_, d, hd, t, ht, hid, rfl⟩
      refine absurd ?_ (hparts.2 d hd t ht)
      rw [← hids, hid]
      exact List.mem_map.2 ⟨u, hu, huid⟩
    · obtain rfl := List.mem_singleton.1 hd
      exact .inl ⟨_, List.mem_map.2 ⟨t, ht, rfl⟩, by simpa using hid, rfl⟩

/-- **The step.**  The next layer finds everything that waits for its segments, because no layer
that the fold has come to waits for the domain that the layer itself waits for. -/
theorem mirrors_assembleLayer (h : Mirrors b processed done)
    (hnew : draft.info.id ∉ processed.map (·.info.id))
    (hnodup : ((processed ++ [draft]).flatMap (·.segments) |>.map (·.info.id)).Nodup)
    (hfresh : ∀ d ∈ processed ++ [draft], ∀ t ∈ d.segments, t.info.id ≠ draft.info.domain) :
    Mirrors b (processed ++ [draft]) (b.assembleLayer done draft) := by
  have hkeep : ∀ d ∈ processed ++ [draft], ∀ t ∈ d.segments,
      (b.assembleLayer done draft).nested.get? t.info.id = done.nested.get? t.info.id :=
    fun d hd t ht => get?_nested_assembleLayer b done draft (hfresh d hd t ht)
  exact ⟨h.get?_waiting hnew hkeep, h.get?_segments hnodup hkeep⟩

end

/-! ## 3. What it has done in the end -/

/-- The domain of a layer is none of its own segments and of those of later layers. -/
theorem Sound.fresh {b : Builder} (hb : b.Sound) {before older : List LayerDraft}
    {draft : LayerDraft} (hdrafts : b.drafts = before ++ draft :: older) :
    ∀ d ∈ before ++ [draft], ∀ t ∈ d.segments, t.info.id ≠ draft.info.domain := by
  intro d hd t ht hid
  have hd' : d ∈ b.drafts := by
    rw [hdrafts]
    rcases List.mem_append.1 hd with hd | hd
    · exact List.mem_append_left _ hd
    · rw [List.mem_singleton.1 hd]
      simp
  cases htop : draft.info.isTop with
  | true =>
    rw [LayerInfo.isTop_iff.1 htop] at hid
    exact hb.notTop t (mem_segments_iff.2 ⟨d, hd', ht⟩) hid
  | false =>
    obtain ⟨e, he, s, hs, -, hsid⟩ := Nested.domain (hdrafts ▸ hb.nested) htop
    have hnodup := hb.segmentIds
    have hsplit : b.drafts = (before ++ [draft]) ++ older := by simp [hdrafts]
    rw [segments, hsplit, List.flatMap_append, List.map_append, List.nodup_append] at hnodup
    have ht' := List.mem_map_of_mem (f := (·.info.id)) (List.mem_flatMap.2 ⟨d, hd, ht⟩)
    have hs' := List.mem_map_of_mem (f := (·.info.id)) (List.mem_flatMap.2 ⟨e, he, hs⟩)
    exact hnodup.2.2 _ ht' _ hs' (hid.trans hsid.symm)

theorem Sound.pairwise_fresh {b : Builder} (hb : b.Sound) : ∀ (rest before : List LayerDraft),
    b.drafts = before ++ rest →
    rest.Pairwise fun newer older => older.info.domain ∉ newer.segments.map (·.info.id)
  | [], _, _ => .nil
  | newer :: rest, before, hdrafts => by
    refine .cons (fun older ho hmem => ?_)
      (pairwise_fresh hb rest (before ++ [newer]) (by simp [hdrafts]))
    obtain ⟨between, oldest, rfl⟩ := List.append_of_mem ho
    obtain ⟨t, ht, hid⟩ := List.mem_map.1 hmem
    have hsplit : b.drafts = (before ++ newer :: between) ++ older :: oldest := by simp [hdrafts]
    exact hb.fresh hsplit newer (by simp) t ht hid

theorem mirrors_foldl {b : Builder} (hb : b.Sound) : ∀ (rest processed : List LayerDraft)
    (done : Assembled), b.drafts = processed ++ rest → Mirrors b processed done →
    Mirrors b b.drafts (rest.foldl b.assembleLayer done)
  | [], processed, done, hdrafts, h => by
    rw [hdrafts, List.append_nil]
    exact h
  | draft :: rest, processed, done, hdrafts, h => by
    have hdrafts' : b.drafts = (processed ++ [draft]) ++ rest := by simp [hdrafts]
    refine mirrors_foldl hb rest (processed ++ [draft]) _ hdrafts' ?_
    refine mirrors_assembleLayer h ?_ ?_ (hb.fresh hdrafts)
    · have hnodup := hb.layerIds
      rw [hdrafts, List.map_append, List.map_cons, List.nodup_append] at hnodup
      intro hmem
      exact hnodup.2.2 _ hmem _ List.mem_cons_self rfl
    · have hnodup := hb.segmentIds
      rw [segments, hdrafts', List.flatMap_append, List.map_append, List.nodup_append] at hnodup
      exact hnodup.1

/-- **The run.**  In the end every layer waits under its domain, and every segment is known. -/
theorem mirrors_assemble {b : Builder} (hb : b.Sound) : Mirrors b b.drafts b.assemble := by
  refine mirrors_foldl hb b.drafts [] _ rfl ⟨fun domain id l => ?_, fun id s => ?_⟩
  · have hnone : (Assembled.waiting ⟨.empty, .empty, .empty⟩ domain).get? id = none := by
      unfold Assembled.waiting
      split <;> rfl
    rw [hnone]
    simp
  · simp

/-- The ids of layers ascend. -/
def Ascending (layers : List Layer) : Prop := layers.Pairwise fun l m => l.info.id < m.info.id

theorem ascending_waiting {b : Builder} (hb : b.Sound) (domain : SegmentId) :
    Ascending (b.assemble.waiting domain).values := by
  have hkey : ∀ id l, (b.assemble.waiting domain).get? id = some l → l.info.id = id := by
    intro id l hl
    obtain ⟨d, -, -, hid, rfl⟩ := ((mirrors_assemble hb).waiting ..).1 hl
    simpa using hid
  exact (Table.ascending_values hkey).imp Std.compare_eq_lt.1

/-- The layers that wait for a domain are those of the drafts that are nested in it. -/
theorem perm_waiting {b : Builder} (hb : b.Sound) (domain : SegmentId) :
    (b.assemble.waiting domain).values.Perm
      ((b.drafts.filter fun d => d.info.domain = domain).map (b.layerOf b.assemble)) := by
  have hm := mirrors_assemble hb
  have hleft := nodup_of_ascending (ascending_waiting hb domain)
  have hright : ((b.drafts.filter fun d => d.info.domain = domain).map
      (b.layerOf b.assemble)).Nodup := by
    refine List.Nodup.of_map (fun l => l.info.id) ?_
    rw [List.map_map]
    exact hb.layerIds.sublist (List.filter_sublist.map _)
  refine (List.perm_ext_iff_of_nodup hleft hright).2 fun l => ?_
  rw [Table.mem_values_iff]
  simp only [hm.waiting, List.mem_map, List.mem_filter, decide_eq_true_eq]
  constructor
  · rintro ⟨id, d, hd, hdom, -, rfl⟩
    exact ⟨d, ⟨hd, hdom⟩, rfl⟩
  · rintro ⟨d, ⟨hd, hdom⟩, rfl⟩
    exact ⟨d.info.id, d, hd, hdom, rfl, rfl⟩

/-- Two builders whose layers look the same, seen in a way that keeps what is known of a layer, have
layers that look the same waiting for each domain. -/
theorem waiting_congr {b b' : Builder} (hb : b.Sound) (hb' : b'.Sound) (see : Layer → Layer)
    (hsee : ∀ l, (see l).info = l.info) (domain : SegmentId)
    (h : ∀ d ∈ b.drafts, d.info.domain = domain → ∃ d' ∈ b'.drafts, d'.info = d.info ∧
      see (b'.layerOf b'.assemble d') = see (b.layerOf b.assemble d))
    (h' : ∀ d' ∈ b'.drafts, d'.info.domain = domain → ∃ d ∈ b.drafts, d.info = d'.info) :
    (b'.assemble.waiting domain).values.map see = (b.assemble.waiting domain).values.map see := by
  have hasc : ∀ {layers : List Layer}, Ascending layers → Ascending (layers.map see) := by
    intro layers hlayers
    refine List.pairwise_map.2 (hlayers.imp fun {l m} hlt => ?_)
    rw [hsee, hsee]
    exact hlt
  refine eq_of_ascending (hasc (ascending_waiting hb' domain)) (hasc (ascending_waiting hb domain))
    fun m => ?_
  rw [((perm_waiting hb' domain).map see).mem_iff, ((perm_waiting hb domain).map see).mem_iff]
  simp only [List.mem_map, List.mem_filter, decide_eq_true_eq]
  constructor
  · rintro ⟨_, ⟨d', ⟨hd', hdomain⟩, rfl⟩, rfl⟩
    obtain ⟨d, hd, hinfo⟩ := h' d' hd' hdomain
    obtain ⟨e', he', hinfo', hsame⟩ := h d hd (hinfo ▸ hdomain)
    -- the layer that looks like `d` has its id, and so is `d'`
    obtain rfl := List.inj_on_of_nodup_map hb'.layerIds hd' he' (by rw [hinfo', hinfo])
    exact ⟨_, ⟨d, ⟨hd, hinfo ▸ hdomain⟩, rfl⟩, hsame.symm⟩
  · rintro ⟨_, ⟨d, ⟨hd, hdomain⟩, rfl⟩, rfl⟩
    obtain ⟨d', hd', hinfo, hsame⟩ := h d hd hdomain
    exact ⟨_, ⟨d', ⟨hd', hinfo ▸ hdomain⟩, rfl⟩, hsame⟩

/-! ## 4. The layers and segments of the space -/

theorem segmentOf_domain (b : Builder) (done : Assembled) (layer : LayerInfo) {info : SegmentInfo}
    (h : info.id ≠ topDomain) :
    b.segmentOf done layer (.domain info) = .domain info (done.waiting info.id).values := by
  simp only [segmentOf, assembleSegment, Assembled.waiting, h, if_false]
  cases done.nested.get? info.id <;> rfl

/-- All that is nested in a layer of a draft is a layer of a draft. -/
theorem tree_layerOf {b : Builder} (hb : b.Sound) :
    (∀ s : Segment, (∃ d ∈ b.drafts, ∃ t ∈ d.segments, s = b.segmentOf b.assemble d.info t) →
      ∀ m ∈ s.tree, ∃ d ∈ b.drafts, m = b.layerOf b.assemble d) ∧
    ∀ l : Layer, (∃ d ∈ b.drafts, l = b.layerOf b.assemble d) →
      ∀ m ∈ l.tree, ∃ d ∈ b.drafts, m = b.layerOf b.assemble d := by
  refine forest_induction ?_ ?_ ?_
  · intro info effect _ m hm
    simp at hm
  · rintro info layers ih ⟨d, hd, t, ht, heq⟩ m hm
    cases t with
    | experiment info' overrides => cases heq
    | domain info' =>
      have htop : info'.id ≠ topDomain := hb.notTop _ (mem_segments_iff.2 ⟨d, hd, ht⟩)
      rw [segmentOf_domain _ _ _ htop] at heq
      cases heq
      rw [Segment.tree_domain, List.mem_flatMap] at hm
      obtain ⟨l, hl, hm⟩ := hm
      refine ih l hl ?_ m hm
      obtain ⟨e, he, rfl⟩ := List.mem_map.1 ((perm_waiting hb info.id).mem_iff.1 hl)
      exact ⟨e, (List.mem_filter.1 he).1, rfl⟩
  · rintro info segments index owned ih ⟨d, hd, heq⟩ m hm
    rw [Layer.tree_eq, List.mem_cons, List.mem_flatMap] at hm
    rcases hm with rfl | ⟨s, hs, hm⟩
    · exact ⟨d, hd, heq⟩
    · rw [heq, segments_layerOf] at hs
      obtain ⟨t, ht, rfl⟩ := List.mem_map.1 hs
      have hs' : b.segmentOf b.assemble d.info t ∈ segments := by
        have hsegments : segments = d.segments.map (b.segmentOf b.assemble d.info) :=
          congrArg Layer.segments heq
        rw [hsegments]
        exact List.mem_map_of_mem ht
      exact ih _ hs' ⟨d, hd, t, ht, rfl⟩ m hm

variable {b : Builder} {version : String} {space : Space}

/-- What a successful build has checked, and the space that it gives. -/
theorem build_ok (h : b.build version = .ok space) :
    (∀ flag ∈ b.overriddenFlags.keys, b.flagError? flag = none) ∧
    space = .make version b.flags b.assemble.segments b.criteria.values
      (b.assemble.top.values.filter (·.info.launch))
      (b.assemble.top.values.filter fun l => !l.info.launch) := by
  unfold build at h
  split at h
  · cases h
  · next hnone =>
    simp only [List.partition_eq_filter_filter] at h
    cases h
    exact ⟨List.findSome?_eq_none_iff.1 hnone, rfl⟩

/-- The criteria of the space are those of the builder, in ascending order of their ids. -/
theorem criteria_build (h : b.build version = .ok space) : space.criteria = b.criteria.values := by
  rw [(build_ok h).2]
  rfl

/-- The layers of the space itself are those of the drafts that are nested in nothing. -/
theorem mem_top_iff (hb : b.Sound) {l : Layer} : l ∈ b.assemble.top.values ↔
    ∃ d ∈ b.drafts, d.info.isTop = true ∧ l = b.layerOf b.assemble d := by
  have hperm := perm_waiting hb topDomain
  rw [Assembled.waiting, if_pos rfl] at hperm
  rw [hperm.mem_iff]
  simp only [List.mem_map, List.mem_filter, decide_eq_true_eq, LayerInfo.isTop_iff]
  constructor
  · rintro ⟨d, ⟨hd, htop⟩, rfl⟩
    exact ⟨d, hd, htop, rfl⟩
  · rintro ⟨d, hd, htop, rfl⟩
    exact ⟨d, ⟨hd, htop⟩, rfl⟩

theorem mem_launchLayers_iff (hb : b.Sound) (h : b.build version = .ok space) {l : Layer} :
    l ∈ space.launchLayers ↔
      ∃ d ∈ b.drafts, d.info.launch = true ∧ l = b.layerOf b.assemble d := by
  obtain ⟨-, rfl⟩ := build_ok h
  simp only [Space.make, List.mem_filter, mem_top_iff hb]
  constructor
  · rintro ⟨⟨d, hd, -, rfl⟩, hlaunch⟩
    exact ⟨d, hd, hlaunch, rfl⟩
  · rintro ⟨d, hd, hlaunch, rfl⟩
    exact ⟨⟨d, hd, hb.launchTop d hd hlaunch, rfl⟩, hlaunch⟩

theorem mem_permanentLayers_iff (hb : b.Sound) (h : b.build version = .ok space) {l : Layer} :
    l ∈ space.permanentLayers ↔ ∃ d ∈ b.drafts, d.info.isTop = true ∧ d.info.launch = false ∧
      l = b.layerOf b.assemble d := by
  obtain ⟨-, rfl⟩ := build_ok h
  simp only [Space.make, List.mem_filter, mem_top_iff hb, Bool.not_eq_true']
  constructor
  · rintro ⟨⟨d, hd, htop, rfl⟩, hlaunch⟩
    exact ⟨d, hd, htop, hlaunch, rfl⟩
  · rintro ⟨d, hd, htop, hlaunch, rfl⟩
    exact ⟨⟨d, hd, htop, rfl⟩, hlaunch⟩

/-- **Every layer of the space**, at any depth, is the layer of a draft. -/
theorem layer_of_build (hb : b.Sound) (h : b.build version = .ok space) {l : Layer}
    (hl : l ∈ space.layers) : ∃ d ∈ b.drafts, l = b.layerOf b.assemble d := by
  obtain ⟨k, hk, hl⟩ := List.mem_flatMap.1 hl
  refine (tree_layerOf hb).2 k ?_ l hl
  rcases List.mem_append.1 hk with hk | hk
  · obtain ⟨d, hd, -, rfl⟩ := (mem_launchLayers_iff hb h).1 hk
    exact ⟨d, hd, rfl⟩
  · obtain ⟨d, hd, -, -, rfl⟩ := (mem_permanentLayers_iff hb h).1 hk
    exact ⟨d, hd, rfl⟩

/-- **Every segment of the space**, at any depth, is that of a definition. -/
theorem member_of_build (hb : b.Sound) (h : b.build version = .ok space) {s : Segment}
    (hs : s ∈ space.members) :
    ∃ d ∈ b.drafts, ∃ t ∈ d.segments, s = b.segmentOf b.assemble d.info t := by
  obtain ⟨l, hl, hs⟩ := Space.mem_members_iff.1 hs
  obtain ⟨d, hd, rfl⟩ := layer_of_build hb h hl
  obtain ⟨t, ht, rfl⟩ := List.mem_map.1 hs
  exact ⟨d, hd, t, ht, rfl⟩

/-! ## 5. Each once -/

/-- The layers in the segment of a draft are those of the drafts that are nested in it. -/
theorem perm_nested (hb : b.Sound) {d : LayerDraft} (hd : d ∈ b.drafts) {t : SegmentDefinition}
    (ht : t ∈ d.segments) : (b.segmentOf b.assemble d.info t).nested.Perm
      ((b.drafts.filter fun e => e.info.domain = t.info.id).map (b.layerOf b.assemble)) := by
  have hmem : t ∈ b.segments := mem_segments_iff.2 ⟨d, hd, ht⟩
  cases t with
  | experiment info overrides =>
    -- nothing is nested in an experiment, since the domain of a layer is a domain
    have hnone : (b.drafts.filter fun e => decide (e.info.domain =
        (SegmentDefinition.experiment info overrides).info.id)) = [] := by
      refine List.filter_eq_nil_iff.2 fun e he hdom => ?_
      have hdom' : e.info.domain = (SegmentDefinition.experiment info overrides).info.id :=
        of_decide_eq_true hdom
      have htop : e.info.isTop = false := by
        refine Bool.eq_false_iff.2 fun htop => hb.notTop _ hmem ?_
        exact hdom'.symm.trans (LayerInfo.isTop_iff.1 htop)
      obtain ⟨e', he', s, hs, hsdom, hsid⟩ := hb.nested.exists_domain he htop
      have hs' : s ∈ b.segments := mem_segments_iff.2 ⟨e', he', hs⟩
      obtain rfl := List.inj_on_of_nodup_map hb.segmentIds hs' hmem (hsid.trans hdom')
      cases hsdom
    rw [hnone]
    exact .nil
  | domain info =>
    have htop : info.id ≠ topDomain := hb.notTop _ hmem
    rw [segmentOf_domain _ _ _ htop]
    exact perm_waiting hb info.id

/-- **Each once.**  Where a listing of a layer is what the layer brings by itself and the listings
of the layers in its segments, the listings of the layers of the space itself are what the drafts
bring, each thing once. -/
theorem perm_listing (hb : b.Sound) {β : Type} (brings : LayerDraft → List β)
    (listing : Layer → List β)
    (hlisting : ∀ d ∈ b.drafts, (listing (b.layerOf b.assemble d)).Perm
      (brings d ++ d.segments.flatMap fun t =>
        (b.segmentOf b.assemble d.info t).nested.flatMap listing)) :
    (b.assemble.top.values.flatMap listing).Perm (b.drafts.flatMap brings) := by
  have hids : ∀ l : List LayerDraft, (l.flatMap fun d => d.segments.map (·.info.id)) =
      (l.flatMap (·.segments)).map (·.info.id) := fun l => List.map_flatMap.symm
  have hrev : (b.drafts.reverse.flatMap fun d => d.segments.map (·.info.id)).Perm
      (b.segments.map (·.info.id)) := by
    rw [hids]
    exact ((List.reverse_perm _).flatMap_right _).map _
  have hroots := perm_roots (fun d : LayerDraft => d.info.domain)
    (fun d => d.segments.map (·.info.id)) brings (fun d => listing (b.layerOf b.assemble d))
    (l := b.drafts.reverse) (hrev.nodup_iff.2 hb.segmentIds) ?_ ?_ ?_
  · -- the roots are the layers of the space itself
    have hroot : (b.drafts.reverse.filter fun d => decide (d.info.domain ∉
        b.drafts.reverse.flatMap fun d => d.segments.map (·.info.id))) =
        b.drafts.reverse.filter fun d => d.info.domain = topDomain := by
      refine List.filter_congr fun d hd => decide_eq_decide.2 ?_
      rw [hrev.mem_iff]
      constructor
      · intro hno
        by_contra htop
        have htop' : d.info.isTop = false := by simp [LayerInfo.isTop, htop]
        obtain ⟨e, he, s, hs, -, hsid⟩ := hb.nested.exists_domain (List.mem_reverse.1 hd) htop'
        exact hno (List.mem_map.2 ⟨s, mem_segments_iff.2 ⟨e, he, hs⟩, hsid⟩)
      · intro htop hmem
        obtain ⟨s, hs, hid⟩ := List.mem_map.1 hmem
        exact hb.notTop s hs (hid.trans htop)
    rw [hroot] at hroots
    have hwaiting := (perm_waiting hb topDomain).flatMap_right listing
    rw [Assembled.waiting, if_pos rfl, List.flatMap_map] at hwaiting
    have htops := ((List.reverse_perm b.drafts).symm.filter
      fun d => d.info.domain = topDomain).flatMap_right fun d => listing (b.layerOf b.assemble d)
    exact ((hwaiting.trans htops).trans hroots).trans ((List.reverse_perm _).flatMap_right _)
  · exact List.pairwise_reverse.2 (hb.pairwise_fresh b.drafts [] rfl)
  · intro d hd hmem
    obtain ⟨before, older, hsplit⟩ := List.append_of_mem (List.mem_reverse.1 hd)
    obtain ⟨t, ht, hid⟩ := List.mem_map.1 hmem
    exact hb.fresh hsplit d (by simp) t ht hid
  · intro d hd
    have hd := List.mem_reverse.1 hd
    refine (hlisting d hd).trans (List.Perm.append_left _ ?_)
    rw [List.flatMap_map]
    refine List.Perm.flatMap_left _ fun t ht => ?_
    have hnested := (perm_nested hb hd ht).flatMap_right listing
    rw [List.flatMap_map] at hnested
    exact hnested.trans (((List.reverse_perm _).symm.filter _).flatMap_right _)

/-- The listings of the layers of the space itself, the launch layers first. -/
theorem perm_topLayers (h : b.build version = .ok space) {β : Type} (listing : Layer → List β) :
    (space.topLayers.flatMap listing).Perm (b.assemble.top.values.flatMap listing) := by
  rw [(build_ok h).2]
  exact (List.filter_append_perm _ _).flatMap_right _

/-- **The space has the accepted layers, each once.** -/
theorem layers_build (hb : b.Sound) (h : b.build version = .ok space) :
    (space.layers.map Layer.info).Perm (b.drafts.map (·.info)) := by
  have hlisting := perm_listing hb (fun d => [d.info]) (fun l => l.tree.map Layer.info)
    fun d _ => by
    rw [Layer.tree_eq, List.map_cons, segments_layerOf, List.flatMap_map, List.map_flatMap]
    simp only [Segment.tree_eq, List.map_flatMap]
    exact .refl _
  rw [← List.map_eq_flatMap] at hlisting
  rw [Space.layers, List.map_flatMap]
  exact (perm_topLayers h _).trans hlisting

/-- **The space has the accepted segments, each once**, a domain as a domain. -/
theorem members_build (hb : b.Sound) (h : b.build version = .ok space) :
    (space.members.map fun s => (s.info, s.isDomain)).Perm
      (b.segments.map fun t => (t.info, t.isDomain)) := by
  rw [Space.members, segments, List.map_flatMap, List.map_flatMap]
  refine (perm_topLayers h _).trans (perm_listing hb _ _ fun d _ => ?_)
  rw [Layer.members_eq, List.map_append, segments_layerOf, List.flatMap_map, List.map_flatMap,
    List.map_map]
  simp only [Segment.members_eq, List.map_flatMap, Function.comp_def, info_segmentOf,
    isDomain_segmentOf]
  exact .refl _

/-- The space has the ids of the accepted segments. -/
theorem ids_build (hb : b.Sound) (h : b.build version = .ok space) :
    space.ids.Perm (b.segments.map (·.info.id)) := by
  have hids := (members_build hb h).map fun shape => shape.1.id
  rwa [List.map_map, List.map_map] at hids

theorem nodup_ids_build (hb : b.Sound) (h : b.build version = .ok space) : space.ids.Nodup :=
  (ids_build hb h).nodup_iff.2 hb.segmentIds

/-- **Segments are found by their ids.** -/
theorem get?_segments_build (hb : b.Sound) (h : b.build version = .ok space) {id : SegmentId}
    {s : Segment} : space.segments.get? id = some s ↔ s ∈ space.members ∧ s.info.id = id := by
  have hm := mirrors_assemble hb
  have hsegments : space.segments = b.assemble.segments := by rw [(build_ok h).2]; rfl
  rw [hsegments, hm.segments]
  constructor
  · rintro ⟨d, hd, t, ht, rfl, rfl⟩
    refine ⟨?_, info_segmentOf .. ▸ rfl⟩
    have hid : t.info.id ∈ space.ids :=
      (ids_build hb h).mem_iff.2 (List.mem_map_of_mem (mem_segments_iff.2 ⟨d, hd, ht⟩))
    obtain ⟨s, hs, hsid⟩ := List.mem_map.1 hid
    obtain ⟨e, he, u, hu, rfl⟩ := member_of_build hb h hs
    rw [info_segmentOf] at hsid
    obtain rfl := List.inj_on_of_nodup_map hb.segmentIds (mem_segments_iff.2 ⟨e, he, hu⟩)
      (mem_segments_iff.2 ⟨d, hd, ht⟩) hsid
    obtain rfl := hb.eq_of_mem_segments hd he ht hu
    exact hs
  · rintro ⟨hs, rfl⟩
    obtain ⟨d, hd, t, ht, rfl⟩ := member_of_build hb h hs
    exact ⟨d, hd, t, ht, (info_segmentOf ..) ▸ rfl, rfl⟩

/-! ## 6. Order -/

/-- **Layers side by side ascend** by their ids. -/
theorem ascending_build (hb : b.Sound) (h : b.build version = .ok space) :
    Ascending space.launchLayers ∧ Ascending space.permanentLayers ∧
      ∀ info layers, .domain info layers ∈ space.members → Ascending layers := by
  have htop := ascending_waiting hb topDomain
  rw [Assembled.waiting, if_pos rfl] at htop
  refine ⟨?_, ?_, fun info layers hs => ?_⟩
  · rw [(build_ok h).2]
    exact htop.sublist List.filter_sublist
  · rw [(build_ok h).2]
    exact htop.sublist List.filter_sublist
  · obtain ⟨d, hd, t, ht, heq⟩ := member_of_build hb h hs
    cases t with
    | experiment info' overrides => cases heq
    | domain info' =>
      have htop : info'.id ≠ topDomain := hb.notTop _ (mem_segments_iff.2 ⟨d, hd, ht⟩)
      rw [segmentOf_domain _ _ _ htop] at heq
      cases heq
      exact ascending_waiting hb info.id

end Builder

end Rollout
