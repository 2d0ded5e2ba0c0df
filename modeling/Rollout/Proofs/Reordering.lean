import Rollout.Proofs.Covering
import Rollout.Proofs.Effect
import Rollout.Proofs.Overlap
import Rollout.Proofs.Progress
/-!
# The order of a definition does not matter

A definition lists its parts in some order, and the builder takes them in passes, so that two
definitions with the same parts can leave them in different orders.  `Builder.Matches` says of two
builders that they hold the same parts.  None of the orders shows in what is made of them:

* the same layers enclose each other (`Matches.lineage_eq`), so the same layers get in each other's
  way, and the same of them is named (`Matches.flagError?_eq`);
* experiments do the same to flags (`Matches.effect_eq`);
* each builder covers the other one, so the layers are put together of the same segments
  (`Matches.arranged_layerOf`), and the spaces are alike (`Matches.alike`).
-/

namespace Rollout

/-- The definitions list the same parts. -/
structure SpaceDefinition.Reordered (d d' : SpaceDefinition) : Prop where
  flags : d.flags.Perm d'.flags
  criteria : d.criteria.Perm d'.criteria
  layers : d.layers.Perm d'.layers
  segments : d.segments.Perm d'.segments

namespace Builder

/-- The builders hold the same parts. -/
structure Matches (b b' : Builder) : Prop where
  left : b.Sound
  right : b'.Sound
  flags : b'.flags = b.flags
  criteria : b'.criteria = b.criteria
  layers : (b.drafts.map (·.info)).Perm (b'.drafts.map (·.info))
  segments : b.segments.Perm b'.segments

variable {b b' : Builder}

namespace Matches

/-! ## 1. The same layers -/

theorem symm (h : b.Matches b') : b'.Matches b :=
  ⟨h.right, h.left, h.flags.symm, h.criteria.symm, h.layers.symm, h.segments.symm⟩

/-- A layer has the same segments in both. -/
theorem perm_segments (h : b.Matches b') {d d' : LayerDraft} (hd : d ∈ b.drafts)
    (hd' : d' ∈ b'.drafts) (hinfo : d'.info = d.info) : d.segments.Perm d'.segments :=
  h.left.perm_of_named h.right hd hd' hinfo fun _ _ => h.segments.mem_iff

/-- Each layer is a layer of the other builder. -/
theorem exists_draft (h : b.Matches b') {d : LayerDraft} (hd : d ∈ b.drafts) :
    ∃ d' ∈ b'.drafts, d'.info = d.info :=
  List.mem_map.1 (h.layers.mem_iff.1 (List.mem_map.2 ⟨d, hd, rfl⟩))

/-- A layer has the same lineage in both, as has every older one. -/
theorem lineage_eq_of_mem (h : b.Matches b') : ∀ {newer older : List LayerDraft},
    newer ++ older = b.drafts → ∀ d ∈ older, b'.lineage d.info.id = b.lineage d.info.id
  | newer, [], _, d, hd => by cases hd
  | newer, first :: older, heq, d, hd => by
    have hsplit : (newer ++ [first]) ++ older = b.drafts := by simp [heq]
    have holder := h.lineage_eq_of_mem hsplit
    rcases List.mem_cons.1 hd with rfl | hd
    swap
    · exact holder d hd
    have hd' : d ∈ b.drafts := heq ▸ by simp
    obtain ⟨d', hdraft', hinfo⟩ := h.exists_draft hd'
    cases htop : d.info.isTop with
    | true => rw [h.left.lineage_top hd' htop, ← hinfo, h.right.lineage_top hdraft' (hinfo ▸ htop)]
    | false =>
      -- the domain is in an older layer, and there in the other builder too
      obtain ⟨e, he, s, hs, -, hid⟩ := Nested.domain (heq ▸ h.left.nested) htop
      have he' : e ∈ b.drafts := heq ▸ by simp [he]
      obtain ⟨e', hedraft', heinfo⟩ := h.exists_draft he'
      have hs' : s ∈ e'.segments := (h.perm_segments he' hedraft' heinfo).mem_iff.1 hs
      have hright := h.right.lineage_nested hdraft' (hinfo ▸ htop) hedraft' hs' (hinfo ▸ hid)
      rw [h.left.lineage_nested hd' htop he' hs hid, ← holder e he, ← heinfo, ← hinfo, hright]

/-- **The same lineages.** -/
theorem lineage_eq (h : b.Matches b') : b'.lineage = b.lineage := by
  funext id
  by_cases hid : ∃ d ∈ b.drafts, d.info.id = id
  · obtain ⟨d, hd, rfl⟩ := hid
    exact h.lineage_eq_of_mem (List.nil_append _) d hd
  · have hnone : ∀ d ∈ b.drafts, d.info.id ≠ id := fun d hd heq => hid ⟨d, hd, heq⟩
    have hnone' : ∀ d ∈ b'.drafts, d.info.id ≠ id := by
      intro d' hd' heq
      obtain ⟨d, hd, hinfo⟩ := h.symm.exists_draft hd'
      exact hnone d hd (hinfo ▸ heq)
    rw [lineage_of_not_hasLayer hnone, lineage_of_not_hasLayer hnone']

end Matches

/-! ## 2. The same errors -/

namespace Matches

/-- The same layers override a flag. -/
theorem rivals_eq (h : b.Matches b') (flag : String) : b'.rivals flag = b.rivals flag := by
  have hsub : ∀ {b b' : Builder}, b.Matches b' → ∀ info ∈ b.rivals flag, info ∈ b'.rivals flag := by
    intro b b' h info hi
    obtain ⟨d, hd, ho, rfl⟩ := (mem_rivals_iff h.left).1 hi
    obtain ⟨d', hd', hinfo⟩ := h.exists_draft hd
    refine (mem_rivals_iff h.right).2 ⟨d', hd', ?_, hinfo⟩
    rw [← ho]
    exact ((h.perm_segments hd hd' hinfo).any_eq).symm
  exact eq_of_ascending (ascending_rivals h.right flag) (ascending_rivals h.left flag) fun info =>
    ⟨hsub h.symm info, hsub h info⟩

/-- **The same errors.** -/
theorem flagError?_eq (h : b.Matches b') : b'.flagError? = b.flagError? := by
  have hoverlapping : b'.overlapping = b.overlapping := by
    funext first second
    rw [overlapping, overlapping, h.lineage_eq]
  funext flag
  rw [flagError?_eq_rivals h.left, flagError?_eq_rivals h.right, h.rivals_eq, hoverlapping]

theorem overriddenFlags_eq (h : b.Matches b') : b'.overriddenFlags = b.overriddenFlags := by
  refine KeySet.ext_contains fun flag => ?_
  rw [overriddenFlags, overriddenFlags, KeySet.contains_ofKeys, KeySet.contains_ofKeys]
  exact (h.segments.symm.flatMap_right _).mem_iff

/-! ## 3. The same effects -/

theorem launchEffects_eq (h : b.Matches b') (overrides : Table String FlagOverride) :
    b'.launchEffects overrides = b.launchEffects overrides := by
  have hsub : ∀ {b b' : Builder}, b.Matches b' → ∀ s ∈ b.launchSegments, s ∈ b'.launchSegments := by
    intro b b' h s hs
    obtain ⟨d, hd, hlaunch, hs⟩ := mem_launchSegments_iff.1 hs
    obtain ⟨d', hd', hinfo⟩ := h.exists_draft hd
    exact mem_launchSegments_iff.2
      ⟨d', hd', hinfo ▸ hlaunch, (h.perm_segments hd hd' hinfo).mem_iff.1 hs⟩
  refine Table.ext_get? fun id => Option.ext fun made => ?_
  rw [get?_launchEffects_eq_some_iff h.left, get?_launchEffects_eq_some_iff h.right]
  have hmade : b'.launchEffect? overrides = b.launchEffect? overrides := by
    funext s
    rw [launchEffect?, launchEffect?, h.flags]
  rw [hmade]
  exact ⟨fun ⟨s, hs, hrest⟩ => ⟨s, hsub h.symm s hs, hrest⟩,
    fun ⟨s, hs, hrest⟩ => ⟨s, hsub h s hs, hrest⟩⟩

/-- **The same effects.** -/
theorem effect_eq (h : b.Matches b') (layer : LayerInfo) (overrides : Table String FlagOverride) :
    b'.effect layer overrides = b.effect layer overrides := by
  rw [effect, effect, h.flags, h.launchEffects_eq]

/-! ## 4. Alike spaces -/

theorem covers (h : b.Matches b') : b.Covers b' where
  left := h.left
  right := h.right
  layers _ hd := h.exists_draft hd
  segments _ hd _ hd' hinfo := h.perm_segments hd hd' hinfo
  nested _ hd' _ _ _ := h.symm.exists_draft hd'

/-- **The same layers.**  A layer is put together of the same segments, in whatever order. -/
theorem arranged_layerOf (h : b.Matches b') :
    (∀ s : Segment, ∀ d ∈ b.drafts, ∀ t ∈ d.segments, b.segmentOf b.assemble d.info t = s →
      (b'.segmentOf b'.assemble d.info t).arranged = s.arranged) ∧
    ∀ l : Layer, ∀ d ∈ b.drafts, b.layerOf b.assemble d = l → ∀ d' ∈ b'.drafts, d'.info = d.info →
      (b'.layerOf b'.assemble d').arranged = l.arranged :=
  h.covers.view_layerOf .arranged fun layer info overrides => by rw [h.effect_eq]

/-- Each segment of the space is one of the other space, with the layers in it arranged. -/
theorem arranged_segments (h : b.Matches b') {id : SegmentId} {s : Segment}
    (hs : b.assemble.segments.get? id = some s) :
    ∃ s', b'.assemble.segments.get? id = some s' ∧ s'.arranged = s.arranged := by
  obtain ⟨d, hd, t, ht, hid, rfl⟩ := ((mirrors_assemble h.left).segments id s).1 hs
  obtain ⟨d', hd', hinfo⟩ := h.exists_draft hd
  have ht' : t ∈ d'.segments := (h.perm_segments hd hd' hinfo).mem_iff.1 ht
  refine ⟨_, ((mirrors_assemble h.right).segments id _).2 ⟨d', hd', t, ht', hid, rfl⟩, ?_⟩
  rw [hinfo]
  exact h.arranged_layerOf.1 _ d hd t ht rfl

variable {version : String} {space space' : Space}

/-- The layers of the space itself are the same, arranged. -/
theorem arranged_top (h : b.Matches b') (p : LayerInfo → Bool) :
    (b'.assemble.top.values.filter fun l => p l.info).map Layer.arranged =
      (b.assemble.top.values.filter fun l => p l.info).map Layer.arranged := by
  have htop := waiting_congr h.left h.right Layer.arranged Layer.info_arranged topDomain
    (fun d hd _ => by
      obtain ⟨d', hd', hinfo⟩ := h.exists_draft hd
      exact ⟨d', hd', hinfo, h.arranged_layerOf.2 _ d hd rfl d' hd' hinfo⟩)
    fun d' hd' _ => h.symm.exists_draft hd'
  simp only [Assembled.waiting, if_true] at htop
  have hcomm : ∀ layers : List Layer, (layers.filter fun l => p l.info).map Layer.arranged =
      (layers.map Layer.arranged).filter fun l => p l.info := by
    intro layers
    rw [List.filter_map]
    simp [Function.comp_def]
  rw [hcomm, hcomm, htop]

/-- The ids that the layers of a space own, one layer after the other. -/
theorem owned_topLayers (hb : b.Sound) (hbuild : b.build version = .ok space) :
    space.topLayers.map Layer.owned = (space.topLayers.map Layer.arranged).map Layer.owned := by
  rw [List.map_map]
  refine List.map_congr_left fun l hl => (owned_arranged.2 l fun m hm => ?_).symm
  exact made_build hb hbuild m (List.mem_flatMap.2 ⟨l, hl, hm⟩)

/-- The same ids have labels. -/
theorem labels_eq (h : b.Matches b') (hbuild : b.build version = .ok space)
    (hbuild' : b'.build version = .ok space') : space'.labels = space.labels := by
  have hkeys : ∀ id, b'.assemble.segments.contains id = true ↔
      b.assemble.segments.contains id = true := by
    intro id
    simp only [Table.contains_iff]
    constructor
    · rintro ⟨s, hs⟩
      obtain ⟨s', hs', -⟩ := h.symm.arranged_segments hs
      exact ⟨s', hs'⟩
    · rintro ⟨s, hs⟩
      obtain ⟨s', hs', -⟩ := h.arranged_segments hs
      exact ⟨s', hs'⟩
  have howned : space'.topLayers.map Layer.owned = space.topLayers.map Layer.owned := by
    rw [owned_topLayers h.left hbuild, owned_topLayers h.right hbuild']
    obtain ⟨-, rfl⟩ := build_ok hbuild
    obtain ⟨-, rfl⟩ := build_ok hbuild'
    simp only [Space.topLayers, Space.make, List.map_append, h.arranged_top (·.launch),
      h.arranged_top fun info => !info.launch]
  have hlabels : ∀ {b : Builder} {space : Space}, b.build version = .ok space → space.labels =
      Table.mapValues (fun id _ => Space.labelText id)
        ((space.topLayers.map Layer.owned).foldl KeySet.union
          (KeySet.ofKeys b.assemble.segments.keys)) := by
    intro b space hbuild
    obtain ⟨-, rfl⟩ := build_ok hbuild
    rw [List.foldl_map]
    rfl
  have hsets : KeySet.ofKeys b'.assemble.segments.keys = KeySet.ofKeys b.assemble.segments.keys :=
    KeySet.ext_contains fun id => by
      rw [KeySet.contains_ofKeys, KeySet.contains_ofKeys, Table.mem_keys_iff, Table.mem_keys_iff,
        hkeys]
  rw [hlabels hbuild, hlabels hbuild', howned, hsets]

/-- **Alike spaces.**  Two builders that hold the same parts put together alike spaces. -/
theorem alike (h : b.Matches b') (hbuild : b.build version = .ok space)
    (hbuild' : b'.build version = .ok space') : space.Alike space' := by
  have hsegments : (b.assemble.segments.mapValues fun _ s => s.arranged) =
      b'.assemble.segments.mapValues fun _ s => s.arranged := by
    refine Table.ext_get? fun id => Option.ext fun s => ?_
    simp only [Table.get?_mapValues, Option.map_eq_some_iff]
    constructor
    · rintro ⟨s, hs, rfl⟩
      exact h.arranged_segments hs
    · rintro ⟨s, hs, rfl⟩
      exact h.symm.arranged_segments hs
  have hlabels := h.labels_eq hbuild hbuild'
  obtain ⟨-, rfl⟩ := build_ok hbuild
  obtain ⟨-, rfl⟩ := build_ok hbuild'
  have hlaunch := h.arranged_top (·.launch)
  have hpermanent := h.arranged_top fun info => !info.launch
  simp only [Space.make] at hlabels
  simp only [Space.Alike, Space.arranged, Space.make, hsegments, hlaunch, hpermanent, hlabels,
    h.flags, h.criteria]

end Matches

/-! ## 5. Reordered definitions -/

/-- What comes of two builds: the same error, or alike spaces. -/
inductive SameOutcome : Except ValidationError Space → Except ValidationError Space → Prop
  | refused (e : ValidationError) : SameOutcome (.error e) (.error e)
  | built {space space' : Space} (h : space.Alike space') : SameOutcome (.ok space) (.ok space')

/-- Two builders that hold the same parts are refused for the same reason, or put together alike
spaces. -/
theorem Matches.sameOutcome (h : b.Matches b') (version : String) :
    SameOutcome (b.build version) (b'.build version) := by
  have herror : (b'.overriddenFlags.keys.findSome? b'.flagError?) =
      b.overriddenFlags.keys.findSome? b.flagError? := by
    rw [h.overriddenFlags_eq, h.flagError?_eq]
  cases hfound : b.overriddenFlags.keys.findSome? b.flagError? with
  | some e =>
    rw [hfound] at herror
    simp only [build, hfound, herror]
    exact .refused e
  | none =>
    rw [hfound] at herror
    obtain ⟨space, hspace⟩ : ∃ space, b.build version = .ok space := by simp [build, hfound]
    obtain ⟨space', hspace'⟩ : ∃ space', b'.build version = .ok space' := by simp [build, herror]
    rw [hspace, hspace']
    exact .built (h.alike hspace hspace')

end Builder

namespace SpaceDefinition

variable {declared : FlagRegistry} {d d' : SpaceDefinition}

theorem Reordered.symm (h : d.Reordered d') : d'.Reordered d :=
  ⟨h.flags.symm, h.criteria.symm, h.layers.symm, h.segments.symm⟩

/-- Whether a definition is well-formed does not depend on the order of its parts. -/
theorem WellFormed.reordered (hd : d.WellFormed declared) (h : d.Reordered d') :
    d'.WellFormed declared where
  flagNames := ((h.flags.map (·.name)).nodup_iff).1 hd.flagNames
  flagTypes flag hf := hd.flagTypes flag (h.flags.mem_iff.2 hf)
  criterionIds := ((h.criteria.map (·.id)).nodup_iff).1 hd.criterionIds
  buckets criterion hc := hd.buckets criterion (h.criteria.mem_iff.2 hc)
  layerIds := ((h.layers.map (·.id)).nodup_iff).1 hd.layerIds
  launchTop layer hl := hd.launchTop layer (h.layers.mem_iff.2 hl)
  segmentIds := (hd.of_perm h.segments.symm).1
  notTop s hs := hd.notTop s (h.segments.mem_iff.2 hs)
  layer s hs := by
    obtain ⟨layer, hl, hid⟩ := hd.layer s (h.segments.mem_iff.2 hs)
    exact ⟨layer, h.layers.mem_iff.1 hl, hid⟩
  criterion s hs := by
    obtain ⟨criterion, hc, hrest⟩ := hd.criterion s (h.segments.mem_iff.2 hs)
    exact ⟨criterion, h.criteria.mem_iff.1 hc, hrest⟩
  windows s hs := hd.windows s (h.segments.mem_iff.2 hs)
  apart := (hd.of_perm h.segments.symm).2
  overrides s hs name change hc := by
    obtain ⟨flag, hf, hrest⟩ := hd.overrides s (h.segments.mem_iff.2 hs) name change hc
    exact ⟨flag, h.flags.mem_iff.1 hf, hrest⟩
  nested layer hl htop := by
    obtain ⟨s, hs, hrest⟩ := hd.nested layer (h.layers.mem_iff.2 hl) htop
    exact ⟨s, h.segments.mem_iff.1 hs, hrest⟩
  wellFounded := by
    refine Subrelation.wf ?_ hd.wellFounded
    rintro outer inner ⟨layer, hl, hid, htop, s, hs, hrest⟩
    exact ⟨layer, h.layers.mem_iff.2 hl, hid, htop, s, h.segments.mem_iff.2 hs, hrest⟩

/-- The flags and criteria of reordered definitions make the same tables. -/
theorem Reordered.tables_eq (h : d.Reordered d') (hd : d.WellFormed declared) :
    d'.calculators = d.calculators ∧ d'.criterionTable = d.criterionTable := by
  have hd' := hd.reordered h
  constructor
  · refine Table.ext_get? fun name => Option.ext fun calculator => ?_
    rw [get?_calculators hd.flagNames, get?_calculators hd'.flagNames]
    simp only [h.flags.mem_iff]
  · refine Table.ext_get? fun id => Option.ext fun criterion => ?_
    rw [get?_criterionTable hd.criterionIds, get?_criterionTable hd'.criterionIds,
      h.criteria.mem_iff]

end SpaceDefinition

namespace Builder

variable {declared : FlagRegistry} {d d' : SpaceDefinition} {b b' : Builder}

/-- Reordered definitions are both taken or both refused. -/
theorem accepted_reordered (h : d.Reordered d')
    (hb : (start declared).addDefinition d = (b, none)) :
    ∃ b', (start declared).addDefinition d' = (b', none) :=
  accepted_of_wellFormed ((wellFormed_of_accepted hb).reordered h)

/-- Builders that have taken reordered definitions hold the same parts. -/
theorem matches_of_accepted (h : d.Reordered d') (hb : (start declared).addDefinition d = (b, none))
    (hb' : (start declared).addDefinition d' = (b', none)) : b.Matches b' := by
  have hleft := holds_of_accepted hb
  have hright := holds_of_accepted hb'
  obtain ⟨hflags, hcriteria⟩ := h.tables_eq (wellFormed_of_accepted hb)
  exact {
    left := hleft.sound
    right := hright.sound
    flags := by rw [hleft.flags, hright.flags, hflags]
    criteria := by rw [hleft.criteria, hright.criteria, hcriteria]
    layers := (hleft.layers.trans h.layers).trans hright.layers.symm
    segments := (hleft.segments.trans h.segments).trans hright.segments.symm }

/-- **The order does not matter.**  A new builder takes both of two definitions that list the same
parts, or none.  If it takes them, both are refused for the same reason, or make alike spaces.  And
whatever calls two alike spaces were built by, a request fares the same in both, whichever segments
are turned off: it gains the same ids and reads its flags from the same calculators. -/
theorem same_whatever_order (h : d.Reordered d') :
    (((start declared).addDefinition d).2 = none ↔ ((start declared).addDefinition d').2 = none) ∧
    (((start declared).addDefinition d).2 = none → ∀ version,
      SameOutcome (((start declared).addDefinition d).1.build version)
        (((start declared).addDefinition d').1.build version)) ∧
    ∀ calls calls' version version' space space',
      ((start declared).run calls).build version = .ok space →
      ((start declared).run calls').build version' = .ok space' → space.Alike space' →
      ∀ disabled host draws r, Snapshot.handle ⟨space, disabled⟩ host draws r =
        Snapshot.handle ⟨space', disabled⟩ host draws r := by
  have honce : ∀ {d d' : SpaceDefinition}, d.Reordered d' →
      ((start declared).addDefinition d).2 = none →
      ((start declared).addDefinition d').2 = none := by
    intro d d' h hd
    obtain ⟨b', hb'⟩ := accepted_reordered h (Prod.ext rfl hd)
    rw [hb']
  refine ⟨⟨honce h, honce h.symm⟩, fun hd version => ?_, ?_⟩
  · have hmatches := matches_of_accepted h (Prod.ext rfl hd) (Prod.ext rfl (honce h hd))
    exact hmatches.sameOutcome version
  · intro calls calls' version version' space space' hspace hspace' halike
    exact handle_alike (sound_run declared calls) (sound_run declared calls') hspace hspace' halike

end Builder

/-- The definition with each of its lists turned round. -/
def SpaceDefinition.reversed (d : SpaceDefinition) : SpaceDefinition :=
  ⟨d.flags.reverse, d.criteria.reverse, d.layers.reverse, d.segments.reverse⟩

theorem SpaceDefinition.reordered_reversed (d : SpaceDefinition) : d.Reordered d.reversed :=
  ⟨(List.reverse_perm _).symm, (List.reverse_perm _).symm, (List.reverse_perm _).symm,
    (List.reverse_perm _).symm⟩

/-- A nested layer that is listed before the one that its domain is in, and a launch layer. -/
def SpaceDefinition.tangled : SpaceDefinition :=
  let info (id : SegmentId) (layer : LayerId) (buckets : List Bucket) : SegmentInfo :=
    ⟨id, layer, 0, KeySet.ofKeys buckets, .always, .always, .always⟩
  ⟨[⟨"f", ⟨.int 1, []⟩⟩, ⟨"g", ⟨.int 2, []⟩⟩], [⟨0, 4, true⟩],
    [⟨3, 20, false, 301, 302, 303⟩, ⟨1, topDomain, true, 101, 102, 103⟩,
      ⟨2, topDomain, false, 201, 202, 203⟩],
    [.experiment (info 30 3 [0, 1]) (Table.ofList [("f", .replace ⟨.int 30, []⟩)]),
      .experiment (info 21 2 [2]) (Table.ofList [("g", .replace ⟨.int 21, []⟩)]),
      .domain (info 20 2 [0, 1]),
      .experiment (info 10 1 [1, 2]) (Table.ofList [("f", .replace ⟨.int 10, []⟩)])]⟩

theorem Builder.same_whatever_order_tangled :
    SpaceDefinition.tangled.Reordered SpaceDefinition.tangled.reversed ∧ ∃ b b' space space',
    (start .empty).addDefinition .tangled = (b, none) ∧
    (start .empty).addDefinition SpaceDefinition.tangled.reversed = (b', none) ∧
    b.segments.map (·.info.id) ≠ b'.segments.map (·.info.id) ∧
    b.build "v" = .ok space ∧ b'.build "v" = .ok space' ∧ space.Alike space' := by
  have hreordered := SpaceDefinition.tangled.reordered_reversed
  obtain ⟨_, hsame, -⟩ := @same_whatever_order .empty _ _ hreordered
  have houtcome := hsame rfl "v"
  refine ⟨hreordered, _, _, _, _, rfl, rfl, by decide, rfl, rfl, ?_⟩
  cases houtcome with
  | built halike => exact halike

end Rollout
