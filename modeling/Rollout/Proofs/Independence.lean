import Rollout.Proofs.Extension
import Rollout.Proofs.Lockstep
/-!
# Layers are independent

A space is put together from a definition, and another one from an extension of it.  The layers that
there were look the same in both but for what experiments do (`View.outlined`), and no segment in
them has a new criterion; so a request meets the same in them (`outline_visits`).  New layers stand
among them, before and after, and lead to new ids only.

So what a request meets in the extended space goes beside what it met (`Rollout.Proofs.Lockstep`),
pass by pass and layer by layer (`alongside`).  A new launch experiment may show in what older
experiments do, through the tables that the builder makes for requests that are in both, but only in
what they do to flags that it changes.  `independent_of_new_layers` is what follows.
-/

namespace Rollout

/-! ## 1. More criteria -/

/-- Members that a search passes by can be left out. -/
theorem findSome?_filter_of_none {α β : Type} {p : α → Bool} {f : α → Option β} {l : List α}
    (h : ∀ a ∈ l, p a = false → f a = none) : (l.filter p).findSome? f = l.findSome? f := by
  rw [← List.head?_filterMap, ← List.head?_filterMap, List.filterMap_filter]
  congr 1
  refine List.filterMap_congr fun a ha => ?_
  cases hp : p a with
  | true => rfl
  | false => exact (h a ha hp).symm

/-- The scope with other criteria. -/
def Scope.withCriteria (scope : Scope) (criteria : List Criterion) : Scope :=
  { scope with criteria }

/-- The criteria have those of the scope among them, and the others have other ids. -/
def Scope.Keeps (scope : Scope) (criteria : List Criterion) : Prop :=
  criteria.filter (fun c => scope.criteria.any fun old => old.id == c.id) = scope.criteria

/-- A layer with no segment under a new criterion decides without it. -/
theorem Layer.Divides.agrees_withCriteria {scope : Scope} {criteria : List Criterion} {l : Layer}
    (h : l.Divides scope.criteria) (hkeeps : scope.Keeps criteria) :
    l.Agrees scope.criteria scope (scope.withCriteria criteria) where
  divides := h
  carried := rfl
  claimant := by
    change criteria.findSome? _ = scope.criteria.findSome? _
    conv_rhs => rw [← hkeeps]
    refine (findSome?_filter_of_none fun c _ hc => ?_).symm
    refine Option.bind_eq_none_iff.2 fun bucket _ => ?_
    rw [Option.map_eq_none_iff, List.find?_eq_none]
    intro s hs hclaims
    obtain ⟨old, hold, hid, -⟩ := h.inRange s hs
    have hcriterion : s.info.criterion = c.id :=
      (SegmentInfo.claims_iff.1 (by simpa using hclaims)).1
    refine Bool.eq_false_iff.1 hc (List.any_eq_true.2 ⟨old, hold, ?_⟩)
    exact beq_iff_eq.2 (hid.trans hcriterion)
  accepts _ _ := rfl
  asked _ _ := rfl

/-! ## 2. Layers seen without their effects -/

/-- The view that shows neither the order of segments nor what experiments do to flags. -/
def View.outlined : View where
  segment s := s.arranged.outline
  layer l := l.arranged.outline
  domain info layers := by
    rw [Segment.arranged_domain, Segment.outline_domain, List.map_map]
    rfl
  made l := by
    have hsorted : ∀ segments : List Segment, (Segment.byId segments).map Segment.outline =
        Segment.byId (segments.map Segment.outline) := fun segments =>
      List.map_mergeSort fun s _ t _ => by rw [Segment.info_outline, Segment.info_outline]
    rw [Layer.arranged_eq, Layer.outline_ofSegments, hsorted, List.map_map]
    rfl
  info s := by rw [Segment.info_outline, Segment.info_arranged]

/-- What a request meets in a layer, effects left out, shows in the view of the layer. -/
theorem visits_outlined {criteria : List Criterion} {l : Layer}
    (hl : ∀ m ∈ l.tree, m.Orderly criteria) (scope : Scope) :
    (l.visits scope).map Visit.outline = (View.outlined.layer l).visits scope := by
  rw [← (visits_arranged scope).2 l hl, (visits_outline scope).2]
  rfl

namespace Builder

/-! ## 3. What a request meets -/

/-- What is recorded in a layer is an id of the definition that all layers of the tree are from. -/
theorem mem_ids_of_recorded {b : Builder} {d : SpaceDefinition} {scope : Scope} {l : Layer}
    (hl : ∀ m ∈ l.tree, ∃ e : LayerDraft, e.info ∈ d.layers ∧ (∀ t ∈ e.segments, t ∈ d.segments) ∧
      m = b.layerOf b.assemble e) {v : Visit} (hv : v ∈ l.visits scope) {id : SegmentId}
    (hid : v.recorded? = some id) : id ∈ d.ids := by
  rw [SpaceDefinition.mem_ids_iff]
  obtain ⟨m, hm, hnames⟩ := (owns_of_recorded scope).2 l v hv id hid
  obtain ⟨e, hinfo, hsegments, rfl⟩ := hl m hm
  rcases hnames with hid | ⟨info, effect, hs, rfl⟩
  · exact .inr ⟨e.info, hinfo, hid⟩
  · obtain ⟨t, ht, heq⟩ := List.mem_map.1 hs
    refine .inl ⟨t, hsegments t ht, ?_⟩
    rw [← info_segmentOf b b.assemble e.info t, heq]
    rfl

namespace Grows

variable {b b' : Builder} {d new d' : SpaceDefinition} {version version' : String}
  {space space' : Space}

/-- The criteria of the extended space have the old ones among them. -/
theorem keeps (h : Grows b b' d new d') (hbuild : b.build version = .ok space)
    (hbuild' : b'.build version' = .ok space') {scope : Scope}
    (hscope : scope.criteria = space.criteria) : scope.Keeps space'.criteria := by
  have hmem : ∀ {b : Builder} {version : String} {space : Space}, b.build version = .ok space →
      ∀ {c : Criterion}, c ∈ space.criteria ↔ ∃ id, b.criteria.get? id = some c := by
    intro b version space hbuild c
    rw [criteria_build hbuild, Table.mem_values_iff]
  rw [Scope.Keeps, hscope]
  refine eq_of_ascending ((ordered_build h.right.sound hbuild').sublist List.filter_sublist)
    (ordered_build h.left.sound hbuild) fun c => ?_
  simp only [List.mem_filter, List.any_eq_true, beq_iff_eq]
  constructor
  · rintro ⟨hc, old, hold, hid⟩
    obtain ⟨key, hget⟩ := (hmem hbuild').1 hc
    obtain ⟨key', hget'⟩ := (hmem hbuild).1 hold
    -- both are kept under their id, and the new builder kept the old criterion
    obtain rfl := (h.right.sound.criteria _ _ hget).1
    obtain rfl := (h.left.sound.criteria _ _ hget').1
    have hsame := h.criteria _ _ hget'
    rw [hid, hget] at hsame
    exact Option.some.inj hsame ▸ hold
  · intro hc
    obtain ⟨key, hget⟩ := (hmem hbuild).1 hc
    exact ⟨(hmem hbuild').2 ⟨key, h.criteria _ _ hget⟩, c, hc, rfl⟩

variable (h : Grows b b' d new d')

include h

/-- What is recorded in a layer that there was is an id that there was. -/
theorem mem_ids_of_old (hbuild : b.build version = .ok space) {l : Layer} (hl : l ∈ space.topLayers)
    {scope : Scope} {v : Visit} (hv : v ∈ l.visits scope) {id : SegmentId}
    (hid : v.recorded? = some id) : id ∈ d.ids := by
  refine mem_ids_of_recorded (b := b) (fun m hm => ?_) hv hid
  obtain ⟨e, he, rfl⟩ := layer_of_build h.left.sound hbuild (List.mem_flatMap.2 ⟨l, hl, hm⟩)
  exact ⟨e, h.left.mem_layers he, fun t ht =>
    h.left.segments.mem_iff.1 (mem_segments_iff.2 ⟨e, he, ht⟩), rfl⟩

/-- What is recorded in a new layer is a new id. -/
theorem mem_ids_of_new {l : Layer} (hl : New b' new l) {scope : Scope} {v : Visit}
    (hv : v ∈ l.visits scope) {id : SegmentId} (hid : v.recorded? = some id) : id ∈ new.ids := by
  refine mem_ids_of_recorded (b := b') (fun m hm => ?_) hv hid
  obtain ⟨e, he, hinfo, rfl⟩ := h.new_of_mem_tree.2 l hl m hm
  exact ⟨e, hinfo, fun t ht => (h.mem_new_iff he ht).2 hinfo, rfl⟩

/-- A new layer of the extended space. -/
theorem new_of_top (hbuild' : b'.build version' = .ok space') {l : Layer}
    (hl : l ∈ space'.topLayers) (hinfo : l.info ∈ new.layers) : New b' new l := by
  obtain ⟨e, he, rfl⟩ := layer_of_build h.right.sound hbuild' (Space.mem_layers_of_top hl)
  exact ⟨e, he, hinfo, rfl⟩

variable {flag : String}

/-- What a request meets in a new layer says nothing of a flag that no new experiment changes. -/
theorem not_tells_of_new (hflag : ∀ s ∈ new.segments, s.overrides.contains flag = false)
    (hbuild' : b'.build version' = .ok space') {l : Layer} (hl : l ∈ space'.topLayers)
    (hnew : New b' new l) {scope : Scope} {v : Visit} (hv : v ∈ l.visits scope) (time : Int64) :
    Gain.tells time flag v = false := by
  refine Bool.eq_false_iff.2 fun htells => ?_
  obtain ⟨change, info, effect, hout, -, s, hs, hid, hc⟩ :=
    ((defined_of_visit h.right.sound hbuild' hl hv).tells_iff h.right.sound time flag).1 htells
  have hrecorded : v.recorded? = some info.id := by rw [Visit.recorded?, hout]
  rcases h.mem_segments.1 hs with hold | hnew'
  · exact h.id_not_mem hold (hid ▸ h.mem_ids_of_new hnew hv hrecorded)
  · exact not_new_of_changes hflag hc hnew'

/-- **One visit of both.**  It says the same of a flag that no new experiment changes. -/
theorem calculator?_visit (hflag : ∀ s ∈ new.segments, s.overrides.contains flag = false)
    (hbuild : b.build version = .ok space) (hbuild' : b'.build version' = .ok space')
    {scope scope' : Scope} {l l' : Layer} {v v' : Visit} (hl : l ∈ space.topLayers)
    (hv : v ∈ l.visits scope) (hl' : l' ∈ space'.topLayers) (hv' : v' ∈ l'.visits scope')
    (heq : v'.outline = v.outline) (time : Int64) {isIn isIn' : SegmentId → Bool}
    (hin : ∀ id ∉ new.ids, isIn' id = isIn id) :
    v'.calculator? time isIn' flag = v.calculator? time isIn flag := by
  rcases Visit.outcome_of_outline heq with ⟨houtcome, hno⟩ | ⟨info, effect, effect', hout, hout'⟩
  · rw [Visit.calculator?, Visit.calculator?, houtcome]
    cases hout : v.outcome with
    | experiment info effect => exact absurd hout (hno info effect)
    | _ => rfl
  obtain ⟨e, he, overrides, hs, rfl⟩ := defined_of_visit h.left.sound hbuild hl hv _ _ hout
  obtain ⟨e', he', overrides', hs', rfl⟩ :=
    defined_of_visit h.right.sound hbuild' hl' hv' _ _ hout'
  -- the builders have one experiment of the id, in one layer
  have hmem : SegmentDefinition.experiment info overrides ∈ b'.segments :=
    h.mem_segments.2 (.inl (mem_segments_iff.2 ⟨e, he, hs⟩))
  have hmem' := mem_segments_iff.2 ⟨e', he', hs'⟩
  obtain rfl : overrides = overrides' := by
    have hone := List.inj_on_of_nodup_map h.right.sound.segmentIds hmem hmem' rfl
    cases hone
    rfl
  obtain ⟨f, hf, hinfo⟩ := h.covers.layers e he
  obtain rfl := h.right.sound.eq_of_mem_segments hf he'
    ((h.covers.segments e he f hf hinfo).mem_iff.1 hs) hs'
  simp only [Visit.calculator?, hout, hout', hinfo, h.calculator?_effect hflag e.info overrides hin]

omit h

/-! ## 4. Two passes -/

/-- The layers that a pass goes through, and those of the pass through the extended space: but for
the new ones they look the same. -/
structure Beside (new : SpaceDefinition) (space space' : Space) (pass pass' : List Layer) :
    Prop where
  top : ∀ l ∈ pass, l ∈ space.topLayers
  top' : ∀ l ∈ pass', l ∈ space'.topLayers
  same : (pass'.filter fun l => l.info ∉ new.layers).map View.outlined.layer =
    pass.map View.outlined.layer

include h

/-- Layers that are picked by what is known of them. -/
theorem beside (picks : LayerInfo → Prop) {pass pass' : List Layer} (hasc : Ascending pass)
    (hasc' : Ascending pass') (htop : ∀ l ∈ pass, l ∈ space.topLayers)
    (htop' : ∀ l ∈ pass', l ∈ space'.topLayers)
    (hpass : ∀ l, l ∈ pass ↔ ∃ e ∈ b.drafts, picks e.info ∧ l = b.layerOf b.assemble e)
    (hpass' : ∀ l, l ∈ pass' ↔ ∃ e ∈ b'.drafts, picks e.info ∧ l = b'.layerOf b'.assemble e) :
    Beside new space space' pass pass' := by
  refine ⟨htop, htop', ?_⟩
  have hview : ∀ e ∈ b.drafts, ∀ e' ∈ b'.drafts, e'.info = e.info →
      View.outlined.layer (b'.layerOf b'.assemble e') =
        View.outlined.layer (b.layerOf b.assemble e) :=
    fun e he => (h.covers.view_layerOf .outlined fun _ _ _ => by simp [View.outlined]).2 _ e he rfl
  have hascending : ∀ {layers : List Layer}, Ascending layers →
      Ascending (layers.map View.outlined.layer) := by
    intro layers hlayers
    refine List.pairwise_map.2 (hlayers.imp fun {l m} hlt => ?_)
    rwa [View.info_layer, View.info_layer]
  refine eq_of_ascending (hascending (hasc'.sublist List.filter_sublist)) (hascending hasc)
    fun l => ?_
  simp only [List.mem_map, List.mem_filter, decide_eq_true_eq]
  constructor
  · rintro ⟨l', ⟨hl', hold⟩, rfl⟩
    obtain ⟨e', he', hpicks, rfl⟩ := (hpass' l').1 hl'
    obtain ⟨e, he, hinfo⟩ := h.left.exists_draft ((h.mem_layers he').resolve_right hold)
    exact ⟨_, (hpass _).2 ⟨e, he, hinfo ▸ hpicks, rfl⟩, (hview e he e' he' hinfo.symm).symm⟩
  · rintro ⟨l, hl, rfl⟩
    obtain ⟨e, he, hpicks, rfl⟩ := (hpass l).1 hl
    obtain ⟨e', he', hinfo⟩ := h.covers.layers e he
    refine ⟨_, ⟨(hpass' _).2 ⟨e', he', hinfo ▸ hpicks, rfl⟩, fun hnew => ?_⟩,
      hview e he e' he' hinfo⟩
    exact h.layerId_ne (h.left.mem_layers he) hnew (congrArg LayerInfo.id hinfo.symm)

theorem beside_launchLayers (hbuild : b.build version = .ok space)
    (hbuild' : b'.build version' = .ok space') :
    Beside new space space' space.launchLayers space'.launchLayers :=
  h.beside (·.launch = true) (ascending_build h.left.sound hbuild).1
    (ascending_build h.right.sound hbuild').1 (launchLayers_subset space)
    (launchLayers_subset space')
    (fun _ => mem_launchLayers_iff h.left.sound hbuild)
    fun _ => mem_launchLayers_iff h.right.sound hbuild'

theorem beside_permanentLayers (hbuild : b.build version = .ok space)
    (hbuild' : b'.build version' = .ok space') :
    Beside new space space' space.permanentLayers space'.permanentLayers :=
  h.beside (fun info => info.isTop = true ∧ info.launch = false)
    (ascending_build h.left.sound hbuild).2.1 (ascending_build h.right.sound hbuild').2.1
    (permanentLayers_subset space) (permanentLayers_subset space')
    (fun _ => by simp only [mem_permanentLayers_iff h.left.sound hbuild, and_assoc])
    fun _ => by simp only [mem_permanentLayers_iff h.right.sound hbuild', and_assoc]

/-- What a request meets in layers of the two spaces that look the same is the same, effects left
out. -/
theorem outline_visits (hbuild : b.build version = .ok space)
    (hbuild' : b'.build version' = .ok space') {scope : Scope}
    (hscope : scope.criteria = space.criteria) {l l' : Layer} (hl : l ∈ space.topLayers)
    (hl' : l' ∈ space'.topLayers) (hsame : View.outlined.layer l' = View.outlined.layer l) :
    (l'.visits (scope.withCriteria space'.criteria)).map Visit.outline =
      (l.visits scope).map Visit.outline := by
  have horderly : ∀ m ∈ l.tree, m.Orderly space.criteria := fun m hm =>
    orderly_build h.left.sound hbuild m (List.mem_flatMap.2 ⟨l, hl, hm⟩)
  have horderly' : ∀ m ∈ l'.tree, m.Orderly space'.criteria := fun m hm =>
    orderly_build h.right.sound hbuild' m (List.mem_flatMap.2 ⟨l', hl', hm⟩)
  have hagrees : ∀ m ∈ l.tree,
      m.Agrees scope.criteria scope (scope.withCriteria space'.criteria) := fun m hm =>
    (hscope ▸ (horderly m hm).divides).agrees_withCriteria (h.keeps hbuild hbuild' hscope)
  have hmore := visits_congr.2 l hagrees
  rw [visits_outlined horderly', hsame, ← visits_outlined horderly, hmore]

/-- **A pass.**  What a request meets in the extended space goes beside what it met, for every flag
that no new experiment changes. -/
theorem alongside (hflag : ∀ s ∈ new.segments, s.overrides.contains flag = false)
    (hbuild : b.build version = .ok space) (hbuild' : b'.build version' = .ok space')
    {scope : Scope} (hscope : scope.criteria = space.criteria) (time : Int64) :
    ∀ {pass' pass : List Layer} {seen : SegmentId → Prop}, Beside new space space' pass pass' →
    Gain.Alongside time flag (· ∈ new.ids) seen (pass.flatMap (·.visits scope))
      (pass'.flatMap (·.visits (scope.withCriteria space'.criteria)))
  | [], pass, seen, hbeside => by
    obtain rfl := List.map_eq_nil_iff.1 hbeside.same.symm
    exact .nil
  | l' :: rest', pass, seen, ⟨htop, htop', hsame⟩ => by
    obtain ⟨hl', hrest'⟩ := List.forall_mem_cons.1 htop'
    by_cases hnew : l'.info ∈ new.layers
    · -- a new layer
      rw [List.filter_cons_of_neg (by simpa using hnew)] at hsame
      have hnew := h.new_of_top hbuild' hl' hnew
      rw [List.flatMap_cons]
      refine (Gain.alongside_extra fun v' hv' => ⟨?_, fun id => h.mem_ids_of_new hnew hv'⟩).append
        (alongside hflag hbuild hbuild' hscope time ⟨htop, hrest', hsame⟩)
      exact h.not_tells_of_new hflag hbuild' hl' hnew hv' time
    · rw [List.filter_cons_of_pos (by simpa using hnew), List.map_cons] at hsame
      obtain ⟨l, rest, rfl, hl, hrest⟩ := List.map_eq_cons_iff.1 hsame.symm
      obtain ⟨hltop, hresttop⟩ := List.forall_mem_cons.1 htop
      rw [List.flatMap_cons, List.flatMap_cons]
      refine Gain.Alongside.append ?_
        (alongside hflag hbuild hbuild' hscope time ⟨hresttop, hrest', hrest.symm⟩)
      refine Gain.alongside_of_map Visit.recorded?_outline
        (h.outline_visits hbuild hbuild' hscope hltop hl' hl.symm)
        fun before v after v' hsplit hv' heq isIn isIn' _ hin => ?_
      have hv : v ∈ l.visits scope := by simp [hsplit]
      exact h.calculator?_visit hflag hbuild hbuild' hltop hv hl' hv' heq time hin

/-- The ids that a pass through the extended space records are those that the pass records, and new
ids. -/
theorem recorded_iff (hbuild : b.build version = .ok space)
    (hbuild' : b'.build version' = .ok space') {scope : Scope}
    (hscope : scope.criteria = space.criteria) {pass pass' : List Layer}
    (hbeside : Beside new space space' pass pass') {id : SegmentId} :
    Recorded (pass.flatMap (·.visits scope)) id ↔
      Recorded (pass'.flatMap (·.visits (scope.withCriteria space'.criteria))) id ∧
        id ∉ new.ids := by
  have hpair : ∀ l ∈ pass, ∀ l' ∈ pass', View.outlined.layer l' = View.outlined.layer l →
      (Recorded (l'.visits (scope.withCriteria space'.criteria)) id ↔
        Recorded (l.visits scope) id) := by
    intro l hl l' hl' hsame
    have hvisits := h.outline_visits hbuild hbuild' hscope (hbeside.top l hl)
      (hbeside.top' l' hl') hsame
    rw [← recorded_map Visit.recorded?_outline, hvisits, recorded_map Visit.recorded?_outline]
  have hmem : ∀ l : Layer, l ∈ pass.map View.outlined.layer ↔
      ∃ l' ∈ pass', l'.info ∉ new.layers ∧ View.outlined.layer l' = l := by
    intro l
    rw [← hbeside.same]
    simp only [List.mem_map, List.mem_filter, decide_eq_true_eq, and_assoc]
  rw [recorded_flatMap, recorded_flatMap]
  constructor
  · rintro ⟨l, hl, hid⟩
    obtain ⟨l', hl', -, hsame⟩ := (hmem _).1 (List.mem_map_of_mem hl)
    refine ⟨⟨l', hl', (hpair l hl l' hl' hsame).2 hid⟩, fun hnew => ?_⟩
    obtain ⟨v, hv, hid⟩ := hid
    exact h.parts.ids id hnew (h.mem_ids_of_old hbuild (hbeside.top l hl) hv hid)
  · rintro ⟨⟨l', hl', hid⟩, hno⟩
    have hold : l'.info ∉ new.layers := by
      intro hinfo
      obtain ⟨v, hv, hid⟩ := hid
      exact hno (h.mem_ids_of_new (h.new_of_top hbuild' (hbeside.top' l' hl') hinfo) hv hid)
    obtain ⟨l, hl, hsame⟩ := List.mem_map.1 ((hmem _).2 ⟨l', hl', hold, rfl⟩)
    exact ⟨l, hl, (hpair l hl l' hl' hsame.symm).1 hid⟩

end Grows

end Builder

/-! ## 5. Independence -/

/-- **Layers are independent.**  A definition is extended by criteria and by layers that stand by
themselves, and both definitions are accepted and make a space.  A new request that is not forced
records the same ids in both, but for new ids; and a flag that no new experiment changes has the
same calculator for it. -/
theorem independent_of_new_layers {declared : FlagRegistry} {d new d' : SpaceDefinition}
    (h : d.Extends new d') {b b' : Builder}
    (hb : (Builder.start declared).addDefinition d = (b, none))
    (hb' : (Builder.start declared).addDefinition d' = (b', none)) {version version' : String}
    {space space' : Space} (hbuild : b.build version = .ok space)
    (hbuild' : b'.build version' = .ok space') (disabled : KeySet SegmentId) (host : Host)
    (draws : Draws) {context : Context} (hf : context.forced.isEmpty = true) :
    ∃ r r', (Snapshot.handle ⟨space, disabled⟩ host draws (.start context)).result = .ok r ∧
      (Snapshot.handle ⟨space', disabled⟩ host draws (.start context)).result = .ok r' ∧
      (∀ id, r.ids.contains id = true ↔ r'.ids.contains id = true ∧ id ∉ new.ids) ∧
      ∀ flag, (∀ s ∈ new.segments, s.overrides.contains flag = false) →
        r'.calculator? flag = r.calculator? flag := by
  have hgrows := Builder.grows_of_accepted h hb hb'
  obtain ⟨launched, settled, r, hl, hs, hr, hids, hcalc⟩ :=
    Builder.handle_unforced hgrows.left.sound hbuild hf disabled host draws
  obtain ⟨launched', settled', r', hl', hs', hr', hids', hcalc'⟩ :=
    Builder.handle_unforced hgrows.right.sound hbuild' hf disabled host draws
  have hlaunch := hgrows.beside_launchLayers hbuild hbuild'
  have hpermanent := hgrows.beside_permanentLayers hbuild hbuild'
  have hscope : (Snapshot.scope ⟨space, disabled⟩ host draws context .empty topDomain).criteria =
      space.criteria := rfl
  refine ⟨r, r', hr, hr', fun id => ?_, fun flag hflag => ?_⟩
  · rw [hids, hids', Snapshot.visits_unforced _ _ _ _ hf, Snapshot.visits_unforced _ _ _ _ hf]
    refine hgrows.recorded_iff hbuild hbuild' hscope ⟨fun _ hk => hk, fun _ hk => hk, ?_⟩
    simp only [Space.topLayers, List.filter_append, List.map_append, hlaunch.same, hpermanent.same]
  · rw [Snapshot.launchVisits_eq] at hl hl'
    rw [Snapshot.permanentVisits_eq] at hs hs'
    obtain ⟨hfirst, hsecond⟩ := Gain.lockstep_passes rfl (fun _ => rfl) (fun _ => rfl) hl hl' hs hs'
      (hgrows.alongside hflag hbuild hbuild' hscope context.time hlaunch)
      (hgrows.alongside hflag hbuild hbuild' hscope context.time hpermanent)
    rw [hcalc, hcalc', hfirst, hsecond, hgrows.flags]

/-- The definition with the parts of another one after its own. -/
def SpaceDefinition.append (d new : SpaceDefinition) : SpaceDefinition :=
  ⟨d.flags ++ new.flags, d.criteria ++ new.criteria, d.layers ++ new.layers,
    d.segments ++ new.segments⟩

/-- One experiment that changes one of two flags. -/
def SpaceDefinition.single : SpaceDefinition :=
  ⟨[⟨"f", ⟨.int 1, []⟩⟩, ⟨"g", ⟨.int 2, []⟩⟩], [⟨1, 1, true⟩],
    [⟨3, topDomain, false, 301, 302, 303⟩],
    [.experiment ⟨30, 3, 1, KeySet.ofKeys [0], .always, .always, .always⟩
      (Table.ofList [("f", .append [.mk (.int 10) (.add .int) .always []])])]⟩

/-- A criterion that comes first, a launch layer, and a layer with a domain, in which a layer is
nested: the experiments change the other flag. -/
def SpaceDefinition.annex : SpaceDefinition :=
  let info (id : SegmentId) (layer : LayerId) (criterion : CriterionId) : SegmentInfo :=
    ⟨id, layer, criterion, KeySet.ofKeys [0], .always, .always, .always⟩
  ⟨[], [⟨0, 1, true⟩],
    [⟨1, topDomain, true, 101, 102, 103⟩, ⟨2, topDomain, false, 201, 202, 203⟩,
      ⟨4, 20, false, 401, 402, 403⟩],
    [.experiment (info 10 1 0) (Table.ofList [("g", .replace ⟨.int 100, []⟩)]),
      .domain (info 20 2 1),
      .experiment (info 40 4 0)
        (Table.ofList [("g", .append [.mk (.int 5) (.add .int) .always []])])]⟩

theorem SpaceDefinition.extends_annex :
    SpaceDefinition.single.Extends .annex (SpaceDefinition.single.append .annex) where
  noFlags := rfl
  flags := .refl _
  criteria := .refl _
  layers := .refl _
  segments := .refl _
  placed := by decide
  nested := by decide
  ids id hnew hold := by
    have hall : (annex.ids.all fun id => !single.ids.contains id) = true := by decide
    have hno := List.all_eq_true.1 hall id hnew
    rw [List.contains_iff_mem.2 hold] at hno
    cases hno

/-- The builder that took the first definition. -/
def Builder.single : Builder := ((Builder.start .empty).addDefinition .single).1

/-- The builder that took the extended one. -/
def Builder.annexed : Builder :=
  ((Builder.start .empty).addDefinition (SpaceDefinition.single.append .annex)).1

/-- The new layers come before and after the old one, and the request gets into all of their
experiments; the first flag keeps its calculator. -/
theorem independent_of_new_layers_annex : ∃ space space' r r',
    SpaceDefinition.single.Extends .annex (SpaceDefinition.single.append .annex) ∧
    (Builder.start .empty).addDefinition .single = (.single, none) ∧
    (Builder.start .empty).addDefinition (SpaceDefinition.single.append .annex) = (.annexed, none) ∧
    Builder.single.build "v" = .ok space ∧ Builder.annexed.build "v" = .ok space' ∧
    (Context.at 0).forced.isEmpty = true ∧
    (∀ s ∈ SpaceDefinition.annex.segments, s.overrides.contains "f" = false) ∧
    ((Snapshot.of space).handle (fun _ _ => false) (fun _ _ _ => 0) (.start (.at 0))).result =
      .ok r ∧
    ((Snapshot.of space').handle (fun _ _ => false) (fun _ _ _ => 0) (.start (.at 0))).result =
      .ok r' ∧
    r.ids.keys = [30] ∧ r'.ids.keys = [10, 30, 40] ∧
    r'.calculator? "f" = r.calculator? "f" := by
  have hextends := SpaceDefinition.extends_annex
  have hd : (Builder.start .empty).addDefinition .single = (.single, none) := rfl
  have hd' : (Builder.start .empty).addDefinition (SpaceDefinition.single.append .annex) =
      (.annexed, none) := rfl
  have hbuild : Builder.single.build "v" = .ok _ := rfl
  have hbuild' : Builder.annexed.build "v" = .ok _ := rfl
  have hflag : ∀ s ∈ SpaceDefinition.annex.segments, s.overrides.contains "f" = false := by decide
  obtain ⟨r, r', hr, hr', -, hsame⟩ := independent_of_new_layers hextends hd hd' hbuild hbuild'
    .empty (fun _ _ => false) (fun _ _ _ => 0) (rfl : (Context.at 0).forced.isEmpty = true)
  have hkeys : r.ids.keys = [30] := by
    cases hr
    rfl
  have hkeys' : r'.ids.keys = [10, 30, 40] := by
    cases hr'
    rfl
  exact ⟨_, _, r, r', hextends, hd, hd', hbuild, hbuild', rfl, hflag, hr, hr', hkeys, hkeys',
    hsame "f" hflag⟩

end Rollout
