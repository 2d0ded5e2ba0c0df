import Mathlib.Data.List.Rotate
import Rollout.Proofs.Diagnosis
import Rollout.Proofs.Nesting
import Rollout.Proofs.Reordering
import Rollout.Proofs.Site
/-!
# Adding in bulk

A definition can be added part by part, by someone who knows an order in which each part finds what
it needs, or at once, by `Builder.addDefinition`, which has to find such an order itself.

* Builders that hold the same parts cannot be told apart by later calls, nor by what is built
  (`Twins.answers_eq`, `Twins.run`, `Matches.sameOutcome`).
* Of parts that are accepted in some order, the flags and criteria are accepted first as well
  (`addFlags_of_adds`, `addCriteria_of_adds`), and then what the builder holds in the end is a
  well-formed definition, of which the layers and segments are what is missing (`amid_of_adds`).
* So a pass refuses nothing, and once one layer was added all of them succeed (`Amid.finishes`).
  But a pass looks at segments only after it has added a layer, even where the layer of a segment
  has been there all along; `addDefinition_of_no_layers` and `addDefinition_of_not_opens` have what
  comes of that.
-/

namespace Rollout

namespace Builder

variable {b b' b₁ b₂ : Builder} {parts : List Part} {d : SpaceDefinition}

/-! ## 1. Builders with the same parts -/

/-- What is declared stays. -/
theorem Reaches.declared (h : Reaches b b') : b'.declared = b.declared := by
  induction h with
  | refl => rfl
  | tail _ hstep ih => exact hstep.declared.trans ih

/-- The builders hold the same parts, and know of the same declarations. -/
structure Twins (b b' : Builder) : Prop where
  same : b.Matches b'
  declared : b'.declared = b.declared

namespace Twins

/-- The same buckets of a layer have owners. -/
theorem owners_eq (h : b.Twins b') (layer : LayerId) (criterion : CriterionId) :
    b'.facts.owners layer criterion = b.facts.owners layer criterion := by
  cases hdraft : b.draft? layer with
  | none =>
    have hnone : b'.draft? layer = none := by
      refine List.find?_eq_none.2 fun d' hd' hid => ?_
      obtain ⟨d, hd, hinfo⟩ := h.same.symm.exists_draft hd'
      exact List.find?_eq_none.1 hdraft d hd (hinfo ▸ hid)
    simp [facts, hdraft, hnone]
  | some d =>
    have hd := List.mem_of_find?_eq_some hdraft
    obtain rfl : d.info.id = layer := by simpa using List.find?_some hdraft
    obtain ⟨d', hd', hinfo⟩ := h.same.exists_draft hd
    have hperm := h.same.perm_segments hd hd' hinfo
    have hdraft' := hinfo ▸ h.same.right.draft?_eq hd'
    simp only [facts, hdraft, hdraft', Option.map_some, Option.getD_some]
    refine Table.ext_get? fun bucket => Option.ext fun owner => ?_
    rw [(h.same.left.drafts d hd).ledger, (h.same.right.drafts d' hd').ledger]
    simp only [hperm.mem_iff]

/-- The same shows of them. -/
theorem facts_eq (h : b.Twins b') : b'.facts = b.facts := by
  have hlayer : b'.hasLayer = b.hasLayer := by
    funext id
    rw [Bool.eq_iff_iff, hasLayer_iff, hasLayer_iff]
    simpa using (h.same.layers.map (·.id)).symm.mem_iff
  have hsegment : b'.hasSegment = b.hasSegment := by
    funext id
    rw [Bool.eq_iff_iff, hasSegment_iff, hasSegment_iff]
    simp only [h.same.segments.mem_iff]
  have hdomain : b'.hasDomain = b.hasDomain := by
    funext id
    rw [Bool.eq_iff_iff, h.same.left.hasDomain_iff, h.same.right.hasDomain_iff]
    simp only [h.same.segments.mem_iff]
  have howners : b'.facts.owners = b.facts.owners := by
    funext layer criterion
    exact h.owners_eq layer criterion
  simp only [facts] at howners ⊢
  rw [h.declared, h.same.flags, h.same.criteria, hlayer, hsegment, hdomain, howners]

/-- **The step.**  They stay so if the same part is added. -/
theorem add (h : b.Twins b') {part : Part} (hb : b.add part = .ok b₁) (hb' : b'.add part = .ok b₂) :
    b₁.Twins b₂ := by
  have hinfos : ∀ {b b₁ : Builder}, b.add part = .ok b₁ →
      (b₁.drafts.map (·.info)).Perm ([part].flatMap Part.layers ++ b.drafts.map (·.info)) :=
    fun hb => perm_infos_of_adds (addEach_cons_iff.2 ⟨_, hb, rfl⟩)
  have hsegments : ∀ {b b₁ : Builder}, b.add part = .ok b₁ →
      b₁.segments.Perm ([part].flatMap Part.segments ++ b.segments) :=
    fun hb => perm_segments_of_adds (addEach_cons_iff.2 ⟨_, hb, rfl⟩)
  have htables : b₂.flags = b₁.flags ∧ b₂.criteria = b₁.criteria := by
    cases part with
    | flag flag =>
      obtain ⟨-, -, rfl⟩ := addFlag_eq_ok_iff.1 hb
      obtain ⟨-, -, rfl⟩ := addFlag_eq_ok_iff.1 hb'
      exact ⟨by rw [h.same.flags], h.same.criteria⟩
    | criterion criterion =>
      obtain ⟨-, -, rfl⟩ := addCriterion_eq_ok_iff.1 hb
      obtain ⟨-, -, rfl⟩ := addCriterion_eq_ok_iff.1 hb'
      exact ⟨h.same.flags, by rw [h.same.criteria]⟩
    | layer info =>
      obtain ⟨-, -, -, rfl⟩ := addLayer_eq_ok_iff.1 hb
      obtain ⟨-, -, -, rfl⟩ := addLayer_eq_ok_iff.1 hb'
      exact ⟨h.same.flags, h.same.criteria⟩
    | segment segment =>
      have hleft := Prod.mk.inj (tables_addSegment hb)
      have hright := Prod.mk.inj (tables_addSegment hb')
      exact ⟨hright.1.trans (h.same.flags.trans hleft.1.symm),
        hright.2.trans (h.same.criteria.trans hleft.2.symm)⟩
  exact {
    same := {
      left := h.same.left.step (.of_add hb)
      right := h.same.right.step (.of_add hb')
      flags := htables.1
      criteria := htables.2
      layers := (hinfos hb).trans ((h.same.layers.append_left _).trans (hinfos hb').symm)
      segments := (hsegments hb).trans
        ((h.same.segments.append_left _).trans (hsegments hb').symm) }
    declared := (Step.of_add hb').declared.trans (h.declared.trans (Step.of_add hb).declared.symm) }

/-- They do the same with all parts. -/
theorem sim : Site.Sim site site Twins := sim_site facts_eq fun h hb hb' => h.add hb hb'

/-- **They answer all calls in the same way.** -/
theorem answers_eq (h : b.Twins b') (later : List Call) :
    site.answers b later = site.answers b' later :=
  sim.answers_eq later h

/-- They are still so after any calls. -/
theorem run (h : b.Twins b') (later : List Call) : (b.run later).Twins (b'.run later) := by
  have hrun := sim.run later h
  rwa [run_site, run_site] at hrun

end Twins

/-! ## 2. Flags and criteria first -/

/-- The flag that a part is, if it is one. -/
def Part.flags : Part → List FlagDefinition
  | .flag f => [f]
  | _ => []

/-- The criterion that a part is, if it is one. -/
def Part.criteria : Part → List Criterion
  | .criterion c => [c]
  | _ => []

/-- What a definition lists is what its parts are. -/
theorem perm_of_partsOf (h : parts.Perm (partsOf d)) :
    (parts.flatMap Part.flags).Perm d.flags ∧ (parts.flatMap Part.criteria).Perm d.criteria ∧
      (parts.flatMap Part.layers).Perm d.layers ∧
      (parts.flatMap Part.segments).Perm d.segments := by
  have hnone : ∀ {α β : Type} (as : List α), as.flatMap (fun _ => ([] : List β)) = [] := by
    simp
  refine ⟨(h.flatMap_right _).trans (.of_eq ?_), (h.flatMap_right _).trans (.of_eq ?_),
    (h.flatMap_right _).trans (.of_eq ?_), (h.flatMap_right _).trans (.of_eq ?_)⟩ <;>
    simp [partsOf, List.flatMap_append, List.flatMap_map, Part.flags, Part.criteria, Part.layers,
      Part.segments, hnone]

/-- Of parts with different keys, the order does not matter. -/
theorem foldl_eq_of_perm {α κ : Type} {after : Builder → α → Builder} {key : α → κ}
    (hcomm : ∀ b p q, key p ≠ key q → after (after b p) q = after (after b q) p) {ps qs : List α}
    (hperm : ps.Perm qs) (hkeys : (ps.map key).Nodup) (b : Builder) :
    ps.foldl after b = qs.foldl after b := by
  refine hperm.foldl_eq' (fun p hp q hq b => ?_) b
  by_cases hkey : key p = key q
  · rw [List.inj_on_of_nodup_map hkeys hp hq hkey]
  · exact hcomm b p q hkey

/-- Flags are accepted in any order, if they are in one. -/
theorem perm_addFlags {flags flags' : List FlagDefinition} (hperm : flags.Perm flags')
    (h : addEach addFlag b flags = (b', none)) : addEach addFlag b flags' = (b', none) := by
  obtain ⟨hnames, hall, rfl⟩ := addEach_addFlag_iff.1 h
  refine addEach_addFlag_iff.2 ⟨((hperm.map _).nodup_iff).1 hnames,
    fun flag hf => hall flag (hperm.mem_iff.2 hf), ?_⟩
  refine (foldl_eq_of_perm (fun b p q hne => ?_) hperm hnames b).symm
  simp only [withFlag, Table.insert_comm hne]

/-- Criteria are accepted in any order, if they are in one. -/
theorem perm_addCriteria {criteria criteria' : List Criterion} (hperm : criteria.Perm criteria')
    (h : addEach addCriterion b criteria = (b', none)) :
    addEach addCriterion b criteria' = (b', none) := by
  obtain ⟨hids, hall, rfl⟩ := addEach_addCriterion_iff.1 h
  refine addEach_addCriterion_iff.2 ⟨((hperm.map _).nodup_iff).1 hids,
    fun criterion hc => hall criterion (hperm.mem_iff.2 hc), ?_⟩
  refine (foldl_eq_of_perm (fun b p q hne => ?_) hperm hids b).symm
  simp only [withCriterion, Table.insert_comm hne]

/-- Whether flags are accepted depends on the flags and declarations that are there. -/
theorem addFlags_congr {flags : List FlagDefinition} {table : Overrides}
    (hflags : b₁.flags = b.flags) (hdeclared : b₁.declared = b.declared)
    (h : addEach addFlag b₁ flags = ({ b₁ with flags := table }, none)) :
    addEach addFlag b flags = ({ b with flags := table }, none) := by
  obtain ⟨hnames, hall, htable⟩ := addEach_addFlag_iff.1 h
  refine addEach_addFlag_iff.2 ⟨hnames, fun flag hf => ?_, ?_⟩
  · rw [← hflags, Agrees, ← hdeclared]
    exact hall flag hf
  · rw [foldl_withFlag, hflags] at htable
    obtain ⟨-, htable, -⟩ := Builder.mk.inj htable
    rw [foldl_withFlag, htable]

/-- Whether criteria are accepted depends on the criteria that are there. -/
theorem addCriteria_congr {criteria : List Criterion} {table : Table CriterionId Criterion}
    (hcriteria : b₁.criteria = b.criteria)
    (h : addEach addCriterion b₁ criteria = ({ b₁ with criteria := table }, none)) :
    addEach addCriterion b criteria = ({ b with criteria := table }, none) := by
  obtain ⟨hids, hall, htable⟩ := addEach_addCriterion_iff.1 h
  refine addEach_addCriterion_iff.2 ⟨hids, fun criterion hc => ?_, ?_⟩
  · rw [← hcriteria]
    exact hall criterion hc
  · rw [foldl_withCriterion, hcriteria] at htable
    obtain ⟨-, -, htable, -⟩ := Builder.mk.inj htable
    rw [foldl_withCriterion, htable]

/-- Flags that are accepted between other parts are accepted by themselves. -/
theorem addFlags_of_adds : ∀ {parts : List Part} {b : Builder}, addEach add b parts = (b', none) →
    addEach addFlag b (parts.flatMap Part.flags) = ({ b with flags := b'.flags }, none)
  | [], b, h => by
    rw [addEach_nil_iff.1 h]
    rfl
  | part :: rest, b, h => by
    obtain ⟨b₁, hpart, hrest⟩ := addEach_cons_iff.1 h
    have ih := addFlags_of_adds hrest
    cases part with
    | flag flag =>
      obtain ⟨-, -, rfl⟩ := addFlag_eq_ok_iff.1 hpart
      exact addEach_cons_iff.2 ⟨_, hpart, ih⟩
    | criterion criterion =>
      obtain ⟨-, -, hb₁⟩ := addCriterion_eq_ok_iff.1 hpart
      exact addFlags_congr (hb₁ ▸ rfl) (Step.of_add hpart).declared ih
    | layer info =>
      have htables := Prod.mk.inj (tables_addLayer hpart)
      exact addFlags_congr htables.1 (Step.of_add hpart).declared ih
    | segment segment =>
      exact addFlags_congr (Prod.mk.inj (tables_addSegment hpart)).1 (Step.of_add hpart).declared ih

/-- Criteria that are accepted between other parts are accepted by themselves. -/
theorem addCriteria_of_adds : ∀ {parts : List Part} {b : Builder},
    addEach add b parts = (b', none) →
    addEach addCriterion b (parts.flatMap Part.criteria) =
      ({ b with criteria := b'.criteria }, none)
  | [], b, h => by
    rw [addEach_nil_iff.1 h]
    rfl
  | part :: rest, b, h => by
    obtain ⟨b₁, hpart, hrest⟩ := addEach_cons_iff.1 h
    have ih := addCriteria_of_adds hrest
    cases part with
    | flag flag =>
      obtain ⟨-, -, hb₁⟩ := addFlag_eq_ok_iff.1 hpart
      exact addCriteria_congr (hb₁ ▸ rfl) ih
    | criterion criterion =>
      obtain ⟨-, -, rfl⟩ := addCriterion_eq_ok_iff.1 hpart
      exact addEach_cons_iff.2 ⟨_, hpart, ih⟩
    | layer info =>
      have htables := Prod.mk.inj (tables_addLayer hpart)
      exact addCriteria_congr (Prod.mk.inj htables.2).1 ih
    | segment segment =>
      exact addCriteria_congr (Prod.mk.inj (tables_addSegment hpart)).2 ih

/-- The builder with the flags and criteria of another one. -/
def equipped (b b' : Builder) : Builder := { b with flags := b'.flags, criteria := b'.criteria }

/-- **Flags and criteria come first** as well as in between. -/
theorem equipped_of_adds (hperm : parts.Perm (partsOf d)) (h : addEach add b parts = (b', none)) :
    addEach addFlag b d.flags = ({ b with flags := b'.flags }, none) ∧
      addEach addCriterion { b with flags := b'.flags } d.criteria = (b.equipped b', none) := by
  obtain ⟨hflags, hcriteria, -, -⟩ := perm_of_partsOf hperm
  refine ⟨perm_addFlags hflags (addFlags_of_adds h), ?_⟩
  refine addCriteria_congr ?_ (perm_addCriteria hcriteria (addCriteria_of_adds h))
  rfl

/-! ## 3. What a builder holds, as a definition -/

/-- What a builder holds. -/
def contents (b : Builder) : SpaceDefinition where
  flags := b.flags.entries.map fun e => ⟨e.1, e.2⟩
  criteria := b.criteria.values
  layers := b.drafts.map (·.info)
  segments := b.segments

/-- The criteria are listed by their ids. -/
theorem Sound.map_criteria (hb : b.Sound) :
    b.criteria.values.map (fun c => (c.id, c)) = b.criteria.entries := by
  rw [Table.values, List.map_map]
  refine (List.map_congr_left fun e he => ?_).trans (List.map_id _)
  have hid := (hb.criteria e.1 e.2 (Table.get?_eq_some_iff.2 he)).1
  exact Prod.ext hid rfl

theorem calculators_contents (b : Builder) : b.contents.calculators = b.flags := by
  rw [contents, SpaceDefinition.calculators, List.map_map]
  exact (congrArg _ (List.map_id _)).trans (Table.ofList_entries b.flags)

theorem Sound.criterionTable_contents (hb : b.Sound) : b.contents.criterionTable = b.criteria := by
  rw [contents, SpaceDefinition.criterionTable, hb.map_criteria, Table.ofList_entries]

/-- **A builder holds a well-formed definition.** -/
theorem Sound.wellFormed_contents (hb : b.Sound) (hup : b.Upright) :
    b.contents.WellFormed .empty := by
  have hholds : b.Holds b.contents :=
    ⟨hb, hup, b.calculators_contents.symm, hb.criterionTable_contents.symm, .refl _, .refl _⟩
  refine hholds.wellFormed ?_ (fun _ _ _ htype => by cases htype) ?_ ?_
  · rw [contents, List.map_map]
    exact b.flags.nodup_keys
  · have hids := congrArg (List.map Prod.fst) hb.map_criteria
    rw [List.map_map] at hids
    exact hids ▸ b.criteria.nodup_keys
  · intro criterion hc
    obtain ⟨id, hid⟩ := Table.mem_values_iff.1 hc
    exact (hb.criteria id criterion hid).2

/-! ## 4. The passes -/

theorem reaches_of_adds (h : addEach add b parts = (b', none)) : Reaches b b' := by
  have hreaches := reaches_addEach add (fun _ _ _ => Step.of_add) parts b
  rwa [h] at hreaches

/-- **The passes begin** with what is missing in the builder that has taken all parts. -/
theorem amid_of_adds (hb : b.Sound) (hperm : parts.Perm (partsOf d))
    (h : addEach add b parts = (b', none)) :
    (b.equipped b').Amid d.layers d.segments b'.contents := by
  obtain ⟨hflags, hcriteria⟩ := equipped_of_adds hperm h
  obtain ⟨-, -, hlayers, hsegments⟩ := perm_of_partsOf hperm
  have hb' : b'.Sound := hb.reaches (reaches_of_adds h)
  constructor
  case sound =>
    have hfirst := reaches_addEach addFlag (fun _ _ _ h => .flag h) d.flags b
    have hsecond := reaches_addEach addCriterion (fun _ _ _ h => .criterion h) d.criteria
      { b with flags := b'.flags }
    rw [hflags] at hfirst
    rw [hcriteria] at hsecond
    exact (hb.reaches hfirst).reaches hsecond
  case flags => exact b'.calculators_contents.symm
  case criteria => exact hb'.criterionTable_contents.symm
  case allLayers =>
    exact List.perm_append_comm.trans
      ((hlayers.symm.append_right _).trans (perm_infos_of_adds h).symm)
  case allSegments =>
    exact List.perm_append_comm.trans
      ((hsegments.symm.append_right _).trans (perm_segments_of_adds h).symm)

/-- A definition has a layer to begin with: one that stands in the space itself, or in a domain that
is there. -/
def Opens (b : Builder) (d : SpaceDefinition) : Prop :=
  ∃ layer ∈ d.layers, layer.isTop = true ∨ b.hasDomain layer.domain = true

theorem readyLayers_ne_nil_iff : (b.readyLayers d.layers).1 ≠ [] ↔ b.Opens d := by
  rw [readyLayers, List.partition_eq_filter_filter, ne_eq, List.filter_eq_nil_iff]
  simp [Opens, or_iff_not_imp_left]

/-- **Once begun, all passes succeed.** -/
theorem Amid.finishes {declared : FlagRegistry} {layers : List LayerInfo}
    {segments : List SegmentDefinition} (h : b.Amid layers segments d) (hd : d.WellFormed declared)
    (hready : (b.readyLayers layers).1 ≠ []) :
    ∃ b', addPasses layers.length b layers segments = (b', none) := by
  obtain ⟨b₁, b₂, hlayers, hsegments, hbetween⟩ := h.pass hd
  have hfewer := length_waiting_lt hready
  cases layers with
  | nil => cases hfewer
  | cons layer rest =>
    obtain ⟨b', hrest⟩ := Between.finishes hd (Nat.le_of_lt_succ hfewer) hbetween
    exact ⟨b', addPasses_cons_iff.2 ⟨_, b₁, b₂, rfl, hready, hlayers, hsegments, hrest⟩⟩

/-- What is missing is all that the passes have to do with. -/
theorem addDefinition_of_adds (hperm : parts.Perm (partsOf d))
    (h : addEach add b parts = (b', none)) :
    b.addDefinition d = addPasses d.layers.length (b.equipped b') d.layers d.segments := by
  obtain ⟨hflags, hcriteria⟩ := equipped_of_adds hperm h
  simp only [addDefinition, hflags, hcriteria]

/-- A definition without layers is refused for its first segment, if it has one. -/
theorem addDefinition_of_no_layers (hperm : parts.Perm (partsOf d))
    (h : addEach add b parts = (b', none)) (hnone : d.layers = []) :
    (b.addDefinition d).2 = d.segments.head?.map fun s =>
      .unknownLayer s.info.id s.info.layer := by
  rw [addDefinition_of_adds hperm h, hnone]
  unfold addPasses
  cases d.segments <;> rfl

/-- In a definition without layers, segments name layers that are there. -/
theorem hasLayer_of_no_layers (hb : b.Sound) (hup : b.Upright) (hperm : parts.Perm (partsOf d))
    (h : addEach add b parts = (b', none)) (hnone : d.layers = []) {s : SegmentDefinition}
    (hs : s ∈ d.segments) : b.hasLayer s.info.layer = true := by
  have hamid := amid_of_adds hb hperm h
  have hd := (hb.reaches (reaches_of_adds h)).wellFormed_contents (hup.reaches (reaches_of_adds h))
  obtain ⟨layer, hl, hid⟩ := hd.layer s (hamid.allSegments.mem_iff.1 (List.mem_append_right _ hs))
  have hold := hamid.allLayers.mem_iff.2 hl
  rw [hnone, List.append_nil] at hold
  obtain ⟨draft, hdraft, rfl⟩ := List.mem_map.1 hold
  exact hasLayer_iff.2 ⟨draft, hdraft, hid⟩

/-- The domain of a layer that waits is among the segments that wait. -/
theorem Amid.find?_domain {declared : FlagRegistry} {layers : List LayerInfo}
    {segments : List SegmentDefinition} (h : b.Amid layers segments d) (hd : d.WellFormed declared)
    {layer : LayerInfo} (hl : layer ∈ layers) (htop : layer.isTop = false)
    (hdomain : b.hasDomain layer.domain = false) : b.hasSegment layer.domain = false ∧
      ∃ s, segments.find? (fun s => s.info.id == layer.domain) = some s ∧ s.isDomain = true := by
  have hl' := h.allLayers.mem_iff.1 (List.mem_append_right _ hl)
  obtain ⟨s, hs, hsdomain, hid⟩ := hd.nested layer hl' htop
  have hids := (hd.of_perm h.allSegments).1
  rw [List.map_append, List.nodup_append] at hids
  obtain ⟨-, hids, hdisjoint⟩ := hids
  have hwaits : s ∈ segments := by
    refine (List.mem_append.1 (h.allSegments.mem_iff.2 hs)).resolve_left fun hold => ?_
    rw [← hid, h.sound.hasDomain hold hsdomain] at hdomain
    cases hdomain
  refine ⟨Bool.eq_false_iff.2 fun hold => ?_, s, ?_, hsdomain⟩
  · obtain ⟨t, ht, htid⟩ := hasSegment_iff.1 hold
    exact hdisjoint _ (List.mem_map.2 ⟨t, ht, htid⟩) _ (List.mem_map.2 ⟨s, hwaits, hid⟩) rfl
  · rw [← hid]
    exact find?_eq_of_nodup hids hwaits

/-- **Without a layer to begin with**, a definition with layers is refused for the way in which
these are nested. -/
theorem addDefinition_of_not_opens (hb : b.Sound) (hup : b.Upright)
    (hperm : parts.Perm (partsOf d)) (h : addEach add b parts = (b', none))
    (hsome : d.layers ≠ []) (hopens : ¬ b.Opens d) : (b.addDefinition d).2 =
      some (.unresolvableDomains ((d.layers.map (·.id)).mergeSort (· ≤ ·))) := by
  have hamid := amid_of_adds hb hperm h
  have hd := (hb.reaches (reaches_of_adds h)).wellFormed_contents (hup.reaches (reaches_of_adds h))
  have hready : ((b.equipped b').readyLayers d.layers).1 = [] :=
    not_not.1 (mt readyLayers_ne_nil_iff.1 hopens)
  obtain ⟨hall, hwaits⟩ := readyLayers_of_none hready
  have hstuck : Passes _ _ d.segments _ := .stuck hsome hready
  rw [addDefinition_of_adds hperm h, ← passes_iff.1 hstuck, hall]
  refine congrArg some ((unresolved_eq_unresolvable_iff _).2 ⟨rfl, fun layer hl => ⟨?_, ?_⟩⟩)
  · refine Bool.eq_false_iff.2 fun hlaunch => ?_
    have htop := hd.launchTop layer (hamid.allLayers.mem_iff.1 (List.mem_append_right _ hl)) hlaunch
    rw [(hwaits layer hl).1] at htop
    cases htop
  · exact hamid.find?_domain hd hl (hwaits layer hl).1 (hwaits layer hl).2

/-! ## 5. Bulk and single calls -/

/-- **Whether a definition is taken** that can be added part by part: if there is nothing to do in
passes, or a layer to begin with. -/
theorem accepted_iff_opens (hb : b.Sound) (hup : b.Upright) (hperm : parts.Perm (partsOf d))
    (h : addEach add b parts = (b', none)) :
    (b.addDefinition d).2 = none ↔ (d.layers = [] ∧ d.segments = []) ∨ b.Opens d := by
  by_cases hopens : b.Opens d
  · have hamid := amid_of_adds hb hperm h
    have hd :=
      (hb.reaches (reaches_of_adds h)).wellFormed_contents (hup.reaches (reaches_of_adds h))
    obtain ⟨b'', hpasses⟩ := hamid.finishes hd (readyLayers_ne_nil_iff.2 hopens)
    simp [addDefinition_of_adds hperm h, hpasses, hopens]
  · by_cases hnone : d.layers = []
    · simp [addDefinition_of_no_layers hperm h hnone, hnone, hopens]
    · simp [addDefinition_of_not_opens hb hup hperm h hnone hopens, hnone, hopens]

/-- **What is taken in bulk** is what was added part by part. -/
theorem twins_of_adds (hb : b.Sound) (hperm : parts.Perm (partsOf d))
    (h : addEach add b parts = (b', none)) (hd : b.addDefinition d = (b₁, none)) : b'.Twins b₁ := by
  have hreaches := reaches_addDefinition b d
  rw [hd] at hreaches
  rw [addDefinition_of_adds hperm h] at hd
  have htables := Prod.mk.inj (tables_addPasses hd)
  obtain ⟨-, -, hlayers, hsegments⟩ := perm_of_partsOf hperm
  exact {
    same := {
      left := hb.reaches (reaches_of_adds h)
      right := hb.reaches hreaches
      flags := htables.1
      criteria := htables.2
      layers := (perm_infos_of_adds h).trans
        ((hlayers.append_right _).trans (perm_infos_addPasses hd).symm)
      segments := (perm_segments_of_adds h).trans
        ((hsegments.append_right _).trans (perm_segments_addPasses hd).symm) }
    declared := (Reaches.declared hreaches).trans (Reaches.declared (reaches_of_adds h)).symm }

/-- **Bulk and single calls.**  Let any calls have been made on a new builder, and let it accept all
parts of a definition, one by one in some order.  Then it takes the definition at once exactly if
this lists no layers and segments at all, or a layer that stands in the space itself or in a domain
that is there.

If it does, then the two builders answer all later calls alike, what they build is refused for the
same reason or makes alike spaces, and requests fare the same in them.  If it does not, then it says
that a layer is not known that is there, or that the layers cannot be added that were added one by
one. -/
theorem bulk_like_single {declared : FlagRegistry} {calls : List Call} {b single : Builder}
    {d : SpaceDefinition} {parts : List Part} (hb : (start declared).run calls = b)
    (hperm : parts.Perm (partsOf d)) (hsingle : addEach add b parts = (single, none)) :
    ((b.addDefinition d).2 = none ↔ (d.layers = [] ∧ d.segments = []) ∨
      ∃ layer ∈ d.layers, layer.isTop = true ∨ b.hasDomain layer.domain = true) ∧
    (∀ bulk, b.addDefinition d = (bulk, none) → ∀ later,
      site.answers single later = site.answers bulk later ∧ ∀ version,
        SameOutcome ((single.run later).build version) ((bulk.run later).build version) ∧
        ∀ space space', (single.run later).build version = .ok space →
          (bulk.run later).build version = .ok space' → ∀ disabled host draws r,
            Snapshot.handle ⟨space, disabled⟩ host draws r =
              Snapshot.handle ⟨space', disabled⟩ host draws r) ∧
    ∀ e, (b.addDefinition d).2 = some e →
      (d.layers = [] ∧ ∃ s ∈ d.segments, b.hasLayer s.info.layer = true ∧
        e = .unknownLayer s.info.id s.info.layer) ∨
      (d.layers ≠ [] ∧ e = .unresolvableDomains ((d.layers.map (·.id)).mergeSort (· ≤ ·))) := by
  have hreaches : Reaches (start declared) b := hb ▸ reaches_run calls _
  have hsound : b.Sound := (sound_start declared).reaches hreaches
  have hupright : b.Upright :=
    Upright.reaches (fun s hs => absurd hs List.not_mem_nil) hreaches
  have hiff := accepted_iff_opens hsound hupright hperm hsingle
  refine ⟨hiff, fun bulk hbulk later => ?_, fun e he => ?_⟩
  · have htwins := twins_of_adds hsound hperm hsingle hbulk
    have hsame := (htwins.run later).same
    refine ⟨htwins.answers_eq later, fun version => ⟨hsame.sameOutcome version, ?_⟩⟩
    intro space space' hspace hspace'
    exact handle_alike hsame.left hsame.right hspace hspace' (hsame.alike hspace hspace')
  · have hopens : ¬ b.Opens d := fun hopens => by
      rw [hiff.2 (.inr hopens)] at he
      cases he
    by_cases hnone : d.layers = []
    · rw [addDefinition_of_no_layers hperm hsingle hnone] at he
      obtain ⟨s, hs, rfl⟩ := Option.map_eq_some_iff.1 he
      have hmem := List.mem_of_mem_head? hs
      have hlayer := hasLayer_of_no_layers hsound hupright hperm hsingle hnone hmem
      exact .inl ⟨hnone, s, hmem, hlayer, rfl⟩
    · rw [addDefinition_of_not_opens hsound hupright hperm hsingle hnone hopens] at he
      exact .inr ⟨hnone, (Option.some.inj he).symm⟩

end Builder

/-- A segment with one bucket, which changes nothing. -/
def SegmentInfo.plain (id : SegmentId) (layer : LayerId) (bucket : Bucket) : SegmentInfo :=
  ⟨id, layer, 0, KeySet.ofKeys [bucket], .always, .always, .always⟩

/-- A layer with a domain. -/
def Builder.domainCalls : List Call :=
  [.criterion ⟨0, 2, true⟩, .layer ⟨1, topDomain, false, 101, 102, 103⟩,
    .segment (.domain (.plain 10 1 0))]

/-- An experiment in a new layer in the domain, and another one beside the domain. -/
def SpaceDefinition.furnished : SpaceDefinition :=
  ⟨[⟨"f", ⟨.int 1, []⟩⟩], [], [⟨2, 10, false, 201, 202, 203⟩],
    [.experiment (.plain 20 2 0) (Table.ofList [("f", .replace ⟨.int 2, []⟩)]),
      .experiment (.plain 11 1 1) .empty]⟩

theorem Builder.bulk_like_single_furnished : ∃ b single bulk space space' parts,
    (start .empty).run domainCalls = b ∧ parts.Perm (partsOf .furnished) ∧
    addEach add b parts = (single, none) ∧ b.addDefinition .furnished = (bulk, none) ∧
    single.build "v" = .ok space ∧ bulk.build "v" = .ok space' ∧
    ∀ disabled host draws r, Snapshot.handle ⟨space, disabled⟩ host draws r =
      Snapshot.handle ⟨space', disabled⟩ host draws r := by
  have hperm := List.rotate_perm (partsOf .furnished) 3
  obtain ⟨-, hlater, -⟩ := @bulk_like_single .empty domainCalls _ _ _ _ rfl hperm rfl
  obtain ⟨-, hspaces⟩ := hlater _ rfl []
  exact ⟨_, _, _, _, _, _, rfl, hperm, rfl, rfl, rfl, rfl, (hspaces "v").2 _ _ rfl rfl⟩

/-- **A layer that is there is not known.**  A definition with one segment, in a layer that was
added before, is refused, though its part is accepted by itself. -/
theorem Builder.bulk_refuses_known_layer : ∃ single,
    addEach add ((start .empty).run domainCalls)
      (partsOf ⟨[], [], [], [.experiment (.plain 11 1 1) .empty]⟩) = (single, none) ∧
    (((start .empty).run domainCalls).addDefinition
      ⟨[], [], [], [.experiment (.plain 11 1 1) .empty]⟩).2 = some (.unknownLayer 11 1) :=
  ⟨_, rfl, rfl⟩

end Rollout
