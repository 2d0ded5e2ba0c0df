import Mathlib.Data.List.Perm.Subperm
import Rollout.Proofs.Contention
import Rollout.Proofs.Progress
/-!
# Nothing is lost, and nothing comes twice

A builder keeps its layers in a list, and building a space moves each of them into the domain that
it is nested in, the latest layer first.  A layer that came after its domain was moved would be
lost.

* The first section says what calls add to a builder: some of the parts that they offer, and all of
  them if they do not fail (`Added`).
* The second says how the layers and segments that were added show in the space, each once and where
  it belongs (`Shows`).
-/

namespace Rollout

namespace Builder

/-! ## 1. What calls add -/

/-- One part of a space. -/
inductive Part where
  | flag (flag : FlagDefinition)
  | criterion (criterion : Criterion)
  | layer (info : LayerInfo)
  | segment (segment : SegmentDefinition)

/-- The layer that a part is, if it is one. -/
def Part.layers : Part → List LayerInfo
  | .layer info => [info]
  | _ => []

/-- The segment that a part is, if it is one. -/
def Part.segments : Part → List SegmentDefinition
  | .segment s => [s]
  | _ => []

/-- The parts of a definition. -/
def partsOf (d : SpaceDefinition) : List Part :=
  d.flags.map .flag ++
    (d.criteria.map .criterion ++ (d.layers.map .layer ++ d.segments.map .segment))

/-- The parts that a call offers. -/
def Call.parts : Call → List Part
  | .flag f => [.flag f]
  | .criterion c => [.criterion c]
  | .layer info => [.layer info]
  | .segment s => [.segment s]
  | .definition d => partsOf d

/-- The builder with one more part. -/
def add (b : Builder) : Part → Except ValidationError Builder
  | .flag flag => b.addFlag flag
  | .criterion criterion => b.addCriterion criterion
  | .layer info => b.addLayer info
  | .segment segment => b.addSegment segment

/-- The builder after a call, and why the call fails, if it does. -/
def result (b : Builder) : Call → Builder × Option ValidationError
  | .definition d => b.addDefinition d
  | c => addEach add b c.parts

theorem fst_result (b : Builder) (c : Call) : (b.result c).1 = b.call c := by
  have hone : ∀ part, (addEach add b [part]).1 = (b.add part).toOption.getD b := fun part => by
    rw [addEach]
    cases b.add part <;> rfl
  cases c with
  | definition d => rfl
  | flag flag => exact hone (.flag flag)
  | criterion criterion => exact hone (.criterion criterion)
  | layer info => exact hone (.layer info)
  | segment segment => exact hone (.segment segment)

/-- What is taken of parts that are offered: some of them, all if nothing is refused, and these,
added one after the other, make the builder that comes out. -/
structure Taken (b : Builder) (parts : List Part) (result : Builder × Option ValidationError)
    (taken : List Part) : Prop where
  among : taken.Subperm parts
  all : result.2 = none → taken.Perm parts
  adds : addEach add b taken = (result.1, none)

/-- **What calls add**, call by call. -/
inductive Added : Builder → List Call → List Part → Prop
  | nil {b : Builder} : Added b [] []
  | cons {b : Builder} {c : Call} {calls : List Call} {taken rest : List Part}
    (htaken : Taken b c.parts (b.result c) taken) (hrest : Added (b.call c) calls rest) :
    Added b (c :: calls) (taken ++ rest)

variable {b b' b₁ : Builder} {parts others taken taken' : List Part}
  {result : Builder × Option ValidationError}

theorem addEach_append_iff : addEach add b (taken ++ taken') = (b', none) ↔
    ∃ b₁, addEach add b taken = (b₁, none) ∧ addEach add b₁ taken' = (b', none) := by
  induction taken generalizing b with
  | nil => simp [addEach_nil_iff]
  | cons part rest ih =>
    simp only [List.cons_append, addEach_cons_iff, ih]
    constructor
    · rintro ⟨b₁, hpart, b₂, hrest, htail⟩
      exact ⟨b₂, ⟨b₁, hpart, hrest⟩, htail⟩
    · rintro ⟨b₂, ⟨b₁, hpart, hrest⟩, htail⟩
      exact ⟨b₁, hpart, b₂, hrest, htail⟩

namespace Taken

/-- Nothing is taken, and so something was refused. -/
theorem none (h : parts = [] ∨ result.2 ≠ .none) (hb : result.1 = b) : Taken b parts result [] where
  among := List.nil_subperm
  all hnone := by
    rw [h.resolve_right (not_not_intro hnone)]
  adds := by rw [hb, addEach]

/-- After parts of which all were taken come others. -/
theorem append (h : Taken b parts (b₁, .none) taken) (h' : Taken b₁ others result taken') :
    Taken b (parts ++ others) result (taken ++ taken') where
  among := h.among.append h'.among
  all hnone := (h.all rfl).append (h'.all hnone)
  adds := addEach_append_iff.2 ⟨b₁, h.adds, h'.adds⟩

/-- After a part that was refused no others are looked at. -/
theorem refused {e : ValidationError} (h : Taken b parts (b₁, some e) taken) :
    Taken b (parts ++ others) (b₁, some e) taken where
  among := h.among.trans (List.sublist_append_left parts others).subperm
  all hnone := absurd hnone (Option.some_ne_none e)
  adds := h.adds

theorem of_perm (h : Taken b parts result taken) (hperm : parts.Perm others) :
    Taken b others result taken where
  among := h.among.trans hperm.subperm
  all hnone := (h.all hnone).trans hperm
  adds := h.adds

/-- A single part is taken exactly if it is accepted. -/
theorem one_iff {part : Part} : Taken b [part] (addEach add b [part]) taken ↔
    taken = if (b.add part).isOk then [part] else [] := by
  cases hadd : b.add part with
  | error e =>
    have hresult : addEach add b [part] = (b, some e) := by rw [addEach, hadd]
    rw [hresult]
    constructor
    · intro h
      cases taken with
      | nil => rfl
      | cons other rest =>
        obtain rfl : other = part := List.mem_singleton.1 (h.among.subset List.mem_cons_self)
        obtain ⟨b₁, hok, -⟩ := addEach_cons_iff.1 h.adds
        rw [hadd] at hok
        cases hok
    · rintro rfl
      exact .none (.inr (Option.some_ne_none _)) rfl
  | ok b₁ =>
    have hresult : addEach add b [part] = (b₁, .none) := by
      rw [addEach, hadd]
      rfl
    rw [hresult]
    constructor
    · intro h
      exact List.perm_singleton.1 (h.all rfl)
    · rintro rfl
      exact ⟨.refl _, fun _ => .refl _, hresult⟩

end Taken

/-- Of parts of one kind those are taken that come before the first that is refused. -/
theorem exists_taken_addEach {α : Type} (addPart : Builder → α → Except ValidationError Builder)
    (part : α → Part) (hadd : ∀ b a, b.add (part a) = addPart b a) : ∀ (as : List α) (b : Builder),
    ∃ taken, Taken b (as.map part) (addEach addPart b as) taken
  | [], b => ⟨[], .none (.inl rfl) rfl⟩
  | a :: rest, b => by
    cases hfirst : addPart b a with
    | error e =>
      have hresult : addEach addPart b (a :: rest) = (b, some e) := by rw [addEach, hfirst]
      rw [hresult]
      exact ⟨[], .none (.inr (Option.some_ne_none _)) rfl⟩
    | ok b₁ =>
      have hresult : addEach addPart b (a :: rest) = addEach addPart b₁ rest := by
        rw [addEach, hfirst]
      obtain ⟨taken, htaken⟩ := exists_taken_addEach addPart part hadd rest b₁
      have hone : Taken b [part a] (b₁, none) [part a] := {
        among := .refl _
        all _ := .refl _
        adds := addEach_cons_iff.2 ⟨b₁, (hadd b a).trans hfirst, rfl⟩ }
      rw [hresult]
      exact ⟨_, hone.append htaken⟩

/-- The layers and segments of a pass, and then those that wait, are all of them. -/
theorem perm_parts_of_pass (b b₁ : Builder) (layers : List LayerInfo)
    (segments : List SegmentDefinition) : ((b.readyLayers layers).1.map Part.layer ++
      ((b₁.readySegments segments).1.map Part.segment ++ ((b.readyLayers layers).2.map Part.layer ++
        (b₁.readySegments segments).2.map Part.segment))).Perm
      (layers.map Part.layer ++ segments.map Part.segment) := by
  have hlayers := (b.perm_readyLayers layers).map Part.layer
  have hsegments := (b₁.perm_readySegments segments).map Part.segment
  rw [List.map_append] at hlayers hsegments
  refine ((List.perm_append_comm_assoc ..).append_left _).trans ?_
  rw [← List.append_assoc]
  exact hlayers.append hsegments

/-- What the passes take. -/
theorem exists_taken_passes {layers : List LayerInfo} {segments : List SegmentDefinition}
    (h : Passes b layers segments result) :
    ∃ taken, Taken b (layers.map .layer ++ segments.map .segment) result taken := by
  induction h with
  | done => exact ⟨[], .none (.inl rfl) rfl⟩
  | layerless => exact ⟨[], .none (.inr (Option.some_ne_none _)) rfl⟩
  | stuck => exact ⟨[], .none (.inr (Option.some_ne_none _)) rfl⟩
  | @layerRefused b b₁ layers segments e hsome hadd =>
    obtain ⟨taken, htaken⟩ :=
      exists_taken_addEach addLayer Part.layer (fun _ _ => rfl) (b.readyLayers layers).1 b
    rw [hadd] at htaken
    exact ⟨taken, htaken.refused.of_perm (perm_parts_of_pass b b₁ layers segments)⟩
  | @segmentRefused b b₁ b₂ layers segments e hsome hlayers hadd =>
    obtain ⟨taken, htaken⟩ :=
      exists_taken_addEach addLayer Part.layer (fun _ _ => rfl) (b.readyLayers layers).1 b
    obtain ⟨taken', htaken'⟩ :=
      exists_taken_addEach addSegment Part.segment (fun _ _ => rfl) (b₁.readySegments segments).1 b₁
    rw [hlayers] at htaken
    rw [hadd] at htaken'
    exact ⟨_, (htaken.append htaken'.refused).of_perm (perm_parts_of_pass b b₁ layers segments)⟩
  | @again b b₁ b₂ layers segments result hsome hlayers hsegments hrest ih =>
    obtain ⟨taken, htaken⟩ :=
      exists_taken_addEach addLayer Part.layer (fun _ _ => rfl) (b.readyLayers layers).1 b
    obtain ⟨taken', htaken'⟩ :=
      exists_taken_addEach addSegment Part.segment (fun _ _ => rfl) (b₁.readySegments segments).1 b₁
    obtain ⟨rest, hrest⟩ := ih
    rw [hlayers] at htaken
    rw [hsegments] at htaken'
    exact ⟨_, (htaken.append (htaken'.append hrest)).of_perm
      (perm_parts_of_pass b b₁ layers segments)⟩

/-- What a definition leaves in the builder. -/
theorem exists_taken_definition {d : SpaceDefinition} (h : Takes b d result) :
    ∃ taken, Taken b (partsOf d) result taken := by
  obtain ⟨flags, hflags⟩ := exists_taken_addEach addFlag Part.flag (fun _ _ => rfl) d.flags b
  cases h with
  | flagRefused hadd =>
    rw [hadd] at hflags
    exact ⟨_, hflags.refused⟩
  | @criterionRefused b₁ b₂ e hadd hrefused =>
    obtain ⟨criteria, hcriteria⟩ :=
      exists_taken_addEach addCriterion Part.criterion (fun _ _ => rfl) d.criteria b₁
    rw [hadd] at hflags
    rw [hrefused] at hcriteria
    exact ⟨_, hflags.append hcriteria.refused⟩
  | @passes b₁ b₂ result hadd hcriteriaAdded hpasses =>
    obtain ⟨criteria, hcriteria⟩ :=
      exists_taken_addEach addCriterion Part.criterion (fun _ _ => rfl) d.criteria b₁
    obtain ⟨rest, hrest⟩ := exists_taken_passes hpasses
    rw [hadd] at hflags
    rw [hcriteriaAdded] at hcriteria
    exact ⟨_, hflags.append (hcriteria.append hrest)⟩

/-- Every call takes some of its parts. -/
theorem exists_taken (b : Builder) (c : Call) : ∃ taken, Taken b c.parts (b.result c) taken := by
  have hone : ∀ part, ∃ taken, Taken b [part] (addEach add b [part]) taken := fun part =>
    ⟨_, Taken.one_iff.2 rfl⟩
  cases c with
  | definition d => exact exists_taken_definition (takes_iff.2 rfl)
  | flag flag => exact hone (.flag flag)
  | criterion criterion => exact hone (.criterion criterion)
  | layer info => exact hone (.layer info)
  | segment segment => exact hone (.segment segment)

theorem exists_added : ∀ (calls : List Call) (b : Builder), ∃ parts, Added b calls parts
  | [], _ => ⟨[], .nil⟩
  | c :: calls, b => by
    obtain ⟨taken, htaken⟩ := exists_taken b c
    obtain ⟨rest, hrest⟩ := exists_added calls (b.call c)
    exact ⟨_, .cons htaken hrest⟩

/-- What calls add makes the builder that they leave. -/
theorem Added.adds {calls : List Call} (h : Added b calls parts) :
    addEach add b parts = (b.run calls, none) := by
  induction h with
  | nil => rfl
  | cons htaken _ ih =>
    exact addEach_append_iff.2 ⟨_, fst_result _ _ ▸ htaken.adds, ih⟩

/-- Each layer that is added is there once. -/
theorem perm_infos_of_adds (h : addEach add b parts = (b', none)) :
    (b'.drafts.map (·.info)).Perm (parts.flatMap Part.layers ++ b.drafts.map (·.info)) := by
  refine perm_addEach (fun b => b.drafts.map (·.info)) Part.layers (fun b part b' hadd => ?_) h
  cases part with
  | flag flag =>
    obtain ⟨-, -, rfl⟩ := addFlag_eq_ok_iff.1 hadd
    exact .refl _
  | criterion criterion =>
    obtain ⟨-, -, rfl⟩ := addCriterion_eq_ok_iff.1 hadd
    exact .refl _
  | layer info => exact perm_infos_addLayer hadd
  | segment segment => exact .of_eq (infos_addSegment hadd)

/-- Each segment that is added is there once. -/
theorem perm_segments_of_adds (h : addEach add b parts = (b', none)) :
    b'.segments.Perm (parts.flatMap Part.segments ++ b.segments) := by
  refine perm_addEach Builder.segments Part.segments (fun b part b' hadd => ?_) h
  cases part with
  | flag flag => exact .of_eq (segments_addFlag hadd)
  | criterion criterion => exact .of_eq (segments_addCriterion hadd)
  | layer info => exact .of_eq (segments_addLayer hadd)
  | segment segment => exact perm_segments_addSegment hadd

/-! ## 2. What shows in the space -/

/-- **How layers and segments show in a space**: each once, and where it belongs. -/
structure Shows (space : Space) (layers : List LayerInfo) (segments : List SegmentDefinition) :
    Prop where
  /-- Each layer stands in the space once, at any depth, and no other layer does. -/
  eachLayer : (space.layers.map Layer.info).Perm layers
  layerIds : (layers.map (·.id)).Nodup
  launch : (space.launchLayers.map Layer.info).Perm (layers.filter fun l => l.isTop && l.launch)
  permanent : (space.permanentLayers.map Layer.info).Perm
    (layers.filter fun l => l.isTop && !l.launch)
  /-- In a domain stand the layers that name it. -/
  domains : ∀ info nested, .domain info nested ∈ space.members →
    (nested.map Layer.info).Perm (layers.filter fun l => l.domain = info.id)
  /-- The domain that a layer names is there. -/
  inside : ∀ l ∈ layers, l.isTop = false → ∃ info nested, .domain info nested ∈ space.members ∧
    info.id = l.domain ∧ l ∈ nested.map Layer.info
  /-- Each segment stands in the space once, at any depth, and no other segment does. -/
  eachSegment : (space.members.map fun s => (s.info, s.isDomain)).Perm
    (segments.map fun s => (s.info, s.isDomain))
  segmentIds : (segments.map (·.info.id)).Nodup
  /-- A segment stands in the layer that it names. -/
  named : ∀ l ∈ space.layers, ∀ s ∈ l.segments, s.info.layer = l.info.id
  /-- A segment is found under its id. -/
  found : ∀ id s, space.segments.get? id = some s ↔ s ∈ space.members ∧ s.info.id = id
  launchAscends : Ascending space.launchLayers
  permanentAscends : Ascending space.permanentLayers
  domainsAscend : ∀ info nested, .domain info nested ∈ space.members → Ascending nested

variable {version : String} {space : Space} {layers : List LayerInfo}
  {segments : List SegmentDefinition}

/-- The layers of the space itself, of one kind. -/
theorem perm_infos_top (hb : b.Sound) (kind : LayerInfo → Bool) :
    ((b.assemble.top.values.filter fun l => kind l.info).map Layer.info).Perm
      ((b.drafts.map (·.info)).filter fun l => l.isTop && kind l) := by
  have hperm := ((perm_waiting hb topDomain).filter fun l => kind l.info).map Layer.info
  rw [Assembled.waiting, if_pos rfl, List.filter_map, List.filter_filter, List.map_map] at hperm
  rw [List.filter_map]
  refine hperm.trans (.of_eq (congrArg (List.map _) (List.filter_congr fun d _ => ?_)))
  exact Bool.and_comm ..

/-- **A space shows what its builder holds.** -/
theorem shows_build (hb : b.Sound) (h : b.build version = .ok space)
    (hlayers : (b.drafts.map (·.info)).Perm layers) (hsegments : b.segments.Perm segments) :
    Shows space layers segments := by
  obtain ⟨hlaunch, hpermanent, hnested⟩ := ascending_build hb h
  have hdomains : ∀ info nested, .domain info nested ∈ space.members →
      (nested.map Layer.info).Perm (layers.filter fun l => l.domain = info.id) := by
    intro info nested hmem
    obtain ⟨d, hd, t, ht, heq⟩ := member_of_build hb h hmem
    have hperm := (perm_nested hb hd ht).map Layer.info
    rw [← heq, List.map_map, ← info_segmentOf, ← heq] at hperm
    have hfilter := hlayers.filter fun l => l.domain = info.id
    rw [List.filter_map] at hfilter
    exact hperm.trans hfilter
  constructor
  case eachLayer => exact (layers_build hb h).trans hlayers
  case layerIds =>
    refine (hlayers.map (·.id)).nodup_iff.1 ?_
    rw [List.map_map]
    exact hb.layerIds
  case launch =>
    rw [(build_ok h).2]
    exact (perm_infos_top hb LayerInfo.launch).trans (hlayers.filter _)
  case permanent =>
    rw [(build_ok h).2]
    exact (perm_infos_top hb fun l => !l.launch).trans (hlayers.filter _)
  case domains => exact hdomains
  case inside =>
    intro l hl htop
    obtain ⟨d, hd, rfl⟩ := List.mem_map.1 (hlayers.mem_iff.2 hl)
    obtain ⟨e, he, t, ht, hdomain, hid⟩ := hb.nested.exists_domain hd htop
    have hmem := (members_build hb h).mem_iff.2
      (List.mem_map_of_mem (mem_segments_iff.2 ⟨e, he, ht⟩))
    obtain ⟨s, hs, hshape⟩ := List.mem_map.1 hmem
    obtain ⟨hinfo, hkind⟩ := Prod.mk.inj hshape
    cases s with
    | experiment info effect => exact absurd (hkind.trans hdomain) Bool.false_ne_true
    | domain info nested =>
      have hdom : info.id = d.info.domain := (congrArg SegmentInfo.id hinfo).trans hid
      refine ⟨info, nested, hs, hdom, (hdomains info nested hs).mem_iff.2 ?_⟩
      exact List.mem_filter.2 ⟨hl, decide_eq_true hdom.symm⟩
  case eachSegment => exact (members_build hb h).trans (hsegments.map _)
  case segmentIds => exact (hsegments.map (·.info.id)).nodup_iff.1 hb.segmentIds
  case named =>
    intro l hl s hs
    obtain ⟨d, hd, rfl⟩ := layer_of_build hb h hl
    obtain ⟨t, ht, rfl⟩ := List.mem_map.1 hs
    rw [info_segmentOf]
    exact (hb.drafts d hd).layer t ht
  case found => exact fun id s => get?_segments_build hb h
  case launchAscends => exact hlaunch
  case permanentAscends => exact hpermanent
  case domainsAscend => exact hnested

/-- **Nothing is lost, and nothing comes twice.**  Whatever calls a space was built by, failing ones
included: each layer and each segment that they added stands in it once and where it belongs,
nothing else does, and layers side by side ascend by their ids. -/
theorem shows_what_was_added {declared : FlagRegistry} {calls : List Call} {version : String}
    {space : Space} (h : ((start declared).run calls).build version = .ok space) :
    (∃ parts, Added (start declared) calls parts) ∧
    ∀ parts, Added (start declared) calls parts →
      Shows space (parts.flatMap Part.layers) (parts.flatMap Part.segments) := by
  refine ⟨exists_added calls _, fun parts hadded => ?_⟩
  have hlayers := perm_infos_of_adds hadded.adds
  have hsegments := perm_segments_of_adds hadded.adds
  have hnone : (start declared).drafts = [] ∧ (start declared).segments = [] := ⟨rfl, rfl⟩
  rw [hnone.1, List.map_nil, List.append_nil] at hlayers
  rw [hnone.2, List.append_nil] at hsegments
  exact shows_build (sound_run declared calls) h hlayers hsegments

/-- Calls of which some are refused, the last of them a definition that is refused after a layer of
it was added. -/
def moreCalls : List Call :=
  someCalls ++ [.definition ⟨[], [], [⟨3, 99, false, 301, 302, 303⟩,
    ⟨4, topDomain, false, 401, 402, 403⟩], []⟩]

theorem shows_what_was_added_moreCalls : ∃ space parts,
    ((start .empty).run moreCalls).build "v" = .ok space ∧
    space.layers.map (·.info.id) = [1, 2, 4] ∧ space.ids = [10, 20] ∧
    Added (start .empty) moreCalls parts ∧
    Shows space (parts.flatMap Part.layers) (parts.flatMap Part.segments) := by
  obtain ⟨⟨parts, hadded⟩, hshows⟩ := shows_what_was_added
    (rfl : ((start .empty).run moreCalls).build "v" = .ok _)
  exact ⟨_, parts, rfl, rfl, rfl, hadded, hshows parts hadded⟩

end Builder

end Rollout
