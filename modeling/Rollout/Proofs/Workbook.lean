import Rollout.Proofs.Nesting
import Rollout.Proofs.Site
/-!
# What is refused leaves no trace

A builder is a value, and a part that it refuses cannot change it.  Where parts are written into
tables in place, that is something to prove: a part is checked in several places, and some of them
are written before the last check.

A `Workbook` is such a set of tables.  Its acts (`Act`) write as they go, and what they have written
when a check fails stays written.

* Whatever a workbook refuses, all of its tables are as they were (`Workbook.eq_of_refused`).  The
  only one that is written before the last check is the ledger of a layer: the page of a criterion
  is opened, and then conflicts are looked for on it.  But a page with conflicts was there before
  (`LayerDraft.write_eq`).
* A workbook does with all calls what a builder does (`Workbook.sim_builder`), and builds the same
  spaces.
-/

namespace Rollout

open Builder (Part Call)

/-! ## 1. Acts -/

/-- What writes in place and may stop at a check.  What it has written by then stays. -/
abbrev Act (σ α : Type) := EStateM ValidationError σ α

/-- Stops if a check fails. -/
def Act.check {σ α : Type} (result : Except ValidationError α) : Act σ α :=
  match result with
  | .error e => throw e
  | .ok a => pure a

namespace LayerDraft

/-- Opens the page of a criterion. -/
def openPage (criterion : CriterionId) : Act LayerDraft Unit :=
  modify fun d => { d with allocated := d.allocated.insert criterion (d.owners criterion) }

/-- Takes the buckets of a segment and lists it, if nobody has them. -/
def claim (segment : SegmentDefinition) (criterion : CriterionId) : Act LayerDraft Unit := do
  let info := segment.info
  let d ← get
  let conflicts := conflicts (d.owners criterion) info.buckets.keys
  if !conflicts.isEmpty then
    throw (.overlappingBuckets info.id d.info.id conflicts)
  modify fun d => { d with
    allocated := d.allocated.insert criterion
      (allocate (d.owners criterion) info.id info.buckets.keys) }
  modify fun d => { d with segments := d.segments ++ [segment] }

/-- Adds a segment to a layer.  The page of its criterion is opened before conflicts are looked
for. -/
def write (segment : SegmentDefinition) (criterion : Criterion) : Act LayerDraft Unit := do
  Act.check (checkRange segment.info.id criterion.buckets segment.info.buckets.keys)
  openPage criterion.id
  claim segment criterion.id

/-- Where there are conflicts, there is a page. -/
theorem insert_owners {d : LayerDraft} {criterion : CriterionId} {buckets : List Bucket}
    (h : (conflicts (d.owners criterion) buckets).isEmpty = false) :
    d.allocated.insert criterion (d.owners criterion) = d.allocated := by
  cases hpage : d.allocated.get? criterion with
  | some page =>
    have howners : d.owners criterion = page := by rw [owners, hpage, Option.getD_some]
    exact Table.insert_of_get? (howners ▸ hpage)
  | none =>
    have howners : d.owners criterion = .empty := by rw [owners, hpage, Option.getD_none]
    have hnone : conflicts (d.owners criterion) buckets = .empty :=
      foldl_conflicts_of_free _ _ (fun bucket _ => by rw [howners, Table.get?_empty]) _
    rw [hnone] at h
    cases h

theorem owners_insert (d : LayerDraft) (criterion : CriterionId) (page : Table Bucket SegmentId) :
    ({ d with allocated := d.allocated.insert criterion page } : LayerDraft).owners criterion =
      page := by
  rw [owners, Table.get?_insert, if_pos rfl, Option.getD_some]

theorem claim_eq (d : LayerDraft) (segment : SegmentDefinition) (criterion : CriterionId) :
    claim segment criterion d =
      if (conflicts (d.owners criterion) segment.info.buckets.keys).isEmpty then
        .ok () { d with
          segments := d.segments ++ [segment]
          allocated := d.allocated.insert criterion
            (allocate (d.owners criterion) segment.info.id segment.info.buckets.keys) }
      else .error (.overlappingBuckets segment.info.id d.info.id
        (conflicts (d.owners criterion) segment.info.buckets.keys)) d := by
  change (if (!(conflicts (d.owners criterion) segment.info.buckets.keys).isEmpty) = true
    then _ else _ : Act LayerDraft Unit) d = _
  cases (conflicts (d.owners criterion) segment.info.buckets.keys).isEmpty <;> rfl

theorem add_eq (d : LayerDraft) (segment : SegmentDefinition) (criterion : Criterion) :
    d.add segment criterion =
      match checkRange segment.info.id criterion.buckets segment.info.buckets.keys with
      | .error e => .error e
      | .ok _ =>
        if (conflicts (d.owners criterion.id) segment.info.buckets.keys).isEmpty then
          .ok { d with
            segments := d.segments ++ [segment]
            allocated := d.allocated.insert criterion.id
              (allocate (d.owners criterion.id) segment.info.id segment.info.buckets.keys) }
        else .error (.overlappingBuckets segment.info.id d.info.id
          (conflicts (d.owners criterion.id) segment.info.buckets.keys)) := by
  simp only [add, bind, Except.bind]
  cases checkRange segment.info.id criterion.buckets segment.info.buckets.keys with
  | error e => rfl
  | ok _ => cases (conflicts (d.owners criterion.id) segment.info.buckets.keys).isEmpty <;> rfl

/-- **Writing a segment** comes to the same as adding it, and one that is refused leaves the draft
as it was. -/
theorem write_eq (d : LayerDraft) (segment : SegmentDefinition) (criterion : Criterion) :
    write segment criterion d = match d.add segment criterion with
      | .ok d' => .ok () d'
      | .error e => .error e d := by
  rw [add_eq, write]
  cases checkRange segment.info.id criterion.buckets segment.info.buckets.keys with
  | error e => rfl
  | ok _ =>
    change claim segment criterion.id { d with
      allocated := d.allocated.insert criterion.id (d.owners criterion.id) } = _
    rw [claim_eq, owners_insert, Table.insert_insert]
    cases hfree : (conflicts (d.owners criterion.id) segment.info.buckets.keys).isEmpty with
    | true => rfl
    | false =>
      rw [insert_owners hfree]
      rfl

end LayerDraft

/-! ## 2. A workbook -/

/-- A builder that is written in place: each kind of part has tables of its own. -/
structure Workbook where
  declared : List (String × FlagType)
  flags : Table String Calculator
  criteria : Table CriterionId Criterion
  layers : Table LayerId LayerDraft
  /-- The ids of the layers, the latest first. -/
  order : List LayerId
  /-- The layer of each segment. -/
  homes : Table SegmentId LayerId
  domains : KeySet SegmentId

namespace Workbook

/-- The workbook with no parts, for the flags that are declared. -/
def start (declared : FlagRegistry) : Workbook :=
  ⟨(Builder.start declared).declared, .empty, .empty, .empty, [], .empty, .empty⟩

/-- The facts about a workbook, as its tables have them. -/
def facts (w : Workbook) : Facts where
  declared := w.declared
  flags := w.flags
  criteria := w.criteria
  hasLayer := w.layers.contains
  hasSegment := w.homes.contains
  hasDomain := w.domains.contains
  owners layer criterion := ((w.layers.get? layer).map (·.owners criterion)).getD .empty

/-- Writes in a layer, if it is there. -/
def inLayer (id : LayerId) (act : Act LayerDraft Unit) : Act Workbook Unit := fun w =>
  match w.layers.get? id with
  | none => .ok () w
  | some d =>
    match act d with
    | .ok _ d' => .ok () { w with layers := w.layers.insert id d' }
    | .error e d' => .error e { w with layers := w.layers.insert id d' }

/-- Checks a part, and writes it. -/
def enter (check : Facts → Except ValidationError Unit) (written : Workbook → Workbook) :
    Act Workbook Unit := do
  Act.check (check (← get).facts)
  modify written

/-- Writes down where a segment is, and whether it is a domain. -/
def register (segment : SegmentDefinition) : Act Workbook Unit := do
  modify fun w => { w with homes := w.homes.insert segment.info.id segment.info.layer }
  if segment.isDomain then
    modify fun w => { w with domains := w.domains.add segment.info.id }

/-- Writes a segment: into its layer, which looks at the buckets, and then into the other tables. -/
def writeSegment (segment : SegmentDefinition) : Act Workbook Unit := do
  let criterion ← Act.check ((← get).facts.checkEntry segment)
  inLayer segment.info.layer (LayerDraft.write segment criterion)
  register segment

/-- Writes a part. -/
def write : Part → Act Workbook Unit
  | .flag flag => enter (·.checkFlag flag) fun w =>
    { w with flags := w.flags.insert flag.name flag.calculator }
  | .criterion criterion => enter (·.checkCriterion criterion) fun w =>
    { w with criteria := w.criteria.insert criterion.id criterion }
  | .layer layer => enter (·.checkLayer layer) fun w =>
    { w with
      order := layer.id :: w.order
      layers := w.layers.insert layer.id (.start layer) }
  | .segment segment => writeSegment segment

/-- What a part leaves behind, and why it is refused, if it is. -/
def add (w : Workbook) (part : Part) : Workbook × Option ValidationError :=
  match write part w with
  | .ok _ w' => (w', none)
  | .error e w' => (w', some e)

/-- A workbook takes parts in place. -/
def site : Site Workbook where
  add := add
  hasLayer w := w.facts.hasLayer
  hasSegment w := w.facts.hasSegment
  hasDomain w := w.facts.hasDomain

/-- The layers of a workbook, the latest first, with what else is in it. -/
def builder (w : Workbook) : Builder :=
  ⟨w.declared, w.flags, w.criteria, w.order.filterMap w.layers.get?⟩

/-- The layer that has the domain of a layer, as the tables have it. -/
def outer? (w : Workbook) (id : LayerId) : Option LayerId :=
  (w.layers.get? id).bind fun draft =>
    if draft.info.isTop then none else w.homes.get? draft.info.domain

/-- The space of the parts, unless layers that override a flag get in each other's way. -/
def build (w : Workbook) (version : String) : Except ValidationError Space :=
  w.builder.build version

/-! ## 3. What each part leaves behind -/

variable {w : Workbook}

theorem enter_eq (w : Workbook) (check : Facts → Except ValidationError Unit)
    (written : Workbook → Workbook) : enter check written w = match check w.facts with
      | .ok _ => .ok () (written w)
      | .error e => .error e w := by
  change (Act.check (check w.facts) >>= fun _ => modify written) w = _
  cases check w.facts <;> rfl

/-- The workbook in which a segment is written down. -/
def registered (w : Workbook) (segment : SegmentDefinition) : Workbook :=
  { w with
    homes := w.homes.insert segment.info.id segment.info.layer
    domains := if segment.isDomain then w.domains.add segment.info.id else w.domains }

theorem register_eq (w : Workbook) (segment : SegmentDefinition) :
    register segment w = .ok () (w.registered segment) := by
  rw [register, registered]
  cases segment.isDomain <;> rfl

theorem writeSegment_eq (w : Workbook) (segment : SegmentDefinition) :
    writeSegment segment w = match w.facts.checkEntry segment with
      | .error e => .error e w
      | .ok criterion =>
        match w.layers.get? segment.info.layer with
        | none => .ok () (w.registered segment)
        | some d =>
          match d.add segment criterion with
          | .error e => .error e w
          | .ok d' =>
            let taken := { w with layers := w.layers.insert segment.info.layer d' }
            .ok () (taken.registered segment) := by
  change (Act.check (w.facts.checkEntry segment) >>= fun criterion => do
    inLayer segment.info.layer (LayerDraft.write segment criterion)
    register segment) w = _
  cases w.facts.checkEntry segment with
  | error e => rfl
  | ok criterion =>
    change (inLayer segment.info.layer (LayerDraft.write segment criterion) >>= fun _ =>
      register segment) w = _
    simp only [bind, EStateM.bind, inLayer]
    cases hlayer : w.layers.get? segment.info.layer with
    | none => exact register_eq w segment
    | some d =>
      simp only [LayerDraft.write_eq]
      cases d.add segment criterion with
      | error e => simp only [Table.insert_of_get? hlayer]
      | ok d' => exact register_eq _ segment

theorem eq_of_enter_error {check : Facts → Except ValidationError Unit}
    {written : Workbook → Workbook} {w' : Workbook} {e : ValidationError}
    (h : enter check written w = .error e w') : w' = w := by
  rw [enter_eq] at h
  split at h <;> cases h
  rfl

theorem eq_of_writeSegment_error {segment : SegmentDefinition} {w' : Workbook}
    {e : ValidationError} (h : writeSegment segment w = .error e w') : w' = w := by
  rw [writeSegment_eq] at h
  split at h
  · cases h
    rfl
  split at h
  · cases h
  · split at h <;> cases h
    rfl

/-- **What is refused leaves no trace.**  All tables are as they were. -/
theorem eq_of_refused {part : Part} {e : ValidationError} (h : (w.add part).2 = some e) :
    (w.add part).1 = w := by
  unfold add at h ⊢
  split at h
  · cases h
  · next e' w' hwrite =>
    cases part <;> rw [write] at hwrite
    case segment => exact eq_of_writeSegment_error hwrite
    all_goals exact eq_of_enter_error hwrite

/-! ## 4. A workbook is a builder -/

/-- The workbook has what the builder has. -/
structure Shows (w : Workbook) (b : Builder) : Prop where
  sound : b.Sound
  declared : w.declared = b.declared
  flags : w.flags = b.flags
  criteria : w.criteria = b.criteria
  order : w.order = b.drafts.map (·.info.id)
  layers : ∀ id, w.layers.get? id = b.draft? id
  homes : ∀ id layer, w.homes.get? id = some layer ↔
    ∃ s ∈ b.segments, s.info.id = id ∧ s.info.layer = layer
  domains : ∀ id, w.domains.contains id = true ↔
    ∃ s ∈ b.segments, s.isDomain = true ∧ s.info.id = id

theorem shows_start (declared : FlagRegistry) :
    (start declared).Shows (Builder.start declared) where
  sound := Builder.sound_start declared
  declared := rfl
  flags := rfl
  criteria := rfl
  order := rfl
  layers _ := rfl
  homes _ _ := by simp [start, Builder.segments, Builder.start]
  domains _ := by simp [start, Builder.segments, Builder.start, Table.contains]

namespace Shows

variable {b : Builder}

/-- The layers are those of the builder, in their order. -/
theorem builder_eq (h : w.Shows b) : w.builder = b := by
  have hdrafts : w.order.filterMap w.layers.get? = b.drafts := by
    rw [h.order, List.filterMap_map]
    refine (List.filterMap_congr fun d hd => ?_).trans List.filterMap_some
    rw [Function.comp_apply, h.layers, h.sound.draft?_eq hd]
  rw [builder, hdrafts, h.declared, h.flags, h.criteria]

/-- The same facts hold. -/
theorem facts_eq (h : w.Shows b) : w.facts = b.facts := by
  have hlayer : w.layers.contains = b.hasLayer := by
    funext id
    rw [Table.contains, h.layers, Builder.hasLayer]
  have hsegment : w.homes.contains = b.hasSegment := by
    funext id
    rw [Bool.eq_iff_iff, Table.contains_iff, Builder.hasSegment_iff]
    simp [h.homes]
  have hdomain : w.domains.contains = b.hasDomain := by
    funext id
    rw [Bool.eq_iff_iff, h.domains, h.sound.hasDomain_iff]
  simp only [facts, Builder.facts, h.declared, h.flags, h.criteria, hlayer, hsegment, hdomain,
    h.layers]

/-- Each layer is nested in the same one. -/
theorem outer?_eq (h : w.Shows b) : w.outer? = b.outer? := by
  have hhomes : ∀ id, w.homes.get? id = (b.segment? id).map (·.info.layer) := by
    intro id
    refine Option.ext fun layer => ?_
    rw [h.homes, Option.map_eq_some_iff]
    constructor
    · rintro ⟨s, hs, rfl, rfl⟩
      exact ⟨s, h.sound.segment?_eq hs, rfl⟩
    · rintro ⟨s, hs, rfl⟩
      exact ⟨s, List.mem_of_find?_eq_some hs, by simpa using List.find?_some hs, rfl⟩
  funext id
  simp only [Workbook.outer?, Builder.outer?, h.layers, hhomes]

/-- What the builder refuses is refused for the same reason. -/
theorem write_of_refused (h : w.Shows b) {part : Part} {e : ValidationError}
    (hcheck : b.facts.check part = .error e) : write part w = .error e w := by
  cases part with
  | flag | criterion | layer =>
    rw [Facts.check] at hcheck
    rw [write, enter_eq, h.facts_eq, hcheck]
  | segment segment =>
    rw [Facts.check, Facts.checkSegment] at hcheck
    rw [write, writeSegment_eq, h.facts_eq]
    cases hentry : b.facts.checkEntry segment with
    | error e' =>
      rw [hentry] at hcheck
      cases hcheck
      rfl
    | ok criterion =>
      rw [hentry] at hcheck
      obtain ⟨d, hd⟩ := Option.isSome_iff_exists.1 (Facts.checkEntry_ok hentry).1
      have hadd := (Builder.map_add_draft hd criterion).trans hcheck
      rw [h.layers, hd]
      cases hresult : d.add segment criterion with
      | error e' =>
        rw [hresult] at hadd
        cases hadd
        simp only [hresult]
      | ok d' =>
        rw [hresult] at hadd
        cases hadd

/-- The layers of a builder after a segment was added to one of them. -/
theorem draft?_addSegment {b₁ : Builder} (hb : b.Sound) {segment : SegmentDefinition}
    (h : b.addSegment segment = .ok b₁) : ∃ criterion d d',
      b.criteria.get? segment.info.criterion = some criterion ∧
      b.draft? segment.info.layer = some d ∧ d.add segment criterion = .ok d' ∧
      ∀ id, b₁.draft? id = if id = segment.info.layer then some d' else b.draft? id := by
  have hb₁ := hb.addSegment h
  obtain ⟨-, -, -, criterion, before, d, d', after, hcriterion, hdrafts, rfl, hid, hadd⟩ :=
    Builder.addSegment_ok h
  have hid' : d'.info.id = segment.info.layer := by
    rw [← hid, (LayerDraft.add_ok hadd).2]
  have hd : d ∈ b.drafts := by simp [hdrafts]
  have hd' : d' ∈ before ++ d' :: after := by simp
  refine ⟨criterion, d, d', hcriterion, hid ▸ hb.draft?_eq hd, hadd, fun id => ?_⟩
  by_cases heq : id = segment.info.layer
  · rw [if_pos heq, heq, ← hid']
    exact hb₁.draft?_eq hd'
  · rw [if_neg heq, Builder.draft?, Builder.draft?, hdrafts]
    simp [List.find?_append, hid, hid', Ne.symm heq]

/-- **The step.**  What the builder takes is written. -/
theorem write_of_accepted (h : w.Shows b) {part : Part} {b₁ : Builder} (hadd : b.add part = .ok b₁)
    (hcheck : b.facts.check part = .ok ()) : ∃ w₁, write part w = .ok () w₁ ∧ w₁.Shows b₁ := by
  have hsound : b₁.Sound := h.sound.step (.of_add hadd)
  cases part with
  | flag flag =>
    obtain ⟨-, -, rfl⟩ := Builder.addFlag_eq_ok_iff.1 hadd
    rw [Facts.check] at hcheck
    rw [write, enter_eq, h.facts_eq, hcheck]
    exact ⟨_, rfl, { h with sound := hsound, flags := by rw [h.flags] }⟩
  | criterion criterion =>
    obtain ⟨-, -, rfl⟩ := Builder.addCriterion_eq_ok_iff.1 hadd
    rw [Facts.check] at hcheck
    rw [write, enter_eq, h.facts_eq, hcheck]
    exact ⟨_, rfl, { h with sound := hsound, criteria := by rw [h.criteria] }⟩
  | layer layer =>
    obtain ⟨-, -, -, rfl⟩ := Builder.addLayer_eq_ok_iff.1 hadd
    rw [Facts.check] at hcheck
    rw [write, enter_eq, h.facts_eq, hcheck]
    refine ⟨_, rfl, { h with sound := hsound, order := ?_, layers := fun id => ?_ }⟩
    · rw [h.order]
      rfl
    · rw [Table.get?_insert, h.layers, Builder.draft?, Builder.draft?, List.find?_cons]
      by_cases hid : id = layer.id
      · simp [hid, LayerDraft.start]
      · have hne : (layer.id == id) = false := beq_false_of_ne (Ne.symm hid)
        simp [hid, hne, LayerDraft.start]
  | segment segment =>
    obtain ⟨criterion, d, d', hcriterion, hd, hresult, hdrafts⟩ := draft?_addSegment h.sound hadd
    have hentry : b.facts.checkEntry segment = .ok criterion := by
      rw [Facts.check, Facts.checkSegment] at hcheck
      obtain ⟨found, hentry, -⟩ := bind_ok hcheck
      have hfound := hcriterion.symm.trans (Facts.checkEntry_ok hentry).2
      rw [hentry, Option.some.inj hfound]
    rw [write, writeSegment_eq, h.facts_eq, hentry]
    simp only [h.layers, hd, hresult]
    refine ⟨_, rfl, ?_⟩
    have hperm := Builder.perm_segments_addSegment hadd
    have htables := Prod.mk.inj (Builder.tables_addSegment hadd)
    constructor
    case sound => exact hsound
    case declared => exact h.declared.trans (Builder.Step.of_add hadd).declared.symm
    case flags => exact h.flags.trans htables.1.symm
    case criteria => exact h.criteria.trans htables.2.symm
    case order =>
      have hinfos := congrArg (List.map LayerInfo.id) (Builder.infos_addSegment hadd)
      rw [List.map_map, List.map_map] at hinfos
      exact h.order.trans hinfos.symm
    case layers =>
      intro id
      rw [registered, Table.get?_insert, hdrafts, h.layers]
    case homes =>
      intro id layer
      rw [registered, Table.get?_insert]
      split
      · next heq =>
        constructor
        · rintro ⟨⟩
          exact ⟨segment, hperm.mem_iff.2 List.mem_cons_self, heq.symm, rfl⟩
        · rintro ⟨s, hs, hid, rfl⟩
          rw [List.inj_on_of_nodup_map hsound.segmentIds hs (hperm.mem_iff.2 List.mem_cons_self)
            (hid.trans heq)]
      · next hne =>
        rw [h.homes]
        simp only [hperm.mem_iff, List.singleton_append, List.exists_mem_cons_iff, Ne.symm hne,
          false_and, false_or]
    case domains =>
      intro id
      simp only [registered, hperm.mem_iff, List.singleton_append, List.exists_mem_cons_iff,
        ← h.domains id]
      cases segment.isDomain with
      | true => simp only [if_true, KeySet.contains_add_iff, true_and, @eq_comm _ id]
      | false => simp

/-- **A workbook does with each part** what the builder does. -/
theorem add (h : w.Shows b) (part : Part) :
    Site.Alike Shows (w.add part) (Builder.site.add b part) := by
  rcases b.add_cases part with ⟨e, hb, hcheck⟩ | ⟨b₁, hb, hcheck⟩
  · simp only [Workbook.add, Builder.site, hb, h.write_of_refused hcheck]
    exact ⟨rfl, h⟩
  · obtain ⟨w₁, hw, hshows⟩ := h.write_of_accepted hb hcheck
    simp only [Workbook.add, Builder.site, hb, hw]
    exact ⟨rfl, hshows⟩

end Shows

/-- **The run.**  A workbook does with all calls what a builder does. -/
theorem sim_builder : Site.Sim site Builder.site Shows where
  hasLayer h := congrArg Facts.hasLayer h.facts_eq
  hasSegment h := congrArg Facts.hasSegment h.facts_eq
  hasDomain h := congrArg Facts.hasDomain h.facts_eq
  add h part := h.add part

theorem shows_run (declared : FlagRegistry) (calls : List Call) :
    (site.run (start declared) calls).Shows ((Builder.start declared).run calls) := by
  rw [← Builder.run_site]
  exact sim_builder.run calls (shows_start declared)

/-- **Failed calls leave no trace.**  Let any calls have been made on a new workbook, failing ones
included, and let it refuse a part.  Then it is as it was, and a builder refuses the part for the
same reason.  From there on it does what a builder does that was never offered the part: it answers
all later calls in the same way, each layer is nested in the same one, and what is built is the same
space or the same error. -/
theorem refused_leaves_no_trace {declared : FlagRegistry} {calls : List Call} {w : Workbook}
    {part : Part} {e : ValidationError} (hw : site.run (start declared) calls = w)
    (h : (w.add part).2 = some e) :
    (w.add part).1 = w ∧ ((Builder.start declared).run calls).add part = .error e ∧
    ∀ later, site.answers (w.add part).1 later =
        Builder.site.answers ((Builder.start declared).run calls) later ∧
      (site.run (w.add part).1 later).outer? =
        ((Builder.start declared).run (calls ++ later)).outer? ∧
      ∀ version, (site.run (w.add part).1 later).build version =
        ((Builder.start declared).run (calls ++ later)).build version := by
  have hshows : w.Shows ((Builder.start declared).run calls) := hw ▸ shows_run declared calls
  rw [eq_of_refused h]
  refine ⟨rfl, ?_, fun later => ⟨sim_builder.answers_eq later hshows, ?_⟩⟩
  · have hsame := (hshows.add part).1
    rw [h] at hsame
    cases hadd : ((Builder.start declared).run calls).add part <;>
      simp only [Builder.site, hadd] at hsame <;> cases hsame
    rfl
  · have hlater : (site.run w later).Shows ((Builder.start declared).run (calls ++ later)) := by
      rw [Builder.run, List.foldl_append, ← Builder.run, ← Builder.run, ← Builder.run_site later]
      exact sim_builder.run later hshows
    refine ⟨hlater.outer?_eq, fun version => ?_⟩
    rw [build, hlater.builder_eq]

/-- A domain in the first layer. -/
def lateDomain (id : SegmentId) (buckets : List Bucket) : Part :=
  .segment (.domain ⟨id, 1, 0, KeySet.ofKeys buckets, .always, .always, .always⟩)

/-- Of two buckets one is taken, and the other one stays free. -/
theorem refused_leaves_no_trace_overlapping : ∃ w conflicts,
    site.run (start .empty) Builder.someCalls = w ∧
    (w.add (lateDomain 12 [1, 2])).2 = some (.overlappingBuckets 12 1 conflicts) ∧
    (w.add (lateDomain 12 [1, 2])).1 = w ∧
    ((w.add (lateDomain 12 [1, 2])).1.add (lateDomain 13 [2])).2 = none := by
  obtain ⟨hsame, -, -⟩ := @refused_leaves_no_trace .empty Builder.someCalls _ (lateDomain 12 [1, 2])
    _ rfl rfl
  exact ⟨_, _, rfl, rfl, hsame, rfl⟩

end Workbook

end Rollout
