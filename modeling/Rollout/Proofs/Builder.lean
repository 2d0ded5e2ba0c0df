import Mathlib.Data.List.Nodup
import Mathlib.Logic.Relation
import Rollout.Builder
import Rollout.Proofs.Draft
/-!
# What a builder holds after any calls

A builder takes parts one by one, or a whole definition at once, and each call may fail.  Whatever
the calls are and whichever of them fail, the builder is the result of accepting single parts:
`reaches_run` reduces a run of calls to `Step`s.

For each kind of part, a builder accepts it if and only if its checks hold; sections 3 and 4 have
these conditions, and what comes of the part.

`Builder.Sound` is what all steps keep (`Sound.step`), and so what any run leaves behind
(`sound_run`): the criteria have buckets, each layer keeps its books, no id is used twice, each
layer comes after the domain that it is nested in, launch layers are nested in none, and overrides
are of flags that are defined and fit their type.
-/

namespace Rollout

theorem LayerInfo.isTop_iff {info : LayerInfo} : info.isTop = true ↔ info.domain = topDomain := by
  simp [LayerInfo.isTop]

namespace Builder

/-! ## 1. Calls and steps -/

/-- A call on a builder. -/
inductive Call where
  | flag (flag : FlagDefinition)
  | criterion (criterion : Criterion)
  | layer (info : LayerInfo)
  | segment (segment : SegmentDefinition)
  | definition (definition : SpaceDefinition)

/-- The builder after a call.  One that fails changes nothing, but of a definition those parts stay
that were accepted before the first refusal. -/
def call (b : Builder) : Call → Builder
  | .flag flag => (b.addFlag flag).toOption.getD b
  | .criterion criterion => (b.addCriterion criterion).toOption.getD b
  | .layer info => (b.addLayer info).toOption.getD b
  | .segment segment => (b.addSegment segment).toOption.getD b
  | .definition definition => (b.addDefinition definition).1

/-- The builder after calls. -/
def run (b : Builder) (calls : List Call) : Builder := calls.foldl call b

/-- A builder accepts one part. -/
inductive Step (b b' : Builder) : Prop
  | flag {flag : FlagDefinition} (h : b.addFlag flag = .ok b')
  | criterion {criterion : Criterion} (h : b.addCriterion criterion = .ok b')
  | layer {info : LayerInfo} (h : b.addLayer info = .ok b')
  | segment {segment : SegmentDefinition} (h : b.addSegment segment = .ok b')

/-- One builder comes from another one by accepting parts. -/
abbrev Reaches : Builder → Builder → Prop := Relation.ReflTransGen Step

theorem reaches_of_result {b : Builder} {result : Except ValidationError Builder}
    (h : ∀ b', result = .ok b' → Step b b') : Reaches b (result.toOption.getD b) := by
  cases result with
  | error e => exact .refl
  | ok b' => exact .single (h b' rfl)

theorem reaches_addEach {α : Type} (add : Builder → α → Except ValidationError Builder)
    (hadd : ∀ b part b', add b part = .ok b' → Step b b') :
    ∀ (parts : List α) (b : Builder), Reaches b (addEach add b parts).1
  | [], b => .refl
  | part :: rest, b => by
    unfold addEach
    split
    · exact .refl
    · next b' h =>
      exact .trans (.single (hadd b part b' h)) (reaches_addEach add hadd rest b')

theorem reaches_addPasses : ∀ (passes : Nat) (b : Builder) (layers : List LayerInfo)
    (segments : List SegmentDefinition), Reaches b (addPasses passes b layers segments).1
  | passes, b, [], segments => by
    unfold addPasses
    cases segments <;> exact .refl
  | 0, b, layer :: layers, segments => by
    unfold addPasses
    exact .refl
  | passes + 1, b, layer :: layers, segments => by
    unfold addPasses
    dsimp only
    split
    · exact .refl
    · have hlayers := reaches_addEach addLayer (fun _ _ _ h => Step.layer h)
        ((layer :: layers).partition fun layer => layer.isTop || b.hasDomain layer.domain).1 b
      split
      · next b₁ e heq => exact heq ▸ hlayers
      · next b₁ heq =>
        rw [heq] at hlayers
        have hsegments := reaches_addEach addSegment (fun _ _ _ h => Step.segment h)
          (segments.partition fun segment => b₁.hasLayer segment.info.layer).1 b₁
        split
        · next b₂ e heq₂ =>
          rw [heq₂] at hsegments
          exact hlayers.trans hsegments
        · next b₂ heq₂ =>
          rw [heq₂] at hsegments
          exact (hlayers.trans hsegments).trans (reaches_addPasses passes b₂ _ _)

theorem reaches_addDefinition (b : Builder) (definition : SpaceDefinition) :
    Reaches b (b.addDefinition definition).1 := by
  have hflags := reaches_addEach addFlag (fun _ _ _ h => Step.flag h) definition.flags b
  unfold addDefinition
  split
  · next b₁ e heq => exact heq ▸ hflags
  · next b₁ heq =>
    rw [heq] at hflags
    have hcriteria := reaches_addEach addCriterion (fun _ _ _ h => Step.criterion h)
      definition.criteria b₁
    split
    · next b₂ e heq₂ =>
      rw [heq₂] at hcriteria
      exact hflags.trans hcriteria
    · next b₂ heq₂ =>
      rw [heq₂] at hcriteria
      exact (hflags.trans hcriteria).trans (reaches_addPasses ..)

theorem reaches_call (b : Builder) : ∀ c : Call, Reaches b (b.call c)
  | .flag _ => reaches_of_result fun _ h => .flag h
  | .criterion _ => reaches_of_result fun _ h => .criterion h
  | .layer _ => reaches_of_result fun _ h => .layer h
  | .segment _ => reaches_of_result fun _ h => .segment h
  | .definition definition => reaches_addDefinition b definition

/-- **Calls are steps.**  After any calls, failing ones included, the builder is what comes of
accepting some parts. -/
theorem reaches_run : ∀ (calls : List Call) (b : Builder), Reaches b (b.run calls)
  | [], _ => .refl
  | c :: calls, b => (reaches_call b c).trans (reaches_run calls (b.call c))

/-! ## 2. What is there -/

theorem mem_segments_iff {b : Builder} {s : SegmentDefinition} :
    s ∈ b.segments ↔ ∃ d ∈ b.drafts, s ∈ d.segments :=
  List.mem_flatMap

theorem hasSegment_iff {b : Builder} {id : SegmentId} :
    b.hasSegment id = true ↔ ∃ s ∈ b.segments, s.info.id = id := by
  simp [hasSegment, segment?]

theorem segment_of_hasDomain {b : Builder} {id : SegmentId} (h : b.hasDomain id = true) :
    ∃ s ∈ b.segments, s.isDomain = true ∧ s.info.id = id := by
  unfold hasDomain segment? at h
  cases hs : b.segments.find? fun segment => segment.info.id == id with
  | none =>
    rw [hs] at h
    cases h
  | some s =>
    rw [hs] at h
    exact ⟨s, List.mem_of_find?_eq_some hs, h, by simpa using List.find?_some hs⟩

theorem hasLayer_iff {b : Builder} {id : LayerId} :
    b.hasLayer id = true ↔ ∃ d ∈ b.drafts, d.info.id = id := by
  simp [hasLayer, draft?]

/-- Each layer comes before the layer that its domain is in. -/
def Nested : List LayerDraft → Prop
  | [] => True
  | draft :: older =>
    (draft.info.isTop = false → ∃ d ∈ older, ∃ s ∈ d.segments,
      s.isDomain = true ∧ s.info.id = draft.info.domain) ∧ Nested older

/-- The nesting stays when a layer gets more segments. -/
theorem Nested.grow {d d' : LayerDraft} {after : List LayerDraft} (hinfo : d'.info = d.info)
    (hsub : ∀ s ∈ d.segments, s ∈ d'.segments) :
    ∀ {before : List LayerDraft}, Nested (before ++ d :: after) → Nested (before ++ d' :: after)
  | [], h => ⟨hinfo ▸ h.1, h.2⟩
  | first :: before, h => by
    refine ⟨fun htop => ?_, grow hinfo hsub h.2⟩
    obtain ⟨e, he, s, hs, hdom⟩ := h.1 htop
    rcases List.mem_append.1 he with he | he
    · exact ⟨e, List.mem_append_left _ he, s, hs, hdom⟩
    · rcases List.mem_cons.1 he with rfl | he
      · exact ⟨d', by simp, s, hsub s hs, hdom⟩
      · exact ⟨e, by simp [he], s, hs, hdom⟩

/-- The domain of a layer is in an older one. -/
theorem Nested.domain {draft : LayerDraft} {older : List LayerDraft} :
    ∀ {before : List LayerDraft}, Nested (before ++ draft :: older) → draft.info.isTop = false →
    ∃ d ∈ older, ∃ s ∈ d.segments, s.isDomain = true ∧ s.info.id = draft.info.domain
  | [], h, htop => h.1 htop
  | _ :: before, h, htop => (show Nested (before ++ draft :: older) from h.2).domain htop

/-- The domain of a layer is there. -/
theorem Nested.exists_domain {drafts : List LayerDraft} (h : Nested drafts) {draft : LayerDraft}
    (hd : draft ∈ drafts) (htop : draft.info.isTop = false) :
    ∃ d ∈ drafts, ∃ s ∈ d.segments, s.isDomain = true ∧ s.info.id = draft.info.domain := by
  obtain ⟨before, older, rfl⟩ := List.append_of_mem hd
  obtain ⟨d, hd, hs⟩ := h.domain htop
  exact ⟨d, by simp [hd], hs⟩

/-! ## 3. What each part needs -/

variable {b b' : Builder}

theorem addFlag_eq_ok_iff {flag : FlagDefinition} : b.addFlag flag = .ok b' ↔
    b.flags.contains flag.name = false ∧
      (∀ declared, b.declared.lookup flag.name = some declared → declared = flag.calculator.type) ∧
      { b with flags := b.flags.insert flag.name flag.calculator } = b' := by
  simp only [addFlag, bind, Except.bind, pure, Except.pure, throw, throwThe, MonadExceptOf.throw]
  cases b.flags.contains flag.name with
  | true => simp
  | false =>
    cases b.declared.lookup flag.name with
    | none => simp
    | some declared => by_cases h : declared = flag.calculator.type <;> simp [h]

theorem addCriterion_eq_ok_iff {criterion : Criterion} : b.addCriterion criterion = .ok b' ↔
    0 < criterion.buckets ∧ b.criteria.contains criterion.id = false ∧
      { b with criteria := b.criteria.insert criterion.id criterion } = b' := by
  simp only [addCriterion, bind, Except.bind, pure, Except.pure, throw, throwThe,
    MonadExceptOf.throw, ← Int32.not_le]
  by_cases h : criterion.buckets ≤ 0 <;> cases b.criteria.contains criterion.id <;> simp [h]

theorem addLayer_eq_ok_iff {info : LayerInfo} : b.addLayer info = .ok b' ↔
    b.hasLayer info.id = false ∧ (info.launch = true → info.isTop = true) ∧
      (info.isTop = false → b.hasDomain info.domain = true) ∧
      { b with drafts := .start info :: b.drafts } = b' := by
  simp only [addLayer, bind, Except.bind, pure, Except.pure, throw, throwThe, MonadExceptOf.throw]
  cases b.hasLayer info.id <;> cases info.launch <;> cases info.isTop <;>
    cases b.hasDomain info.domain <;> cases b.hasSegment info.domain <;> simp

theorem checkWindows_eq_ok_iff (segment : SegmentId) : ∀ {windows : List Window},
    checkWindows segment windows = .ok () ↔ ∀ window ∈ windows, window.isInverted = false
  | [] => by simp [checkWindows]
  | window :: rest => by
    rw [checkWindows, List.forall_mem_cons, ← checkWindows_eq_ok_iff segment]
    cases window.isInverted <;> simp

theorem checkOverrides_eq_ok_iff (segment : SegmentId) :
    ∀ {entries : List (String × FlagOverride)}, b.checkOverrides segment entries = .ok () ↔
      ∀ entry ∈ entries, ∃ calculator,
        b.flags.get? entry.1 = some calculator ∧ entry.2.expectType calculator.type = .ok ()
  | [] => by simp [checkOverrides]
  | (flag, change) :: rest => by
    rw [checkOverrides, List.forall_mem_cons, ← checkOverrides_eq_ok_iff segment]
    cases b.flags.get? flag with
    | none => simp
    | some calculator => cases h : change.expectType calculator.type <;> simp [h]

/-- The overrides of a segment are of flags that are defined, and fit their type. -/
def Fits (b : Builder) (segment : SegmentDefinition) : Prop :=
  ∀ flag change, segment.overrides.get? flag = some change → ∃ calculator,
    b.flags.get? flag = some calculator ∧ change.expectType calculator.type = .ok ()

/-- **What a segment needs**, in the order of the checks. -/
theorem addSegment_eq_ok_iff {segment : SegmentDefinition} : b.addSegment segment = .ok b' ↔
    segment.info.id ≠ topDomain ∧ b.hasSegment segment.info.id = false ∧
      b.hasLayer segment.info.layer = true ∧
      ∃ criterion, b.criteria.get? segment.info.criterion = some criterion ∧
        (segment.info.active.isInverted = false ∧
          segment.info.overridesWindow.isInverted = false) ∧ b.Fits segment ∧
        ∃ drafts, addToDraft segment criterion b.drafts = .ok drafts ∧ { b with drafts } = b' := by
  have hfits : b.Fits segment ↔
      b.checkOverrides segment.info.id segment.overrides.entries = .ok () := by
    rw [checkOverrides_eq_ok_iff, Prod.forall]
    simp only [Fits, Table.get?_eq_some_iff]
  have hwindows :
      (segment.info.active.isInverted = false ∧ segment.info.overridesWindow.isInverted = false) ↔
        checkWindows segment.info.id [segment.info.active, segment.info.overridesWindow] =
          .ok () := by
    simp [checkWindows_eq_ok_iff]
  rw [hfits, hwindows]
  simp only [addSegment, bind, Except.bind, pure, Except.pure, throw, throwThe, MonadExceptOf.throw]
  by_cases htop : segment.info.id = topDomain
  · simp [htop]
  cases b.hasSegment segment.info.id with
  | true => simp [htop]
  | false =>
  cases b.hasLayer segment.info.layer with
  | false => simp [htop]
  | true =>
  cases b.criteria.get? segment.info.criterion with
  | none => simp [htop]
  | some criterion =>
  cases checkWindows segment.info.id [segment.info.active, segment.info.overridesWindow] with
  | error e => simp [htop]
  | ok _ =>
  cases b.checkOverrides segment.info.id segment.overrides.entries with
  | error e => simp [htop]
  | ok _ => cases hdrafts : addToDraft segment criterion b.drafts <;> simp [htop, hdrafts]

/-- The segment gets into the first layer of its id, and the other layers stay. -/
theorem addToDraft_ok {segment : SegmentDefinition} {criterion : Criterion} :
    ∀ {drafts drafts' : List LayerDraft}, (∃ d ∈ drafts, d.info.id = segment.info.layer) →
    addToDraft segment criterion drafts = .ok drafts' →
    ∃ before d d' after, drafts = before ++ d :: after ∧ drafts' = before ++ d' :: after ∧
      d.info.id = segment.info.layer ∧ d.add segment criterion = .ok d'
  | [], _, hd, _ => by
    obtain ⟨d, hd, -⟩ := hd
    cases hd
  | first :: rest, drafts', hd, h => by
    unfold addToDraft at h
    split at h
    · next hid =>
      obtain ⟨d', hadd, h⟩ := bind_ok h
      cases h
      exact ⟨[], first, d', rest, rfl, rfl, hid, hadd⟩
    · next hid =>
      obtain ⟨rest', hrest, h⟩ := bind_ok h
      cases h
      have hd' : ∃ d ∈ rest, d.info.id = segment.info.layer := by
        obtain ⟨d, hmem, hdid⟩ := hd
        rcases List.mem_cons.1 hmem with rfl | hmem
        · exact absurd hdid hid
        · exact ⟨d, hmem, hdid⟩
      obtain ⟨before, d, d', after, rfl, rfl, hdid, hadd⟩ := addToDraft_ok hd' hrest
      exact ⟨first :: before, d, d', after, rfl, rfl, hdid, hadd⟩

theorem addSegment_ok {segment : SegmentDefinition} (h : b.addSegment segment = .ok b') :
    segment.info.id ≠ topDomain ∧ b.hasSegment segment.info.id = false ∧ b.Fits segment ∧
      ∃ criterion before d d' after, b.criteria.get? segment.info.criterion = some criterion ∧
        b.drafts = before ++ d :: after ∧ b' = { b with drafts := before ++ d' :: after } ∧
        d.info.id = segment.info.layer ∧ d.add segment criterion = .ok d' := by
  obtain ⟨htop, hnew, hlayer, criterion, hcriterion, -, hfits, drafts, hadded, rfl⟩ :=
    addSegment_eq_ok_iff.1 h
  obtain ⟨before, d, d', after, hdrafts, rfl, hid, hadd⟩ :=
    addToDraft_ok (hasLayer_iff.1 hlayer) hadded
  exact ⟨htop, hnew, hfits, criterion, before, d, d', after, hcriterion, hdrafts, rfl, hid, hadd⟩

/-! ## 4. What each part changes -/

theorem segments_addFlag {flag : FlagDefinition} (h : b.addFlag flag = .ok b') :
    b'.segments = b.segments := by
  obtain ⟨-, -, rfl⟩ := addFlag_eq_ok_iff.1 h
  rfl

theorem segments_addCriterion {criterion : Criterion} (h : b.addCriterion criterion = .ok b') :
    b'.segments = b.segments := by
  obtain ⟨-, -, rfl⟩ := addCriterion_eq_ok_iff.1 h
  rfl

theorem segments_addLayer {info : LayerInfo} (h : b.addLayer info = .ok b') :
    b'.segments = b.segments := by
  obtain ⟨-, -, -, rfl⟩ := addLayer_eq_ok_iff.1 h
  rfl

/-- An accepted segment is one more. -/
theorem perm_segments_addSegment {segment : SegmentDefinition} (h : b.addSegment segment = .ok b') :
    b'.segments.Perm ([segment] ++ b.segments) := by
  obtain ⟨-, -, -, criterion, before, d, d', after, -, hdrafts, rfl, -, hadd⟩ := addSegment_ok h
  obtain ⟨-, rfl⟩ := LayerDraft.add_ok hadd
  simp only [segments, hdrafts, List.flatMap_append, List.flatMap_cons, List.append_assoc]
  rw [← List.append_assoc, ← List.append_assoc (before.flatMap (·.segments)) d.segments]
  exact List.perm_append_comm_assoc ..

/-! ## 5. The invariant -/

/-- What holds of a builder whatever calls there were. -/
structure Sound (b : Builder) : Prop where
  /-- Each criterion is kept under its id and has buckets. -/
  criteria : ∀ id c, b.criteria.get? id = some c → c.id = id ∧ 0 < c.buckets
  /-- Each layer keeps its books. -/
  drafts : ∀ d ∈ b.drafts, d.Sound b.criteria
  layerIds : (b.drafts.map (·.info.id)).Nodup
  segmentIds : (b.segments.map (·.info.id)).Nodup
  /-- The domain of the layers of the space itself is no segment. -/
  notTop : ∀ s ∈ b.segments, s.info.id ≠ topDomain
  nested : Nested b.drafts
  launchTop : ∀ d ∈ b.drafts, d.info.launch = true → d.info.isTop = true
  /-- Overrides are of flags that are defined, and fit their type. -/
  overrides : ∀ s ∈ b.segments, ∀ flag change, s.overrides.get? flag = some change →
    ∃ calculator, b.flags.get? flag = some calculator ∧
      change.expectType calculator.type = .ok ()

/-- A segment is in one layer. -/
theorem Sound.eq_of_mem_segments {b : Builder} (hb : b.Sound) {d e : LayerDraft} (hd : d ∈ b.drafts)
    (he : e ∈ b.drafts) {t : SegmentDefinition} (htd : t ∈ d.segments) (hte : t ∈ e.segments) :
    d = e := by
  refine List.inj_on_of_nodup_map hb.layerIds hd he ?_
  exact ((hb.drafts d hd).layer t htd).symm.trans ((hb.drafts e he).layer t hte)

/-- The segments of a layer are those that name it. -/
theorem Sound.mem_draft_iff {b : Builder} (hb : b.Sound) {d : LayerDraft} (hd : d ∈ b.drafts)
    {s : SegmentDefinition} : s ∈ d.segments ↔ s ∈ b.segments ∧ s.info.layer = d.info.id := by
  constructor
  · intro hs
    exact ⟨mem_segments_iff.2 ⟨d, hd, hs⟩, (hb.drafts d hd).layer s hs⟩
  · rintro ⟨hs, hid⟩
    obtain ⟨e, he, hse⟩ := mem_segments_iff.1 hs
    have hed : e.info.id = d.info.id := ((hb.drafts e he).layer s hse).symm.trans hid
    exact List.inj_on_of_nodup_map hb.layerIds he hd hed ▸ hse

/-- Layers of two builders have the same segments if the same segments of the builders name them. -/
theorem Sound.perm_of_named {b b' : Builder} (hb : b.Sound) (hb' : b'.Sound) {d d' : LayerDraft}
    (hd : d ∈ b.drafts) (hd' : d' ∈ b'.drafts) (hinfo : d'.info = d.info)
    (h : ∀ s, s.info.layer = d.info.id → (s ∈ b.segments ↔ s ∈ b'.segments)) :
    d.segments.Perm d'.segments := by
  have hnodup : ∀ {b : Builder} {d : LayerDraft}, b.Sound → d ∈ b.drafts → d.segments.Nodup :=
    fun hb hd => (List.nodup_flatMap.1 hb.segmentIds.of_map).1 _ hd
  refine (List.perm_ext_iff_of_nodup (hnodup hb hd) (hnodup hb' hd')).2 fun s => ?_
  rw [hb.mem_draft_iff hd, hb'.mem_draft_iff hd', hinfo]
  exact and_congr_left (h s)

theorem sound_start (declared : FlagRegistry) : (start declared).Sound where
  criteria _ _ h := by cases h
  drafts _ h := by cases h
  layerIds := .nil
  segmentIds := .nil
  notTop _ h := by cases h
  nested := trivial
  launchTop _ h := by cases h
  overrides _ h := by cases h

theorem Sound.addFlag {b b' : Builder} {flag : FlagDefinition} (hb : b.Sound)
    (h : b.addFlag flag = .ok b') : b'.Sound := by
  obtain ⟨hnew, -, rfl⟩ := addFlag_eq_ok_iff.1 h
  refine { hb with overrides := fun s hs name change hc => ?_ }
  obtain ⟨calculator, hget, htype⟩ := hb.overrides s hs name change hc
  refine ⟨calculator, ?_, htype⟩
  have hne : name ≠ flag.name := by
    rintro rfl
    rw [Table.contains_eq_false_iff.1 hnew] at hget
    cases hget
  exact (Table.get?_insert ..).trans ((if_neg hne).trans hget)

theorem Sound.addCriterion {b b' : Builder} {criterion : Criterion} (hb : b.Sound)
    (h : b.addCriterion criterion = .ok b') : b'.Sound := by
  obtain ⟨hpos, hnew, rfl⟩ := addCriterion_eq_ok_iff.1 h
  refine { hb with criteria := fun id c hc => ?_, drafts := fun d hd => ?_ }
  · rw [Table.get?_insert] at hc
    split at hc
    · next heq =>
      cases hc
      exact ⟨heq.symm, hpos⟩
    · exact hb.criteria id c hc
  · refine (hb.drafts d hd).mono fun id c hc => ?_
    have hne : id ≠ criterion.id := by
      rintro rfl
      rw [Table.contains_eq_false_iff.1 hnew] at hc
      cases hc
    exact (Table.get?_insert ..).trans ((if_neg hne).trans hc)

theorem Sound.addLayer {b b' : Builder} {info : LayerInfo} (hb : b.Sound)
    (h : b.addLayer info = .ok b') : b'.Sound := by
  obtain ⟨hnew, hlaunch, hdomain, rfl⟩ := addLayer_eq_ok_iff.1 h
  refine { hb with
    drafts := ?_, layerIds := ?_, nested := ⟨fun htop => ?_, hb.nested⟩, launchTop := ?_ }
  · exact List.forall_mem_cons.2 ⟨LayerDraft.sound_start _ info, hb.drafts⟩
  · refine List.nodup_cons.2 ⟨fun hmem => ?_, hb.layerIds⟩
    have hold : b.hasLayer info.id = true := hasLayer_iff.2 (List.mem_map.1 hmem)
    rw [hold] at hnew
    cases hnew
  · obtain ⟨s, hs, hdom, hid⟩ := segment_of_hasDomain (hdomain htop)
    obtain ⟨d, hd, hs⟩ := mem_segments_iff.1 hs
    exact ⟨d, hd, s, hs, hdom, hid⟩
  · exact List.forall_mem_cons.2 ⟨hlaunch, hb.launchTop⟩

theorem Sound.addSegment {b b' : Builder} {segment : SegmentDefinition} (hb : b.Sound)
    (h : b.addSegment segment = .ok b') : b'.Sound := by
  have hperm := perm_segments_addSegment h
  obtain ⟨htop, hnew, hoverrides, criterion, before, d, d', after, hcriterion, hdrafts, rfl, hlayer,
    hadd⟩ := addSegment_ok h
  have heq := (LayerDraft.add_ok hadd).2
  have hinfo : d'.info = d.info := by rw [heq]
  have hsegments : d'.segments = d.segments ++ [segment] := by rw [heq]
  have hd : d ∈ b.drafts := by simp [hdrafts]
  have hmem : ∀ {p : SegmentDefinition → Prop}, (∀ s ∈ b.segments, p s) → p segment →
      ∀ s ∈ (before ++ d' :: after).flatMap (·.segments), p s := by
    intro p hold hlast s hs
    rcases List.mem_cons.1 (hperm.mem_iff.1 hs) with rfl | hs
    · exact hlast
    · exact hold s hs
  have hdraft : ∀ {p : LayerDraft → Prop}, (∀ e ∈ b.drafts, p e) → p d' →
      ∀ e ∈ before ++ d' :: after, p e := by
    intro p hold hlast e he
    rcases List.mem_append.1 he with he | he
    · exact hold e (by simp [hdrafts, he])
    · rcases List.mem_cons.1 he with rfl | he
      · exact hlast
      · exact hold e (by simp [hdrafts, he])
  have hids : (before ++ d' :: after).map (·.info.id) = b.drafts.map (·.info.id) := by
    simp [hdrafts, hinfo]
  refine { hb with
    drafts := ?_, layerIds := ?_, segmentIds := ?_, notTop := ?_, nested := ?_, launchTop := ?_,
    overrides := ?_ }
  · exact hdraft hb.drafts (LayerDraft.sound_add (hb.drafts d hd) hlayer.symm hcriterion
      (hb.criteria _ _ hcriterion).1 hadd)
  · rw [hids]
    exact hb.layerIds
  · refine ((hperm.map _).nodup_iff).2 (List.nodup_cons.2 ⟨fun hold => ?_, hb.segmentIds⟩)
    rw [hasSegment_iff.2 (List.mem_map.1 hold)] at hnew
    cases hnew
  · exact hmem hb.notTop htop
  · exact Nested.grow hinfo (fun s hs => by simp [hsegments, hs]) (hdrafts ▸ hb.nested)
  · exact hdraft hb.launchTop (hinfo ▸ hb.launchTop d hd)
  · exact hmem hb.overrides hoverrides

/-- **The step.**  Whatever part is accepted, the invariant stays. -/
theorem Sound.step {b b' : Builder} (hb : b.Sound) (h : Step b b') : b'.Sound := by
  cases h with
  | flag h => exact hb.addFlag h
  | criterion h => exact hb.addCriterion h
  | layer h => exact hb.addLayer h
  | segment h => exact hb.addSegment h

theorem Sound.reaches {b b' : Builder} (hb : b.Sound) (h : Reaches b b') : b'.Sound := by
  induction h with
  | refl => exact hb
  | tail _ step ih => exact ih.step step

/-- **The run.**  The invariant holds after any calls on a new builder. -/
theorem sound_run (declared : FlagRegistry) (calls : List Call) :
    ((start declared).run calls).Sound :=
  (sound_start declared).reaches (reaches_run calls _)

/-- The invariant holds after a new builder has taken a definition, be it in part. -/
theorem sound_addDefinition (declared : FlagRegistry) (definition : SpaceDefinition) :
    ((start declared).addDefinition definition).1.Sound :=
  (sound_start declared).reaches (reaches_addDefinition _ definition)

end Builder

end Rollout
