import Rollout.Proofs.Conservation
/-!
# Building sites

Whatever takes parts is a `Site`: it takes or refuses one part at a time, and says which layers,
segments and domains it has.  That is all that a definition needs to be taken in passes, so calls
and whole runs of calls are worked out for any site.

* `Site.Sim` relates the states of two sites which do the same with each part.  Then they give the
  same answers to all calls, and end in related states (`Sim.answers_eq`, `Sim.run`).
* A builder is a site, with the calls that it has (`Builder.result_site`).
* Whether a builder refuses a part, and why, depends on a few `Facts` about it (`Builder.map_add`).
-/

namespace Rollout

open Builder (Part Call)

/-- A place where parts are taken or refused.  A part that is refused comes back with the reason,
and may leave something behind. -/
structure Site (σ : Type) where
  add : σ → Part → σ × Option ValidationError
  hasLayer : σ → LayerId → Bool
  hasSegment : σ → SegmentId → Bool
  hasDomain : σ → SegmentId → Bool

namespace Site

variable {σ τ : Type}

/-! ## 1. Calls -/

/-- What comes next, unless something was refused. -/
def andThen (first : σ × Option ValidationError) (next : σ → σ × Option ValidationError) :
    σ × Option ValidationError :=
  match first with
  | (s, some e) => (s, some e)
  | (s, none) => next s

section

variable (S : Site σ)

/-- Takes parts in order, up to the first that is refused. -/
def addAll (s : σ) : List Part → σ × Option ValidationError
  | [] => (s, none)
  | part :: rest => andThen (S.add s part) fun s => addAll s rest

/-- Why a layer that waits can never be added, if it is for a reason of its own. -/
def hopeless? (s : σ) (pending : List SegmentDefinition) (layer : LayerInfo) :
    Option ValidationError :=
  if layer.launch then some (.launchLayerInDomain layer.id layer.domain)
  else if S.hasSegment s layer.domain then some (.notADomain layer.id layer.domain)
  else match pending.find? fun segment => segment.info.id == layer.domain with
    | none => some (.unknownDomain layer.id layer.domain)
    | some (.experiment _ _) => some (.notADomain layer.id layer.domain)
    | some (.domain _) => none

/-- Why none of the layers that wait can be added. -/
def unresolved (s : σ) (waiting : List LayerInfo) (pending : List SegmentDefinition) :
    ValidationError :=
  match waiting.findSome? (S.hopeless? s pending) with
  | some e => e
  | none => .unresolvableDomains ((waiting.map (·.id)).mergeSort (· ≤ ·))

/-- Takes layers and segments in passes. -/
def addPasses : Nat → σ → List LayerInfo → List SegmentDefinition → σ × Option ValidationError
  | _, s, [], [] => (s, none)
  | _, s, [], segment :: _ => (s, some (.unknownLayer segment.info.id segment.info.layer))
  | 0, s, layer :: rest, segments => (s, some (S.unresolved s (layer :: rest) segments))
  | passes + 1, s, layer :: rest, segments =>
    let first := (layer :: rest).partition fun layer => layer.isTop || S.hasDomain s layer.domain
    if first.1.isEmpty then (s, some (S.unresolved s first.2 segments))
    else
      andThen (S.addAll s (first.1.map .layer)) fun s =>
        let second := segments.partition fun segment => S.hasLayer s segment.info.layer
        andThen (S.addAll s (second.1.map .segment)) fun s => addPasses passes s first.2 second.2

/-- Takes all that a definition lists. -/
def addDefinition (s : σ) (d : SpaceDefinition) : σ × Option ValidationError :=
  andThen (S.addAll s (d.flags.map .flag)) fun s =>
    andThen (S.addAll s (d.criteria.map .criterion)) fun s =>
      S.addPasses d.layers.length s d.layers d.segments

/-- What comes of a call, and why it fails, if it does. -/
def result (s : σ) : Call → σ × Option ValidationError
  | .definition d => S.addDefinition s d
  | c => S.addAll s c.parts

/-- What comes of calls. -/
def run (s : σ) (calls : List Call) : σ := calls.foldl (fun s c => (S.result s c).1) s

/-- Why each of some calls fails, if it does. -/
def answers (s : σ) : List Call → List (Option ValidationError)
  | [] => []
  | c :: calls => (S.result s c).2 :: answers (S.result s c).1 calls

end

/-! ## 2. Sites that do the same -/

/-- Two results are alike: the same is said, and what is left behind is related. -/
def Alike (R : σ → τ → Prop) (first : σ × Option ValidationError)
    (second : τ × Option ValidationError) : Prop :=
  first.2 = second.2 ∧ R first.1 second.1

theorem Alike.andThen {R : σ → τ → Prop} {first : σ × Option ValidationError}
    {second : τ × Option ValidationError} {next : σ → σ × Option ValidationError}
    {next' : τ → τ × Option ValidationError} (h : Alike R first second)
    (hnext : ∀ s t, R s t → Alike R (next s) (next' t)) :
    Alike R (andThen first next) (andThen second next') := by
  obtain ⟨s, _ | e⟩ := first <;> obtain ⟨t, _ | e'⟩ := second
  case none.none => exact hnext s t h.2
  case some.some => exact h
  case none.some => cases h.1
  case some.none => cases h.1

/-- Related states have the same layers, segments and domains, and do the same with each part. -/
structure Sim (S : Site σ) (T : Site τ) (R : σ → τ → Prop) : Prop where
  hasLayer : ∀ {s t}, R s t → S.hasLayer s = T.hasLayer t
  hasSegment : ∀ {s t}, R s t → S.hasSegment s = T.hasSegment t
  hasDomain : ∀ {s t}, R s t → S.hasDomain s = T.hasDomain t
  add : ∀ {s t}, R s t → ∀ part, Alike R (S.add s part) (T.add t part)

namespace Sim

variable {S : Site σ} {T : Site τ} {R : σ → τ → Prop} {s : σ} {t : τ}

theorem addAll (h : Sim S T R) : ∀ (parts : List Part) {s : σ} {t : τ}, R s t →
    Alike R (S.addAll s parts) (T.addAll t parts)
  | [], _, _, hst => ⟨rfl, hst⟩
  | part :: rest, _, _, hst => (h.add hst part).andThen fun _ _ hst => h.addAll rest hst

theorem unresolved_eq (h : Sim S T R) (hst : R s t) : S.unresolved s = T.unresolved t := by
  have hhopeless : S.hopeless? s = T.hopeless? t := by
    funext pending layer
    rw [Site.hopeless?, Site.hopeless?, h.hasSegment hst]
  funext waiting pending
  rw [Site.unresolved, Site.unresolved, hhopeless]

theorem addPasses (h : Sim S T R) : ∀ (passes : Nat) (layers : List LayerInfo)
    (segments : List SegmentDefinition) {s : σ} {t : τ}, R s t →
    Alike R (S.addPasses passes s layers segments) (T.addPasses passes t layers segments)
  | _, [], [], _, _, hst => by
    unfold Site.addPasses
    exact ⟨rfl, hst⟩
  | _, [], _ :: _, _, _, hst => by
    unfold Site.addPasses
    exact ⟨rfl, hst⟩
  | 0, _ :: _, _, _, _, hst => by
    unfold Site.addPasses
    rw [h.unresolved_eq hst]
    exact ⟨rfl, hst⟩
  | passes + 1, layer :: rest, segments, s, t, hst => by
    unfold Site.addPasses
    rw [h.hasDomain hst, h.unresolved_eq hst]
    dsimp only
    split
    · exact ⟨rfl, hst⟩
    · refine (h.addAll _ hst).andThen fun s t hst => ?_
      rw [h.hasLayer hst]
      exact (h.addAll _ hst).andThen fun s t hst => h.addPasses passes _ _ hst

/-- **A call** does the same at both sites. -/
theorem result (h : Sim S T R) (hst : R s t) (c : Call) :
    Alike R (S.result s c) (T.result t c) := by
  cases c with
  | definition d =>
    refine (h.addAll _ hst).andThen fun s t hst => ?_
    exact (h.addAll _ hst).andThen fun s t hst => h.addPasses _ _ _ hst
  | flag | criterion | layer | segment => exact h.addAll _ hst

/-- **A run of calls** ends in related states. -/
theorem run (h : Sim S T R) : ∀ (calls : List Call) {s : σ} {t : τ}, R s t →
    R (S.run s calls) (T.run t calls)
  | [], _, _, hst => hst
  | c :: calls, _, _, hst => h.run calls (h.result hst c).2

/-- **The same answers** are given to all calls. -/
theorem answers_eq (h : Sim S T R) : ∀ (calls : List Call) {s : σ} {t : τ}, R s t →
    S.answers s calls = T.answers t calls
  | [], _, _, _ => rfl
  | c :: calls, s, t, hst => by
    rw [answers, answers, (h.result hst c).1, h.answers_eq calls (h.result hst c).2]

end Sim

end Site

namespace Builder

/-! ## 3. A builder is a site -/

theorem Step.of_add {b b' : Builder} {part : Part} (h : b.add part = .ok b') : Step b b' := by
  cases part with
  | flag flag => exact .flag h
  | criterion criterion => exact .criterion h
  | layer info => exact .layer h
  | segment segment => exact .segment h

/-- No step changes what is declared. -/
theorem Step.declared {b b' : Builder} (h : Step b b') : b'.declared = b.declared := by
  cases h with
  | flag h =>
    obtain ⟨-, -, rfl⟩ := addFlag_eq_ok_iff.1 h
    rfl
  | criterion h =>
    obtain ⟨-, -, rfl⟩ := addCriterion_eq_ok_iff.1 h
    rfl
  | layer h =>
    obtain ⟨-, -, -, rfl⟩ := addLayer_eq_ok_iff.1 h
    rfl
  | segment h =>
    obtain ⟨-, -, -, _, _, _, _, _, -, -, rfl, -⟩ := addSegment_ok h
    rfl

/-- A builder takes parts, and nothing is left behind of one that is refused. -/
def site : Site Builder where
  add b part :=
    match b.add part with
    | .error e => (b, some e)
    | .ok b' => (b', none)
  hasLayer := hasLayer
  hasSegment := hasSegment
  hasDomain := hasDomain

theorem addAll_site {α : Type} {addPart : Builder → α → Except ValidationError Builder}
    (part : α → Part) (hadd : ∀ b a, b.add (part a) = addPart b a) : ∀ (as : List α) (b : Builder),
    site.addAll b (as.map part) = addEach addPart b as
  | [], _ => rfl
  | a :: rest, b => by
    rw [List.map_cons, Site.addAll, addEach, ← hadd]
    cases hb : b.add (part a) with
    | error e => simp only [site, hb, Site.andThen]
    | ok b' =>
      simp only [site, hb, Site.andThen]
      exact addAll_site part hadd rest b'

theorem addAll_flags : ∀ (flags : List FlagDefinition) (b : Builder),
    site.addAll b (flags.map .flag) = addEach addFlag b flags :=
  addAll_site .flag fun _ _ => rfl

theorem addAll_criteria : ∀ (criteria : List Criterion) (b : Builder),
    site.addAll b (criteria.map .criterion) = addEach addCriterion b criteria :=
  addAll_site .criterion fun _ _ => rfl

theorem addAll_layers : ∀ (layers : List LayerInfo) (b : Builder),
    site.addAll b (layers.map .layer) = addEach addLayer b layers :=
  addAll_site .layer fun _ _ => rfl

theorem addAll_segments : ∀ (segments : List SegmentDefinition) (b : Builder),
    site.addAll b (segments.map .segment) = addEach addSegment b segments :=
  addAll_site .segment fun _ _ => rfl

theorem addPasses_site : ∀ (passes : Nat) (b : Builder) (layers : List LayerInfo)
    (segments : List SegmentDefinition),
    site.addPasses passes b layers segments = addPasses passes b layers segments
  | _, b, [], [] => by rw [Site.addPasses, addPasses]
  | _, b, [], _ :: _ => by rw [Site.addPasses, addPasses]
  | 0, b, _ :: _, _ => by
    rw [Site.addPasses, addPasses]
    · rfl
    · simp
  | passes + 1, b, layer :: rest, segments => by
    rw [Site.addPasses, addPasses]
    swap
    · simp
    have hdomain : site.hasDomain = hasDomain := rfl
    have hlayer : site.hasLayer = hasLayer := rfl
    have hunresolved : site.unresolved = unresolved := rfl
    simp only [addAll_layers, addAll_segments, addPasses_site passes, hdomain, hlayer, hunresolved]
    split
    · rfl
    · rcases addEach addLayer b _ with ⟨b₁, _ | e⟩
      swap
      · rfl
      simp only [Site.andThen]
      rcases addEach addSegment b₁ _ with ⟨b₂, _ | e⟩ <;> rfl

/-- **A builder does with a call** what it does as a site. -/
theorem result_site (b : Builder) (c : Call) : site.result b c = b.result c := by
  have hone : ∀ part, site.addAll b [part] = addEach add b [part] :=
    fun part => addAll_site id (fun _ _ => rfl) [part] b
  cases c with
  | definition d =>
    change site.addDefinition b d = b.addDefinition d
    simp only [Site.addDefinition, addDefinition, addAll_flags, addAll_criteria, addPasses_site]
    rcases addEach addFlag b d.flags with ⟨b₁, _ | e⟩
    swap
    · rfl
    simp only [Site.andThen]
    rcases addEach addCriterion b₁ d.criteria with ⟨b₂, _ | e⟩ <;> rfl
  | flag flag => exact hone (.flag flag)
  | criterion criterion => exact hone (.criterion criterion)
  | layer info => exact hone (.layer info)
  | segment segment => exact hone (.segment segment)

theorem run_site : ∀ (calls : List Call) (b : Builder), site.run b calls = b.run calls
  | [], _ => rfl
  | c :: calls, b => by
    change site.run (site.result b c).1 calls = (b.call c).run calls
    rw [result_site, fst_result, run_site]

end Builder

/-! ## 4. Why a part is refused -/

/-- What is looked at when a part is checked. -/
structure Facts where
  declared : List (String × FlagType)
  flags : Table String Calculator
  criteria : Table CriterionId Criterion
  hasLayer : LayerId → Bool
  hasSegment : SegmentId → Bool
  hasDomain : SegmentId → Bool
  /-- In each layer, the owners of the buckets of each criterion. -/
  owners : LayerId → CriterionId → Table Bucket SegmentId

namespace Facts

/-- Checks that a flag is new and has the type that it is declared with. -/
def checkFlag (f : Facts) (flag : FlagDefinition) : Except ValidationError Unit :=
  if f.flags.contains flag.name then .error (.duplicateFlag flag.name)
  else match f.declared.lookup flag.name with
    | none => .ok ()
    | some declared =>
      if declared = flag.calculator.type then .ok ()
      else .error (.flagTypeMismatch flag.name flag.calculator.type declared)

/-- Checks that a criterion has buckets and is new. -/
def checkCriterion (f : Facts) (criterion : Criterion) : Except ValidationError Unit :=
  if criterion.buckets ≤ 0 then .error (.invalidBucketCount criterion.id criterion.buckets)
  else if f.criteria.contains criterion.id then .error (.duplicateCriterion criterion.id)
  else .ok ()

/-- Checks that a layer is new, and that it stands in the space itself or in a domain that is
there. -/
def checkLayer (f : Facts) (layer : LayerInfo) : Except ValidationError Unit :=
  if f.hasLayer layer.id then .error (.duplicateLayer layer.id)
  else if layer.isTop then .ok ()
  else if layer.launch then .error (.launchLayerInDomain layer.id layer.domain)
  else if f.hasDomain layer.domain then .ok ()
  else if f.hasSegment layer.domain then .error (.notADomain layer.id layer.domain)
  else .error (.unknownDomain layer.id layer.domain)

/-- Checks that overrides are of flags that are defined, and fit their type. -/
def checkOverrides (f : Facts) (segment : SegmentId) (overrides : List (String × FlagOverride)) :
    Except ValidationError Unit :=
  Builder.checkOverrides ⟨f.declared, f.flags, f.criteria, []⟩ segment overrides

/-- Checks that the buckets of a segment exist and are free in its layer. -/
def checkBuckets (f : Facts) (segment : SegmentInfo) (criterion : Criterion) :
    Except ValidationError Unit := do
  LayerDraft.checkRange segment.id criterion.buckets segment.buckets.keys
  let conflicts := LayerDraft.conflicts (f.owners segment.layer criterion.id) segment.buckets.keys
  if conflicts.isEmpty then .ok ()
  else .error (.overlappingBuckets segment.id segment.layer conflicts)

/-- Checks a segment, its buckets apart, and finds its criterion. -/
def checkEntry (f : Facts) (segment : SegmentDefinition) : Except ValidationError Criterion :=
  let info := segment.info
  if info.id = topDomain then .error .reservedSegmentId
  else if f.hasSegment info.id then .error (.duplicateSegment info.id)
  else if f.hasLayer info.layer then
    match f.criteria.get? info.criterion with
    | none => .error (.unknownCriterion info.id info.criterion)
    | some criterion => do
      Builder.checkWindows info.id [info.active, info.overridesWindow]
      f.checkOverrides info.id segment.overrides.entries
      return criterion
  else .error (.unknownLayer info.id info.layer)

theorem checkEntry_ok {f : Facts} {segment : SegmentDefinition} {criterion : Criterion}
    (h : f.checkEntry segment = .ok criterion) : f.hasLayer segment.info.layer = true ∧
      f.criteria.get? segment.info.criterion = some criterion := by
  unfold checkEntry at h
  dsimp only at h
  split at h
  · cases h
  split at h
  · cases h
  split at h
  swap
  · cases h
  · next hlayer =>
    cases hcriterion : f.criteria.get? segment.info.criterion with
    | none =>
      rw [hcriterion] at h
      cases h
    | some found =>
      rw [hcriterion] at h
      obtain ⟨_, -, h⟩ := bind_ok h
      obtain ⟨_, -, h⟩ := bind_ok h
      cases h
      exact ⟨hlayer, rfl⟩

/-- Checks a segment. -/
def checkSegment (f : Facts) (segment : SegmentDefinition) : Except ValidationError Unit := do
  let criterion ← f.checkEntry segment
  f.checkBuckets segment.info criterion

/-- Checks a part. -/
def check (f : Facts) : Part → Except ValidationError Unit
  | .flag flag => f.checkFlag flag
  | .criterion criterion => f.checkCriterion criterion
  | .layer layer => f.checkLayer layer
  | .segment segment => f.checkSegment segment

end Facts

namespace Builder

/-- The facts about a builder. -/
def facts (b : Builder) : Facts where
  declared := b.declared
  flags := b.flags
  criteria := b.criteria
  hasLayer := b.hasLayer
  hasSegment := b.hasSegment
  hasDomain := b.hasDomain
  owners layer criterion := ((b.draft? layer).map (·.owners criterion)).getD .empty

@[simp] theorem facts_declared (b : Builder) : b.facts.declared = b.declared := rfl

@[simp] theorem facts_flags (b : Builder) : b.facts.flags = b.flags := rfl

@[simp] theorem facts_criteria (b : Builder) : b.facts.criteria = b.criteria := rfl

@[simp] theorem facts_hasLayer (b : Builder) : b.facts.hasLayer = b.hasLayer := rfl

@[simp] theorem facts_hasSegment (b : Builder) : b.facts.hasSegment = b.hasSegment := rfl

@[simp] theorem facts_hasDomain (b : Builder) : b.facts.hasDomain = b.hasDomain := rfl

theorem checkOverrides_congr {b b' : Builder} (h : b'.flags = b.flags) (segment : SegmentId) :
    ∀ entries, b'.checkOverrides segment entries = b.checkOverrides segment entries
  | [] => rfl
  | (flag, change) :: rest => by
    rw [checkOverrides, checkOverrides, h]
    simp only [checkOverrides_congr h segment rest]

/-- A segment is checked in the first layer of the id that it names. -/
theorem map_addToDraft (segment : SegmentDefinition) (criterion : Criterion) :
    ∀ (drafts : List LayerDraft) (d : LayerDraft),
      drafts.find? (fun d => d.info.id == segment.info.layer) = some d →
      (addToDraft segment criterion drafts).map (fun _ => ()) =
        (d.add segment criterion).map fun _ => ()
  | first :: rest, d, h => by
    rw [addToDraft]
    by_cases hid : first.info.id = segment.info.layer
    · obtain rfl : first = d := by simpa [hid] using h
      rw [if_pos hid]
      cases first.add segment criterion <;> rfl
    · have hrest := map_addToDraft segment criterion rest d (by simpa [hid] using h)
      rw [if_neg hid, ← hrest]
      cases addToDraft segment criterion rest <;> rfl

theorem map_addFlag (b : Builder) (flag : FlagDefinition) :
    (b.addFlag flag).map (fun _ => ()) = b.facts.checkFlag flag := by
  simp only [addFlag, Facts.checkFlag, bind, Except.bind, throw, throwThe, MonadExceptOf.throw,
    pure, Except.pure]
  by_cases hnew : b.flags.contains flag.name = true
  · simp [hnew, Except.map]
  · cases hdeclared : b.declared.lookup flag.name with
    | none => simp [hnew, hdeclared, Except.map]
    | some declared =>
      by_cases htype : declared = flag.calculator.type <;>
        simp [hnew, hdeclared, htype, Except.map]

theorem map_addCriterion (b : Builder) (criterion : Criterion) :
    (b.addCriterion criterion).map (fun _ => ()) = b.facts.checkCriterion criterion := by
  simp only [addCriterion, Facts.checkCriterion, bind, Except.bind, throw, throwThe,
    MonadExceptOf.throw, pure, Except.pure]
  by_cases hpos : criterion.buckets ≤ 0 <;>
    by_cases hnew : b.criteria.contains criterion.id = true <;> simp [hpos, hnew, Except.map]

theorem map_addLayer (b : Builder) (layer : LayerInfo) :
    (b.addLayer layer).map (fun _ => ()) = b.facts.checkLayer layer := by
  simp only [addLayer, Facts.checkLayer, bind, Except.bind, throw, throwThe,
    MonadExceptOf.throw, pure, Except.pure]
  by_cases hnew : b.hasLayer layer.id = true
  · simp [hnew, Except.map]
  by_cases htop : layer.isTop = true
  · simp [hnew, htop, Except.map]
  by_cases hlaunch : layer.launch = true
  · simp [hnew, htop, hlaunch, Except.map]
  by_cases hdomain : b.hasDomain layer.domain = true <;>
    by_cases hsegment : b.hasSegment layer.domain = true <;>
    simp [hnew, htop, hlaunch, hdomain, hsegment, Except.map]

theorem map_add_draft {b : Builder} {segment : SegmentDefinition} {d : LayerDraft}
    (h : b.draft? segment.info.layer = some d) (criterion : Criterion) :
    (d.add segment criterion).map (fun _ => ()) = b.facts.checkBuckets segment.info criterion := by
  have hid : d.info.id = segment.info.layer := by simpa using List.find?_some h
  simp only [LayerDraft.add, Facts.checkBuckets, facts, h, bind, Except.bind, throw, throwThe,
    MonadExceptOf.throw, pure, Except.pure, Option.map_some, Option.getD_some]
  cases LayerDraft.checkRange segment.info.id criterion.buckets segment.info.buckets.keys with
  | error e => rfl
  | ok _ =>
    by_cases hfree : (LayerDraft.conflicts (d.owners criterion.id)
      segment.info.buckets.keys).isEmpty = true <;> simp [hfree, Except.map, hid]

theorem map_addSegment (b : Builder) (segment : SegmentDefinition) :
    (b.addSegment segment).map (fun _ => ()) = b.facts.checkSegment segment := by
  have hoverrides : b.facts.checkOverrides = b.checkOverrides := by
    funext segment overrides
    refine @checkOverrides_congr b _ ?_ segment overrides
    rfl
  simp only [addSegment, Facts.checkSegment, Facts.checkEntry, hoverrides, bind, Except.bind, throw,
    throwThe, MonadExceptOf.throw, pure, Except.pure]
  by_cases htop : segment.info.id = topDomain
  · simp [htop, Except.map]
  by_cases hnew : b.hasSegment segment.info.id = true
  · simp [htop, hnew, Except.map]
  by_cases hlayer : b.hasLayer segment.info.layer = true
  swap
  · simp [htop, hnew, hlayer, Except.map]
  obtain ⟨d, hd⟩ := Option.isSome_iff_exists.1 hlayer
  cases hcriterion : b.criteria.get? segment.info.criterion with
  | none => simp [htop, hnew, hlayer, hcriterion, Except.map]
  | some criterion =>
    have hbuckets :=
      (map_addToDraft segment criterion b.drafts d hd).trans (map_add_draft hd criterion)
    simp only [htop, hnew, hlayer, hcriterion, facts_hasSegment, facts_hasLayer, facts_criteria,
      if_false, if_true, Bool.not_true, Bool.false_eq_true]
    cases checkWindows segment.info.id [segment.info.active, segment.info.overridesWindow] with
    | error e => rfl
    | ok _ =>
      cases b.checkOverrides segment.info.id segment.overrides.entries with
      | error e => rfl
      | ok _ =>
        change _ = b.facts.checkBuckets segment.info criterion
        rw [← hbuckets]
        cases addToDraft segment criterion b.drafts <;> rfl

/-- **Why a builder refuses a part** depends on those facts. -/
theorem map_add (b : Builder) : ∀ part, (b.add part).map (fun _ => ()) = b.facts.check part
  | .flag flag => b.map_addFlag flag
  | .criterion criterion => b.map_addCriterion criterion
  | .layer layer => b.map_addLayer layer
  | .segment segment => b.map_addSegment segment

/-- A part is refused for the reason for which the check fails, or else taken. -/
theorem add_cases (b : Builder) (part : Part) :
    (∃ e, b.add part = .error e ∧ b.facts.check part = .error e) ∨
      ∃ b', b.add part = .ok b' ∧ b.facts.check part = .ok () := by
  have hsame := map_add b part
  cases hb : b.add part <;> rw [hb] at hsame
  case error e => exact .inl ⟨e, rfl, hsame.symm⟩
  case ok b' => exact .inr ⟨b', rfl, hsame.symm⟩

/-- Builders do the same if the same facts hold of them, and do so after every part that they
take. -/
theorem sim_site {R : Builder → Builder → Prop} (hfacts : ∀ {b b'}, R b b' → b'.facts = b.facts)
    (hadd : ∀ {b b' b₁ b₁' part}, R b b' → b.add part = .ok b₁ → b'.add part = .ok b₁' →
      R b₁ b₁') : Site.Sim site site R where
  hasLayer h := congrArg Facts.hasLayer (hfacts h).symm
  hasSegment h := congrArg Facts.hasSegment (hfacts h).symm
  hasDomain h := congrArg Facts.hasDomain (hfacts h).symm
  add {b b'} h part := by
    rcases b.add_cases part with ⟨e, hb, hc⟩ | ⟨b₁, hb, hc⟩ <;>
      rcases b'.add_cases part with ⟨e', hb', hc'⟩ | ⟨b₁', hb', hc'⟩ <;>
      rw [hfacts h, hc] at hc' <;> cases hc' <;> simp only [site, hb, hb']
    · exact ⟨rfl, h⟩
    · exact ⟨rfl, hadd h hb hb'⟩

end Builder

end Rollout
