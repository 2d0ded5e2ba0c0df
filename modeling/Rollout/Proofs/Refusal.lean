import Rollout.Proofs.Conservation
/-!
# Why a builder refuses a part

`Builder.Refuses` lists the ways in which a part can be wrong, each with what the builder knows when
it says so.  A part is refused for one of these reasons and for no other (`refuses_of_add`), and
what is added in order is refused at a first part, with all parts before it accepted
(`exists_refused`).
-/

namespace Rollout

/-! ## 1. Results that fail -/

section Except

variable {ε ε' α β : Type}

/-- Of two steps the first one fails, or the second one does. -/
theorem bind_error {x : Except ε α} {f : α → Except ε β} {e : ε} (h : (x >>= f) = .error e) :
    x = .error e ∨ ∃ a, x = .ok a ∧ f a = .error e := by
  cases x with
  | error _ => exact .inl (congrArg Except.error (Except.error.inj h))
  | ok a => exact .inr ⟨a, rfl, h⟩

theorem error_of_mapError {f : ε → ε'} {x : Except ε α} {e' : ε'} (h : x.mapError f = .error e') :
    ∃ e, x = .error e ∧ f e = e' := by
  cases x with
  | error e => exact ⟨e, rfl, Except.error.inj h⟩
  | ok a => cases h

/-- What is done to many things fails at one of them. -/
theorem exists_of_mapM_error {f : α → Except ε β} {e : ε} : ∀ {as : List α},
    as.mapM f = .error e → ∃ a ∈ as, f a = .error e
  | [], h => by
    rw [List.mapM_nil] at h
    cases h
  | a :: as, h => by
    rw [List.mapM_cons] at h
    rcases bind_error h with h | ⟨b, -, h⟩
    · exact ⟨a, List.mem_cons_self, h⟩
    · rcases bind_error h with h | ⟨bs, -, h⟩
      · obtain ⟨c, hc, hfail⟩ := exists_of_mapM_error h
        exact ⟨c, List.mem_cons_of_mem a hc, hfail⟩
      · cases h

end Except

/-! ## 2. The reasons -/

namespace Builder

variable {b b' : Builder}

/-- **Why a builder refuses a part**, with what it has then. -/
inductive Refuses (b : Builder) : Part → ValidationError → Prop
  | duplicateFlag {flag : FlagDefinition} (h : b.flags.contains flag.name = true) :
    Refuses b (.flag flag) (.duplicateFlag flag.name)
  | flagTypeMismatch {flag : FlagDefinition} {declared : FlagType}
    (h : b.declared.lookup flag.name = some declared) (hne : declared ≠ flag.calculator.type) :
    Refuses b (.flag flag) (.flagTypeMismatch flag.name flag.calculator.type declared)
  | invalidBucketCount {c : Criterion} (h : c.buckets ≤ 0) :
    Refuses b (.criterion c) (.invalidBucketCount c.id c.buckets)
  | duplicateCriterion {c : Criterion} (h : b.criteria.contains c.id = true) :
    Refuses b (.criterion c) (.duplicateCriterion c.id)
  | duplicateLayer {info : LayerInfo} (h : b.hasLayer info.id = true) :
    Refuses b (.layer info) (.duplicateLayer info.id)
  | launchLayerInDomain {info : LayerInfo} (h : info.launch = true) (htop : info.isTop = false) :
    Refuses b (.layer info) (.launchLayerInDomain info.id info.domain)
  | notADomain {info : LayerInfo} (htop : info.isTop = false)
    (hno : b.hasDomain info.domain = false) (h : b.hasSegment info.domain = true) :
    Refuses b (.layer info) (.notADomain info.id info.domain)
  | unknownDomain {info : LayerInfo} (htop : info.isTop = false)
    (h : b.hasSegment info.domain = false) :
    Refuses b (.layer info) (.unknownDomain info.id info.domain)
  | reservedSegmentId {s : SegmentDefinition} (h : s.info.id = topDomain) :
    Refuses b (.segment s) .reservedSegmentId
  | duplicateSegment {s : SegmentDefinition} (h : b.hasSegment s.info.id = true) :
    Refuses b (.segment s) (.duplicateSegment s.info.id)
  | unknownLayer {s : SegmentDefinition} (h : b.hasLayer s.info.layer = false) :
    Refuses b (.segment s) (.unknownLayer s.info.id s.info.layer)
  | unknownCriterion {s : SegmentDefinition} (h : b.criteria.get? s.info.criterion = none) :
    Refuses b (.segment s) (.unknownCriterion s.info.id s.info.criterion)
  | invalidWindow {s : SegmentDefinition} {window : Window}
    (hmem : window ∈ [s.info.active, s.info.overridesWindow]) (h : window.isInverted = true) :
    Refuses b (.segment s) (.invalidWindow s.info.id window)
  | unknownFlag {s : SegmentDefinition} {name : String} {change : FlagOverride}
    (hmem : s.overrides.get? name = some change) (h : b.flags.get? name = none) :
    Refuses b (.segment s) (.unknownFlag s.info.id name)
  | invalidOverride {s : SegmentDefinition} {name : String} {change : FlagOverride}
    {calculator : Calculator} {cause : CalculateError} (hmem : s.overrides.get? name = some change)
    (hflag : b.flags.get? name = some calculator)
    (h : change.expectType calculator.type = .error cause) :
    Refuses b (.segment s) (.invalidOverride s.info.id name cause)
  | negativeBucket {s : SegmentDefinition} {bucket : Bucket}
    (hmem : s.info.buckets.contains bucket = true) (h : bucket < 0) :
    Refuses b (.segment s) (.negativeBucket s.info.id bucket)
  | bucketOutOfRange {s : SegmentDefinition} {bucket : Bucket} {c : Criterion}
    (hmem : s.info.buckets.contains bucket = true) (hc : b.criteria.get? s.info.criterion = some c)
    (h : c.buckets ≤ bucket) : Refuses b (.segment s) (.bucketOutOfRange s.info.id bucket c.buckets)
  | overlappingBuckets {s : SegmentDefinition} {draft : LayerDraft} {c : Criterion}
    (hdraft : draft ∈ b.drafts) (hid : draft.info.id = s.info.layer)
    (hc : b.criteria.get? s.info.criterion = some c)
    (h : (LayerDraft.conflicts (draft.owners c.id) s.info.buckets.keys).isEmpty = false) :
    Refuses b (.segment s) (.overlappingBuckets s.info.id draft.info.id
      (LayerDraft.conflicts (draft.owners c.id) s.info.buckets.keys))

/-! ## 3. A part is refused for one of the reasons -/

/-- The first bucket that the criterion does not have is below all its buckets, or beyond. -/
theorem bucket_of_checkRange {segment : SegmentId} {count : Bucket} {e : ValidationError} :
    ∀ {buckets : List Bucket}, LayerDraft.checkRange segment count buckets = .error e →
    ∃ bucket ∈ buckets, bucket < 0 ∧ .negativeBucket segment bucket = e ∨
      count ≤ bucket ∧ .bucketOutOfRange segment bucket count = e
  | [], h => by cases h
  | bucket :: rest, h => by
    unfold LayerDraft.checkRange at h
    split at h
    · next hneg => exact ⟨bucket, List.mem_cons_self, .inl ⟨hneg, Except.error.inj h⟩⟩
    · split at h
      · next hout => exact ⟨bucket, List.mem_cons_self, .inr ⟨hout, Except.error.inj h⟩⟩
      · obtain ⟨bucket, hmem, hreason⟩ := bucket_of_checkRange h
        exact ⟨bucket, List.mem_cons_of_mem _ hmem, hreason⟩

theorem window_of_checkWindows {segment : SegmentId} {e : ValidationError} :
    ∀ {windows : List Window}, checkWindows segment windows = .error e →
    ∃ window ∈ windows, window.isInverted = true ∧ .invalidWindow segment window = e
  | [], h => by cases h
  | window :: rest, h => by
    unfold checkWindows at h
    split at h
    · next hinverted => exact ⟨window, List.mem_cons_self, hinverted, Except.error.inj h⟩
    · obtain ⟨window, hmem, hreason⟩ := window_of_checkWindows h
      exact ⟨window, List.mem_cons_of_mem _ hmem, hreason⟩

theorem entry_of_checkOverrides {segment : SegmentId} {e : ValidationError} :
    ∀ {entries : List (String × FlagOverride)}, b.checkOverrides segment entries = .error e →
    ∃ entry ∈ entries, b.flags.get? entry.1 = none ∧ .unknownFlag segment entry.1 = e ∨
      ∃ calculator cause, b.flags.get? entry.1 = some calculator ∧
        entry.2.expectType calculator.type = .error cause ∧
        .invalidOverride segment entry.1 cause = e
  | [], h => by cases h
  | (name, change) :: rest, h => by
    unfold checkOverrides at h
    split at h
    · next hnone => exact ⟨_, List.mem_cons_self, .inl ⟨hnone, Except.error.inj h⟩⟩
    · next calculator hsome =>
      split at h
      · next cause hcause =>
        exact ⟨_, List.mem_cons_self, .inr ⟨calculator, cause, hsome, hcause, Except.error.inj h⟩⟩
      · obtain ⟨entry, hmem, hreason⟩ := entry_of_checkOverrides h
        exact ⟨entry, List.mem_cons_of_mem _ hmem, hreason⟩

/-- A layer refuses a segment for its buckets. -/
theorem draft_of_addToDraft {s : SegmentDefinition} {c : Criterion} {e : ValidationError} :
    ∀ {drafts : List LayerDraft}, addToDraft s c drafts = .error e →
    ∃ draft ∈ drafts, draft.info.id = s.info.layer ∧ draft.add s c = .error e
  | [], h => by cases h
  | draft :: rest, h => by
    unfold addToDraft at h
    split at h
    · next hid =>
      rcases bind_error h with h | ⟨_, -, h⟩
      · exact ⟨draft, List.mem_cons_self, hid, h⟩
      · cases h
    · rcases bind_error h with h | ⟨_, -, h⟩
      · obtain ⟨draft, hmem, hreason⟩ := draft_of_addToDraft h
        exact ⟨draft, List.mem_cons_of_mem _ hmem, hreason⟩
      · cases h

theorem refuses_of_addToDraft {s : SegmentDefinition} {c : Criterion} {e : ValidationError}
    (hc : b.criteria.get? s.info.criterion = some c) (h : addToDraft s c b.drafts = .error e) :
    b.Refuses (.segment s) e := by
  obtain ⟨draft, hdraft, hid, h⟩ := draft_of_addToDraft h
  rcases bind_error h with h | ⟨_, -, h⟩
  · obtain ⟨bucket, hmem, ⟨hneg, rfl⟩ | ⟨hout, rfl⟩⟩ := bucket_of_checkRange h
    · exact .negativeBucket (Table.mem_keys_iff.1 hmem) hneg
    · exact .bucketOutOfRange (Table.mem_keys_iff.1 hmem) hc hout
  · dsimp only at h
    split at h
    · next hconflicts =>
      cases h
      exact .overlappingBuckets hdraft hid hc (by simpa using hconflicts)
    · cases h

/-- **A segment that is refused** is refused by the first check that it does not pass. -/
theorem refuses_of_addSegment {s : SegmentDefinition} {e : ValidationError}
    (h : b.addSegment s = .error e) : b.Refuses (.segment s) e := by
  unfold addSegment at h
  dsimp only at h
  split at h
  · next htop =>
    cases h
    exact .reservedSegmentId htop
  split at h
  · next hold =>
    cases h
    exact .duplicateSegment hold
  split at h
  · next hlayer =>
    cases h
    exact .unknownLayer (by simpa using hlayer)
  split at h
  · next hcriterion =>
    cases h
    exact .unknownCriterion hcriterion
  next c hc =>
  rcases bind_error h with h | ⟨_, -, h⟩
  · obtain ⟨window, hmem, hinverted, rfl⟩ := window_of_checkWindows h
    exact .invalidWindow hmem hinverted
  rcases bind_error h with h | ⟨_, -, h⟩
  · obtain ⟨⟨name, change⟩, hmem, ⟨hnone, rfl⟩ | ⟨calculator, cause, hsome, hcause, rfl⟩⟩ :=
      entry_of_checkOverrides h
    · exact .unknownFlag (Table.get?_eq_some_iff.2 hmem) hnone
    · exact .invalidOverride (Table.get?_eq_some_iff.2 hmem) hsome hcause
  rcases bind_error h with h | ⟨_, -, h⟩
  · exact refuses_of_addToDraft hc h
  · cases h

/-- **A part is refused for one of the reasons**, and no other. -/
theorem refuses_of_add {part : Part} {e : ValidationError} (h : b.add part = .error e) :
    b.Refuses part e := by
  cases part with
  | flag flag =>
    unfold add addFlag at h
    dsimp only at h
    split at h
    · next hold =>
      cases h
      exact .duplicateFlag hold
    split at h
    · next declared hdeclared =>
      split at h <;> cases h
      exact .flagTypeMismatch hdeclared ‹_›
    · cases h
  | criterion c =>
    unfold add addCriterion at h
    dsimp only at h
    split at h
    · next hcount =>
      cases h
      exact .invalidBucketCount hcount
    split at h <;> cases h
    exact .duplicateCriterion ‹_›
  | layer info =>
    unfold add addLayer at h
    dsimp only at h
    split at h
    · next hold =>
      cases h
      exact .duplicateLayer hold
    split at h
    · next hlaunch =>
      cases h
      rw [Bool.and_eq_true, Bool.not_eq_true'] at hlaunch
      exact .launchLayerInDomain hlaunch.1 hlaunch.2
    split at h
    swap
    · cases h
    next hno =>
    rw [Bool.and_eq_true, Bool.not_eq_true', Bool.not_eq_true'] at hno
    split at h
    · next hsegment =>
      cases h
      exact .notADomain hno.1 hno.2 hsegment
    · next hsegment =>
      cases h
      exact .unknownDomain hno.1 (Bool.eq_false_iff.2 hsegment)
  | segment s => exact refuses_of_addSegment h

/-- What is added in order is refused at a first part, with the parts before it accepted. -/
theorem exists_refused {α : Type} {addPart : Builder → α → Except ValidationError Builder}
    {e : ValidationError} : ∀ {as : List α} {b b' : Builder}, addEach addPart b as = (b', some e) →
    ∃ before a after, as = before ++ a :: after ∧ addEach addPart b before = (b', none) ∧
      addPart b' a = .error e
  | [], b, b', h => by cases h
  | a :: rest, b, b', h => by
    unfold addEach at h
    split at h
    · next hrefused =>
      cases h
      exact ⟨[], a, rest, rfl, addEach_nil_iff.2 rfl, hrefused⟩
    · next b₁ hadd =>
      obtain ⟨before, a', after, rfl, hbefore, hrefused⟩ := exists_refused h
      exact ⟨a :: before, a', after, rfl, addEach_cons_iff.2 ⟨b₁, hadd, hbefore⟩, hrefused⟩

/-- The reasons that a waiting layer can have of its own. -/
theorem hopeless?_cases {pending : List SegmentDefinition} {layer : LayerInfo} {e : ValidationError}
    (h : b.hopeless? pending layer = some e) : e = .launchLayerInDomain layer.id layer.domain ∨
      e = .notADomain layer.id layer.domain ∨ e = .unknownDomain layer.id layer.domain := by
  unfold hopeless? at h
  split at h
  · exact .inl (Option.some.inj h).symm
  split at h
  · exact .inr (.inl (Option.some.inj h).symm)
  split at h
  · exact .inr (.inr (Option.some.inj h).symm)
  · exact .inr (.inl (Option.some.inj h).symm)
  · cases h

end Builder

end Rollout
