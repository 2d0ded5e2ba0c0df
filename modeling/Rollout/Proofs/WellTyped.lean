import Rollout.Proofs.Description
import Rollout.Proofs.Refusal
/-!
# Documents only describe what is well-typed

Types are checked three times over: when a document is read, when modifiers and calculators are put
together, and when a builder takes a flag or a segment.  For a definition that comes from a document
only the first of these can fail.

* What is read for a type is of the type, and an operator that is found for a type combines its
  values.  So putting a modifier or a calculator together never fails, however deep it is
  (`SpaceDocument.noMismatch`).
* An override gets its type from the first flag of its name.  If there is a second one, the builder
  refuses it before it looks at any segment; if not, the first one is the flag that the builder has.
  So a builder that refuses the definition does not blame an override
  (`Builder.not_ofOverride_of_suits`).
-/

namespace Rollout

/-! ## 1. What reading can fail for -/

/-- The error of a calculation that an error is about, wherever it stands in it. -/
def DocumentError.calculation? : DocumentError → Option CalculateError
  | .calculate _ cause => some cause
  | .validation (.invalidOverride _ _ cause) => some cause
  | _ => none

/-- If the error is about a calculation, it says that a name stands for no operator; it is not about
types that do not match. -/
def DocumentError.NoMismatch (e : DocumentError) : Prop :=
  ∀ cause, e.calculation? = some cause → ∃ name type, cause = .unknownOperator name type

theorem DocumentError.noMismatch_of_none {e : DocumentError} (h : e.calculation? = none) :
    e.NoMismatch := by
  intro cause hcause
  rw [h] at hcause
  cases hcause

variable {registry : ConditionRegistry} {owner : Owner} {type : FlagType} {e : DocumentError}

theorem noMismatch_of_typedValue {written : Value} (h : typedValue owner type written = .error e) :
    e.NoMismatch := by
  obtain ⟨cause, -, rfl⟩ := error_of_mapError h
  exact DocumentError.noMismatch_of_none rfl

theorem Operator.noMismatch_of_resolve {name : String}
    (h : (Operator.resolve name type).mapError (.calculate owner) = .error e) : e.NoMismatch := by
  obtain ⟨cause, hcause, rfl⟩ := error_of_mapError h
  unfold resolve at hcause
  split at hcause <;> cases hcause <;> rintro _ ⟨⟩ <;> exact ⟨_, _, rfl⟩

theorem noMismatch_of_conditionMeaning {merge : Merge} {ds : List ConditionDocument}
    (h : conditionMeaning registry owner merge ds = .error e) : e.NoMismatch := by
  rcases bind_error h with h | ⟨_, -, h⟩
  · obtain ⟨d, -, h⟩ := exists_of_mapM_error h
    rcases bind_error h with h | ⟨_, -, h⟩
    · obtain ⟨cause, -, rfl⟩ := error_of_mapError h
      exact DocumentError.noMismatch_of_none rfl
    · cases h
  · cases h

mutual

/-- **Reading a modifier** never gets to a check of types that fails. -/
theorem ModifierDocument.noMismatch : ∀ {d : ModifierDocument} {e : DocumentError},
    d.meaning registry owner type = .error e → e.NoMismatch
  | .mk written operator conditions merge children, e, h => by
    rw [ModifierDocument.meaning] at h
    rcases bind_error h with h | ⟨value, hvalue, h⟩
    · exact noMismatch_of_typedValue h
    rcases bind_error h with h | ⟨op, hop, h⟩
    · exact Operator.noMismatch_of_resolve h
    rcases bind_error h with h | ⟨condition, -, h⟩
    · exact noMismatch_of_conditionMeaning h
    rcases bind_error h with h | ⟨modifiers, hmodifiers, h⟩
    · exact noMismatch_of_modifierMeanings h
    -- what is left is to put the parts together, and these fit
    have hvalueType : value.type = type := Value.type_of_parse? (typedValue_ok hvalue)
    have haccepts : op.accepts value.type = true := by
      rw [hvalueType]
      exact Operator.accepts_of_resolve (ok_of_mapError hop)
    have hchildren : ∀ child ∈ modifiers, child.type = value.type := by
      rw [hvalueType]
      exact type_of_modifierMeanings hmodifiers
    rw [Modifier.make_eq_ok_iff.2 ⟨haccepts, hchildren, rfl⟩] at h
    cases h

theorem noMismatch_of_modifierMeanings : ∀ {ds : List ModifierDocument} {e : DocumentError},
    modifierMeanings registry owner type ds = .error e → e.NoMismatch
  | [], e, h => by
    rw [modifierMeanings] at h
    cases h
  | d :: ds, e, h => by
    rw [modifierMeanings] at h
    rcases bind_error h with h | ⟨_, -, h⟩
    · exact ModifierDocument.noMismatch h
    rcases bind_error h with h | ⟨_, -, h⟩
    · exact noMismatch_of_modifierMeanings h
    · cases h

end

/-- A base value and modifiers that were read for one type make a calculator. -/
theorem Calculator.make_of_meanings {written base : Value} {ds : List ModifierDocument}
    {modifiers : List Modifier} (hbase : typedValue owner type written = .ok base)
    (hmodifiers : modifierMeanings registry owner type ds = .ok modifiers) :
    Calculator.make base modifiers = .ok ⟨base, modifiers⟩ := by
  have htype : base.type = type := Value.type_of_parse? (typedValue_ok hbase)
  refine Calculator.make_eq_ok_iff.2 ⟨?_, rfl⟩
  rw [htype]
  exact type_of_modifierMeanings hmodifiers

theorem FlagDocument.noMismatch {d : FlagDocument} (h : d.meaning registry = .error e) :
    e.NoMismatch := by
  unfold FlagDocument.meaning at h
  rcases bind_error h with h | ⟨type, -, h⟩
  · obtain ⟨cause, -, rfl⟩ := error_of_mapError h
    exact DocumentError.noMismatch_of_none rfl
  rcases bind_error h with h | ⟨base, hbase, h⟩
  · exact noMismatch_of_typedValue h
  rcases bind_error h with h | ⟨modifiers, hmodifiers, h⟩
  · exact noMismatch_of_modifierMeanings h
  rw [Calculator.make_of_meanings hbase hmodifiers] at h
  cases h

theorem OverrideDocument.noMismatch {segment : SegmentId} {d : OverrideDocument}
    (h : d.meaning registry segment type = .error e) : e.NoMismatch := by
  unfold OverrideDocument.meaning at h
  rcases bind_error h with h | ⟨modifiers, hmodifiers, h⟩
  · exact noMismatch_of_modifierMeanings h
  split at h
  · cases h
  · cases h
  · split at h
    · cases h
      exact DocumentError.noMismatch_of_none rfl
    · rcases bind_error h with h | ⟨base, hbase, h⟩
      · exact noMismatch_of_typedValue h
      rw [Calculator.make_of_meanings hbase hmodifiers] at h
      cases h

theorem noMismatch_of_overrideMeanings {types : List (String × FlagType)} {segment : SegmentId} :
    ∀ {ds : List OverrideDocument} {done : Table String FlagOverride},
    overrideMeanings registry types segment done ds = .error e → e.NoMismatch
  | [], done, h => by
    rw [overrideMeanings] at h
    cases h
  | d :: ds, done, h => by
    rw [overrideMeanings] at h
    split at h
    · cases h
      exact DocumentError.noMismatch_of_none rfl
    rcases bind_error h with h | ⟨change, -, h⟩
    · exact OverrideDocument.noMismatch h
    dsimp only at h
    split at h
    · cases h
      exact DocumentError.noMismatch_of_none rfl
    · exact noMismatch_of_overrideMeanings h

theorem noMismatch_of_checkRanges {counts : Table CriterionId Bucket} {segment : SegmentId}
    {criterion : CriterionId} : ∀ {ranges : List BucketRange},
    checkRanges counts segment criterion ranges = .error e → e.NoMismatch
  | [], h => by cases h
  | range :: rest, h => by
    unfold checkRanges at h
    split at h
    · cases h
      exact DocumentError.noMismatch_of_none rfl
    split at h
    · exact noMismatch_of_checkRanges h
    split at h
    · cases h
      exact DocumentError.noMismatch_of_none rfl
    split at h
    · cases h
      exact DocumentError.noMismatch_of_none rfl
    · exact noMismatch_of_checkRanges h

theorem SegmentDocument.noMismatch {types : List (String × FlagType)}
    {counts : Table CriterionId Bucket} {d : SegmentDocument}
    (h : d.meaning registry types counts = .error e) : e.NoMismatch := by
  unfold SegmentDocument.meaning at h
  rcases bind_error h with h | ⟨_, -, h⟩
  · exact noMismatch_of_checkRanges h
  rcases bind_error h with h | ⟨condition, -, h⟩
  · exact noMismatch_of_conditionMeaning h
  dsimp only at h
  split at h
  · cases h
  rcases bind_error h with h | ⟨_, -, h⟩
  · exact noMismatch_of_overrideMeanings h
  · cases h

/-- **Reading a document** never gets to a check of types that fails. -/
theorem SpaceDocument.noMismatch {d : SpaceDocument} (h : d.meaning registry = .error e) :
    e.NoMismatch := by
  unfold SpaceDocument.meaning at h
  dsimp only at h
  split at h
  · cases h
    exact DocumentError.noMismatch_of_none rfl
  rcases bind_error h with h | ⟨flags, -, h⟩
  · obtain ⟨flag, -, h⟩ := exists_of_mapM_error h
    exact FlagDocument.noMismatch h
  rcases bind_error h with h | ⟨segments, -, h⟩
  · obtain ⟨s, -, h⟩ := exists_of_mapM_error h
    exact SegmentDocument.noMismatch h
  · cases h

/-! ## 2. What the overrides of a document are of -/

theorem OverrideDocument.suits {segment : SegmentId} {d : OverrideDocument} {change : FlagOverride}
    (h : d.meaning registry segment type = .ok change) : change.Suits type := by
  obtain ⟨modifiers, hmodifiers, rfl | rfl | ⟨base, hbase, rfl⟩⟩ := OverrideDocument.meaning_ok h
  · exact type_of_modifierMeanings hmodifiers
  · exact type_of_modifierMeanings hmodifiers
  · exact hbase

/-- Overrides are of flags that are there, and make values of their types. -/
def SpaceDefinition.Suits (d : SpaceDefinition) : Prop :=
  ∀ s ∈ d.segments, ∀ name change, s.overrides.get? name = some change →
    ∃ flag ∈ d.flags, flag.name = name ∧ change.Suits flag.calculator.type

/-- An override suits the flag that it got its type from. -/
theorem SegmentDocument.suits {flags : List FlagDefinition} {counts : Table CriterionId Bucket}
    {d : SegmentDocument} {s : SegmentDefinition}
    (h : d.meaning registry (flagTypes flags) counts = .ok s) :
    ∀ name change, s.overrides.get? name = some change →
      ∃ flag ∈ flags, flag.name = name ∧ change.Suits flag.calculator.type := by
  refine SegmentDocument.forall_overrides (fun segment d type change htype hchange => ?_) h
  obtain ⟨before, after, hflags, -⟩ := List.lookup_eq_some_iff.1 htype
  have hmem : (d.flag, type) ∈ flagTypes flags := by simp [hflags]
  obtain ⟨flag, hflag, heq⟩ := List.mem_map.1 hmem
  obtain ⟨hname, htype⟩ := Prod.mk.inj heq
  exact ⟨flag, hflag, hname, htype ▸ OverrideDocument.suits hchange⟩

theorem SpaceDocument.suits {d : SpaceDocument} {definition : SpaceDefinition}
    (h : d.meaning registry = .ok definition) : definition.Suits := by
  obtain ⟨-, flags, segments, -, hsegments, rfl⟩ := SpaceDocument.meaning_eq_ok_iff.1 h
  exact forall_of_forall₂ hsegments fun _ _ => SegmentDocument.suits

/-! ## 3. What a builder says of overrides -/

/-- The error is about what a segment does to a flag. -/
def ValidationError.OfOverride : ValidationError → Prop
  | .unknownFlag _ _ | .invalidOverride _ _ _ => True
  | _ => False

namespace Builder

variable {b b' : Builder} {e : ValidationError}

/-- Only segments are refused for an override, and only if there is one that does not fit. -/
theorem Refuses.of_override {part : Part} (h : b.Refuses part e) (he : e.OfOverride) :
    ∃ s, part = .segment s ∧ ¬b.Fits s := by
  cases h with
  | @unknownFlag s name change hmem hnone =>
    refine ⟨s, rfl, fun hfits => ?_⟩
    obtain ⟨calculator, hsome, -⟩ := hfits name change hmem
    rw [hnone] at hsome
    cases hsome
  | @invalidOverride s name change calculator cause hmem hflag hcause =>
    refine ⟨s, rfl, fun hfits => ?_⟩
    obtain ⟨calculator', hsome, hok⟩ := hfits name change hmem
    obtain rfl : calculator = calculator' := Option.some.inj (hflag.symm.trans hsome)
    rw [hcause] at hok
    cases hok
  | _ => exact he.elim

/-- What fits depends on the flags only. -/
theorem Fits.of_flags {s : SegmentDefinition} (h : b.Fits s) (hflags : b'.flags = b.flags) :
    b'.Fits s := by
  unfold Fits
  rwa [hflags]

/-- Parts that are no segments are not refused for an override. -/
theorem not_ofOverride_of_addEach {α : Type}
    {addPart : Builder → α → Except ValidationError Builder} (part : α → Part)
    (hadd : ∀ b a, b.add (part a) = addPart b a) (hpart : ∀ a s, part a ≠ .segment s)
    {as : List α} (h : addEach addPart b as = (b', some e)) : ¬e.OfOverride := by
  intro he
  obtain ⟨_, a, _, -, -, hrefused⟩ := exists_refused h
  obtain ⟨s, hs, -⟩ := (refuses_of_add (hadd b' a ▸ hrefused)).of_override he
  exact hpart a s hs

/-- What waiting layers are blamed for is not about an override. -/
theorem not_ofOverride_unresolved (b : Builder) (waiting : List LayerInfo)
    (pending : List SegmentDefinition) : ¬(b.unresolved waiting pending).OfOverride := by
  unfold unresolved
  split
  · next hfound =>
    obtain ⟨layer, -, hlayer⟩ := List.exists_of_findSome?_eq_some hfound
    rcases hopeless?_cases hlayer with rfl | rfl | rfl <;> exact not_false
  · exact not_false

/-- A pass leaves the flags alone. -/
theorem flags_of_pass {b₁ b₂ : Builder} {layers : List LayerInfo}
    {segments : List SegmentDefinition} (hlayers : addEach addLayer b layers = (b₁, none))
    (hsegments : addEach addSegment b₁ segments = (b₂, none)) : b₂.flags = b.flags :=
  calc b₂.flags
    _ = b₁.flags := eq_of_addEach Builder.flags
      (fun _ _ _ h => (Prod.mk.inj (tables_addSegment h)).1) hsegments
    _ = b.flags := eq_of_addEach Builder.flags
      (fun _ _ _ h => (Prod.mk.inj (tables_addLayer h)).1) hlayers

/-- **The loop.**  If all overrides fit, the passes do not fail for one. -/
theorem Passes.not_ofOverride {layers : List LayerInfo} {segments : List SegmentDefinition}
    {result : Builder × Option ValidationError} (h : Passes b layers segments result)
    (hfits : ∀ s ∈ segments, b.Fits s) : result.2 = some e → ¬e.OfOverride := by
  induction h with
  | done => rintro ⟨⟩
  | layerless =>
    rintro ⟨⟩
    exact not_false
  | stuck =>
    rintro ⟨⟩
    exact not_ofOverride_unresolved _ _ _
  | layerRefused _ hadd =>
    rintro ⟨⟩
    exact not_ofOverride_of_addEach .layer (fun _ _ => rfl) (fun _ _ => nofun) hadd
  | @segmentRefused b b₁ b₂ layers segments e' hsome hlayers hadd =>
    rintro ⟨⟩ he
    obtain ⟨before, s, after, hready, hbefore, hrefused⟩ := exists_refused hadd
    obtain ⟨_, ⟨⟩, hnot⟩ := (refuses_of_addSegment hrefused).of_override he
    have hs : s ∈ segments := by
      refine (b₁.perm_readySegments segments).mem_iff.1 (List.mem_append_left _ ?_)
      rw [hready]
      exact List.mem_append_right _ List.mem_cons_self
    exact hnot ((hfits s hs).of_flags (flags_of_pass hlayers hbefore))
  | @again b b₁ b₂ layers segments result hsome hlayers hsegments hrest ih =>
    refine ih fun s hs => ?_
    have hmem := (b₁.perm_readySegments segments).mem_iff.1 (List.mem_append_right _ hs)
    exact (hfits s hmem).of_flags (flags_of_pass hlayers hsegments)

/-- **A whole definition.**  If all overrides suit flags that are there, a new builder does not
refuse the definition for one: it has refused a flag that is there twice before it looks at a
segment. -/
theorem not_ofOverride_of_suits {declared : FlagRegistry} {d : SpaceDefinition} (hd : d.Suits)
    (h : ((start declared).addDefinition d).2 = some e) : ¬e.OfOverride := by
  rcases hresult : (start declared).addDefinition d with ⟨b, result⟩
  rw [hresult] at h
  obtain rfl : result = some e := h
  cases takes_iff.2 hresult.symm with
  | flagRefused hflags =>
    exact not_ofOverride_of_addEach .flag (fun _ _ => rfl) (fun _ _ => nofun) hflags
  | criterionRefused _ hcriteria =>
    exact not_ofOverride_of_addEach .criterion (fun _ _ => rfl) (fun _ _ => nofun) hcriteria
  | passes hflags hcriteria hpasses =>
    obtain ⟨hnames, -, rfl⟩ := addEach_addFlag_iff.1 hflags
    obtain ⟨-, -, rfl⟩ := addEach_addCriterion_iff.1 hcriteria
    refine hpasses.not_ofOverride (fun s hs name change hchange => ?_) rfl
    obtain ⟨flag, hflag, hname, hsuits⟩ := hd s hs name change hchange
    refine ⟨flag.calculator, ?_, FlagOverride.expectType_eq_ok_iff.2 hsuits⟩
    rw [foldl_withCriterion, foldl_withFlag]
    exact (SpaceDefinition.get?_calculators hnames).2 ⟨flag, hflag, hname, rfl⟩

end Builder

/-- **Documents only describe what is well-typed.**  A document that is not read because of a
calculation names an operator that does not exist; that types do not match is never said of it,
however deep its modifiers are.  And a new builder may refuse what a document describes, but not for
an override: neither is a flag missing then, nor does a change not suit the type of its flag, even
if there are several flags of one name and of different types. -/
theorem SpaceDocument.describes_well_typed (registry : ConditionRegistry) (d : SpaceDocument) :
    (∀ e cause, d.meaning registry = .error e → e.calculation? = some cause →
      ∃ name type, cause = .unknownOperator name type) ∧
    ∀ definition, d.meaning registry = .ok definition →
      ∀ (declared : FlagRegistry) (e : ValidationError),
      ((Builder.start declared).addDefinition definition).2 = some e →
      (∀ segment flag, e ≠ .unknownFlag segment flag) ∧
        ∀ segment flag cause, e ≠ .invalidOverride segment flag cause := by
  refine ⟨fun e cause h => SpaceDocument.noMismatch h cause, ?_⟩
  intro definition hmeaning declared e hrefused
  have hnot : ¬e.OfOverride :=
    Builder.not_ofOverride_of_suits (SpaceDocument.suits hmeaning) hrefused
  constructor
  · rintro segment flag rfl
    exact hnot trivial
  · rintro segment flag cause rfl
    exact hnot trivial

/-- A document with two flags of one name, and an experiment with modifiers for the first of
them. -/
def SpaceDocument.ambiguous : SpaceDocument where
  flags := [⟨"f", "int", .int 1, []⟩, ⟨"f", "string", .string "a", []⟩]
  criteria := [⟨0, 10, false⟩]
  layers := [⟨1, none, 0, false, 101, 102, 103⟩]
  segments := [{
    id := 5, name := none, layer := 1, criterion := 0, domain := false, buckets := [0], ranges := []
    conditions := [], merge := .and, start := none, stop := none, overridesStart := none
    overridesStop := none
    overrides := [⟨"f", .append, none,
      [.mk (.string "7") "add" [] .and [.mk (.int 2) "multiply" [] .and []]]⟩] }]

/-- A document with a product of strings, inside a modifier. -/
def SpaceDocument.misnamed : SpaceDocument where
  flags := [⟨"f", "string", .string "a",
    [.mk (.string "b") "add" [] .and [.mk (.string "c") "multiply" [] .and []]]⟩]
  criteria := []
  layers := []
  segments := []

/-- The first document is read, and refused for its flags; the second one is not read. -/
theorem SpaceDocument.describes_well_typed_ambiguous :
    (∃ definition e, ambiguous.meaning .empty = .ok definition ∧
      ((Builder.start .empty).addDefinition definition).2 = some e ∧
      e.message = "flag f is defined more than once" ∧
      ∀ segment flag cause, e ≠ .invalidOverride segment flag cause) ∧
    ∃ e cause, misnamed.meaning .empty = .error e ∧ e.calculation? = some cause ∧
      ∃ name type, cause = .unknownOperator name type := by
  constructor
  · have hread : ((ambiguous.meaning .empty).toOption.bind fun definition =>
        ((Builder.start .empty).addDefinition definition).2.map ValidationError.message) =
        some "flag f is defined more than once" := by decide +kernel
    obtain ⟨definition, hdefinition, hrefused⟩ := Option.bind_eq_some_iff.1 hread
    obtain ⟨e, hrefused, hmessage⟩ := Option.map_eq_some_iff.1 hrefused
    have hmeaning := ok_of_toOption hdefinition
    exact ⟨definition, e, hmeaning, hrefused, hmessage,
      ((describes_well_typed .empty ambiguous).2 definition hmeaning .empty e hrefused).2⟩
  · have hread : (match misnamed.meaning .empty with
        | .ok _ => none
        | .error e => e.calculation?) = some (.unknownOperator "multiply" .string) := by
      decide +kernel
    cases hmeaning : misnamed.meaning .empty with
    | ok definition =>
      rw [hmeaning] at hread
      cases hread
    | error e =>
      rw [hmeaning] at hread
      exact ⟨e, _, rfl, hread, (describes_well_typed .empty misnamed).1 e _ hmeaning hread⟩

end Rollout
