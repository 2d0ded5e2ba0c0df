import Mathlib.Data.List.Forall2
import Rollout.Payload
import Rollout.Proofs.Typing
/-!
# What documents describe, part by part

A document is read in one go, and the first thing that is wrong ends it.  So a document that
describes something is one of which every part does.  This module says so for each kind of part, in
the terms of its own parts: a modifier has the value, the operator, the condition and the children
that are written (`ModifierDocument.meaning_ok`), a definition has what each flag and each segment
describes (`SpaceDocument.meaning_eq_ok_iff`), and a payload lists what its chunks list that are not
blank (`Payload.document_eq_ok_iff`).

What is read for a type is of the type, so that the checks made of the parts have nothing to find.
-/

namespace Rollout

/-! ## 1. Results that do not fail -/

section Except

variable {ε ε' α β : Type}

theorem ok_of_mapError {f : ε → ε'} {x : Except ε α} {a : α} (h : x.mapError f = .ok a) :
    x = .ok a := by
  cases x <;> cases h
  rfl

theorem ok_of_toOption {x : Except ε α} {a : α} (h : x.toOption = some a) : x = .ok a := by
  cases x <;> cases h
  rfl

/-- What is done to many things succeeds exactly if it does for each of them. -/
theorem mapM_eq_ok_iff {f : α → Except ε β} : ∀ {as : List α} {bs : List β},
    as.mapM f = .ok bs ↔ List.Forall₂ (fun a b => f a = .ok b) as bs
  | [], bs => by cases bs <;> simp [pure, Except.pure]
  | a :: as, bs => by
    rw [List.mapM_cons, List.forall₂_cons_left_iff]
    constructor
    · intro h
      obtain ⟨b, hb, h⟩ := bind_ok h
      obtain ⟨rest, hrest, h⟩ := bind_ok h
      cases h
      exact ⟨b, rest, hb, mapM_eq_ok_iff.1 hrest, rfl⟩
    · rintro ⟨b, rest, hb, hrest, rfl⟩
      rw [hb, mapM_eq_ok_iff.2 hrest]
      rfl

end Except

/-- What holds of each pair holds of each thing on the right. -/
theorem forall_of_forall₂ {α β : Type} {R : α → β → Prop} {P : β → Prop} {as : List α} {bs : List β}
    (hall : List.Forall₂ R as bs) (h : ∀ a b, R a b → P b) : ∀ b ∈ bs, P b := by
  induction hall with
  | nil => exact List.forall_mem_nil _
  | cons hfirst _ ih => exact List.forall_mem_cons.2 ⟨h _ _ hfirst, ih⟩

/-- Each thing on the left has its partner. -/
theorem exists_of_forall₂ {α β : Type} {R : α → β → Prop} {as : List α} {bs : List β}
    (hall : List.Forall₂ R as bs) : ∀ a ∈ as, ∃ b ∈ bs, R a b := by
  induction hall with
  | nil => exact List.forall_mem_nil _
  | cons hfirst _ ih =>
    refine List.forall_mem_cons.2 ⟨⟨_, List.mem_cons_self, hfirst⟩, fun a ha => ?_⟩
    obtain ⟨b, hb, hr⟩ := ih a ha
    exact ⟨b, List.mem_cons_of_mem _ hb, hr⟩

/-- What partners have in common makes the same list on both sides. -/
theorem map_eq_of_forall₂ {α β γ : Type} {R : α → β → Prop} {f : α → γ} {g : β → γ} {as : List α}
    {bs : List β} (hall : List.Forall₂ R as bs) (h : ∀ a b, R a b → g b = f a) :
    bs.map g = as.map f := by
  induction hall with
  | nil => rfl
  | cons hfirst _ ih => rw [List.map_cons, List.map_cons, h _ _ hfirst, ih]

/-! ## 2. Modifiers, flags and overrides -/

variable {registry : ConditionRegistry} {owner : Owner} {type : FlagType}

theorem typedValue_ok {written value : Value} (h : typedValue owner type written = .ok value) :
    Value.parse? type written.text = some value := by
  have hparse := ok_of_mapError h
  unfold Value.parse at hparse
  split at hparse
  · next hvalue =>
    cases hparse
    exact hvalue
  · cases hparse

/-- An operator that is found for a type combines values of the type. -/
theorem Operator.accepts_of_resolve {name : String} {op : Operator}
    (h : resolve name type = .ok op) : op.accepts type = true := by
  unfold resolve at h
  split at h <;> cases h
  · rfl
  · exact beq_self_eq_true _
  · exact beq_self_eq_true _

/-- **A modifier is made of what is written.** -/
theorem ModifierDocument.meaning_ok {written : Value} {operator : String}
    {conditions : List ConditionDocument} {merge : Merge} {children : List ModifierDocument}
    {m : Modifier}
    (h : (mk written operator conditions merge children).meaning registry owner type = .ok m) :
    ∃ value op condition modifiers, Value.parse? type written.text = some value ∧
      Operator.resolve operator type = .ok op ∧
      conditionMeaning registry owner merge conditions = .ok condition ∧
      modifierMeanings registry owner type children = .ok modifiers ∧
      m = .mk value op condition modifiers := by
  rw [ModifierDocument.meaning] at h
  obtain ⟨value, hvalue, h⟩ := bind_ok h
  obtain ⟨op, hop, h⟩ := bind_ok h
  obtain ⟨condition, hcondition, h⟩ := bind_ok h
  obtain ⟨modifiers, hmodifiers, h⟩ := bind_ok h
  obtain ⟨-, -, rfl⟩ := Modifier.make_eq_ok_iff.1 (ok_of_mapError h)
  exact ⟨value, op, condition, modifiers, typedValue_ok hvalue, ok_of_mapError hop, hcondition,
    hmodifiers, rfl⟩

/-- What is read for a type is of the type. -/
theorem ModifierDocument.type_of_meaning : ∀ {d : ModifierDocument} {m : Modifier},
    d.meaning registry owner type = .ok m → m.type = type
  | .mk .., m, h => by
    obtain ⟨value, op, condition, modifiers, hvalue, -, -, -, rfl⟩ := ModifierDocument.meaning_ok h
    exact Value.type_of_parse? hvalue

theorem modifierMeanings_cons_ok {d : ModifierDocument} {ds : List ModifierDocument}
    {ms : List Modifier} (h : modifierMeanings registry owner type (d :: ds) = .ok ms) :
    ∃ m rest, d.meaning registry owner type = .ok m ∧
      modifierMeanings registry owner type ds = .ok rest ∧ ms = m :: rest := by
  rw [modifierMeanings] at h
  obtain ⟨m, hm, h⟩ := bind_ok h
  obtain ⟨rest, hrest, h⟩ := bind_ok h
  cases h
  exact ⟨m, rest, hm, hrest, rfl⟩

theorem type_of_modifierMeanings : ∀ {ds : List ModifierDocument} {ms : List Modifier},
    modifierMeanings registry owner type ds = .ok ms → ∀ m ∈ ms, m.type = type
  | [], ms, h => by
    rw [modifierMeanings] at h
    cases h
    exact List.forall_mem_nil _
  | d :: ds, ms, h => by
    obtain ⟨m, rest, hm, hrest, rfl⟩ := modifierMeanings_cons_ok h
    exact List.forall_mem_cons.2
      ⟨ModifierDocument.type_of_meaning hm, type_of_modifierMeanings hrest⟩

/-- **A flag is computed from what is written.** -/
theorem FlagDocument.meaning_ok {d : FlagDocument} {flag : FlagDefinition}
    (h : d.meaning registry = .ok flag) : ∃ type base modifiers, FlagType.parse d.type = .ok type ∧
      Value.parse? type d.base.text = some base ∧
      modifierMeanings registry (.flag d.name) type d.modifiers = .ok modifiers ∧
      flag = ⟨d.name, ⟨base, modifiers⟩⟩ := by
  unfold FlagDocument.meaning at h
  obtain ⟨type, htype, h⟩ := bind_ok h
  obtain ⟨base, hbase, h⟩ := bind_ok h
  obtain ⟨modifiers, hmodifiers, h⟩ := bind_ok h
  obtain ⟨calculator, hcalculator, h⟩ := bind_ok h
  obtain ⟨-, rfl⟩ := Calculator.make_eq_ok_iff.1 (ok_of_mapError hcalculator)
  cases h
  exact ⟨type, base, modifiers, ok_of_mapError htype, typedValue_ok hbase, hmodifiers, rfl⟩

theorem FlagDocument.name_of_meaning {d : FlagDocument} {flag : FlagDefinition}
    (h : d.meaning registry = .ok flag) : flag.name = d.name := by
  obtain ⟨type, base, modifiers, -, -, -, rfl⟩ := FlagDocument.meaning_ok h
  rfl

/-- **An override changes a flag by what is written.** -/
theorem OverrideDocument.meaning_ok {segment : SegmentId} {d : OverrideDocument}
    {change : FlagOverride} (h : d.meaning registry segment type = .ok change) : ∃ modifiers,
      modifierMeanings registry (.override segment d.flag) type d.modifiers = .ok modifiers ∧
      (change = .append modifiers ∨ change = .prepend modifiers ∨ ∃ base : Value,
        base.type = type ∧ change = .replace ⟨base, modifiers⟩) := by
  unfold OverrideDocument.meaning at h
  obtain ⟨modifiers, hmodifiers, h⟩ := bind_ok h
  refine ⟨modifiers, hmodifiers, ?_⟩
  split at h
  · cases h
    exact .inl rfl
  · cases h
    exact .inr (.inl rfl)
  · split at h
    · cases h
    · obtain ⟨base, hbase, h⟩ := bind_ok h
      obtain ⟨calculator, hcalculator, h⟩ := bind_ok h
      obtain ⟨-, rfl⟩ := Calculator.make_eq_ok_iff.1 (ok_of_mapError hcalculator)
      cases h
      exact .inr (.inr ⟨base, Value.type_of_parse? (typedValue_ok hbase), rfl⟩)

/-- What holds of each override that is described holds of all of a segment. -/
theorem forall_of_overrideMeanings {types : List (String × FlagType)} {segment : SegmentId}
    {P : String → FlagOverride → Prop} (hP : ∀ (d : OverrideDocument) type change,
      types.lookup d.flag = some type → d.meaning registry segment type = .ok change →
      P d.flag change) :
    ∀ {ds : List OverrideDocument} {done overrides : Table String FlagOverride},
    (∀ name change, done.get? name = some change → P name change) →
    overrideMeanings registry types segment done ds = .ok overrides →
    ∀ name change, overrides.get? name = some change → P name change
  | [], done, overrides, hdone, h => by
    rw [overrideMeanings] at h
    cases h
    exact hdone
  | d :: ds, done, overrides, hdone, h => by
    rw [overrideMeanings] at h
    split at h
    · cases h
    next type htype =>
    obtain ⟨change, hchange, h⟩ := bind_ok h
    dsimp only at h
    split at h
    · cases h
    refine forall_of_overrideMeanings hP (fun name change' hget => ?_) h
    rw [Table.get?_insert] at hget
    split at hget
    · next hname =>
      cases hget
      exact hname ▸ hP d type change htype hchange
    · exact hdone name change' hget

/-! ## 3. Segments and spaces -/

/-- What holds of each override of a segment that is described. -/
theorem SegmentDocument.forall_overrides {types : List (String × FlagType)}
    {counts : Table CriterionId Bucket} {P : String → FlagOverride → Prop}
    (hP : ∀ (segment : SegmentId) (d : OverrideDocument) type change,
      types.lookup d.flag = some type → d.meaning registry segment type = .ok change →
      P d.flag change) {d : SegmentDocument} {s : SegmentDefinition}
    (h : d.meaning registry types counts = .ok s) :
    ∀ name change, s.overrides.get? name = some change → P name change := by
  unfold SegmentDocument.meaning at h
  obtain ⟨-, -, h⟩ := bind_ok h
  obtain ⟨condition, -, h⟩ := bind_ok h
  dsimp only at h
  split at h
  · cases h
    exact fun name change hget => by cases hget
  · obtain ⟨overrides, hoverrides, h⟩ := bind_ok h
    cases h
    exact forall_of_overrideMeanings (hP d.id) (fun name change hget => by cases hget) hoverrides

/-- The types that flags give to overrides. -/
def flagTypes (flags : List FlagDefinition) : List (String × FlagType) :=
  flags.map fun flag => (flag.name, flag.calculator.type)

/-- The number of buckets that each criterion gives to ranges. -/
def SpaceDocument.counts (d : SpaceDocument) : Table CriterionId Bucket :=
  .ofList (d.criteria.map fun criterion => (criterion.id, criterion.buckets))

/-- **A document describes what its parts describe**, each for itself. -/
theorem SpaceDocument.meaning_eq_ok_iff {d : SpaceDocument} {definition : SpaceDefinition} :
    d.meaning registry = .ok definition ↔ d.flags ≠ [] ∧ ∃ flags segments,
      List.Forall₂ (fun f flag => f.meaning registry = .ok flag) d.flags flags ∧
      List.Forall₂ (fun s segment => s.meaning registry (flagTypes flags) d.counts = .ok segment)
        d.segments segments ∧
      ⟨flags, d.criteria.map fun criterion => ⟨criterion.id, criterion.buckets, criterion.random⟩,
        d.layers.map LayerDocument.meaning, segments⟩ = definition := by
  simp only [← mapM_eq_ok_iff]
  unfold SpaceDocument.meaning
  constructor
  · intro h
    split at h
    · cases h
    next hflags =>
    obtain ⟨flags, hmeanings, h⟩ := bind_ok h
    obtain ⟨segments, hsegments, h⟩ := bind_ok h
    exact ⟨fun hnil => hflags (by rw [hnil]; rfl), flags, segments, hmeanings, hsegments,
      Except.ok.inj h⟩
  · rintro ⟨hflags, flags, segments, hmeanings, hsegments, rfl⟩
    have hsome : ¬d.flags.isEmpty = true := fun hnil => hflags (List.isEmpty_iff.1 hnil)
    rw [if_neg hsome, hmeanings]
    change (d.segments.mapM (·.meaning registry (flagTypes flags) d.counts) >>= fun segments =>
      Except.ok _) = _
    rw [hsegments]
    rfl

/-- The space of a definition is built once the definition was added to a new builder. -/
theorem SpaceDefinition.build_eq_ok_iff {declared : FlagRegistry} {definition : SpaceDefinition}
    {version : String} {space : Space} : definition.build declared version = .ok space ↔
      ∃ b, (Builder.start declared).addDefinition definition = (b, none) ∧
        b.build version = .ok space := by
  unfold SpaceDefinition.build
  rcases (Builder.start declared).addDefinition definition with ⟨b, _ | e⟩ <;> simp

/-! ## 4. Payloads -/

namespace Payload

theorem readFrom_eq_ok_iff {format : Format} : ∀ {chunks : List String} {done d : SpaceDocument}
    {index : Nat}, readFrom format done index chunks = .ok d ↔ ∃ documents,
      (chunks.filter fun chunk => !isBlank chunk).mapM (readChunk? format) = some documents ∧
      documents.foldl SpaceDocument.merge done = d
  | [], done, d, index => by simp [readFrom]
  | chunk :: rest, done, d, index => by
    rw [readFrom]
    by_cases hblank : isBlank chunk = true
    · rw [if_pos hblank, List.filter_cons_of_neg (by simp [hblank])]
      exact readFrom_eq_ok_iff
    · rw [if_neg hblank, List.filter_cons_of_pos (by simp [hblank]), List.mapM_cons]
      cases readChunk? format chunk with
      | none => simp
      | some document =>
        dsimp only
        rw [readFrom_eq_ok_iff]
        constructor
        · rintro ⟨documents, hread, rfl⟩
          exact ⟨document :: documents, by simp [hread], rfl⟩
        · rintro ⟨documents, hread, rfl⟩
          obtain ⟨first, hfirst, hread⟩ := Option.bind_eq_some_iff.1 hread
          obtain ⟨documents, hrest, hread⟩ := Option.bind_eq_some_iff.1 hread
          cases hfirst
          cases hread
          exact ⟨documents, hrest, rfl⟩

/-- **A payload is a document** if each chunk is that is not blank, and then it lists what these
list. -/
theorem document_eq_ok_iff {format : Format} {chunks : List String} {d : SpaceDocument} :
    document format chunks = .ok d ↔ ∃ documents,
      (chunks.filter fun chunk => !isBlank chunk).mapM (readChunk? format) = some documents ∧
      documents.foldl SpaceDocument.merge .empty = d :=
  readFrom_eq_ok_iff

theorem flags_foldl_merge : ∀ (documents : List SpaceDocument) (done : SpaceDocument),
    (documents.foldl SpaceDocument.merge done).flags = done.flags ++ documents.flatMap (·.flags)
  | [], done => by simp
  | document :: rest, done => by
    rw [List.foldl_cons, flags_foldl_merge rest, List.flatMap_cons, ← List.append_assoc]
    rfl

theorem space_eq_ok_iff {schema : Schema} {payload : Payload} {space : Space} :
    payload.space schema = .ok space ↔ ∃ d definition,
      document schema.format payload.chunks = .ok d ∧ d.meaning schema.conditions = .ok definition ∧
      definition.build schema.declared payload.version = .ok space := by
  constructor
  · intro h
    obtain ⟨d, hd, h⟩ := bind_ok h
    obtain ⟨definition, hdefinition, h⟩ := bind_ok h
    exact ⟨d, definition, hd, hdefinition, ok_of_mapError h⟩
  · rintro ⟨d, definition, hd, hdefinition, hbuild⟩
    rw [Payload.space, hd]
    change (d.meaning schema.conditions >>= _) = _
    rw [hdefinition]
    change ((definition.build schema.declared payload.version).mapError _) = _
    rw [hbuild]
    rfl

end Payload

end Rollout
