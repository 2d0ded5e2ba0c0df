import Rollout.Proofs.Description
import Rollout.Proofs.TypeSoundness
/-!
# What documents describe is made

A document names its operators, and its modifiers and calculators are made part by part as it is
read.  So the spaces that come from payloads need nothing else for their flags to have values of
their types (`Payload.built`), and for no evaluation of them to reach the last case of an operator
(`Payload.evaluateIf_combines`).
-/

namespace Rollout

variable {registry : ConditionRegistry} {owner : Owner} {type : FlagType}

mutual

theorem ModifierDocument.made : ∀ {d : ModifierDocument} {m : Modifier},
    d.meaning registry owner type = .ok m → m.Made Operator.Named
  | .mk written operator conditions merge children, m, h => by
    rw [ModifierDocument.meaning] at h
    obtain ⟨value, -, h⟩ := bind_ok h
    obtain ⟨op, hop, h⟩ := bind_ok h
    obtain ⟨condition, -, h⟩ := bind_ok h
    obtain ⟨modifiers, hmodifiers, h⟩ := bind_ok h
    exact .make ⟨_, _, ok_of_mapError hop⟩ (made_modifierMeanings hmodifiers) (ok_of_mapError h)

theorem made_modifierMeanings : ∀ {ds : List ModifierDocument} {ms : List Modifier},
    modifierMeanings registry owner type ds = .ok ms → ∀ m ∈ ms, m.Made Operator.Named
  | [], ms, h => by
    rw [modifierMeanings] at h
    cases h
    exact List.forall_mem_nil _
  | d :: ds, ms, h => by
    obtain ⟨m, rest, hm, hrest, rfl⟩ := modifierMeanings_cons_ok h
    exact List.forall_mem_cons.2 ⟨ModifierDocument.made hm, made_modifierMeanings hrest⟩

end

theorem FlagDocument.made {d : FlagDocument} {flag : FlagDefinition}
    (h : d.meaning registry = .ok flag) : flag.calculator.Made Operator.Named := by
  unfold FlagDocument.meaning at h
  obtain ⟨type, -, h⟩ := bind_ok h
  obtain ⟨base, -, h⟩ := bind_ok h
  obtain ⟨modifiers, hmodifiers, h⟩ := bind_ok h
  obtain ⟨calculator, hcalculator, h⟩ := bind_ok h
  cases h
  exact .make (made_modifierMeanings hmodifiers) (ok_of_mapError hcalculator)

theorem OverrideDocument.made {segment : SegmentId} {d : OverrideDocument} {change : FlagOverride}
    (h : d.meaning registry segment type = .ok change) : change.Made Operator.Named := by
  unfold OverrideDocument.meaning at h
  obtain ⟨modifiers, hmodifiers, h⟩ := bind_ok h
  have hmade := made_modifierMeanings hmodifiers
  split at h
  · cases h
    exact hmade
  · cases h
    exact hmade
  · split at h
    · cases h
    · obtain ⟨base, -, h⟩ := bind_ok h
      obtain ⟨calculator, hcalculator, h⟩ := bind_ok h
      cases h
      exact .make hmade (ok_of_mapError hcalculator)

theorem SegmentDocument.made {types : List (String × FlagType)} {counts : Table CriterionId Bucket}
    {d : SegmentDocument} {s : SegmentDefinition} (h : d.meaning registry types counts = .ok s) :
    (Builder.Part.segment s).Made Operator.Named :=
  SegmentDocument.forall_overrides (fun _ _ _ _ _ hchange => OverrideDocument.made hchange) h

/-- **A document describes what was made** with operators that come from names. -/
theorem SpaceDocument.made {d : SpaceDocument} {definition : SpaceDefinition}
    (h : d.meaning registry = .ok definition) :
    (Builder.Call.definition definition).Made Operator.Named := by
  obtain ⟨-, flags, segments, hflags, hsegments, rfl⟩ := SpaceDocument.meaning_eq_ok_iff.1 h
  intro part hpart
  simp only [Builder.Call.parts, Builder.partsOf, List.mem_append, List.mem_map] at hpart
  rcases hpart with ⟨flag, hf, rfl⟩ | ⟨c, -, rfl⟩ | ⟨l, -, rfl⟩ | ⟨s, hs, rfl⟩
  · exact forall_of_forall₂ hflags (fun _ _ => FlagDocument.made) flag hf
  · trivial
  · trivial
  · exact forall_of_forall₂ hsegments (fun _ _ => SegmentDocument.made) s hs

/-- The space of a payload is that of a definition that was made. -/
theorem Payload.exists_definition {schema : Schema} {payload : Payload} {space : Space}
    (h : payload.space schema = .ok space) : ∃ definition : SpaceDefinition,
      (Builder.Call.definition definition).Made Operator.Named ∧
      ((Builder.start schema.declared).run [.definition definition]).build payload.version =
        .ok space := by
  obtain ⟨d, definition, -, hdefinition, hbuild⟩ := Payload.space_eq_ok_iff.1 h
  obtain ⟨b, hadd, hbuild⟩ := SpaceDefinition.build_eq_ok_iff.1 hbuild
  have hb : (Builder.start schema.declared).run [.definition definition] = b :=
    congrArg Prod.fst hadd
  exact ⟨definition, SpaceDocument.made hdefinition, hb ▸ hbuild⟩

/-- The space of a payload was built with operators that come from names. -/
theorem Payload.built {schema : Schema} {payload : Payload} {space : Space}
    (h : payload.space schema = .ok space) : space.Built Operator.Named schema.declared := by
  obtain ⟨definition, hmade, hbuild⟩ := exists_definition h
  exact ⟨_, _, List.forall_mem_singleton.2 hmade, hbuild⟩

/-- **Payloads need no more.**  Where a request has only met spaces of payloads, and these agree on
the type of a flag, no evaluation of the flag reaches the last case of an operator. -/
theorem Payload.evaluateIf_combines {served : Space → Prop}
    (hserved : ∀ space, served space → ∃ (schema : Schema) (payload : Payload),
      payload.space schema = .ok space)
    {name : String} (htypes : ∀ space, served space → space.Types name type)
    {r : Request} (hr : r.Follows served) {c : Calculator} (hc : r.calculator? name = some c)
    (answers : Answers) :
    c.evaluateIf Operator.combines answers = some (c.evaluate answers) := by
  have hbuilt : ∀ space, served space → ∃ declared, space.Built Operator.Named declared :=
    fun space hspace => by
      obtain ⟨schema, payload, h⟩ := hserved space hspace
      exact ⟨schema.declared, built h⟩
  exact (hr.computes hbuilt htypes hc).evaluateIf_combines
    (fun hnamed => hnamed.ne_multiply_string rfl) answers

end Rollout
