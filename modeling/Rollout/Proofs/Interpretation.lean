import Rollout.Proofs.DocumentTyping
/-!
# What a document says of a flag

A flag of a document can be given its value by the document as it stands: start with the base value,
and take the modifiers in the order in which they are written, each with what its conditions say,
and its children on its own value.  `FlagDocument.interpret?` does so, and knows of neither
calculators nor conditions that are put together.

What the document is turned into has the same value, and the same cache level.  The two go the same
way through the modifiers (`ModifierDocument.interpret?_eq`), because each combination of conditions
says what its members say together, the empty and the single one included (`Merge.verdict_combine`).
-/

namespace Rollout

/-! ## 1. The interpretation -/

/-- What conditions say: whether they are met, and how long that stays good. -/
structure Verdict where
  holds : Bool
  level : CacheLevel

/-- What one condition says: what its function answers for its arguments, or the contrary. -/
def ConditionDocument.verdict? (registry : ConditionRegistry) (answers : Answers)
    (d : ConditionDocument) : Option Verdict := do
  let function ← registry.functions.get? d.name
  let leaf ← (function (d.arguments.map Value.text)).toOption
  return ⟨if d.negate then !answers leaf else answers leaf, leaf.level⟩

/-- What several conditions say together.  None at all say yes, however they are to be merged. -/
def Merge.verdict (merge : Merge) (verdicts : List Verdict) : Verdict where
  holds := match merge with
    | .and => verdicts.all (·.holds)
    | .or => verdicts.isEmpty || verdicts.any (·.holds)
  level := .meetAll (verdicts.map (·.level))

/-- What the conditions of one place say. -/
def Merge.verdict? (registry : ConditionRegistry) (answers : Answers) (merge : Merge)
    (ds : List ConditionDocument) : Option Verdict :=
  (ds.mapM (ConditionDocument.verdict? registry answers)).map merge.verdict

mutual

/-- What a modifier of values of a type makes of an evaluation. -/
def ModifierDocument.interpret? (registry : ConditionRegistry) (answers : Answers)
    (type : FlagType) : ModifierDocument → Evaluation → Option Evaluation
  | .mk written operator conditions merge children, acc => do
    let verdict ← merge.verdict? registry answers conditions
    if verdict.holds then
      let value ← Value.parse? type written.text
      let own ← ModifierDocument.interpretAll? registry answers type children ⟨value, verdict.level⟩
      let operator ← (Operator.resolve operator type).toOption
      let made ← operator.combine? acc.value own.value
      return ⟨made, acc.level.meet own.level⟩
    else return ⟨acc.value, acc.level.meet verdict.level⟩

/-- What modifiers make of an evaluation, in order. -/
def ModifierDocument.interpretAll? (registry : ConditionRegistry) (answers : Answers)
    (type : FlagType) : List ModifierDocument → Evaluation → Option Evaluation
  | [], acc => some acc
  | d :: ds, acc => do
    let next ← d.interpret? registry answers type acc
    ModifierDocument.interpretAll? registry answers type ds next

end

/-- The value of a flag, and how long it stays good. -/
def FlagDocument.interpret? (registry : ConditionRegistry) (answers : Answers) (d : FlagDocument) :
    Option Evaluation := do
  let type ← (FlagType.parse d.type).toOption
  let base ← Value.parse? type d.base.text
  ModifierDocument.interpretAll? registry answers type d.modifiers ⟨base, .reload⟩

/-! ## 2. Conditions -/

variable {registry : ConditionRegistry} {owner : Owner} {type : FlagType} {answers : Answers}

/-- What a condition says. -/
def Condition.verdict (answers : Answers) (c : Condition) : Verdict := ⟨c.holds answers, c.level⟩

theorem ConditionRegistry.create_ok {name : String} {arguments : List String} {c : Condition}
    (h : registry.create name arguments = .ok c) : ∃ function leaf,
      registry.functions.get? name = some function ∧ function arguments = .ok leaf ∧
      c = .leaf leaf := by
  unfold create at h
  split at h
  · cases h
  · next function hfunction =>
    cases hleaf : function arguments with
    | error e =>
      rw [hleaf] at h
      cases h
    | ok leaf =>
      rw [hleaf] at h
      cases h
      exact ⟨function, leaf, hfunction, hleaf, rfl⟩

theorem ConditionDocument.verdict?_eq {d : ConditionDocument} {c : Condition}
    (h : d.meaning registry owner = .ok c) :
    d.verdict? registry answers = some (c.verdict answers) := by
  obtain ⟨condition, hcondition, h⟩ := bind_ok h
  obtain ⟨function, leaf, hfunction, hleaf, rfl⟩ :=
    ConditionRegistry.create_ok (ok_of_mapError hcondition)
  cases h
  rw [verdict?, hfunction, Option.bind_eq_bind, Option.bind_some, hleaf]
  cases hnegate : d.negate <;> rfl

theorem verdicts_of_meanings {ds : List ConditionDocument} {cs : List Condition}
    (h : List.Forall₂ (fun d c => ConditionDocument.meaning registry owner d = .ok c) ds cs) :
    ds.mapM (ConditionDocument.verdict? registry answers) = some (cs.map (·.verdict answers)) := by
  induction h with
  | nil => rfl
  | cons hfirst _ ih =>
    rw [List.mapM_cons, ConditionDocument.verdict?_eq hfirst, ih]
    rfl

namespace Condition

theorem allHold_eq_all (answers : Answers) : ∀ cs : List Condition,
    allHold answers cs = cs.all (·.holds answers)
  | [] => rfl
  | c :: cs => by rw [allHold, List.all_cons, allHold_eq_all answers cs]

theorem anyHolds_eq_any (answers : Answers) : ∀ cs : List Condition,
    anyHolds answers cs = cs.any (·.holds answers)
  | [] => rfl
  | c :: cs => by rw [anyHolds, List.any_cons, anyHolds_eq_any answers cs]

/-- The level of the members can be found from the first one on. -/
theorem foldl_meet_level : ∀ (cs : List Condition) (level : CacheLevel),
    (cs.map (·.level)).foldl CacheLevel.meet level = level.meet (commonLevel cs)
  | [], level => by rw [List.map_nil, List.foldl_nil, commonLevel, CacheLevel.meet_reload]
  | c :: cs, level => by
    rw [List.map_cons, List.foldl_cons, foldl_meet_level cs, commonLevel, CacheLevel.meet_assoc]

theorem commonLevel_eq_meetAll (cs : List Condition) :
    commonLevel cs = .meetAll (cs.map (·.level)) := by
  rw [CacheLevel.meetAll, foldl_meet_level, CacheLevel.reload_meet]

end Condition

/-- **Conditions put together** say what they say together: no condition says yes, and a single one
is left as it is. -/
theorem Merge.verdict_combine (hconstant : answers (.constant true) = true) (merge : Merge) :
    ∀ cs : List Condition,
    merge.verdict (cs.map (·.verdict answers)) = (Condition.combine merge.join cs).verdict answers
  | [] => by
    have halways : Condition.verdict answers .always = ⟨true, .reload⟩ := by
      rw [Condition.verdict, Condition.always, Condition.holds, hconstant]
      rfl
    rw [Condition.combine, halways]
    cases merge <;> rfl
  | [c] => by
    have hlevel : CacheLevel.meetAll [c.level] = c.level := CacheLevel.reload_meet _
    cases merge <;>
      simp only [verdict, Condition.combine, Condition.verdict, List.map_cons, List.map_nil,
        List.all_cons, List.all_nil, List.any_cons, List.any_nil, List.isEmpty_cons, Bool.and_true,
        Bool.or_false, Bool.false_or, hlevel]
  | first :: second :: rest => by
    have hlevel := Condition.commonLevel_eq_meetAll (first :: second :: rest)
    have hlevels : ((first :: second :: rest).map (·.verdict answers)).map (·.level) =
        (first :: second :: rest).map (·.level) := by
      rw [List.map_map]
      rfl
    change _ = (merge.join (first :: second :: rest)).verdict answers
    cases merge with
    | and =>
      rw [verdict, hlevels, ← hlevel]
      simp only [join, Condition.verdict, Condition.holds, Condition.level,
        Condition.allHold_eq_all, List.all_map, Function.comp_def]
    | or =>
      rw [verdict, hlevels, ← hlevel]
      simp only [join, Condition.verdict, Condition.holds, Condition.level, List.map_cons,
        Condition.anyHolds_eq_any, List.isEmpty_cons, Bool.false_or, List.any_cons, List.any_map,
        Function.comp_def]

/-- The condition of one place says what is written there. -/
theorem Merge.verdict?_eq (hconstant : answers (.constant true) = true) {merge : Merge}
    {ds : List ConditionDocument} {c : Condition}
    (h : conditionMeaning registry owner merge ds = .ok c) :
    merge.verdict? registry answers ds = some (c.verdict answers) := by
  obtain ⟨cs, hcs, h⟩ := bind_ok h
  cases h
  rw [verdict?, verdicts_of_meanings (mapM_eq_ok_iff.1 hcs), Option.map_some,
    merge.verdict_combine hconstant]

/-! ## 3. Modifiers and flags -/

/-- Values that belong together make what the operator makes of them. -/
theorem Operator.combine?_eq (op : Operator) (current next : Value) :
    op.combine? current next =
      if op.combines current next then some (op.apply current next) else none := by
  rw [apply_eq, combines]
  cases op.combine? current next <;> rfl

mutual

/-- **The two go the same way.**  What a modifier makes of an evaluation is what is written. -/
theorem ModifierDocument.interpret?_eq (hconstant : answers (.constant true) = true) :
    ∀ {d : ModifierDocument} {m : Modifier}, d.meaning registry owner type = .ok m →
    ∀ acc, d.interpret? registry answers type acc = m.applyIf Operator.combines answers acc
  | .mk written operator conditions merge children, m, h, acc => by
    obtain ⟨value, op, condition, modifiers, hvalue, hop, hcondition, hmodifiers, rfl⟩ :=
      ModifierDocument.meaning_ok h
    have hown := ModifierDocument.interpretAll?_eq hconstant hmodifiers ⟨value, condition.level⟩
    rw [ModifierDocument.interpret?, Merge.verdict?_eq hconstant hcondition, Modifier.applyIf]
    simp only [Option.bind_eq_bind, Option.bind_some, Condition.verdict]
    split
    · rw [hvalue, Option.bind_some, hown]
      refine Option.bind_congr fun own _ => ?_
      rw [hop, Except.toOption, Option.bind_some, Operator.combine?_eq]
      split <;> rfl
    · rfl

theorem ModifierDocument.interpretAll?_eq (hconstant : answers (.constant true) = true) :
    ∀ {ds : List ModifierDocument} {ms : List Modifier},
    modifierMeanings registry owner type ds = .ok ms →
    ∀ acc, ModifierDocument.interpretAll? registry answers type ds acc =
      Modifier.applyAllIf Operator.combines answers ms acc
  | [], ms, h, acc => by
    rw [modifierMeanings] at h
    cases h
    rw [ModifierDocument.interpretAll?, Modifier.applyAllIf]
  | d :: ds, ms, h, acc => by
    obtain ⟨m, rest, hm, hrest, rfl⟩ := modifierMeanings_cons_ok h
    rw [ModifierDocument.interpretAll?, Modifier.applyAllIf,
      ModifierDocument.interpret?_eq hconstant hm]
    exact Option.bind_congr fun next _ => ModifierDocument.interpretAll?_eq hconstant hrest next

end

/-- **A flag has the value that is written**, and the interpretation does not give up on it. -/
theorem FlagDocument.interpret?_eq (hconstant : answers (.constant true) = true) {d : FlagDocument}
    {flag : FlagDefinition} (h : d.meaning registry = .ok flag) :
    d.interpret? registry answers = some (flag.calculator.evaluate answers) := by
  have heval := (FlagDocument.made h).computes.evaluateIf_combines
    (fun hnamed => hnamed.ne_multiply_string rfl) answers
  obtain ⟨type, base, modifiers, htype, hbase, hmodifiers, rfl⟩ := FlagDocument.meaning_ok h
  rw [interpret?, htype, Except.toOption, Option.bind_eq_bind, Option.bind_some, hbase,
    Option.bind_eq_bind, Option.bind_some, ModifierDocument.interpretAll?_eq hconstant hmodifiers]
  exact heval

/-! ## 4. Payloads -/

/-- The calculators of a space are those of its definition, one for each name. -/
theorem SpaceDefinition.calculators_of_build {declared : FlagRegistry} {d : SpaceDefinition}
    {version : String} {space : Space} (h : d.build declared version = .ok space) :
    (d.flags.map (·.name)).Nodup ∧ ∀ name c, space.settings.calculator? name = some c ↔
      ∃ flag ∈ d.flags, flag.name = name ∧ flag.calculator = c := by
  obtain ⟨b, hadd, hspace⟩ := SpaceDefinition.build_eq_ok_iff.1 h
  have hnodup := (Builder.addDefinition_start_iff.1 hadd).1.1
  refine ⟨hnodup, fun name c => ?_⟩
  have hsettings : space.settings.calculator? name = b.flags.get? name := by
    rw [(Builder.build_ok hspace).2]
    rfl
  rw [hsettings, (Builder.holds_of_accepted hadd).flags]
  exact SpaceDefinition.get?_calculators hnodup

/-- **Payloads mean what they say.**  The chunks of a payload that are not blank are documents, and
the flags that these list, one document after the other, are the flags of its space, each listed
once.  For every context the value of each of them, before any experiment changes it, and its cache
level are those that its own entry gives. -/
theorem Payload.evaluates_as_written {schema : Schema} {payload : Payload} {space : Space}
    (h : payload.space schema = .ok space) : ∃ documents,
      (payload.chunks.filter fun chunk => !isBlank chunk).mapM (readChunk? schema.format) =
        some documents ∧
      ((documents.flatMap SpaceDocument.flags).map (·.name)).Nodup ∧
      (∀ name, (space.settings.calculator? name).isSome = true ↔
        ∃ d ∈ documents.flatMap SpaceDocument.flags, d.name = name) ∧
      ∀ d ∈ documents.flatMap SpaceDocument.flags, ∃ c,
        space.settings.calculator? d.name = some c ∧ ∀ (context : Context) (host : Host),
          d.interpret? schema.conditions (Leaf.answer context host) =
            some (c.evaluate (Leaf.answer context host)) := by
  obtain ⟨document, definition, hdocument, hmeaning, hbuild⟩ := space_eq_ok_iff.1 h
  obtain ⟨documents, hread, rfl⟩ := document_eq_ok_iff.1 hdocument
  obtain ⟨-, flags, segments, hflags, -, rfl⟩ := SpaceDocument.meaning_eq_ok_iff.1 hmeaning
  obtain ⟨hnodup, hcalculator⟩ := SpaceDefinition.calculators_of_build hbuild
  rw [flags_foldl_merge] at hflags
  change List.Forall₂ _ (documents.flatMap SpaceDocument.flags) flags at hflags
  have hnames : flags.map (·.name) = (documents.flatMap SpaceDocument.flags).map (·.name) :=
    map_eq_of_forall₂ hflags fun _ _ => FlagDocument.name_of_meaning
  refine ⟨documents, hread, hnames ▸ hnodup, fun name => ?_, fun d hd => ?_⟩
  · have hmem : (∃ d ∈ documents.flatMap SpaceDocument.flags, d.name = name) ↔
        name ∈ flags.map (·.name) := by
      rw [hnames, List.mem_map]
    rw [hmem, Option.isSome_iff_exists, List.mem_map]
    constructor
    · rintro ⟨c, hc⟩
      obtain ⟨flag, hflag, hname, -⟩ := (hcalculator name c).1 hc
      exact ⟨flag, hflag, hname⟩
    · rintro ⟨flag, hflag, hname⟩
      exact ⟨flag.calculator, (hcalculator name _).2 ⟨flag, hflag, hname, rfl⟩⟩
  · obtain ⟨flag, hflag, hflagMeaning⟩ := exists_of_forall₂ hflags d hd
    have hname := FlagDocument.name_of_meaning hflagMeaning
    exact ⟨flag.calculator, (hcalculator d.name _).2 ⟨flag, hflag, hname, rfl⟩,
      fun context host => FlagDocument.interpret?_eq rfl hflagMeaning⟩

/-- One condition that can be named. -/
def Schema.tiered : Schema :=
  ⟨.json, .empty, ⟨.ofList [("beta", (Leaf.supplied "beta" .request []).withArguments)]⟩⟩

/-- A payload in two chunks with a blank one between them.  Fields are told by their places here.
Of the two flags one has a modifier, under a condition that is negated, and the modifier has a
child, with no conditions that are to be merged by `or`. -/
def Payload.layered : Payload where
  version := "v1"
  chunks := [
    "\x7b\"flags\":[[\"f\",\"int\",\"1\",[[2,\"add\",[[\"beta\",[],true]],\"and\"," ++
      "[[3,\"multiply\",[],\"or\",[]]]]]]]\x7d",
    " \n",
    "\x7b\"flags\":[[\"g\",\"string\",1,[]]]\x7d"]

/-- One modifier and its child apply: the value is `1 + 2 * 3`, for as long as the answer to `beta`
stays no. -/
theorem Payload.evaluates_as_written_layered :
    let answers : Answers := Leaf.answer (.at 0) fun _ _ => false
    ∃ (space : Space) (documents : List SpaceDocument), Payload.layered.space .tiered = .ok space ∧
      documents.flatMap SpaceDocument.flags ≠ [] ∧
      (∀ d ∈ documents.flatMap SpaceDocument.flags, ∃ c,
        space.settings.calculator? d.name = some c ∧
          d.interpret? Schema.tiered.conditions answers = some (c.evaluate answers)) ∧
      (space.settings.calculator? "f").map (fun c =>
        ((c.evaluate answers).value.text, (c.evaluate answers).level)) = some ("7", .request) ∧
      (space.settings.calculator? "g").map (fun c => (c.evaluate answers).value.text) =
        some "1" := by
  intro answers
  have hvalues : ((layered.space .tiered).toOption.map fun space =>
      ((space.settings.calculator? "f").map (fun c =>
        ((c.evaluate answers).value.text, (c.evaluate answers).level)),
      (space.settings.calculator? "g").map fun c => (c.evaluate answers).value.text)) =
        some (some ("7", .request), some "1") := by
    decide +kernel
  obtain ⟨space, hspace, hvalues⟩ := Option.map_eq_some_iff.1 hvalues
  have hspace := ok_of_toOption hspace
  obtain ⟨hf, hg⟩ := Prod.mk.inj hvalues
  obtain ⟨documents, -, -, hdefined, hsame⟩ := evaluates_as_written hspace
  refine ⟨space, documents, hspace, ?_, fun d hd => ?_, hf, hg⟩
  · obtain ⟨c, hc, -⟩ := Option.map_eq_some_iff.1 hg
    obtain ⟨d, hd, -⟩ := (hdefined "g").1 (by rw [hc]; rfl)
    exact List.ne_nil_of_mem hd
  · obtain ⟨c, hc, heval⟩ := hsame d hd
    exact ⟨c, hc, heval _ _⟩

end Rollout
