import Rollout.Flag
import Rollout.Proofs.Sameness
/-!
# Declarations

The code that reads flags declares them, in any order and as often as it likes, and gets a handle
for each declaration that is granted.  This module follows a registry through all the calls that are
made to it.

* A name keeps the default that it was first declared with (`default?_serve`), and a call that is
  refused leaves the registry as it was (`grant_eq`).
* A declaration that was granted is granted again, and its handle has the default that the registry
  has, except for some floats.  What is no number can be declared, but only once; and a handle may
  have the one zero where the registry has the other.

Both exceptions come from what it means for two defaults to be the same (`Value.same_iff`), and
`declares_once` shows that they are the only ones.
-/

namespace Rollout

namespace FlagRegistry

/-! ## 1. One call -/

/-- Declares a flag in a registry that is written in place, and gives out a handle to it. -/
def grant (name : String) (default : Value) : EStateM FlagError FlagRegistry Flag := do
  match (← get).default? name with
  | some declared =>
    if declared.type ≠ default.type then
      throw (.incompatibleType name declared.type default.type)
    if !declared.same default then
      throw (.conflictingDefault name declared default)
  | none => modify fun registry => ⟨registry.declared ++ [(name, default)]⟩
  return ⟨name, default⟩

variable {registry : FlagRegistry} {name : String} {default v : Value}

theorem grant_of_new (h : registry.default? name = none) :
    grant name default registry =
      .ok ⟨name, default⟩ ⟨registry.declared ++ [(name, default)]⟩ := by
  change (match registry.default? name with | some _ => _ | none => _ : EStateM _ _ _) registry = _
  rw [h]
  rfl

/-- A name that is declared stays as it is, whether the call is granted or not. -/
theorem grant_of_declared (h : registry.default? name = some v) :
    grant name default registry =
      if v.same default then .ok ⟨name, default⟩ registry
      else .error (if v.type ≠ default.type then .incompatibleType name v.type default.type
        else .conflictingDefault name v default) registry := by
  change (match registry.default? name with | some _ => _ | none => _ : EStateM _ _ _) registry = _
  rw [h]
  by_cases htype : v.type = default.type
  · cases hsame : v.same default <;> simp [htype, hsame] <;> rfl
  · simp [htype, Value.same_eq_false htype]
    rfl

/-- **Writing in place** comes to the same as making a new registry, and the handle is for the flag
that was declared. -/
theorem grant_eq (registry : FlagRegistry) (flag : Flag) :
    grant flag.name flag.default registry = match registry.declare flag with
      | .ok registry' => .ok flag registry'
      | .error e => .error e registry := by
  cases hold : registry.default? flag.name with
  | none => rw [grant_of_new hold, declare, hold]
  | some v =>
    rw [grant_of_declared hold, declare, hold]
    by_cases htype : v.type = flag.default.type
    · cases hsame : v.same flag.default <;> simp [Flag.type, htype, hsame]
    · simp [Flag.type, htype, Value.same_eq_false htype]

/-- What a call does: it declares a name, finds it declared with the same default, or is refused. -/
theorem grant_cases (registry : FlagRegistry) (call : Flag) :
    (registry.default? call.name = none ∧ grant call.name call.default registry =
      .ok call ⟨registry.declared ++ [(call.name, call.default)]⟩) ∨
    ∃ v, registry.default? call.name = some v ∧
      ((v.same call.default = true ∧ grant call.name call.default registry = .ok call registry) ∨
        ∃ e, v.same call.default = false ∧
          grant call.name call.default registry = .error e registry) := by
  cases hold : registry.default? call.name with
  | none => exact .inl ⟨rfl, grant_of_new hold⟩
  | some v =>
    rw [grant_of_declared hold]
    cases hsame : v.same call.default with
    | true => exact .inr ⟨v, rfl, .inl ⟨hsame, rfl⟩⟩
    | false => exact .inr ⟨v, rfl, .inr ⟨_, hsame, rfl⟩⟩

/-- The registry after a call, granted or not. -/
def after (registry : FlagRegistry) (call : Flag) : FlagRegistry :=
  match grant call.name call.default registry with
  | .ok _ registry' | .error _ registry' => registry'

/-- A call gives a default to its own name at most, and only if the name has none. -/
theorem default?_after (registry : FlagRegistry) (call : Flag) (name : String) :
    (registry.after call).default? name =
      (registry.default? name).or (if call.name = name then some call.default else none) := by
  have hold : ∀ {v}, registry.default? call.name = some v → registry.default? name =
      (registry.default? name).or (if call.name = name then some call.default else none) := by
    intro v hv
    split
    · next hname => rw [← hname, hv, Option.some_or]
    · rw [Option.or_none]
  rcases grant_cases registry call with
    ⟨hnew, hgrant⟩ | ⟨v, hv, ⟨-, hgrant⟩ | ⟨e, -, hgrant⟩⟩
  · rw [after, hgrant]
    change (registry.declared ++ [(call.name, call.default)]).lookup name = _
    rw [List.lookup_append, List.lookup_cons]
    by_cases hname : call.name = name
    · simp [default?, hname]
    · have hother : (name == call.name) = false := beq_false_of_ne (Ne.symm hname)
      simp [default?, hname, hother]
  · rw [after, hgrant]
    exact hold hv
  · rw [after, hgrant]
    exact hold hv

/-! ## 2. All calls -/

/-- The registry after calls, one after the other, and the handles that were given out.  A call that
is refused is followed by the next. -/
def serve (registry : FlagRegistry) : List Flag → FlagRegistry × List Flag
  | [] => (registry, [])
  | call :: later =>
    match grant call.name call.default registry with
    | .ok handle registry' => ((registry'.serve later).1, handle :: (registry'.serve later).2)
    | .error _ registry' => registry'.serve later

theorem serve_cons (registry : FlagRegistry) (call : Flag) (later : List Flag) :
    (registry.serve (call :: later)).1 = ((registry.after call).serve later).1 := by
  rw [serve, after]
  cases grant call.name call.default registry <;> rfl

/-- **The first declaration stays.** -/
theorem default?_serve (name : String) : ∀ (calls : List Flag) (registry : FlagRegistry),
    (registry.serve calls).1.default? name =
      (registry.default? name).or ((calls.find? (·.name = name)).map (·.default))
  | [], registry => by rw [serve, List.find?_nil, Option.map_none, Option.or_none]
  | call :: later, registry => by
    rw [serve_cons, default?_serve name later, default?_after, Option.or_assoc]
    by_cases hname : call.name = name <;> simp [hname]

/-- Where a call is granted, the default of the handle is the one that its name has now, or the
same. -/
theorem declared_of_grant {registry' : FlagRegistry} {handle : Flag}
    (h : grant name default registry = .ok handle registry') :
    ∃ v, registry'.default? handle.name = some v ∧
      (v = handle.default ∨ v.same handle.default = true) := by
  rcases grant_cases registry ⟨name, default⟩ with
    ⟨hnew, hgrant⟩ | ⟨v, hold, ⟨hsame, hgrant⟩ | ⟨e, -, hgrant⟩⟩
  · have hafter := default?_after registry ⟨name, default⟩ name
    rw [after, h, hnew] at hafter
    obtain ⟨rfl, -⟩ := EStateM.Result.ok.inj (h.symm.trans hgrant)
    exact ⟨default, by simpa using hafter, .inl rfl⟩
  · obtain ⟨rfl, rfl⟩ := EStateM.Result.ok.inj (h.symm.trans hgrant)
    exact ⟨v, hold, .inr hsame⟩
  · cases h.symm.trans hgrant

/-- A name that has a default keeps it. -/
theorem default?_serve_of_declared (h : registry.default? name = some v) (calls : List Flag) :
    (registry.serve calls).1.default? name = some v := by
  rw [default?_serve, h, Option.some_or]

/-- **Handles agree with the registry,** as far as two defaults that are the same are equal. -/
theorem declared_of_mem_serve {handle : Flag} : ∀ (calls : List Flag) (registry : FlagRegistry),
    handle ∈ (registry.serve calls).2 →
    ∃ v, (registry.serve calls).1.default? handle.name = some v ∧
      (v = handle.default ∨ v.same handle.default = true)
  | call :: later, registry, h => by
    rw [serve] at h ⊢
    cases hgrant : grant call.name call.default registry with
    | ok handle' registry' =>
      rw [hgrant] at h
      rcases List.mem_cons.1 h with rfl | h
      · obtain ⟨v, hv, hagrees⟩ := declared_of_grant hgrant
        exact ⟨v, default?_serve_of_declared hv later, hagrees⟩
      · exact declared_of_mem_serve later registry' h
    | error e registry' =>
      rw [hgrant] at h
      exact declared_of_mem_serve later registry' h

/-- **Declarations.**  Take a registry after any calls.

* A name has the type and the default of the first call that declared it.
* A call that is refused leaves the registry as it was.
* Every handle that was given out has the default that the registry has for its name, unless both
  are float zeros; and the call that gave it out is granted once more, unless its default is no
  number. -/
theorem declares_once (calls : List Flag) :
    let registry := (empty.serve calls).1
    (∀ name, registry.default? name = (calls.find? (·.name = name)).map (·.default) ∧
      registry.type? name = (calls.find? (·.name = name)).map (·.type)) ∧
    (∀ name default e registry', grant name default registry = .error e registry' →
      registry' = registry) ∧
    ∀ handle ∈ (empty.serve calls).2,
      (∃ v, registry.default? handle.name = some v ∧
        (v = handle.default ∨ v.IsZero ∧ handle.default.IsZero)) ∧
      (grant handle.name handle.default registry = .ok handle registry ↔
        handle.default.isNoNumber = false) := by
  intro registry
  refine ⟨fun name => ?_, fun name default e registry' h => ?_, fun handle hmem => ?_⟩
  · have hdefault := default?_serve name calls empty
    exact ⟨hdefault, by rw [type?, hdefault]; cases calls.find? (·.name = name) <;> rfl⟩
  · rcases grant_cases registry ⟨name, default⟩ with
      ⟨-, hgrant⟩ | ⟨v, -, ⟨-, hgrant⟩ | ⟨e', -, hgrant⟩⟩
    · cases h.symm.trans hgrant
    · cases h.symm.trans hgrant
    · exact (EStateM.Result.error.inj (h.symm.trans hgrant)).2
  · obtain ⟨v, hv, hagrees⟩ := declared_of_mem_serve calls empty hmem
    rw [grant_of_declared hv]
    rcases hagrees with rfl | hsame
    · refine ⟨⟨_, hv, .inl rfl⟩, ?_⟩
      rw [← Value.same_self_iff]
      cases handle.default.same handle.default <;> simp [registry]
    · refine ⟨⟨v, hv, ((Value.same_iff _ _).1 hsame).imp_left And.left⟩, ?_⟩
      rw [if_pos hsame]
      exact iff_of_true rfl (Value.isNoNumber_of_same hsame)

/-- Two names are declared, then declared otherwise, and one of them is declared again as it was. -/
def firstCalls : List Flag :=
  [⟨"limit", .int 12⟩, ⟨"rate", .float 1⟩, ⟨"limit", .float 12⟩, ⟨"rate", .float 2⟩,
    ⟨"rate", .float 1⟩]

theorem declares_once_firstCalls :
    (empty.serve firstCalls).2 = [⟨"limit", .int 12⟩, ⟨"rate", .float 1⟩, ⟨"rate", .float 1⟩] ∧
    (empty.serve firstCalls).1.type? "limit" = some .int ∧
    grant "rate" (.float 1) (empty.serve firstCalls).1 =
      .ok ⟨"rate", .float 1⟩ (empty.serve firstCalls).1 := by
  have hhandles : (empty.serve firstCalls).2 =
      [⟨"limit", .int 12⟩, ⟨"rate", .float 1⟩, ⟨"rate", .float 1⟩] := by rfl
  obtain ⟨hfirst, -, hagain⟩ := declares_once firstCalls
  refine ⟨hhandles, (hfirst "limit").2, (hagain ⟨"rate", .float 1⟩ ?_).2.2 rfl⟩
  rw [hhandles]
  exact List.mem_cons_of_mem _ List.mem_cons_self

/-- What is no number, declared. -/
def unlimited : Flag := ⟨"limit", .float (0 / 0)⟩

/-- A flag is declared with a default that is no number, and granted; the same call is then refused.
And of two handles to one flag, one has a default that the registry does not have. -/
theorem refused_when_repeated :
    (empty.serve [unlimited]).2 = [unlimited] ∧
    grant unlimited.name unlimited.default (empty.serve [unlimited]).1 =
      .error (.conflictingDefault "limit" unlimited.default unlimited.default)
        (empty.serve [unlimited]).1 ∧
    (empty.serve [⟨"rate", .float 0⟩, ⟨"rate", .float (-0)⟩]).2 =
      [⟨"rate", .float 0⟩, ⟨"rate", .float (-0)⟩] ∧
    (empty.serve [⟨"rate", .float 0⟩, ⟨"rate", .float (-0)⟩]).1.default? "rate" =
      some (.float 0) ∧
    Value.float 0 ≠ Value.float (-0) := by
  refine ⟨rfl, rfl, rfl, rfl, ?_⟩
  rw [ne_eq, Value.float.injEq]
  decide

end FlagRegistry

end Rollout
