import Mathlib.Data.List.Nodup
import Rollout.Condition.Registry
import Rollout.Proofs.Table
/-!
# Registries that serve as one

Condition functions come from several registries.  Each is filled by registrations, one after the
other, and of two registrations of one name the first one counts (`get?_filled`).
`ConditionRegistry.union` copies all the functions into one table.  A host that holds on to its
registries keeps a *directory* instead, which says for each name at which position its registry is,
and asks that registry (`ConditionDirectory`).

The two are the same to whoever uses them (`ConditionDirectory.serves`), because both write names
into a table and stop at the first that is taken: `Table.enter_eq` says which name that is, and it
depends on the names alone.  What registries come to together is in `union_exact`: it does not
depend on their order.
-/

namespace Rollout

/-! ## 1. Names that are taken -/

/-- The first name that is taken, by `taken` or by an earlier name of the list. -/
def firstRepeated (taken : List String) : List String → Option String
  | [] => none
  | name :: names => if name ∈ taken then some name else firstRepeated (name :: taken) names

theorem firstRepeated_eq_none_iff : ∀ {names taken : List String},
    firstRepeated taken names = none ↔ names.Nodup ∧ ∀ name ∈ names, name ∉ taken
  | [], taken => by simp [firstRepeated]
  | name :: names, taken => by
    rw [firstRepeated]
    split
    · next hmem => simp [hmem]
    · next hnew =>
      rw [firstRepeated_eq_none_iff]
      simp only [List.nodup_cons, List.mem_cons, forall_eq_or_imp, hnew, not_false_iff, true_and,
        not_or]
      constructor
      · rintro ⟨hnodup, hothers⟩
        exact ⟨⟨fun hmem => (hothers name hmem).1 rfl, hnodup⟩, fun other h => (hothers other h).2⟩
      · rintro ⟨⟨hnot, hnodup⟩, hothers⟩
        exact ⟨hnodup, fun other h => ⟨fun heq => hnot (heq ▸ h), hothers other h⟩⟩

theorem firstRepeated_nil_eq_none_iff {names : List String} :
    firstRepeated [] names = none ↔ names.Nodup := by
  simp [firstRepeated_eq_none_iff]

/-- What is reported as taken is there twice. -/
theorem two_le_count_of_firstRepeated {name : String} : ∀ {names taken : List String},
    firstRepeated taken names = some name → 2 ≤ (taken ++ names).count name
  | first :: names, taken, h => by
    rw [firstRepeated] at h
    split at h
    · next hmem =>
      obtain rfl := Option.some.inj h
      have htaken : 0 < taken.count first := List.count_pos_iff.2 hmem
      rw [List.count_append, List.count_cons_self]
      omega
    · have hcount := two_le_count_of_firstRepeated h
      rwa [List.cons_append, ← List.perm_middle.count_eq] at hcount

namespace Table

variable {α : Type}

/-- Writes entries into a table, each under a name that the table does not have yet. -/
def enter (t : Table String α) (es : List (String × α)) : Except ConditionError (Table String α) :=
  es.foldlM (fun t e =>
    if t.contains e.1 then .error (.duplicate e.1) else .ok (t.insert e.1 e.2)) t

theorem enter_eq : ∀ (es : List (String × α)) (t : Table String α) (taken : List String),
    (∀ name, t.contains name = true ↔ name ∈ taken) →
    t.enter es = match firstRepeated taken (es.map (·.1)) with
      | some name => .error (.duplicate name)
      | none => .ok (es.foldl (fun t e => t.insert e.1 e.2) t)
  | [], t, taken, _ => rfl
  | (name, a) :: es, t, taken, h => by
    rw [enter, List.foldlM_cons, List.map_cons, firstRepeated]
    by_cases hmem : name ∈ taken
    · rw [if_pos ((h name).2 hmem), if_pos hmem]
      rfl
    · rw [if_neg (mt (h name).1 hmem), if_neg hmem]
      exact enter_eq es (t.insert name a) (name :: taken) fun other => by
        rw [contains_insert_iff, List.mem_cons, h]

/-- Entries go into an empty table if and only if each has a name of its own. -/
theorem enter_empty_eq_ok_iff (es : List (String × α)) {t : Table String α} :
    enter .empty es = .ok t ↔
      (es.map (·.1)).Nodup ∧ ∀ name a, t.get? name = some a ↔ (name, a) ∈ es := by
  rw [enter_eq es .empty [] fun name => by simp]
  cases hfirst : firstRepeated [] (es.map (·.1)) with
  | some name =>
    have hnot : ¬ (es.map (·.1)).Nodup := fun hnodup => by
      rw [firstRepeated_nil_eq_none_iff.2 hnodup] at hfirst
      cases hfirst
    simp [hnot]
  | none =>
    have hnodup := firstRepeated_nil_eq_none_iff.1 hfirst
    rw [Except.ok.injEq]
    constructor
    · rintro rfl
      exact ⟨hnodup, fun name a => get?_ofList hnodup⟩
    · rintro ⟨-, hget⟩
      exact ext_get? fun name => Option.ext fun a => (get?_ofList hnodup).trans (hget name a).symm

end Table

namespace ConditionRegistry

/-! ## 2. A registry that is filled -/

/-- The registry after a registration, granted or not. -/
def registered (registry : ConditionRegistry) (call : String × ConditionFunction) :
    ConditionRegistry :=
  match registry.register call.1 call.2 with
  | .ok registry' => registry'
  | .error _ => registry

/-- The registry that is filled by registrations, one after the other. -/
def filled (calls : List (String × ConditionFunction)) : ConditionRegistry :=
  calls.foldl registered empty

/-- A registration gives a function to its own name at most, and only if the name has none. -/
theorem get?_registered (registry : ConditionRegistry) (call : String × ConditionFunction)
    (name : String) : (registry.registered call).functions.get? name =
      (registry.functions.get? name).or (if name = call.1 then some call.2 else none) := by
  rw [registered, register]
  cases hold : registry.functions.contains call.1 with
  | true =>
    obtain ⟨f, hf⟩ := Table.contains_iff.1 hold
    by_cases hname : name = call.1 <;> simp [hname, hf]
  | false =>
    have hnone := Table.contains_eq_false_iff.1 hold
    by_cases hname : name = call.1 <;> simp [Table.get?_insert, hname, hnone]

/-- **The first registration counts.** -/
theorem get?_filled (calls : List (String × ConditionFunction)) (name : String) :
    (filled calls).functions.get? name = calls.lookup name := by
  suffices h : ∀ (calls : List (String × ConditionFunction)) (registry : ConditionRegistry),
      (calls.foldl registered registry).functions.get? name =
        (registry.functions.get? name).or (calls.lookup name) from h calls empty
  intro calls
  induction calls with
  | nil => simp
  | cons call later ih =>
    intro registry
    rw [List.foldl_cons, ih, get?_registered, Option.or_assoc, List.lookup_cons]
    by_cases hname : name = call.1
    · simp [hname]
    · rw [if_neg hname, beq_false_of_ne hname, Option.none_or]

/-- A registry has the names that were registered with it. -/
theorem contains_filled {calls : List (String × ConditionFunction)} {name : String} :
    (filled calls).functions.contains name = calls.any (·.1 = name) := by
  rw [Table.contains, get?_filled]
  induction calls with
  | nil => rfl
  | cons call later ih =>
    rw [List.lookup_cons, List.any_cons]
    by_cases hname : name = call.1
    · simp [hname]
    · rw [beq_false_of_ne hname, decide_eq_false (Ne.symm hname), ih, Bool.false_or]

/-! ## 3. The union -/

variable {registries : List ConditionRegistry} {combined : ConditionRegistry} {name : String}

theorem union_eq_enter (registries : List ConditionRegistry) :
    union registries =
      (Table.enter .empty (registries.flatMap (·.functions.entries))).map (⟨·⟩) := by
  suffices h : ∀ (fs : List (String × ConditionFunction)) (t : Table String ConditionFunction),
      fs.foldlM (fun registry f => ConditionRegistry.register registry f.1 f.2) ⟨t⟩ =
        (t.enter fs).map (⟨·⟩) from h _ .empty
  intro fs
  induction fs with
  | nil => exact fun _ => rfl
  | cons f fs ih =>
    intro t
    rw [Table.enter, List.foldlM_cons, List.foldlM_cons, register]
    cases t.contains f.1 with
    | true => rfl
    | false => exact ih (t.insert f.1 f.2)

theorem map_entries (registries : List ConditionRegistry) :
    (registries.flatMap (·.functions.entries)).map (·.1) = registries.flatMap names :=
  List.map_flatMap ..

/-- Registries have a union if and only if no name is in two of them, and the union says of each
name what its registry says. -/
theorem union_eq_ok_iff : union registries = .ok combined ↔ (registries.flatMap names).Nodup ∧
    ∀ name f, combined.functions.get? name = some f ↔
      ∃ registry ∈ registries, registry.functions.get? name = some f := by
  have henter := Table.enter_empty_eq_ok_iff (registries.flatMap (·.functions.entries))
    (t := combined.functions)
  simp only [map_entries, List.mem_flatMap, ← Table.get?_eq_some_iff] at henter
  rw [← henter, union_eq_enter]
  cases Table.enter .empty (registries.flatMap (·.functions.entries)) with
  | error e => simp [Except.map]
  | ok t => cases combined; simp [Except.map]

/-- A name occurs as often as there are registries that have it. -/
theorem count_names (registries : List ConditionRegistry) (name : String) :
    (registries.flatMap names).count name =
      (registries.filter (·.functions.contains name)).length := by
  induction registries with
  | nil => rfl
  | cons registry rest ih =>
    rw [List.flatMap_cons, List.count_append, ih, List.filter_cons]
    cases hmem : registry.functions.contains name with
    | true =>
      have hone : registry.names.count name = 1 :=
        List.count_eq_one_of_mem (Table.nodup_keys _) (Table.mem_keys_iff.2 hmem)
      rw [hone, if_pos rfl, List.length_cons, Nat.add_comm]
    | false =>
      have hnot : name ∉ registry.names := fun h => by simp [Table.mem_keys_iff.1 h] at hmem
      rw [List.count_eq_zero_of_not_mem hnot, Nat.zero_add]
      rfl

/-- What is said where registries have no union. -/
theorem union_eq_error {e : ConditionError} (h : union registries = .error e) :
    ∃ name, e = .duplicate name ∧
      2 ≤ (registries.filter (·.functions.contains name)).length := by
  rw [union_eq_enter, Table.enter_eq _ .empty [] fun name => by simp, map_entries] at h
  cases hfirst : firstRepeated [] (registries.flatMap names) with
  | some name =>
    rw [hfirst] at h
    refine ⟨name, (Except.error.inj h).symm, ?_⟩
    rw [← count_names]
    exact two_le_count_of_firstRepeated hfirst
  | none =>
    rw [hfirst] at h
    cases h

theorem contains_union_iff (h : union registries = .ok combined) :
    combined.functions.contains name = true ↔
      ∃ registry ∈ registries, registry.functions.contains name = true := by
  simp only [Table.contains_iff, (union_eq_ok_iff.1 h).2]
  exact ⟨fun ⟨f, registry, hmem, hf⟩ => ⟨registry, hmem, f, hf⟩,
    fun ⟨registry, hmem, f, hf⟩ => ⟨f, registry, hmem, hf⟩⟩

end ConditionRegistry

/-! ## 4. A directory -/

/-- Several registries, and for each name the position of the registry that has it. -/
structure ConditionDirectory where
  registries : List ConditionRegistry
  owners : Table String Nat

namespace ConditionDirectory

/-- The names that registries have, one registry after the other, each with the position of its
registry. -/
def offers (registries : List ConditionRegistry) : List (String × Nat) :=
  registries.zipIdx.flatMap fun r => r.1.names.map (·, r.2)

/-- The directory of registries, of which no two may have the same name. -/
def ofRegistries (registries : List ConditionRegistry) : Except ConditionError ConditionDirectory :=
  (Table.enter .empty (offers registries)).map (⟨registries, ·⟩)

/-- The names of the functions, ascending. -/
def names (directory : ConditionDirectory) : List String := directory.owners.keys

/-- The function of a name, as the registry has it that owns the name. -/
def function? (directory : ConditionDirectory) (name : String) : Option ConditionFunction := do
  let position ← directory.owners.get? name
  let owner ← directory.registries[position]?
  owner.functions.get? name

/-- The condition that a function makes of its arguments. -/
def create (directory : ConditionDirectory) (name : String) (arguments : List String) :
    Except ConditionError Condition :=
  match directory.function? name with
  | none => .error (.unknown name)
  | some function => (function arguments).map .leaf

variable {registries : List ConditionRegistry} {directory : ConditionDirectory} {name : String}

theorem map_offers (registries : List ConditionRegistry) :
    (offers registries).map (·.1) = registries.flatMap ConditionRegistry.names := by
  have hpositions := List.zipIdx_map_fst 0 registries
  conv => rhs; rw [← hpositions, List.flatMap_map]
  rw [offers, List.map_flatMap]
  simp [Function.comp_def]

theorem mem_offers_iff {position : Nat} : (name, position) ∈ offers registries ↔
    ∃ owner, registries[position]? = some owner ∧ owner.functions.contains name = true := by
  simp only [offers, List.mem_flatMap, List.mem_zipIdx_iff_getElem?, List.mem_map, Prod.mk.injEq,
    ConditionRegistry.names, Table.mem_keys_iff]
  constructor
  · rintro ⟨⟨owner, _⟩, howner, _, hmem, rfl, rfl⟩
    exact ⟨owner, howner, hmem⟩
  · rintro ⟨owner, howner, hmem⟩
    exact ⟨⟨owner, position⟩, howner, name, hmem, rfl, rfl⟩

/-- **The directory against its registries.**  It says of each name at which position the registry
is that has it, and no name is at two positions. -/
theorem ofRegistries_eq_ok_iff : ofRegistries registries = .ok directory ↔
    (registries.flatMap ConditionRegistry.names).Nodup ∧ directory.registries = registries ∧
    ∀ name position, directory.owners.get? name = some position ↔
      ∃ owner, registries[position]? = some owner ∧ owner.functions.contains name = true := by
  have henter := Table.enter_empty_eq_ok_iff (offers registries) (t := directory.owners)
  simp only [map_offers, mem_offers_iff] at henter
  rw [and_left_comm, ← henter, ofRegistries]
  cases Table.enter .empty (offers registries) with
  | error e => simp [Except.map]
  | ok t => cases directory; simp [Except.map, eq_comm]

theorem ofRegistries_eq_error_iff {e : ConditionError} :
    ofRegistries registries = .error e ↔ ConditionRegistry.union registries = .error e := by
  rw [ofRegistries, ConditionRegistry.union_eq_enter,
    Table.enter_eq _ .empty [] fun name => by simp, Table.enter_eq _ .empty [] fun name => by simp,
    map_offers, ConditionRegistry.map_entries]
  cases firstRepeated [] (registries.flatMap ConditionRegistry.names) <;> simp [Except.map]

/-- The function that a directory finds is that of the one registry that has the name. -/
theorem function?_eq_some_iff (h : ofRegistries registries = .ok directory)
    {f : ConditionFunction} : directory.function? name = some f ↔
      ∃ registry ∈ registries, registry.functions.get? name = some f := by
  obtain ⟨-, hregistries, howners⟩ := ofRegistries_eq_ok_iff.1 h
  simp only [function?, Option.bind_eq_bind, Option.bind_eq_some_iff, howners, hregistries]
  constructor
  · rintro ⟨position, -, owner, howner, hf⟩
    exact ⟨owner, List.mem_of_getElem? howner, hf⟩
  · rintro ⟨owner, hmem, hf⟩
    obtain ⟨position, hposition⟩ := List.mem_iff_getElem?.1 hmem
    exact ⟨position, ⟨owner, hposition, Table.contains_iff.2 ⟨f, hf⟩⟩, owner, hposition, hf⟩

/-- **A directory serves as the union does:** it is refused with the same error, has the same names,
and makes the same of a name and its arguments. -/
theorem serves (registries : List ConditionRegistry) :
    (ofRegistries registries).map (fun directory => (directory.names, directory.create)) =
      (ConditionRegistry.union registries).map fun combined =>
        (combined.names, combined.create) := by
  cases hunion : ConditionRegistry.union registries with
  | error e => rw [ofRegistries_eq_error_iff.2 hunion]; rfl
  | ok combined =>
    cases hdirectory : ofRegistries registries with
    | error e =>
      rw [ofRegistries_eq_error_iff.1 hdirectory] at hunion
      cases hunion
    | ok directory =>
      have hfunction : ∀ name, directory.function? name = combined.functions.get? name :=
        fun name => Option.ext fun f => by
          rw [function?_eq_some_iff hdirectory, (ConditionRegistry.union_eq_ok_iff.1 hunion).2]
      have hnames : directory.names = combined.names := Table.keys_congr fun name => by
        rw [ConditionRegistry.contains_union_iff hunion, Table.contains_iff]
        simp only [(ofRegistries_eq_ok_iff.1 hdirectory).2.2]
        constructor
        · rintro ⟨position, owner, howner, hname⟩
          exact ⟨owner, List.mem_of_getElem? howner, hname⟩
        · rintro ⟨owner, hmem, hname⟩
          obtain ⟨position, hposition⟩ := List.mem_iff_getElem?.1 hmem
          exact ⟨position, owner, hposition, hname⟩
      have hcreate : directory.create = combined.create := by
        funext name arguments
        cases hf : combined.functions.get? name <;>
          simp [create, ConditionRegistry.create, hfunction, hf]
      simp [Except.map, hnames, hcreate]

end ConditionDirectory

namespace ConditionRegistry

/-! ## 5. What registries come to -/

/-- The fillings in which a name is registered. -/
def holders (fillings : List (List (String × ConditionFunction))) (name : String) :
    List (List (String × ConditionFunction)) :=
  fillings.filter fun calls => calls.any (·.1 = name)

section

variable {fillings : List (List (String × ConditionFunction))} {combined : ConditionRegistry}
  {name : String}

theorem filter_filled (fillings : List (List (String × ConditionFunction))) (name : String) :
    (fillings.map filled).filter (·.functions.contains name) =
      (holders fillings name).map filled := by
  rw [List.filter_map, holders]
  simp only [Function.comp_def, contains_filled]

theorem mem_holders_iff {calls : List (String × ConditionFunction)} :
    calls ∈ holders fillings name ↔
    calls ∈ fillings ∧ (filled calls).functions.contains name = true := by
  rw [holders, List.mem_filter, contains_filled]

theorem nodup_names_filled_iff : ((fillings.map filled).flatMap names).Nodup ↔
    ∀ name, (holders fillings name).length ≤ 1 := by
  simp only [List.nodup_iff_count_le_one, count_names, filter_filled, List.length_map]

/-- A union says of a name what the one registry says that has it. -/
theorem get?_union_of_holder (h : union (fillings.map filled) = .ok combined)
    {calls : List (String × ConditionFunction)} (hcalls : calls ∈ holders fillings name) :
    combined.functions.get? name = (filled calls).functions.get? name := by
  obtain ⟨hnodup, hget⟩ := union_eq_ok_iff.1 h
  refine Option.ext fun f => (hget name f).trans ⟨?_, fun hf => ?_⟩
  · rintro ⟨registry, hmem, hf⟩
    obtain ⟨calls', hcalls', rfl⟩ := List.mem_map.1 hmem
    have hholder : calls' ∈ holders fillings name :=
      mem_holders_iff.2 ⟨hcalls', Table.contains_iff.2 ⟨f, hf⟩⟩
    obtain ⟨only, honly⟩ : ∃ only, holders fillings name = [only] :=
      List.length_eq_one_iff.1 (Nat.le_antisymm (nodup_names_filled_iff.1 hnodup name)
        (List.length_pos_of_mem hcalls))
    rw [honly, List.mem_singleton] at hcalls hholder
    rw [hcalls, ← hholder]
    exact hf
  · exact ⟨filled calls, List.mem_map_of_mem (mem_holders_iff.1 hcalls).1, hf⟩

/-- A union has a name if and only if some registry was given it. -/
theorem mem_names_union_iff (h : union (fillings.map filled) = .ok combined) :
    name ∈ combined.names ↔ holders fillings name ≠ [] := by
  rw [names, Table.mem_keys_iff, contains_union_iff h, ne_eq, List.eq_nil_iff_forall_not_mem]
  simp only [mem_holders_iff, List.mem_map]
  push Not
  constructor
  · rintro ⟨_, ⟨calls, hmem, rfl⟩, hname⟩
    exact ⟨calls, hmem, hname⟩
  · rintro ⟨calls, hmem, hname⟩
    exact ⟨filled calls, ⟨calls, hmem, rfl⟩, hname⟩

theorem holders_ne_nil_iff :
    holders fillings name ≠ [] ↔ ∃ calls ∈ fillings, ∃ f, (name, f) ∈ calls := by
  simp [holders]

/-- Registries come to the same in any order. -/
theorem union_perm {registries registries' : List ConditionRegistry}
    (h : registries'.Perm registries) :
    union registries' = .ok combined ↔ union registries = .ok combined := by
  rw [union_eq_ok_iff, union_eq_ok_iff, (h.flatMap_right names).nodup_iff]
  simp only [h.mem_iff]

end

/-- **Registries that serve as one.**  Take registries that were filled by registrations, granted or
not.

* They have a union if and only if no name was registered with two of them; if they have none, what
  is reported is a name that was.
* The union lists the names that were registered, each once and ascending.  It makes of a name and
  its arguments what the one registry makes of them that has the name, and does not know the name if
  there is no such registry.
* In another order the registries have the same union.
* A directory of the registries serves as their union does. -/
theorem union_exact (fillings : List (List (String × ConditionFunction))) :
    ((∃ combined, union (fillings.map filled) = .ok combined) ↔
      ∀ name, (holders fillings name).length ≤ 1) ∧
    (∀ e, union (fillings.map filled) = .error e →
      ∃ name, e = .duplicate name ∧ 2 ≤ (holders fillings name).length) ∧
    (∀ combined, union (fillings.map filled) = .ok combined →
      combined.names.Pairwise (· < ·) ∧
      (∀ name, name ∈ combined.names ↔ ∃ calls ∈ fillings, ∃ f, (name, f) ∈ calls) ∧
      (∀ name arguments, ∀ calls ∈ holders fillings name,
        combined.create name arguments = (filled calls).create name arguments) ∧
      (∀ name arguments, holders fillings name = [] →
        combined.create name arguments = .error (.unknown name)) ∧
      ∀ reordered, List.Perm reordered fillings → union (reordered.map filled) = .ok combined) ∧
    (ConditionDirectory.ofRegistries (fillings.map filled)).map
        (fun directory => (directory.names, directory.create)) =
      (union (fillings.map filled)).map fun combined => (combined.names, combined.create) := by
  have hreported : ∀ e, union (fillings.map filled) = .error e →
      ∃ name, e = .duplicate name ∧ 2 ≤ (holders fillings name).length := fun e he => by
    obtain ⟨name, rfl, htwo⟩ := union_eq_error he
    rw [filter_filled, List.length_map] at htwo
    exact ⟨name, rfl, htwo⟩
  refine ⟨⟨?_, fun hone => ?_⟩, hreported, fun combined hunion => ⟨?_, ?_, ?_, ?_, ?_⟩,
    ConditionDirectory.serves _⟩
  · rintro ⟨combined, hunion⟩
    exact nodup_names_filled_iff.1 (union_eq_ok_iff.1 hunion).1
  · cases hunion : union (fillings.map filled) with
    | ok combined => exact ⟨combined, rfl⟩
    | error e =>
      obtain ⟨name, -, htwo⟩ := hreported e hunion
      exact absurd (hone name) (by omega)
  · exact (Table.ascending_keys _).imp compareOfLessAndEq_eq_lt.1
  · exact fun name => (mem_names_union_iff hunion).trans holders_ne_nil_iff
  · intro name arguments calls hcalls
    rw [create, get?_union_of_holder hunion hcalls, create]
  · intro name arguments hnone
    have hnot : name ∉ combined.names := fun hmem => (mem_names_union_iff hunion).1 hmem hnone
    rw [names, Table.mem_keys_iff, Bool.not_eq_true, Table.contains_eq_false_iff] at hnot
    rw [create, hnot]
  · exact fun reordered hperm => (union_perm (hperm.map filled)).2 hunion

/-- What is registered with two registries.  One registration is refused, and one function is the
host's own. -/
def hostFillings : List (List (String × ConditionFunction)) :=
  [[("sampled", (Leaf.constant true).withArguments), ("pair", (Leaf.arity 2 2).withArguments),
      ("sampled", (Leaf.constant false).withArguments)],
    [("tier", fun arguments =>
        if arguments = ["gold"] then .ok (.supplied "tier" .request arguments)
        else .error (.invalidArgument "no such tier")),
      ("country", (Leaf.attribute "country" .none []).withArguments)]]

theorem union_exact_hostFillings :
    ∃ combined, union (hostFillings.map filled) = .ok combined ∧
      union (hostFillings.reverse.map filled) = .ok combined ∧
      combined.names = ["country", "pair", "sampled", "tier"] ∧
      combined.create "sampled" [] = .ok (.leaf (.constant true)) ∧
      combined.create "pair" ["a"] = .error (.arity 2 2 1) ∧
      combined.create "tier" ["gold"] = .ok (.leaf (.supplied "tier" .request ["gold"])) ∧
      combined.create "tier" [] = .error (.invalidArgument "no such tier") ∧
      combined.create "absent" [] = .error (.unknown "absent") ∧
      ∃ name, union ((hostFillings ++ hostFillings).map filled) = .error (.duplicate name) ∧
        2 ≤ (holders (hostFillings ++ hostFillings) name).length := by
  obtain ⟨combined, hunion⟩ : ∃ combined, union (hostFillings.map filled) = .ok combined :=
    ⟨_, rfl⟩
  obtain ⟨-, -, hcombined, -⟩ := union_exact hostFillings
  obtain ⟨-, -, hcreate, habsent, hreordered⟩ := hcombined combined hunion
  have hnames : combined.names = ["country", "pair", "sampled", "tier"] := by
    cases hunion
    rfl
  have hfailed : union ((hostFillings ++ hostFillings).map filled) =
      .error (.duplicate "pair") := by rfl
  obtain ⟨name, hname, htwo⟩ := (union_exact (hostFillings ++ hostFillings)).2.1 _ hfailed
  exact ⟨combined, hunion, hreordered _ hostFillings.reverse_perm, hnames,
    hcreate "sampled" [] _ List.mem_cons_self, hcreate "pair" ["a"] _ List.mem_cons_self,
    hcreate "tier" ["gold"] _ List.mem_cons_self, hcreate "tier" [] _ List.mem_cons_self,
    habsent "absent" [] rfl, name, hname ▸ hfailed, htwo⟩

end ConditionRegistry

end Rollout
