import Rollout.Table
/-!
# What tables say after they are written

`Table.get?_insert` says what one written entry changes.  This module carries that through the ways
in which the library writes many entries: a table laid over another one (`get?_overlay`), the update
of several keys (`get?_foldr_update`), values replaced in place (`get?_mapValues`), and the unions
of key sets (`KeySet.contains_union`).

It also says what a floor search finds.  A key that has an entry is its own floor
(`floor?_of_get?`); otherwise the floor is some entry of the table (`mem_of_floor?`).  And it says
what a search from the greatest entry down finds (`findSome?_reverse_eq_some_iff`).
-/

namespace Rollout

namespace Table

variable {κ α β : Type} [Ord κ]

/-! ## 1. Keys -/

theorem contains_iff {t : Table κ α} {k : κ} : t.contains k = true ↔ ∃ a, t.get? k = some a :=
  Option.isSome_iff_exists

theorem contains_eq_false_iff {t : Table κ α} {k : κ} : t.contains k = false ↔ t.get? k = none := by
  simp [contains]

@[simp] theorem contains_empty (k : κ) : (empty : Table κ α).contains k = false := rfl

/-- The keys are listed in strictly ascending order. -/
theorem ascending_keys (t : Table κ α) : t.keys.Pairwise (fun a b => compare a b = .lt) :=
  t.ascending.map _ (fun _ _ h => h)

section

variable [Std.TransOrd κ] [Std.LawfulEqOrd κ]

omit [Std.TransOrd κ] in
theorem nodup_keys (t : Table κ α) : t.keys.Nodup :=
  t.ascending_keys.imp fun h hne => by
    subst hne
    exact absurd (Std.ReflCmp.compare_self.symm.trans h) (by decide)

theorem mem_keys_iff {t : Table κ α} {k : κ} : k ∈ t.keys ↔ t.contains k = true := by
  rw [contains_iff]
  constructor
  · intro h
    obtain ⟨e, he, rfl⟩ := List.mem_map.1 h
    exact ⟨e.2, get?_eq_some_iff.2 he⟩
  · rintro ⟨a, ha⟩
    exact List.mem_map.2 ⟨(k, a), get?_eq_some_iff.1 ha, rfl⟩

theorem mem_values_iff {t : Table κ α} {a : α} : a ∈ t.values ↔ ∃ k, t.get? k = some a := by
  constructor
  · intro h
    obtain ⟨e, he, rfl⟩ := List.mem_map.1 h
    exact ⟨e.1, get?_eq_some_iff.2 he⟩
  · rintro ⟨k, hk⟩
    exact List.mem_map.2 ⟨(k, a), get?_eq_some_iff.1 hk, rfl⟩

/-- A table without entries says nothing of any key, and the other way round. -/
theorem isEmpty_iff {t : Table κ α} : t.isEmpty = true ↔ ∀ k, t.get? k = none := by
  constructor
  · intro h k
    have hes : t.entries = [] := List.isEmpty_iff.1 h
    simp [get?, hes, look]
  · intro h
    refine List.isEmpty_iff.2 (List.eq_nil_iff_forall_not_mem.2 fun e he => ?_)
    have hsome := get?_eq_some_iff.2 he
    rw [h e.1] at hsome
    cases hsome

/-- Where the values are keyed by a part of theirs, that part ascends along the values. -/
theorem ascending_values {t : Table κ α} {key : α → κ}
    (h : ∀ k a, t.get? k = some a → key a = k) :
    t.values.Pairwise (fun a b => compare (key a) (key b) = .lt) := by
  refine List.pairwise_map.2 (t.ascending.imp_of_mem fun {e e'} he he' hlt => ?_)
  rw [h e.1 e.2 (get?_eq_some_iff.2 he), h e'.1 e'.2 (get?_eq_some_iff.2 he')]
  exact hlt

end

/-! ## 2. Many entries -/

theorem look_mapValues (f : κ → α → β) (k : κ) [Std.LawfulEqOrd κ] : ∀ es : List (κ × α),
    look k (es.map fun e => (e.1, f e.1 e.2)) = (look k es).map (f k)
  | [] => rfl
  | (k', a) :: es => by
    simp only [List.map_cons, look]
    split
    · rfl
    · next heq => rw [Std.LawfulEqCmp.eq_of_compare heq]; rfl
    · exact look_mapValues f k es

@[simp] theorem get?_mapValues [Std.LawfulEqOrd κ] (f : κ → α → β) (t : Table κ α) (k : κ) :
    (t.mapValues f).get? k = (t.get? k).map (f k) :=
  look_mapValues f k t.entries

@[simp] theorem keys_mapValues (f : κ → α → β) (t : Table κ α) : (t.mapValues f).keys = t.keys :=
  List.map_map ..

variable [Std.TransOrd κ] [Std.LawfulEqOrd κ] [DecidableEq κ]

@[simp] theorem get?_update (t : Table κ α) (k k' : κ) (f : Option α → α) :
    (t.update k f).get? k' = if k' = k then some (f (t.get? k)) else t.get? k' :=
  get?_insert ..

theorem contains_insert_iff {t : Table κ α} {k k' : κ} {a : α} :
    (t.insert k a).contains k' = true ↔ k' = k ∨ t.contains k' = true := by
  by_cases h : k' = k <;> simp [contains, get?_insert, h]

/-- The entries of a list that names each key once, written over a table. -/
theorem get?_foldl_insert (k : κ) : ∀ (es : List (κ × α)) (t : Table κ α),
    es.Pairwise (fun a b => compare a.1 b.1 = .lt) →
    (es.foldl (fun t e => t.insert e.1 e.2) t).get? k = (look k es).or (t.get? k)
  | [], t, _ => by simp [look]
  | (k', a) :: es, t, h => by
    rw [List.foldl_cons, get?_foldl_insert k es _ h.of_cons, get?_insert]
    by_cases hk : k = k'
    · subst hk
      have hrest : look k es = none := by
        refine Option.eq_none_iff_forall_not_mem.2 fun b hb => ?_
        have hlt := List.rel_of_pairwise_cons h (mem_of_look_eq_some hb)
        exact absurd (Std.ReflCmp.compare_self.symm.trans hlt) (by decide)
      simp [look, hrest, Std.ReflCmp.compare_self]
    · rw [if_neg hk]
      conv => rhs; unfold look
      split
      · next hlt =>
        -- the key lies before all entries, so the rest says nothing of it either
        have hrest : look k es = none := by
          refine Option.eq_none_iff_forall_not_mem.2 fun b hb => ?_
          have hlt' := Std.TransCmp.lt_trans hlt
            (List.rel_of_pairwise_cons h (mem_of_look_eq_some hb))
          exact absurd (Std.ReflCmp.compare_self.symm.trans hlt') (by decide)
        rw [hrest]
      · next heq => exact absurd (Std.LawfulEqCmp.eq_of_compare heq) hk
      · rfl

/-- **A table laid over another one** says what it says, and leaves the rest to the other. -/
@[simp] theorem get?_overlay (t s : Table κ α) (k : κ) :
    (t.overlay s).get? k = (s.get? k).or (t.get? k) :=
  get?_foldl_insert k s.entries t s.ascending

/-- The update of several keys, each named once. -/
theorem get?_foldr_update (f : Option α → α) (t : Table κ α) (k : κ) : ∀ ks : List κ, ks.Nodup →
    (ks.foldr (fun k' t => t.update k' f) t).get? k =
      if k ∈ ks then some (f (t.get? k)) else t.get? k
  | [], _ => by simp
  | k' :: ks, h => by
    have h' := List.nodup_cons.1 h
    rw [List.foldr_cons, get?_update, get?_foldr_update f t k' ks h'.2, if_neg h'.1,
      get?_foldr_update f t k ks h'.2]
    by_cases hk : k = k'
    · subst hk; simp
    · simp [hk]

/-- The same value written at several keys. -/
theorem get?_foldr_insert (a : α) (t : Table κ α) (k : κ) : ∀ ks : List κ,
    (ks.foldr (fun k' t => t.insert k' a) t).get? k = if k ∈ ks then some a else t.get? k
  | [] => by simp
  | k' :: ks => by
    rw [List.foldr_cons, get?_insert, get?_foldr_insert a t k ks]
    by_cases hk : k = k'
    · subst hk; simp
    · simp [hk]

/-- Some of several things are written, each under a key of its own. -/
theorem get?_foldl_insert_some {δ : Type} (key : δ → κ) (value : δ → Option α) (k : κ) (a : α) :
    ∀ (ds : List δ) (t : Table κ α), (ds.map key).Nodup →
    ((ds.foldl (fun t d => (value d).elim t (t.insert (key d))) t).get? k = some a ↔
      (∃ d ∈ ds, key d = k ∧ value d = some a) ∨
        (∀ d ∈ ds, key d = k → value d = none) ∧ t.get? k = some a)
  | [], t, _ => by simp
  | first :: rest, t, h => by
    have h' := List.nodup_cons.1 h
    rw [List.foldl_cons, get?_foldl_insert_some key value k a rest _ h'.2]
    by_cases hk : key first = k
    · subst hk
      have hrest : ∀ d ∈ rest, key d ≠ key first := fun d hd hkey =>
        h'.1 (List.mem_map.2 ⟨d, hd, hkey⟩)
      have hno : ¬ ∃ d ∈ rest, key d = key first ∧ value d = some a := by
        rintro ⟨d, hd, hkey, -⟩
        exact hrest d hd hkey
      have hall : ∀ d ∈ rest, key d = key first → value d = none := fun d hd hkey =>
        absurd hkey (hrest d hd)
      simp only [hno, false_or, List.mem_cons, forall_eq_or_imp, exists_eq_or_imp, forall_const]
      cases hv : value first with
      | none => simp
      | some b =>
        rw [Option.elim_some, get?_insert, if_pos rfl]
        constructor
        · rintro ⟨-, hb⟩
          exact .inl (.inl ⟨trivial, hb⟩)
        · rintro ((⟨-, hb⟩ | hno) | ⟨⟨hno, -⟩, -⟩)
          · exact ⟨hall, hb⟩
          · cases hno
          · cases hno
    · simp only [List.mem_cons, forall_eq_or_imp, exists_eq_or_imp, hk, false_and, false_or,
        false_imp_iff, true_and]
      cases value first with
      | none => rfl
      | some b => rw [Option.elim_some, get?_insert, if_neg (Ne.symm hk)]

/-- The table of entries that name each key once says what they say. -/
theorem get?_ofList {es : List (κ × α)} (h : (es.map (·.1)).Nodup) {k : κ} {a : α} :
    (ofList es).get? k = some a ↔ (k, a) ∈ es := by
  refine (get?_foldl_insert_some (·.1) (fun e => some e.2) k a es .empty h).trans ?_
  simp only [get?_empty, reduceCtorEq, and_false, or_false, Option.some.injEq]
  constructor
  · rintro ⟨e, he, rfl, rfl⟩
    exact he
  · exact fun he => ⟨_, he, rfl, rfl⟩

/-- A table is made of its entries. -/
theorem ofList_entries (t : Table κ α) : ofList t.entries = t :=
  ext_get? fun k => Option.ext fun a => by
    rw [get?_ofList (nodup_keys t), get?_eq_some_iff]

/-- Entries of different keys are written in any order. -/
theorem insert_comm {t : Table κ α} {k k' : κ} {a a' : α} (h : k ≠ k') :
    (t.insert k a).insert k' a' = (t.insert k' a').insert k a := by
  refine ext_get? fun key => ?_
  simp only [get?_insert]
  by_cases hk : key = k
  · simp [hk, h]
  · simp [hk]

/-- What is written under a key again replaces what was there. -/
theorem insert_insert {t : Table κ α} {k : κ} {a a' : α} :
    (t.insert k a).insert k a' = t.insert k a' := by
  refine ext_get? fun key => ?_
  simp only [get?_insert]
  split <;> rfl

/-- It changes nothing to write what is there. -/
theorem insert_of_get? {t : Table κ α} {k : κ} {a : α} (h : t.get? k = some a) :
    t.insert k a = t := by
  refine ext_get? fun key => ?_
  rw [get?_insert]
  split
  · next heq => rw [heq, h]
  · rfl

/-! ## 3. Floors -/

omit [Std.TransOrd κ] [DecidableEq κ] in
theorem lookFloor_of_look {k : κ} {a : α} : ∀ {es : List (κ × α)}, look k es = some a →
    lookFloor k es = some (k, a)
  | [], h => by cases h
  | (k', b) :: es, h => by
    unfold look at h
    unfold lookFloor
    split at h
    · cases h
    · next heq =>
      cases h
      rw [Std.LawfulEqCmp.eq_of_compare heq]
    · simp [lookFloor_of_look h]

omit [Std.TransOrd κ] [DecidableEq κ] in
/-- A key with an entry is its own floor. -/
theorem floor?_of_get? {t : Table κ α} {k : κ} {a : α} (h : t.get? k = some a) :
    t.floor? k = some (k, a) :=
  lookFloor_of_look h

omit [Std.TransOrd κ] [Std.LawfulEqOrd κ] [DecidableEq κ] in
theorem mem_of_lookFloor {k : κ} {e : κ × α} : ∀ {es : List (κ × α)}, lookFloor k es = some e →
    e ∈ es
  | [], h => by cases h
  | (k', a) :: es, h => by
    unfold lookFloor at h
    split at h
    · cases h
    · cases h; exact List.mem_cons_self
    · rcases Option.or_eq_some_iff.1 h with h | ⟨_, h⟩
      · exact List.mem_cons_of_mem _ (mem_of_lookFloor h)
      · cases h; exact List.mem_cons_self

omit [DecidableEq κ] in
/-- A floor is an entry of the table. -/
theorem mem_of_floor? {t : Table κ α} {k : κ} {e : κ × α} (h : t.floor? k = some e) :
    t.get? e.1 = some e.2 :=
  get?_eq_some_iff.2 (mem_of_lookFloor h)

/-! ## 4. The greatest entry -/

omit [DecidableEq κ] in
/-- A search from the greatest entry down finds what the greatest key gives that gives anything. -/
theorem findSome?_reverse_eq_some_iff {f : κ × α → Option β} {t : Table κ α} {b : β} :
    t.entries.reverse.findSome? f = some b ↔ ∃ k, (t.get? k).bind (fun a => f (k, a)) = some b ∧
      ∀ k', compare k k' = .lt → (t.get? k').bind (fun a => f (k', a)) = none := by
  have hnone : ∀ k, (t.get? k).bind (fun a => f (k, a)) = none ↔
      ∀ a, (k, a) ∈ t.entries → f (k, a) = none := by
    intro k
    simp only [Option.bind_eq_none_iff, get?_eq_some_iff]
  have hasc := t.ascending
  constructor
  · intro h
    obtain ⟨later, ⟨k, a⟩, earlier, hsplit, hfound, hlater⟩ := List.findSome?_eq_some_iff.1 h
    have hentries : t.entries = earlier.reverse ++ (k, a) :: later.reverse := by
      rw [← List.reverse_reverse t.entries, hsplit]
      simp
    have hget : t.get? k = some a := get?_eq_some_iff.2 (by simp [hentries])
    rw [hentries, List.pairwise_append] at hasc
    refine ⟨k, by rw [hget]; exact hfound, fun k' hlt => (hnone k').2 fun a' hmem => ?_⟩
    rw [hentries, List.mem_append, List.mem_cons] at hmem
    rcases hmem with hmem | heq | hmem
    · have hgt := Std.OrientedCmp.gt_of_lt (hasc.2.2 _ hmem _ List.mem_cons_self)
      rw [hlt] at hgt
      cases hgt
    · cases heq
      exact absurd (Std.ReflCmp.compare_self.symm.trans hlt) (by decide)
    · exact hlater _ (List.mem_reverse.1 hmem)
  · rintro ⟨k, hk, hgreater⟩
    obtain ⟨a, hget, hfound⟩ := Option.bind_eq_some_iff.1 hk
    obtain ⟨before, after, hsplit⟩ := List.append_of_mem (get?_eq_some_iff.1 hget)
    rw [hsplit, List.pairwise_append, List.pairwise_cons] at hasc
    have hafter : ∀ e ∈ after.reverse, f e = none := by
      intro e he
      have he' : e ∈ after := List.mem_reverse.1 he
      exact (hnone e.1).1 (hgreater e.1 (hasc.2.1.1 e he')) e.2 (by simp [hsplit, he'])
    rw [hsplit]
    simp only [List.reverse_append, List.reverse_cons, List.findSome?_append]
    rw [List.findSome?_eq_none_iff.2 hafter]
    simp [hfound]

omit [DecidableEq κ] in
/-- Such a search looks at nothing but what each key gives. -/
theorem findSome?_reverse_congr {f f' : κ × α → Option β} {t t' : Table κ α}
    (h : ∀ k, (t'.get? k).bind (fun a => f' (k, a)) = (t.get? k).bind fun a => f (k, a)) :
    t'.entries.reverse.findSome? f' = t.entries.reverse.findSome? f :=
  Option.ext fun b => by simp only [findSome?_reverse_eq_some_iff, h]

end Table

/-! ## 5. Key sets -/

namespace KeySet

variable {κ : Type} [Ord κ] [Std.TransOrd κ] [Std.LawfulEqOrd κ] [DecidableEq κ]

theorem contains_foldr_add {α : Type} (key : α → κ) (s : KeySet κ) (k : κ) : ∀ es : List α,
    Table.contains (es.foldr (fun e s => KeySet.add s (key e)) s) k = true ↔
      k ∈ es.map key ∨ s.contains k = true
  | [] => by simp
  | e :: es => by
    rw [List.foldr_cons, contains_add, Bool.or_eq_true, decide_eq_true_iff,
      contains_foldr_add key s k es, List.map_cons, List.mem_cons, or_assoc]

@[simp] theorem contains_ofKeys {ks : List κ} {k : κ} :
    (ofKeys ks).contains k = true ↔ k ∈ ks := by
  have h := contains_foldr_add id (.empty : KeySet κ) k ks
  simpa [ofKeys] using h

@[simp] theorem contains_union {s t : KeySet κ} {k : κ} :
    (union s t).contains k = true ↔ s.contains k = true ∨ t.contains k = true := by
  have h := contains_foldr_add (fun e : κ × Unit => e.1) s k t.entries
  rw [union, h, or_comm, ← Table.mem_keys_iff (t := t)]
  rfl

@[simp] theorem contains_add_iff {s : KeySet κ} {k k' : κ} :
    (s.add k).contains k' = true ↔ k' = k ∨ s.contains k' = true := by
  simp [contains_add]

omit [DecidableEq κ] in
/-- Sets with the same members are the same. -/
theorem ext_contains {s t : KeySet κ} (h : ∀ k, s.contains k = true ↔ t.contains k = true) :
    s = t := by
  refine Table.ext_get? fun k => Option.ext fun u => ?_
  have hk := h k
  rw [Table.contains_iff, Table.contains_iff] at hk
  exact ⟨fun hs => hk.1 ⟨u, hs⟩ |>.choose_spec, fun ht => hk.2 ⟨u, ht⟩ |>.choose_spec⟩

omit [DecidableEq κ] in
theorem disjoint_iff {s t : KeySet κ} :
    disjoint s t = true ↔ ∀ k, s.contains k = true → t.contains k = false := by
  simp only [disjoint, List.all_eq_true, Table.mem_keys_iff, Bool.not_eq_true']

/-- The unions of several sets with a first one. -/
theorem contains_foldl_union {α : Type} (set : α → KeySet κ) (k : κ) :
    ∀ (es : List α) (s : KeySet κ),
    Table.contains (es.foldl (fun s e => KeySet.union s (set e)) s) k = true ↔
      s.contains k = true ∨ ∃ e ∈ es, (set e).contains k = true
  | [], s => by simp
  | e :: es, s => by
    rw [List.foldl_cons, contains_foldl_union set k es, contains_union]
    simp [or_assoc]

end KeySet

/-- Tables that have the same keys list them the same way, whatever they say of them. -/
theorem Table.keys_congr {κ α β : Type} [Ord κ] [Std.TransOrd κ] [Std.LawfulEqOrd κ]
    {s : Table κ α} {t : Table κ β} (h : ∀ k, s.contains k = true ↔ t.contains k = true) :
    s.keys = t.keys := by
  have hsets : s.mapValues (fun _ _ => ()) = t.mapValues (fun _ _ => ()) :=
    KeySet.ext_contains fun k => by simpa [contains] using h k
  simpa using congrArg keys hsets

end Rollout
