/-!
# Ordered tables and key sets

A `Table` is a finite map that keeps its entries in strictly ascending order of their keys, and
a `KeySet` is a table that says nothing about its keys.  Everything the library lists "in
ascending order" (flags by name, criteria, layers, segments and buckets by number) is one of the
two, so the order of an answer is part of the type and never of the program that lists it.

* `get?_insert`: what a table says after one entry is written.
* `Table.ext_get?`: a table is determined by what it says of each key.
-/

namespace Rollout

/-- A finite map, held as its entries in strictly ascending order of their keys. -/
structure Table (κ α : Type) [Ord κ] where
  entries : List (κ × α)
  ascending : entries.Pairwise (fun a b => compare a.1 b.1 = .lt)

namespace Table

variable {κ α β : Type} [Ord κ]

instance [DecidableEq κ] [DecidableEq α] : DecidableEq (Table κ α) := fun s t =>
  decidable_of_iff (s.entries = t.entries)
    ⟨fun h => by cases s; cases t; cases h; rfl, fun h => h ▸ rfl⟩

/-- The table with no entries. -/
def empty : Table κ α := ⟨[], .nil⟩

instance : Inhabited (Table κ α) := ⟨empty⟩

/-- Whether the table has no entries. -/
def isEmpty (t : Table κ α) : Bool := t.entries.isEmpty

/-- How many keys the table has. -/
def size (t : Table κ α) : Nat := t.entries.length

/-- The keys, ascending. -/
def keys (t : Table κ α) : List κ := t.entries.map (·.1)

/-- The values, in ascending order of their keys. -/
def values (t : Table κ α) : List α := t.entries.map (·.2)

/-! ## 1. Reading -/

/-- The value that ascending entries give for a key: the search ends at the first key that is
not below it. -/
def look (k : κ) : List (κ × α) → Option α
  | [] => none
  | (k', a) :: rest =>
    match compare k k' with
    | .lt => none
    | .eq => some a
    | .gt => look k rest

/-- The value of a key. -/
def get? (t : Table κ α) (k : κ) : Option α := look k t.entries

/-- Whether a key has a value. -/
def contains (t : Table κ α) (k : κ) : Bool := (t.get? k).isSome

/-- The last of the ascending entries whose key is not above `k`. -/
def lookFloor (k : κ) : List (κ × α) → Option (κ × α)
  | [] => none
  | (k', a) :: rest =>
    match compare k k' with
    | .lt => none
    | .eq => some (k', a)
    | .gt => (lookFloor k rest).or (some (k', a))

/-- The entry with the greatest key that is not above `k`. -/
def floor? (t : Table κ α) (k : κ) : Option (κ × α) := lookFloor k t.entries

/-! ## 2. Writing -/

/-- Writes one entry among ascending entries, in place of an entry of the same key. -/
def place (k : κ) (a : α) : List (κ × α) → List (κ × α)
  | [] => [(k, a)]
  | (k', a') :: rest =>
    match compare k k' with
    | .lt => (k, a) :: (k', a') :: rest
    | .eq => (k, a) :: rest
    | .gt => (k', a') :: place k a rest

theorem mem_place {k : κ} {a : α} {e : κ × α} {es : List (κ × α)} (h : e ∈ place k a es) :
    e = (k, a) ∨ e ∈ es := by
  induction es with
  | nil => simpa [place] using h
  | cons hd tl ih =>
    obtain ⟨k', a'⟩ := hd
    unfold place at h
    split at h
    · simpa using h
    · rcases List.mem_cons.1 h with h | h
      · exact .inl h
      · exact .inr (List.mem_cons_of_mem _ h)
    · rcases List.mem_cons.1 h with h | h
      · exact .inr (h ▸ List.mem_cons_self)
      · exact (ih h).imp_right (List.mem_cons_of_mem _)

variable [Std.TransOrd κ] [Std.LawfulEqOrd κ]

theorem ascending_place (k : κ) (a : α) {es : List (κ × α)}
    (h : es.Pairwise (fun a b => compare a.1 b.1 = .lt)) :
    (place k a es).Pairwise (fun a b => compare a.1 b.1 = .lt) := by
  induction es with
  | nil => simp [place]
  | cons hd tl ih =>
    obtain ⟨k', a'⟩ := hd
    have below : ∀ {e}, e ∈ tl → compare k' e.1 = .lt := List.rel_of_pairwise_cons h
    unfold place
    split
    case h_1 hlt =>
      refine .cons (fun e he => ?_) h
      rcases List.mem_cons.1 he with rfl | he
      · exact hlt
      · exact Std.TransCmp.lt_trans hlt (below he)
    case h_2 heq =>
      have : k = k' := Std.LawfulEqCmp.eq_of_compare heq
      exact .cons (fun e he => this ▸ below he) h.of_cons
    case h_3 hgt =>
      refine .cons (fun e he => ?_) (ih h.of_cons)
      rcases mem_place he with rfl | he
      · exact Std.OrientedCmp.lt_of_gt hgt
      · exact below he

/-- The table after one entry is written: a key's later value replaces the earlier one. -/
def insert (t : Table κ α) (k : κ) (a : α) : Table κ α :=
  ⟨place k a t.entries, ascending_place k a t.ascending⟩

/-- The table of a list of entries, of which a later one replaces an earlier one of its key. -/
def ofList (es : List (κ × α)) : Table κ α :=
  es.foldl (fun t e => t.insert e.1 e.2) empty

/-- The entries of `s` written over those of `t`. -/
def overlay (t s : Table κ α) : Table κ α :=
  s.entries.foldl (fun t e => t.insert e.1 e.2) t

/-- Replaces what the table says of `k` by a function of it. -/
def update (t : Table κ α) (k : κ) (f : Option α → α) : Table κ α :=
  t.insert k (f (t.get? k))

omit [Std.TransOrd κ] [Std.LawfulEqOrd κ] in
theorem ascending_mapValues (f : κ → α → β) {es : List (κ × α)}
    (h : es.Pairwise (fun a b => compare a.1 b.1 = .lt)) :
    (es.map (fun e => (e.1, f e.1 e.2))).Pairwise (fun a b => compare a.1 b.1 = .lt) :=
  h.map _ (fun _ _ h => h)

omit [Std.TransOrd κ] [Std.LawfulEqOrd κ] in
/-- The table with each value replaced by a function of its key and itself. -/
def mapValues (f : κ → α → β) (t : Table κ α) : Table κ β :=
  ⟨t.entries.map (fun e => (e.1, f e.1 e.2)), ascending_mapValues f t.ascending⟩

omit [Std.TransOrd κ] [Std.LawfulEqOrd κ] in
/-- The table of the entries that pass a test. -/
def filter (p : κ → α → Bool) (t : Table κ α) : Table κ α :=
  ⟨t.entries.filter (fun e => p e.1 e.2), t.ascending.filter _⟩

/-! ## 3. What a table says -/

omit [Std.TransOrd κ] [Std.LawfulEqOrd κ] in
@[simp] theorem get?_empty (k : κ) : (empty : Table κ α).get? k = none := rfl

theorem look_place [DecidableEq κ] (k k' : κ) (a : α) (es : List (κ × α)) :
    look k' (place k a es) = if k' = k then some a else look k' es := by
  induction es with
  | nil =>
    by_cases h : k' = k
    · subst h; simp [place, look, Std.ReflCmp.compare_self]
    · simp only [place, look, h, if_false]
      split
      · rfl
      · next heq => exact absurd (Std.LawfulEqCmp.eq_of_compare heq) h
      · rfl
  | cons hd tl ih =>
    obtain ⟨k₁, a₁⟩ := hd
    unfold place
    split
    case h_1 hlt =>
      by_cases h : k' = k
      · subst h; simp [look, Std.ReflCmp.compare_self]
      · rw [if_neg h]
        conv => lhs; unfold look
        split
        · next hlt' =>
          have : compare k' k₁ = .lt := Std.TransCmp.lt_trans hlt' hlt
          simp [look, this]
        · next heq => exact absurd (Std.LawfulEqCmp.eq_of_compare heq) h
        · rfl
    case h_2 heq =>
      have hk : k = k₁ := Std.LawfulEqCmp.eq_of_compare heq
      subst hk
      by_cases h : k' = k
      · subst h; simp [look, Std.ReflCmp.compare_self]
      · rw [if_neg h]
        conv => lhs; unfold look
        conv => rhs; unfold look
        split
        · rfl
        · next heq' => exact absurd (Std.LawfulEqCmp.eq_of_compare heq') h
        · rfl
    case h_3 hgt =>
      conv => lhs; unfold look
      conv => rhs; unfold look
      split
      · next hlt =>
        have : k' ≠ k := by
          rintro rfl
          exact absurd (hlt.symm.trans hgt) (by decide)
        rw [if_neg this]
      · next heq =>
        have hk := Std.LawfulEqCmp.eq_of_compare heq
        have : k' ≠ k := by
          rintro rfl
          exact absurd (heq.symm.trans hgt) (by decide)
        rw [if_neg this]
      · exact ih

/-- Writing an entry changes what the table says of its key, and of nothing else. -/
theorem get?_insert [DecidableEq κ] (t : Table κ α) (k k' : κ) (a : α) :
    (t.insert k a).get? k' = if k' = k then some a else t.get? k' :=
  look_place k k' a t.entries

omit [Std.LawfulEqOrd κ] in
theorem look_eq_some_of_mem {es : List (κ × α)}
    (h : es.Pairwise (fun a b => compare a.1 b.1 = .lt)) {e : κ × α} (he : e ∈ es) :
    look e.1 es = some e.2 := by
  induction es with
  | nil => cases he
  | cons hd tl ih =>
    rcases List.mem_cons.1 he with rfl | he
    · simp [look, Std.ReflCmp.compare_self]
    · have lt := List.rel_of_pairwise_cons h he
      have gt : compare e.1 hd.1 = .gt := Std.OrientedCmp.gt_of_lt lt
      simp only [look, gt]
      exact ih h.of_cons he

omit [Std.TransOrd κ] in
theorem mem_of_look_eq_some {es : List (κ × α)} {k : κ} {a : α} (h : look k es = some a) :
    (k, a) ∈ es := by
  induction es with
  | nil => cases h
  | cons hd tl ih =>
    obtain ⟨k', a'⟩ := hd
    unfold look at h
    split at h
    · cases h
    · next heq =>
      cases h
      exact Std.LawfulEqCmp.eq_of_compare heq ▸ List.mem_cons_self
    · exact List.mem_cons_of_mem _ (ih h)

/-- A table says `a` of `k` exactly when it holds that entry. -/
theorem get?_eq_some_iff {t : Table κ α} {k : κ} {a : α} :
    t.get? k = some a ↔ (k, a) ∈ t.entries :=
  ⟨mem_of_look_eq_some, look_eq_some_of_mem t.ascending⟩

/-- **A table is what it says.**  Two tables that say the same of every key are equal. -/
theorem ext_get? {s t : Table κ α} (h : ∀ k, s.get? k = t.get? k) : s = t := by
  have mem : ∀ e, e ∈ s.entries ↔ e ∈ t.entries := fun e => by
    rw [← get?_eq_some_iff (k := e.1) (a := e.2), ← get?_eq_some_iff, h]
  have nodup : ∀ {u : Table κ α}, u.entries.Nodup := fun {u} =>
    u.ascending.imp fun {a b} hab hne => by
      subst hne
      exact absurd (Std.ReflCmp.compare_self.symm.trans hab) (by decide)
  have perm : s.entries.Perm t.entries := (List.perm_ext_iff_of_nodup nodup nodup).2 mem
  have : s.entries = t.entries :=
    perm.eq_of_pairwise (fun a b _ _ (hab : compare a.1 b.1 = .lt) (hba : compare b.1 a.1 = .lt) =>
      absurd ((Std.OrientedCmp.gt_of_lt hab).symm.trans hba) (by decide)) s.ascending t.ascending
  cases s; cases t; cases this; rfl

end Table

/-- A finite set of keys, listed in strictly ascending order. -/
abbrev KeySet (κ : Type) [Ord κ] := Table κ Unit

namespace KeySet

variable {κ : Type} [Ord κ] [Std.TransOrd κ] [Std.LawfulEqOrd κ]

/-- The set with one more key. -/
def add (s : KeySet κ) (k : κ) : KeySet κ := s.insert k ()

/-- The set of the keys of a list. -/
def ofKeys (ks : List κ) : KeySet κ := ks.foldr (fun k s => s.add k) .empty

/-- The keys of either set. -/
def union (s t : KeySet κ) : KeySet κ := t.entries.foldr (fun e s => s.add e.1) s

omit [Std.TransOrd κ] [Std.LawfulEqOrd κ] in
/-- Whether no key is in both sets. -/
def disjoint (s t : KeySet κ) : Bool := s.keys.all (fun k => !t.contains k)

theorem contains_add [DecidableEq κ] (s : KeySet κ) (k k' : κ) :
    (s.add k).contains k' = (decide (k' = k) || s.contains k') := by
  by_cases h : k' = k <;> simp [add, Table.contains, Table.get?_insert, h]

end KeySet

end Rollout
