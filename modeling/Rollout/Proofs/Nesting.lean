import Mathlib.Data.List.Chain
import Rollout.Proofs.Assembly
import Rollout.Proofs.Overlap
/-!
# Layers inside layers

The builder follows a layer outwards, from each layer to the one that its domain is in, until it
comes to a layer of the space itself.  `Builder.Climbs` has this loop as it is, with nothing that
counts its turns.  It comes to an end from every layer (`Sound.climbs_lineage`), since each layer
was added after the domain that it is nested in, and what it lists is exactly what `Builder.Within`
says of domains and layers.

With it, what a space is refused for is said without the searches of the builder: `Builder.Fault`
has the two ways in which the layers that override a flag can be wrong, with what is reported in
each.
-/

namespace Rollout

namespace Builder

variable {b : Builder}

/-! ## 1. The way outwards -/

/-- The layer that has the domain of a layer, unless that one stands in the space itself. -/
def outer? (b : Builder) (id : LayerId) : Option LayerId :=
  (b.draft? id).bind fun draft =>
    if draft.info.isTop then none else (b.segment? draft.info.domain).map (·.info.layer)

/-- **The loop.**  What it lists when it starts at a layer and comes to an end. -/
inductive Climbs (b : Builder) : LayerId → List LayerId → Prop where
  | last {id : LayerId} (hlast : b.outer? id = none) : Climbs b id [id]
  | next {id outer : LayerId} {path : List LayerId} (hnext : b.outer? id = some outer)
      (hrest : Climbs b outer path) : Climbs b id (id :: path)

/-- A layer is nested in a domain of another one. -/
def Within (b : Builder) (inner outer : LayerId) : Prop :=
  ∃ d ∈ b.drafts, d.info.id = inner ∧ d.info.isTop = false ∧ ∃ e ∈ b.drafts, e.info.id = outer ∧
    ∃ s ∈ e.segments, s.isDomain = true ∧ s.info.id = d.info.domain

/-- A search by a key that names the members of a list finds the one that it names. -/
theorem find?_eq_of_nodup {α κ : Type} [DecidableEq κ] {key : α → κ} {l : List α}
    (h : (l.map key).Nodup) {a : α} (ha : a ∈ l) : l.find? (fun x => key x == key a) = some a := by
  cases hfind : l.find? fun x => key x == key a with
  | none => exact absurd (beq_self_eq_true _) (List.find?_eq_none.1 hfind a ha)
  | some x =>
    have hkey : key x = key a := by simpa using List.find?_some hfind
    rw [List.inj_on_of_nodup_map h (List.mem_of_find?_eq_some hfind) ha hkey]

/-- The layer of an id. -/
theorem Sound.draft?_eq (hb : b.Sound) {d : LayerDraft} (hd : d ∈ b.drafts) :
    b.draft? d.info.id = some d :=
  find?_eq_of_nodup hb.layerIds hd

/-- The segment of an id. -/
theorem Sound.segment?_eq (hb : b.Sound) {s : SegmentDefinition} (hs : s ∈ b.segments) :
    b.segment? s.info.id = some s :=
  find?_eq_of_nodup hb.segmentIds hs

theorem outer?_of_not_hasLayer {id : LayerId} (h : ∀ d ∈ b.drafts, d.info.id ≠ id) :
    b.outer? id = none := by
  have hnone : b.draft? id = none :=
    List.find?_eq_none.2 fun d hd hid => h d hd (beq_iff_eq.1 hid)
  rw [outer?, hnone, Option.bind_none]

theorem Sound.outer?_top (hb : b.Sound) {d : LayerDraft} (hd : d ∈ b.drafts)
    (htop : d.info.isTop = true) : b.outer? d.info.id = none := by
  rw [outer?, hb.draft?_eq hd, Option.bind_some, if_pos htop]

theorem Sound.outer?_nested (hb : b.Sound) {d e : LayerDraft} (hd : d ∈ b.drafts)
    (htop : d.info.isTop = false) (he : e ∈ b.drafts) {s : SegmentDefinition}
    (hs : s ∈ e.segments) (hid : s.info.id = d.info.domain) :
    b.outer? d.info.id = some e.info.id := by
  have hsegment := hb.segment?_eq (mem_segments_iff.2 ⟨e, he, hs⟩)
  rw [outer?, hb.draft?_eq hd, Option.bind_some, if_neg (Bool.eq_false_iff.1 htop), ← hid, hsegment,
    Option.map_some, (hb.drafts e he).layer s hs]

/-- The way outwards is the way from a layer to the one with its domain. -/
theorem Sound.outer?_eq_some_iff (hb : b.Sound) {inner outer : LayerId} :
    b.outer? inner = some outer ↔ b.Within inner outer := by
  constructor
  · intro h
    by_cases hlayer : ∃ d ∈ b.drafts, d.info.id = inner
    swap
    · rw [outer?_of_not_hasLayer fun d hd hid => hlayer ⟨d, hd, hid⟩] at h
      cases h
    obtain ⟨d, hd, rfl⟩ := hlayer
    cases htop : d.info.isTop with
    | true =>
      rw [hb.outer?_top hd htop] at h
      cases h
    | false =>
      obtain ⟨e, he, s, hs, hdomain, hid⟩ := hb.nested.exists_domain hd htop
      rw [hb.outer?_nested hd htop he hs hid] at h
      exact ⟨d, hd, rfl, htop, e, he, Option.some.inj h, s, hs, hdomain, hid⟩
  · rintro ⟨d, hd, rfl, htop, e, he, rfl, s, hs, -, hid⟩
    exact hb.outer?_nested hd htop he hs hid

/-! ## 2. Where the way leads -/

namespace Climbs

variable {id : LayerId} {path path' : List LayerId}

/-- The loop starts at the layer itself. -/
theorem exists_cons (h : b.Climbs id path) : ∃ rest, path = id :: rest := by
  cases h with
  | last => exact ⟨[], rfl⟩
  | next => exact ⟨_, rfl⟩

/-- The loop has no two results. -/
theorem unique (h : b.Climbs id path) (h' : b.Climbs id path') : path = path' := by
  induction h generalizing path' with
  | last hlast =>
    cases h' with
    | last => rfl
    | next hnext => exact absurd (hlast.symm.trans hnext) (by simp)
  | next hnext hrest ih =>
    cases h' with
    | last hlast => exact absurd (hlast.symm.trans hnext) (by simp)
    | next hnext' hrest' =>
      obtain rfl := Option.some.inj (hnext.symm.trans hnext')
      rw [ih hrest']

/-- Starting at a layer that it comes by, the loop lists what it listed from there on. -/
theorem exists_suffix (h : b.Climbs id path) {other : LayerId} (hother : other ∈ path) :
    ∃ rest, b.Climbs other rest ∧ rest <:+ path := by
  induction h with
  | last hlast =>
    obtain rfl := List.mem_singleton.1 hother
    exact ⟨_, .last hlast, List.suffix_rfl⟩
  | next hnext hrest ih =>
    rcases List.mem_cons.1 hother with rfl | hother
    · exact ⟨_, .next hnext hrest, List.suffix_rfl⟩
    · obtain ⟨rest, hclimbs, hsuffix⟩ := ih hother
      exact ⟨rest, hclimbs, hsuffix.trans (List.suffix_cons _ _)⟩

/-- The loop comes by no layer twice, or it would list the same from there on and not end. -/
theorem nodup (h : b.Climbs id path) : path.Nodup := by
  induction h with
  | last => exact List.nodup_singleton _
  | @next id outer path hnext hrest ih =>
    refine List.nodup_cons.2 ⟨fun hagain => ?_, ih⟩
    obtain ⟨rest, hclimbs, hsuffix⟩ := hrest.exists_suffix hagain
    have hlength := hsuffix.length_le
    rw [hclimbs.unique (.next hnext hrest), List.length_cons] at hlength
    omega

/-- Each layer that the loop lists is nested in the next one. -/
theorem isChain (hb : b.Sound) (h : b.Climbs id path) : path.IsChain b.Within := by
  induction h with
  | last => exact .singleton _
  | next hnext hrest ih =>
    obtain ⟨rest, rfl⟩ := hrest.exists_cons
    exact List.isChain_cons_cons.2 ⟨hb.outer?_eq_some_iff.1 hnext, ih⟩

/-- The loop lists the layer and all that it is nested in, however deep. -/
theorem mem_iff (hb : b.Sound) (h : b.Climbs id path) {other : LayerId} :
    other ∈ path ↔ Relation.ReflTransGen b.Within id other := by
  induction h with
  | @last id hlast =>
    rw [List.mem_singleton, Relation.ReflTransGen.cases_head_iff]
    refine ⟨fun heq => .inl heq.symm, ?_⟩
    rintro (heq | ⟨outer, hwithin, -⟩)
    · exact heq.symm
    · rw [← hb.outer?_eq_some_iff, hlast] at hwithin
      cases hwithin
  | @next id outer path hnext hrest ih =>
    rw [List.mem_cons, ih, Relation.ReflTransGen.cases_head_iff (a := id)]
    refine or_congr eq_comm ⟨fun hfar => ⟨outer, hb.outer?_eq_some_iff.1 hnext, hfar⟩, ?_⟩
    rintro ⟨outer', hwithin, hfar⟩
    obtain rfl := Option.some.inj (hnext.symm.trans (hb.outer?_eq_some_iff.2 hwithin))
    exact hfar

/-- After the layer itself, the loop lists exactly what it is nested in. -/
theorem mem_rest_iff (hb : b.Sound) {rest : List LayerId} (h : b.Climbs id (id :: rest))
    {other : LayerId} : other ∈ rest ↔ Relation.TransGen b.Within id other := by
  rw [Relation.TransGen.head'_iff]
  cases h with
  | last hlast =>
    refine iff_of_false List.not_mem_nil ?_
    rintro ⟨outer, hwithin, -⟩
    rw [← hb.outer?_eq_some_iff, hlast] at hwithin
    cases hwithin
  | @next _ outer _ hnext hrest =>
    rw [hrest.mem_iff hb]
    refine ⟨fun hfar => ⟨outer, hb.outer?_eq_some_iff.1 hnext, hfar⟩, ?_⟩
    rintro ⟨outer', hwithin, hfar⟩
    obtain rfl := Option.some.inj (hnext.symm.trans (hb.outer?_eq_some_iff.2 hwithin))
    exact hfar

/-- From a layer, the loop ends at one that stands in the space itself. -/
theorem ends_top (hb : b.Sound) (h : b.Climbs id path) (hid : ∃ d ∈ b.drafts, d.info.id = id) :
    ∃ top ∈ b.drafts, top.info.isTop = true ∧ path.getLast? = some top.info.id := by
  induction h with
  | last hlast =>
    obtain ⟨d, hd, rfl⟩ := hid
    cases htop : d.info.isTop with
    | true => exact ⟨d, hd, htop, rfl⟩
    | false =>
      obtain ⟨e, he, s, hs, -, hdomain⟩ := hb.nested.exists_domain hd htop
      rw [hb.outer?_nested hd htop he hs hdomain] at hlast
      cases hlast
  | next hnext hrest ih =>
    obtain ⟨-, -, -, -, e, he, heid, -⟩ := hb.outer?_eq_some_iff.1 hnext
    obtain ⟨top, htop, hlast⟩ := ih ⟨e, he, heid⟩
    obtain ⟨rest, rfl⟩ := hrest.exists_cons
    exact ⟨top, htop, by rwa [List.getLast?_cons_cons]⟩

end Climbs

/-- **The loop ends**, wherever it starts: each layer is younger than the one that it is nested
in. -/
theorem Sound.climbs_lineage (hb : b.Sound) (id : LayerId) : b.Climbs id (b.lineage id) := by
  have hlayers : ∀ {newer older : List LayerDraft}, newer ++ older = b.drafts →
      ∀ d ∈ older, b.Climbs d.info.id (b.lineage d.info.id) := by
    intro newer older
    induction older generalizing newer with
    | nil => exact fun _ d hd => absurd hd List.not_mem_nil
    | cons first older ih =>
      intro heq d hd
      have hsplit : (newer ++ [first]) ++ older = b.drafts := by simp [heq]
      rcases List.mem_cons.1 hd with rfl | hd
      swap
      · exact ih hsplit d hd
      have hd : d ∈ b.drafts := heq ▸ by simp
      cases htop : d.info.isTop with
      | true =>
        rw [hb.lineage_top hd htop]
        exact .last (hb.outer?_top hd htop)
      | false =>
        obtain ⟨e, he, s, hs, -, hid⟩ := Nested.domain (heq ▸ hb.nested) htop
        have he' : e ∈ b.drafts := heq ▸ by simp [he]
        rw [hb.lineage_nested hd htop he' hs hid]
        exact .next (hb.outer?_nested hd htop he' hs hid) (ih hsplit e he)
  by_cases hid : ∃ d ∈ b.drafts, d.info.id = id
  · obtain ⟨d, hd, rfl⟩ := hid
    exact hlayers (List.nil_append _) d hd
  · have hnone : ∀ d ∈ b.drafts, d.info.id ≠ id := fun d hd heq => hid ⟨d, hd, heq⟩
    rw [lineage_of_not_hasLayer hnone]
    exact .last (outer?_of_not_hasLayer hnone)

/-- One of two layers is nested in the other one, however deep. -/
def Meet (b : Builder) (first second : LayerId) : Prop :=
  Relation.TransGen b.Within first second ∨ Relation.TransGen b.Within second first

/-- Two layers overlap exactly if one of them is nested in the other one. -/
theorem Sound.overlapping_iff (hb : b.Sound) {first second : LayerId} (hne : first ≠ second) :
    b.overlapping first second = true ↔ b.Meet first second := by
  have hmem : ∀ {inner outer : LayerId}, inner ≠ outer →
      ((b.lineage inner).contains outer = true ↔ Relation.TransGen b.Within inner outer) := by
    intro inner outer hne
    rw [List.contains_iff_mem, (hb.climbs_lineage inner).mem_iff hb,
      Relation.reflTransGen_iff_eq_or_transGen]
    exact or_iff_right (Ne.symm hne)
  rw [overlapping, Bool.or_eq_true, hmem hne, hmem hne.symm, Meet]

/-! ## 3. The layers that override a flag -/

/-- A layer, be it a launch layer or not, has an experiment that overrides a flag. -/
def Overriding (b : Builder) (flag : String) (launch : Bool) (id : LayerId) : Prop :=
  ∃ d ∈ b.drafts, d.info.id = id ∧ d.info.launch = launch ∧
    ∃ info overrides, .experiment info overrides ∈ d.segments ∧ overrides.contains flag = true

theorem overridesFlag_iff {flag : String} {d : LayerDraft} : overridesFlag flag d = true ↔
    ∃ info overrides, .experiment info overrides ∈ d.segments ∧ overrides.contains flag = true := by
  rw [overridesFlag, List.any_eq_true]
  constructor
  · rintro ⟨s, hs, ho⟩
    cases s with
    | experiment info overrides => exact ⟨info, overrides, hs, ho⟩
    | domain info => cases ho
  · rintro ⟨info, overrides, hs, ho⟩
    exact ⟨_, hs, ho⟩

/-- The layers of one sort that override a flag, in ascending order. -/
def overridingIds (b : Builder) (flag : String) (launch : Bool) : List LayerId :=
  ((b.rivals flag).filter fun info => info.launch == launch).map (·.id)

theorem mem_overridingIds_iff (hb : b.Sound) {flag : String} {launch : Bool} {id : LayerId} :
    id ∈ b.overridingIds flag launch ↔ b.Overriding flag launch id := by
  simp only [overridingIds, List.mem_map, List.mem_filter, mem_rivals_iff hb, beq_iff_eq]
  constructor
  · rintro ⟨_, ⟨⟨d, hd, ho, rfl⟩, hlaunch⟩, rfl⟩
    exact ⟨d, hd, rfl, hlaunch, overridesFlag_iff.1 ho⟩
  · rintro ⟨d, hd, rfl, hlaunch, ho⟩
    exact ⟨d.info, ⟨⟨d, hd, overridesFlag_iff.2 ho, rfl⟩, hlaunch⟩, rfl⟩

theorem ascending_overridingIds (hb : b.Sound) (flag : String) (launch : Bool) :
    (b.overridingIds flag launch).Pairwise (· < ·) :=
  List.pairwise_map.2 ((ascending_rivals hb flag).filter _)

theorem flagError?_eq_ids (hb : b.Sound) (flag : String) : b.flagError? flag =
    if 1 < (b.overridingIds flag true).length then
      some (.multipleLaunchLayers flag (b.overridingIds flag true))
    else (findPair? b.overlapping (b.overridingIds flag false)).map fun pair =>
      .overlappingLayers flag pair.1 pair.2 := by
  simp [flagError?_eq_rivals hb, overridingIds]

theorem one_lt_length_iff {ids : List LayerId} (h : ids.Pairwise (· < ·)) :
    1 < ids.length ↔ ∃ i ∈ ids, ∃ j ∈ ids, i ≠ j := by
  rw [← not_le, @length_le_one_iff _ (fun id => id) ids h]
  push Not
  rfl

/-- The pair that is found is related, and no related pair of the list comes before it. -/
theorem findPair?_eq_some {related : LayerId → LayerId → Bool} {first second : LayerId} :
    ∀ {ids : List LayerId}, ids.Pairwise (· < ·) → findPair? related ids = some (first, second) →
      first ∈ ids ∧ second ∈ ids ∧ first < second ∧ related first second = true ∧
        ∀ i ∈ ids, ∀ j ∈ ids, i < j → related i j = true → first < i ∨ first = i ∧ second ≤ j
  | [], _, h => by cases h
  | head :: rest, hids, h => by
    obtain ⟨hhead, hrest⟩ := List.pairwise_cons.1 hids
    rw [findPair?] at h
    cases hfind : rest.find? (related head) with
    | none =>
      rw [hfind] at h
      obtain ⟨hfirst, hsecond, hlt, hrelated, hleast⟩ := findPair?_eq_some hrest h
      refine ⟨List.mem_cons_of_mem _ hfirst, List.mem_cons_of_mem _ hsecond, hlt, hrelated, ?_⟩
      intro i hi j hj hij hrel
      have hrestj : j ∈ rest := by
        rcases List.mem_cons.1 hj with rfl | hj
        · rcases List.mem_cons.1 hi with rfl | hi
          · exact absurd hij Int32.lt_irrefl
          · exact absurd (Int32.lt_trans hij (hhead i hi)) Int32.lt_irrefl
        · exact hj
      rcases List.mem_cons.1 hi with rfl | hi
      · exact absurd hrel (List.find?_eq_none.1 hfind j hrestj)
      · exact hleast i hi j hrestj hij hrel
    | some found =>
      rw [hfind] at h
      obtain ⟨rfl, rfl⟩ := Prod.mk.inj (Option.some.inj h)
      obtain ⟨hrelated, before, after, hsplit, hnone⟩ := List.find?_eq_some_iff_append.1 hfind
      have hfound : found ∈ rest := List.mem_of_find?_eq_some hfind
      refine ⟨List.mem_cons_self, List.mem_cons_of_mem _ hfound, hhead found hfound, hrelated, ?_⟩
      intro i hi j hj hij hrel
      rcases List.mem_cons.1 hi with rfl | hi
      swap
      · exact .inl (hhead i hi)
      refine .inr ⟨rfl, ?_⟩
      rcases List.mem_cons.1 hj with rfl | hj
      · exact absurd hij Int32.lt_irrefl
      -- nothing before the one that was found is related, and what follows it is greater
      rw [hsplit] at hj hrest
      rcases List.mem_append.1 hj with hj | hj
      · have := hnone j hj
        rw [hrel] at this
        cases this
      · rcases List.mem_cons.1 hj with rfl | hj
        · exact Int32.le_refl _
        · have hafter := (List.pairwise_append.1 hrest).2.1
          exact Int32.le_of_lt (List.rel_of_pairwise_cons hafter hj)

/-! ## 4. What a space is refused for -/

/-- Two layers that are no launch layers override a flag, and one of them is nested in the other
one. -/
structure Tangled (b : Builder) (flag : String) (i j : LayerId) : Prop where
  first : b.Overriding flag false i
  second : b.Overriding flag false j
  different : i ≠ j
  meet : b.Meet i j

/-- Two launch layers override a flag, or two layers do of which one is nested in the other one. -/
def Offends (b : Builder) (flag : String) : Prop :=
  (∃ i j, b.Overriding flag true i ∧ b.Overriding flag true j ∧ i ≠ j) ∨ ∃ i j, b.Tangled flag i j

/-- What is wrong with the layers that override a flag. -/
inductive Fault (b : Builder) (flag : String) : ValidationError → Prop where
  /-- They are several launch layers, which are listed in ascending order. -/
  | launch {ids : List LayerId}
    (hmany : ∃ i j, b.Overriding flag true i ∧ b.Overriding flag true j ∧ i ≠ j)
    (hall : ∀ id, id ∈ ids ↔ b.Overriding flag true id) (hascending : ids.Pairwise (· < ·)) :
    Fault b flag (.multipleLaunchLayers flag ids)
  /-- One launch layer at most overrides the flag, and of two other layers one is nested in the
  other one.  The pair that is named comes first of all. -/
  | nested {first second : LayerId}
    (hone : ∀ i j, b.Overriding flag true i → b.Overriding flag true j → i = j)
    (htangled : b.Tangled flag first second)
    (hleast : ∀ i j, b.Tangled flag i j → first < i ∨ first = i ∧ second ≤ j) :
    Fault b flag (.overlappingLayers flag first second)

theorem Tangled.symm {flag : String} {first second : LayerId} (h : b.Tangled flag first second) :
    b.Tangled flag second first :=
  ⟨h.second, h.first, h.different.symm, h.meet.symm⟩

theorem Fault.offends {flag : String} {e : ValidationError} (h : b.Fault flag e) :
    b.Offends flag := by
  cases h with
  | launch hmany => exact .inl hmany
  | nested _ htangled => exact .inr ⟨_, _, htangled⟩

/-- A flag is wrong in one way. -/
theorem Fault.unique {flag : String} {e e' : ValidationError} (h : b.Fault flag e)
    (h' : b.Fault flag e') : e = e' := by
  cases h with
  | launch hmany hall hascending =>
    cases h' with
    | launch _ hall' hascending' =>
      rw [@eq_of_ascending LayerId (fun id => id) _ _ hascending hascending' fun id =>
        (hall id).trans (hall' id).symm]
    | nested hone =>
      obtain ⟨i, j, hi, hj, hne⟩ := hmany
      exact absurd (hone i j hi hj) hne
  | nested hone htangled hleast =>
    cases h' with
    | launch hmany =>
      obtain ⟨i, j, hi, hj, hne⟩ := hmany
      exact absurd (hone i j hi hj) hne
    | nested _ htangled' hleast' =>
      rcases hleast _ _ htangled' with hlt | ⟨rfl, hle⟩
      · rcases hleast' _ _ htangled with hlt' | ⟨rfl, -⟩
        · exact absurd (Int32.lt_trans hlt hlt') Int32.lt_irrefl
        · exact absurd hlt Int32.lt_irrefl
      · rcases hleast' _ _ htangled with hlt | ⟨-, hle'⟩
        · exact absurd hlt Int32.lt_irrefl
        · rw [Int32.le_antisymm hle hle']

/-- **What is found.**  Each error that the search finds is a fault of the flag. -/
theorem fault_of_flagError? (hb : b.Sound) {flag : String} {e : ValidationError}
    (h : b.flagError? flag = some e) : b.Fault flag e := by
  rw [flagError?_eq_ids hb] at h
  have hmany := one_lt_length_iff (ascending_overridingIds hb flag true)
  simp only [mem_overridingIds_iff hb] at hmany
  split at h
  · next hlength =>
    obtain ⟨i, hi, j, hj, hne⟩ := hmany.1 hlength
    obtain rfl := Option.some.inj h
    exact .launch ⟨i, j, hi, hj, hne⟩ (fun _ => mem_overridingIds_iff hb)
      (ascending_overridingIds hb flag true)
  · next hlength =>
    obtain ⟨⟨first, second⟩, hpair, rfl⟩ := Option.map_eq_some_iff.1 h
    obtain ⟨hfirst, hsecond, hlt, hover, hleast⟩ :=
      findPair?_eq_some (ascending_overridingIds hb flag false) hpair
    rw [mem_overridingIds_iff hb] at hfirst hsecond
    have hne : first ≠ second := fun heq => Int32.lt_irrefl (heq ▸ hlt)
    refine .nested (fun i j hi hj => ?_)
      ⟨hfirst, hsecond, hne, (hb.overlapping_iff hne).1 hover⟩ fun i j htangled => ?_
    · by_contra hne
      exact hlength (hmany.2 ⟨i, hi, j, hj, hne⟩)
    -- the search looks at pairs that ascend, and each pair that does not comes after one that does
    have hascending : ∀ {i j : LayerId}, b.Tangled flag i j → i < j →
        first < i ∨ first = i ∧ second ≤ j := fun {i j} htangled hij =>
      hleast i ((mem_overridingIds_iff hb).2 htangled.first) j
        ((mem_overridingIds_iff hb).2 htangled.second) hij
        ((hb.overlapping_iff htangled.different).2 htangled.meet)
    rcases Int32.lt_or_lt_of_ne htangled.different with hij | hji
    · exact hascending htangled hij
    · rcases hascending htangled.symm hji with hfar | ⟨rfl, -⟩
      · exact .inl (Int32.lt_trans hfar hji)
      · exact .inl hji

/-- The search finds something if a flag offends. -/
theorem exists_flagError?_of_offends (hb : b.Sound) {flag : String} (h : b.Offends flag) :
    ∃ e, b.flagError? flag = some e := by
  refine Option.ne_none_iff_exists'.1 fun hnone => ?_
  have hapart := (flagError?_eq_none_iff hb).1 hnone
  rcases h with ⟨i, j, ⟨d, hd, rfl, hld, hod⟩, ⟨e, he, rfl, hle, hoe⟩, hne⟩ |
    ⟨i, j, ⟨d, hd, rfl, hpd, hod⟩, ⟨e, he, rfl, hpe, hoe⟩, hne, hmeet⟩
  · exact hapart d hd e he
      ⟨overridesFlag_iff.2 hod, overridesFlag_iff.2 hoe, hne, .inl ⟨hld, hle⟩⟩
  · exact hapart d hd e he ⟨overridesFlag_iff.2 hod, overridesFlag_iff.2 hoe, hne,
      .inr ⟨hpd, hpe, (hb.overlapping_iff hne).2 hmeet⟩⟩

theorem flagError?_eq_some_iff (hb : b.Sound) {flag : String} {e : ValidationError} :
    b.flagError? flag = some e ↔ b.Fault flag e := by
  refine ⟨fault_of_flagError? hb, fun h => ?_⟩
  obtain ⟨e', he'⟩ := exists_flagError?_of_offends hb h.offends
  rw [he', h.unique (fault_of_flagError? hb he')]

/-- The search looks at each flag that offends. -/
theorem mem_overriddenFlags_of_offends {flag : String} (h : b.Offends flag) :
    flag ∈ b.overriddenFlags.keys := by
  rcases h with ⟨i, j, ⟨d, hd, -, -, ho⟩, -⟩ | ⟨i, j, ⟨d, hd, -, -, ho⟩, -⟩
  · exact mem_overriddenFlags_keys hd (overridesFlag_iff.2 ho)
  · exact mem_overriddenFlags_keys hd (overridesFlag_iff.2 ho)

/-- **What is reported** is the fault of the least flag that offends. -/
theorem build_eq_error_iff (hb : b.Sound) {version : String} {e : ValidationError} :
    b.build version = .error e ↔
      ∃ flag, b.Fault flag e ∧ ∀ other, b.Offends other → flag ≤ other := by
  have hbuild : b.build version = .error e ↔
      b.overriddenFlags.keys.findSome? b.flagError? = some e := by
    unfold build
    split
    · next e' he => simp [he]
    · next he => simp [he]
  have hascending : b.overriddenFlags.keys.Pairwise (· < ·) :=
    (Table.ascending_keys _).imp compareOfLessAndEq_eq_lt.1
  rw [hbuild, List.findSome?_eq_some_iff]
  constructor
  · rintro ⟨before, flag, after, hkeys, hflag, hbefore⟩
    refine ⟨flag, fault_of_flagError? hb hflag, fun other hother => ?_⟩
    have hmem := mem_overriddenFlags_of_offends hother
    rw [hkeys] at hmem hascending
    rcases List.mem_append.1 hmem with hmem | hmem
    · obtain ⟨e', he'⟩ := exists_flagError?_of_offends hb hother
      rw [hbefore other hmem] at he'
      cases he'
    · rcases List.mem_cons.1 hmem with rfl | hmem
      · exact String.le_refl _
      · exact Std.le_of_lt (List.rel_of_pairwise_cons (List.pairwise_append.1 hascending).2.1 hmem)
  · rintro ⟨flag, hfault, hleast⟩
    obtain ⟨before, after, hkeys⟩ :=
      List.append_of_mem (mem_overriddenFlags_of_offends hfault.offends)
    refine ⟨before, flag, after, hkeys, (flagError?_eq_some_iff hb).2 hfault,
      fun other hother => ?_⟩
    rw [hkeys] at hascending
    refine Option.eq_none_iff_forall_ne_some.2 fun e' he' => ?_
    have hlt := (List.pairwise_append.1 hascending).2.2 other hother flag List.mem_cons_self
    exact absurd hlt (String.not_lt.2 (hleast other (fault_of_flagError? hb he').offends))

/-- A space is refused exactly if a flag offends. -/
theorem exists_build_error_iff (hb : b.Sound) {version : String} :
    (∃ e, b.build version = .error e) ↔ ∃ flag, b.Offends flag := by
  constructor
  · rintro ⟨e, he⟩
    obtain ⟨flag, hfault, -⟩ := (build_eq_error_iff hb).1 he
    exact ⟨flag, hfault.offends⟩
  · rintro ⟨flag, hoffends⟩
    obtain ⟨e, he⟩ := exists_flagError?_of_offends hb hoffends
    cases hbuild : b.build version with
    | error e => exact ⟨e, rfl⟩
    | ok space =>
      have hapart := (build_isOk_iff hb).1 ⟨space, hbuild⟩ flag
      rw [← flagError?_eq_none_iff hb, he] at hapart
      cases hapart

end Builder

/-- **What only shows across layers** is checked exactly, whatever calls there were.  From each
layer the way outwards comes to an end: it lists the layer, then the layers that enclose it,
innermost first and each of them once, and ends at a layer of the space itself.  A space is refused
just if a flag is overridden in two launch layers, or in two other layers of which one is nested in
the other one, however deep.  The error is about the least such flag.  It lists all launch layers
that override the flag, in ascending order; if there are not two of them, it names the least pair of
other layers. -/
theorem cross_layer_exact (declared : FlagRegistry) (calls : List Builder.Call) (version : String) :
    let b := (Builder.start declared).run calls
    (∀ d ∈ b.drafts, ∃ rest,
      b.lineage d.info.id = d.info.id :: rest ∧
      (∀ path, b.Climbs d.info.id path ↔ path = d.info.id :: rest) ∧
      (d.info.id :: rest).IsChain b.Within ∧
      (∀ outer, outer ∈ rest ↔ Relation.TransGen b.Within d.info.id outer) ∧
      (d.info.id :: rest).Nodup ∧
      ∃ top ∈ b.drafts, top.info.isTop = true ∧ (d.info.id :: rest).getLast? = some top.info.id) ∧
    ((∃ e, b.build version = .error e) ↔ ∃ flag, b.Offends flag) ∧
    ∀ e, b.build version = .error e ↔
      ∃ flag, b.Fault flag e ∧ ∀ other, b.Offends other → flag ≤ other := by
  intro b
  have hb : b.Sound := Builder.sound_run declared calls
  refine ⟨fun d hd => ?_, Builder.exists_build_error_iff hb, fun e => Builder.build_eq_error_iff hb⟩
  have hclimbs := hb.climbs_lineage d.info.id
  obtain ⟨rest, hrest⟩ := hclimbs.exists_cons
  rw [hrest] at hclimbs
  refine ⟨rest, hrest, fun path => ⟨fun h => h.unique hclimbs, fun h => h ▸ hclimbs⟩,
    hclimbs.isChain hb, fun outer => hclimbs.mem_rest_iff hb, hclimbs.nodup,
    hclimbs.ends_top hb ⟨d, hd, rfl⟩⟩

end Rollout
