import Rollout.Proofs.Conservation
import Rollout.Proofs.Request
import Rollout.Proofs.Resolution
import Rollout.Proofs.Typing
/-!
# Flags have values of their type

Types are checked where things are made: the modifiers and the calculators one by one, the flags
against their declarations when a builder takes them, and the overrides against their flags when it
takes a segment.  Nothing is checked when the calculators of a request are put together.

This module follows a flag from the builder to the request.  What a builder holds was made
(`Builder.Typed`); so whatever a visit says of a flag computes values of its type
(`Builder.computes_of_visit`), and so does the calculator that a request has after any diversions
(`Request.Follows.computes`), as long as the spaces that it meets agree on the type of the flag.
Where they do not, a request keeps the type that it has met first.
-/

namespace Rollout

variable {given : Operator → Prop} {declared : FlagRegistry} {version : String} {space : Space}

/-! ## 1. What a builder holds -/

namespace Builder

/-- The calculator of a flag, or the overrides of a segment, were made. -/
def Part.Made (given : Operator → Prop) : Part → Prop
  | .flag f => f.calculator.Made given
  | .segment s => ∀ name change, s.overrides.get? name = some change → change.Made given
  | _ => True

/-- All that a call offers was made with operators that are given. -/
def Call.Made (given : Operator → Prop) (c : Call) : Prop := ∀ part ∈ c.parts, part.Made given

/-- What a builder holds was made, and flags have the types that they are declared with. -/
structure Typed (given : Operator → Prop) (declared : FlagRegistry) (b : Builder) : Prop where
  types : b.declared = (start declared).declared
  flags : ∀ name c, b.flags.get? name = some c → c.Made given
  agree : ∀ name c, b.flags.get? name = some c →
    ∀ type, declared.type? name = some type → c.type = type
  overrides : ∀ s ∈ b.segments, ∀ name change, s.overrides.get? name = some change →
    change.Made given

variable {b b' : Builder} {parts : List Part} {calls : List Call}

theorem typed_start (given : Operator → Prop) (declared : FlagRegistry) :
    (start declared).Typed given declared where
  types := rfl
  flags _ _ h := by cases h
  agree _ _ h := by cases h
  overrides _ h := by cases h

/-- **The step.** -/
theorem Typed.add (hb : b.Typed given declared) {part : Part} (hpart : part.Made given)
    (h : b.add part = .ok b') : b'.Typed given declared := by
  cases part with
  | flag f =>
    obtain ⟨-, htype, rfl⟩ := addFlag_eq_ok_iff.1 h
    rw [hb.types] at htype
    refine { hb with flags := fun name c hc => ?_, agree := fun name c hc => ?_ }
    · rw [Table.get?_insert] at hc
      split at hc
      · cases hc
        exact hpart
      · exact hb.flags name c hc
    · rw [Table.get?_insert] at hc
      split at hc
      · next hname =>
        cases hc
        intro type ht
        rw [hname, ← lookup_start] at ht
        exact (htype type ht).symm
      · exact hb.agree name c hc
  | criterion c =>
    obtain ⟨-, -, rfl⟩ := addCriterion_eq_ok_iff.1 h
    exact { hb with }
  | layer info =>
    have hsegments := segments_addLayer h
    obtain ⟨-, -, -, rfl⟩ := addLayer_eq_ok_iff.1 h
    exact { hb with overrides := hsegments ▸ hb.overrides }
  | segment s =>
    have hperm := perm_segments_addSegment h
    have hoverrides : ∀ t ∈ b'.segments, ∀ name change, t.overrides.get? name = some change →
        change.Made given := by
      intro t ht
      rcases List.mem_cons.1 (hperm.mem_iff.1 ht) with rfl | ht
      · exact hpart
      · exact hb.overrides t ht
    obtain ⟨-, -, -, _, -, -, -, _, -, rfl⟩ := addSegment_eq_ok_iff.1 h
    exact { hb with overrides := hoverrides }

/-- Many parts, one after the other. -/
theorem Typed.addEach : ∀ {parts : List Part} {b : Builder}, b.Typed given declared →
    (∀ part ∈ parts, part.Made given) → Builder.addEach Builder.add b parts = (b', none) →
    b'.Typed given declared
  | [], b, hb, _, h => addEach_nil_iff.1 h ▸ hb
  | part :: rest, b, hb, hparts, h => by
    obtain ⟨hpart, hrest⟩ := List.forall_mem_cons.1 hparts
    obtain ⟨b₁, hadd, h⟩ := addEach_cons_iff.1 h
    exact (hb.add hpart hadd).addEach hrest h

/-- What is added was offered. -/
theorem Added.mem (h : Added b calls parts) : ∀ part ∈ parts, ∃ c ∈ calls, part ∈ c.parts := by
  induction h with
  | nil => simp
  | cons htaken _ ih =>
    intro part hpart
    rcases List.mem_append.1 hpart with hpart | hpart
    · exact ⟨_, List.mem_cons_self, htaken.among.subset hpart⟩
    · obtain ⟨c, hc, hpart⟩ := ih part hpart
      exact ⟨c, List.mem_cons_of_mem _ hc, hpart⟩

/-- **The run.**  After any calls the builder holds what was made. -/
theorem typed_run (declared : FlagRegistry) (hcalls : ∀ c ∈ calls, c.Made given) :
    ((start declared).run calls).Typed given declared := by
  obtain ⟨parts, hadded⟩ := exists_added calls (start declared)
  refine (typed_start given declared).addEach (fun part hpart => ?_) hadded.adds
  obtain ⟨c, hc, hpart⟩ := hadded.mem part hpart
  exact hcalls c hc part hpart

/-! ## 2. What is said of a flag -/

/-- A change of a flag keeps the type of the flag. -/
theorem Typed.computes_apply (ht : b.Typed given declared) (hb : b.Sound) {s : SegmentDefinition}
    (hs : s ∈ b.segments) {name : String} {change : FlagOverride}
    (hchange : s.overrides.get? name = some change) {base c : Calculator}
    (hbase : b.flags.get? name = some base) (hc : c.Computes given base.type) :
    (change.apply c).Computes given base.type := by
  obtain ⟨base', hbase', hsuits⟩ := hb.overrides s hs name change hchange
  obtain rfl : base = base' := Option.some.inj (hbase.symm.trans hbase')
  exact FlagOverride.computes_apply (ht.overrides s hs name change hchange)
    (FlagOverride.expectType_eq_ok_iff.1 hsuits) hc

/-- **What an experiment does to a flag** makes values of the type of the flag, whichever launch
experiments the request is in. -/
theorem computes_of_effect (ht : b.Typed given declared) (hb : b.Sound) {s : SegmentDefinition}
    (hs : s ∈ b.segments) {layer : LayerInfo} {isIn : SegmentId → Bool} {name : String}
    {c : Calculator} (hc : (b.effect layer s.overrides).calculator? isIn name = some c) :
    ∃ base, b.flags.get? name = some base ∧ c.Computes given base.type := by
  rcases Option.or_eq_some_iff.1 hc with hlaunch | ⟨-, hplain⟩
  · obtain ⟨e, he, hcalc⟩ := List.exists_of_findSome?_eq_some hlaunch
    split at hcalc
    swap
    · cases hcalc
    have hentry := Table.get?_eq_some_iff.2 (List.mem_reverse.1 he)
    -- a launch layer has no entries for launch experiments
    cases hlayer : layer.launch with
    | true => simp [effect, hlayer] at hentry
    | false =>
      simp only [effect, hlayer, Bool.false_eq_true, if_false] at hentry
      obtain ⟨launch, change, base, ⟨l, hl, -, hfirst⟩, hchange, hbase, rfl⟩ :=
        (get?_launchEffects hb s.overrides e.1 name c).1 (by rw [hentry]; exact hcalc)
      obtain ⟨d, hd, -, hl⟩ := mem_launchSegments_iff.1 hl
      refine ⟨base, hbase, ht.computes_apply hb hs hchange hbase ?_⟩
      exact ht.computes_apply hb (mem_segments_iff.2 ⟨d, hd, hl⟩) hfirst hbase
        (ht.flags name base hbase).computes
  · rw [effect, get?_overridden] at hplain
    obtain ⟨change, hchange, hplain⟩ := Option.bind_eq_some_iff.1 hplain
    obtain ⟨base, hbase, rfl⟩ := Option.map_eq_some_iff.1 hplain
    exact ⟨base, hbase, ht.computes_apply hb hs hchange hbase (ht.flags name base hbase).computes⟩

/-- **What a visit says of a flag** makes values of the type of the flag. -/
theorem computes_of_visit (ht : b.Typed given declared) (hb : b.Sound)
    (h : b.build version = .ok space) {disabled : KeySet SegmentId} {host : Host}
    {draws : Draws} {context : Context} {carried : KeySet SegmentId} {v : Visit}
    (hv : v ∈ Snapshot.visits ⟨space, disabled⟩ host draws context carried) {time : Int64}
    {isIn : SegmentId → Bool} {name : String} {c : Calculator}
    (hc : v.calculator? time isIn name = some c) :
    ∃ base, b.flags.get? name = some base ∧ c.Computes given base.type := by
  unfold Visit.calculator? at hc
  split at hc
  swap
  · cases hc
  next info effect hout =>
  split at hc
  swap
  · cases hc
  -- the experiment was accepted, be it met in a layer or be it forced
  obtain ⟨d, hd, overrides, hs, rfl⟩ := defined_build hb h v hv info effect hout
  exact computes_of_effect ht hb (mem_segments_iff.2 ⟨d, hd, hs⟩) hc

end Builder

/-! ## 3. Requests -/

/-- The space was built for declared flags, by calls that offer what was made. -/
def Space.Built (given : Operator → Prop) (declared : FlagRegistry) (space : Space) : Prop :=
  ∃ calls version, (∀ c ∈ calls, Builder.Call.Made given c) ∧
    ((Builder.start declared).run calls).build version = .ok space

/-- A flag of the space, if it has one of that name, has values of a type. -/
def Space.Types (name : String) (type : FlagType) (space : Space) : Prop :=
  ∀ base, space.flags.get? name = some base → base.type = type

/-- The requests that spaces serve: handled by any of them, any number of times and each time with
some segments turned off, and read in between. -/
inductive Request.Follows (served : Space → Prop) : Request → Prop
  | start {context : Context} : Follows served (.start context)
  | handle {r r' : Request} {space : Space} {disabled : KeySet SegmentId} {host : Host}
    {draws : Draws} (hr : Follows served r) (hspace : served space)
    (h : (Snapshot.handle ⟨space, disabled⟩ host draws r).result = .ok r') : Follows served r'
  | get {r : Request} {host : Host} {flag : Flag} (hr : Follows served r) :
    Follows served (r.get host flag).request
  | value {r : Request} {host : Host} {name : String} (hr : Follows served r) :
    Follows served (r.value host name).request

variable {served : Space → Prop} {name : String} {type : FlagType} {r r' : Request}
  {disabled : KeySet SegmentId} {host : Host} {draws : Draws}

/-- Of a flag that is declared before the builder is made, a space has values of the declared
type. -/
theorem Space.Built.types (h : space.Built given declared)
    (htype : declared.type? name = some type) : space.Types name type := by
  obtain ⟨calls, version, hmade, hbuild⟩ := h
  intro base hbase
  rw [(Builder.build_ok hbuild).2] at hbase
  exact (Builder.typed_run declared hmade).agree name base hbase type htype

/-- The calculators that a request starts from in a space: those of its settings, or else those of
the space. -/
theorem Request.calculator?_getD (r : Request) (space : Space) (name : String) :
    (r.settings.getD space.settings).calculator? name =
      if r.isDiverted then r.calculator? name else space.flags.get? name := by
  cases hs : r.settings <;> simp [Request.isDiverted, Request.calculator?, hs, Space.settings,
    Settings.calculator?]

/-- **The step.**  Where the space agrees on the type of a flag, a diversion brings the flag
calculators for values of that type only. -/
theorem Space.Built.computes_handle (hbuilt : space.Built given declared)
    (htypes : space.Types name type)
    (hr : ∀ c, r.calculator? name = some c → c.Computes given type)
    (h : (Snapshot.handle ⟨space, disabled⟩ host draws r).result = .ok r') {c : Calculator}
    (hc : r'.calculator? name = some c) : c.Computes given type := by
  obtain ⟨calls, version, hmade, hbuild⟩ := hbuilt
  have ht := Builder.typed_run declared hmade
  have hb := Builder.sound_run declared calls
  have hflags : space.flags = ((Builder.start declared).run calls).flags := by
    rw [(Builder.build_ok hbuild).2]
    rfl
  obtain ⟨d, hd, rfl⟩ := Snapshot.record_of_handle h
  rw [Snapshot.calculator?_record] at hc
  rcases Option.or_eq_some_iff.1 hc with hc | ⟨-, hc⟩
  · obtain ⟨base, hbase, hcomputes⟩ := Snapshot.forall_get?_layers
      (P := fun c => ∃ base, space.flags.get? name = some base ∧ c.Computes given base.type) hd
      (fun v hv isIn c hc => hflags ▸ Builder.computes_of_visit ht hb hbuild hv hc) c hc
    exact htypes base hbase ▸ hcomputes
  · -- what the diversion says nothing of is as it was, or as the space defines it
    rw [Request.calculator?_getD] at hc
    split at hc
    · exact hr c hc
    · exact htypes c hc ▸ (ht.flags name c (hflags ▸ hc)).computes

/-- **The run.**  Where all spaces that a request meets agree on the type of a flag, the request has
calculators for values of that type only. -/
theorem Request.Follows.computes (hr : r.Follows served)
    (hserved : ∀ space, served space → ∃ declared, space.Built given declared)
    (htypes : ∀ space, served space → space.Types name type) {c : Calculator}
    (hc : r.calculator? name = some c) : c.Computes given type := by
  induction hr generalizing c with
  | start => cases hc
  | handle _ hspace h ih =>
    obtain ⟨declared, hbuilt⟩ := hserved _ hspace
    exact hbuilt.computes_handle (htypes _ hspace) (fun _ => ih) h hc
  | get _ ih =>
    rw [calculator?, Request.settings_get] at hc
    exact ih hc
  | value _ ih =>
    rw [calculator?, Request.settings_value] at hc
    exact ih hc

/-- A request that was diverted has a calculator for each flag that all spaces have. -/
theorem Request.Follows.defined (hr : r.Follows served) (hd : r.isDiverted = true)
    (hdefined : ∀ space, served space → ∃ base, space.flags.get? name = some base) :
    ∃ c, r.calculator? name = some c := by
  induction hr with
  | start => cases hd
  | @handle r r' space disabled host draws _ hspace h ih =>
    obtain ⟨d, -, rfl⟩ := Snapshot.record_of_handle h
    have hkept : ∃ c, (r.settings.getD space.settings).calculator? name = some c := by
      rw [Request.calculator?_getD]
      split
      · next hbefore => exact ih hbefore
      · exact hdefined space hspace
    rw [← Option.isSome_iff_exists] at hkept ⊢
    rw [Snapshot.calculator?_record, Option.isSome_or, hkept, Bool.or_true]
  | get _ ih =>
    rw [isDiverted, Request.settings_get] at hd
    rw [calculator?, Request.settings_get]
    exact ih hd
  | value _ ih =>
    rw [isDiverted, Request.settings_value] at hd
    rw [calculator?, Request.settings_value]
    exact ih hd

/-! ## 4. Type soundness -/

end Rollout
