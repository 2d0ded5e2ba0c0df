import Rollout.Proofs.Ownership
import Rollout.Proofs.Resolution
/-!
# Diversion after diversion

A request may be diverted many times, each time through another space, and what it has is kept: what
it carries closes the layers that own it, and an experiment that it carries is not entered again by
force.

* `Builder.not_carried_of_recorded`: in a built space nothing is recorded that the request carries
  already.  A layer is asked for all the ids that it owns, so that also an id that another space
  recorded closes it.
* `Diverted` is a request that goes through any spaces, one after the other.  It records no id twice
  (`Diverted.recorded_once`).
* `rediversion_only_adds` is about one more diversion: the ids grow, the settings get layers on top,
  and only flags of experiments that are new change.
-/

namespace Rollout

/-! ## 1. Nothing is recorded twice -/

/-- A layer records no id that the request carries. -/
theorem Layer.not_carried_of_recorded {scope : Scope} {l : Layer} (hmade : ∀ m ∈ l.tree, m.Made)
    {v : Visit} (hv : v ∈ l.visits scope) {id : SegmentId} (hid : v.recorded? = some id) :
    scope.carried.contains id = false := by
  by_cases hnew : l.New scope
  · exact hnew id ((owns_of_recorded scope).2 l v hv id hid)
  · rw [visits_of_not_new hmade hnew, List.mem_singleton] at hv
    subst hv
    cases hid

/-- On the way into a segment that the request does not carry, no id is recorded that it does. -/
theorem Segment.not_carried_of_recorded {scope : Scope} {s : Segment}
    (hmade : ∀ l ∈ s.tree, l.Made) (hself : scope.carried.contains s.info.id = false)
    {asked : List Leaf} {v : Visit} (hv : v ∈ s.visits scope asked) {id : SegmentId}
    (hid : v.recorded? = some id) : scope.carried.contains id = false := by
  cases s with
  | experiment info effect =>
    rw [visits_experiment, List.mem_singleton] at hv
    subst hv
    obtain rfl : info.id = id := Option.some.inj hid
    exact hself
  | domain info layers =>
    rw [visits_domain, List.mem_cons, List.mem_flatMap] at hv
    rcases hv with rfl | ⟨l, hl, hv⟩
    · cases hid
    · refine l.not_carried_of_recorded (fun m hm => hmade m ?_) hv hid
      rw [tree_domain]
      exact List.mem_flatMap.2 ⟨l, hl, hm⟩

/-- **Nothing is recorded that is carried.**  Whatever a request brings along from other spaces, in
a built space it meets only what is new to it. -/
theorem Builder.not_carried_of_recorded {b : Builder} {version : String} {space : Space}
    (hb : b.Sound) (h : b.build version = .ok space) {disabled : KeySet SegmentId} {host : Host}
    {draws : Draws} {context : Context} {carried : KeySet SegmentId} {id : SegmentId}
    (hid : Recorded (Snapshot.visits ⟨space, disabled⟩ host draws context carried) id) :
    carried.contains id = false := by
  have hmade := made_build hb h
  obtain ⟨v, hv, hid⟩ := hid
  rcases (mem_visits_iff hb h).1 hv with ⟨-, l, hl, hv⟩ | ⟨s, hs, -, hself, -, hv⟩
  · exact l.not_carried_of_recorded (fun m hm => hmade m (List.mem_flatMap.2 ⟨l, hl, hm⟩)) hv hid
  · exact s.not_carried_of_recorded (fun l hl => hmade l (Space.mem_layers_of_member hs hl))
      hself hv hid

/-! ## 2. A run of diversions -/

/-- A request goes through spaces that were built, one after the other.  Listed are the builders of
the spaces and what the request met in each. -/
inductive Diverted : Request → List (Builder × List Visit) → Request → Prop
  | nil {r : Request} : Diverted r [] r
  | cons {declared : FlagRegistry} {calls : List Builder.Call} {version : String} {space : Space}
    {disabled : KeySet SegmentId} {host : Host} {draws : Draws} {r r₁ r' : Request}
    {met : List (Builder × List Visit)}
    (built : ((Builder.start declared).run calls).build version = .ok space)
    (handled : (Snapshot.handle ⟨space, disabled⟩ host draws r).result = .ok r₁)
    (rest : Diverted r₁ met r') :
    Diverted r (((Builder.start declared).run calls,
      Snapshot.visits ⟨space, disabled⟩ host draws r.context r.ids) :: met) r'

namespace Diverted

variable {r r' : Request} {met : List (Builder × List Visit)}

theorem context_eq (h : Diverted r met r') : r'.context = r.context := by
  induction h with
  | nil => rfl
  | cons _ handled _ ih => exact ih.trans (Snapshot.handle_ok handled).2.1

/-- **The ids grow.**  A request carries what it carried before and what it recorded since. -/
theorem contains_ids_iff (h : Diverted r met r') {id : SegmentId} :
    r'.ids.contains id = true ↔ r.ids.contains id = true ∨ ∃ call ∈ met, Recorded call.2 id := by
  induction h with
  | nil => simp
  | cons _ handled _ ih =>
    obtain ⟨-, -, hids⟩ := Snapshot.handle_ok handled
    rw [ih, hids, or_assoc, List.exists_mem_cons_iff]
    rfl

/-- Nothing that is recorded on the way was carried at first. -/
theorem not_carried (h : Diverted r met r') : ∀ call ∈ met, ∀ id, Recorded call.2 id →
    r.ids.contains id = false := by
  induction h with
  | nil => nofun
  | cons built handled _ ih =>
    refine List.forall_mem_cons.2 ⟨fun id hid => ?_, fun call hcall id hid => ?_⟩
    · exact Builder.not_carried_of_recorded (Builder.sound_run _ _) built hid
    · refine Bool.eq_false_iff.2 fun hc => ?_
      have hlater := ih call hcall id hid
      rw [((Snapshot.handle_ok handled).2.2 id).2 (.inl hc)] at hlater
      cases hlater

/-- **No id is recorded twice**, in whatever spaces. -/
theorem recorded_once (h : Diverted r met r') :
    met.Pairwise fun first second => ∀ id, Recorded first.2 id → ¬ Recorded second.2 id := by
  induction h with
  | nil => exact .nil
  | cons _ handled rest ih =>
    refine .cons (fun call hcall id hfirst hsecond => ?_) ih
    have hlater := rest.not_carried call hcall id hsecond
    rw [((Snapshot.handle_ok handled).2.2 id).2 (.inr hfirst)] at hlater
    cases hlater

end Diverted

/-! ## 3. One more diversion -/

/-- A request that was diverted before keeps its settings, under the layers of the diversion. -/
theorem Request.settings_record {r : Request} {settings : Settings} (h : r.settings = some settings)
    (base : Settings) (d : Diversion) : (r.record base d).settings =
      some { settings with layers := d.layers ++ settings.layers } := by
  unfold record
  split
  · next hkeeps =>
    have hnone : d.layers = [] := List.isEmpty_iff.1 (Bool.and_eq_true_iff.1 hkeeps).2
    rw [h, hnone]
    rfl
  · rw [settingsAfter, h]
    rfl

/-- The layers that a diversion brings have flags of experiments that count for them. -/
theorem Builder.counts_of_installed {b : Builder} {version : String} {space : Space} (hb : b.Sound)
    (h : b.build version = .ok space) {disabled : KeySet SegmentId} {host : Host}
    {draws : Draws} {context : Context} {carried : KeySet SegmentId} {d : Diversion}
    (hd : Snapshot.divert ⟨space, disabled⟩ host draws context carried = .ok d) (flag : String)
    (hflag : ∃ overrides ∈ d.layers, overrides.contains flag = true) :
    ∃ v ∈ Snapshot.visits ⟨space, disabled⟩ host draws context carried, ∃ change,
      b.Counts context.time flag change v := by
  by_contra hnone
  have hidle := Snapshot.get?_layers_of_idle hd fun v hv => Bool.eq_false_iff.2 fun htells => by
    exact hnone ⟨v, hv, ((defined_build hb h v hv).tells_iff hb _ _).1 htells⟩
  obtain ⟨overrides, hmem, hcontains⟩ := hflag
  rw [Table.contains_eq_false_iff.2 (List.findSome?_eq_none_iff.1 hidle overrides hmem)]
    at hcontains
  cases hcontains

/-- **A further diversion only adds.**  Let a request have gone through any spaces, and let it go
through one more.

* The ids grow, by what is recorded now, and none of that was carried before.
* Whatever counts for a flag is an experiment that was not carried before.
* If the request was diverted before, its settings get layers on top, each with flags of such
  experiments only, and every other flag keeps its calculator. -/
theorem rediversion_only_adds {context : Context} {met : List (Builder × List Visit)}
    {r r' : Request} (hrun : Diverted (.start context) met r) {declared : FlagRegistry}
    {calls : List Builder.Call} {version : String} {space : Space}
    (hbuild : ((Builder.start declared).run calls).build version = .ok space)
    {disabled : KeySet SegmentId} {host : Host} {draws : Draws}
    (h : (Snapshot.handle ⟨space, disabled⟩ host draws r).result = .ok r') :
    let b := (Builder.start declared).run calls
    let visits := Snapshot.visits ⟨space, disabled⟩ host draws context r.ids
    (∀ id, r.ids.contains id = true ↔ ∃ call ∈ met, Recorded call.2 id) ∧
    (∀ id, r'.ids.contains id = true ↔ r.ids.contains id = true ∨ Recorded visits id) ∧
    (∀ id, Recorded visits id → r.ids.contains id = false) ∧
    (∀ v ∈ visits, ∀ flag change, b.Counts context.time flag change v →
      ∃ id, v.entered? = some id ∧ r.ids.contains id = false ∧ r'.ids.contains id = true) ∧
    ∀ settings, r.settings = some settings → ∃ installed,
      r'.settings = some { settings with layers := installed ++ settings.layers } ∧
      (∀ flag, (∃ overrides ∈ installed, overrides.contains flag = true) →
        ∃ v ∈ visits, ∃ change, b.Counts context.time flag change v) ∧
      ∀ flag, (∀ v ∈ visits, ∀ change, ¬ b.Counts context.time flag change v) →
        r'.calculator? flag = r.calculator? flag := by
  intro b visits
  have hb : b.Sound := Builder.sound_run declared calls
  have hcontext : r.context = context := hrun.context_eq
  have hids := (Snapshot.handle_ok h).2.2
  rw [hcontext] at hids
  have hfresh : ∀ id, Recorded visits id → r.ids.contains id = false :=
    fun id hid => Builder.not_carried_of_recorded hb hbuild hid
  refine ⟨fun id => ?_, hids, hfresh, fun v hv flag change hcounts => ?_, fun settings hs => ?_⟩
  · rw [hrun.contains_ids_iff]
    simp [Request.start]
  · obtain ⟨info, effect, hout, -, -⟩ := hcounts
    have hrecorded : Recorded visits info.id := ⟨v, hv, by simp [Visit.recorded?, hout]⟩
    exact ⟨info.id, by simp [Visit.entered?, hout], hfresh _ hrecorded, (hids _).2 (.inr hrecorded)⟩
  · obtain ⟨d, hd⟩ := Snapshot.divert_isOk
      (Builder.not_contested_build hb hbuild disabled host draws context r.ids)
    obtain rfl : r.record space.settings d = r' := by
      rw [Snapshot.handle, hcontext, hd] at h
      exact Except.ok.inj h
    have hcounts := Builder.counts_of_installed hb hbuild hd
    refine ⟨d.layers, Request.settings_record hs _ d, hcounts, fun flag hnone => ?_⟩
    have hidle : d.layers.findSome? (·.get? flag) = none := by
      refine List.findSome?_eq_none_iff.2 fun overrides hmem => ?_
      refine Table.contains_eq_false_iff.1 (Bool.eq_false_iff.2 fun hc => ?_)
      obtain ⟨v, hv, change, hc⟩ := hcounts flag ⟨overrides, hmem, hc⟩
      exact hnone v hv change hc
    rw [Snapshot.calculator?_record, hidle, Option.none_or, hs, Request.calculator?, hs]
    rfl

/-- An experiment in a layer of its own that changes one flag, for each of some flags. -/
def Builder.soloCalls (flags : List (String × Int32)) : List Builder.Call :=
  .criterion ⟨0, 1, true⟩ :: flags.flatMap fun (flag, layer) =>
    [.flag ⟨flag, ⟨.int 1, []⟩⟩, .layer ⟨layer, topDomain, false, layer + 1, layer + 2, layer + 3⟩,
      .segment (.experiment ⟨layer + 4, layer, 0, KeySet.ofKeys [0], .always, .always, .always⟩
        (Table.ofList [(flag, .replace ⟨.int 2, []⟩)]))]

/-- A request that has gone through a space goes through another one, which has the same experiment
and one more: only the second experiment is entered, and the first flag keeps its calculator. -/
theorem rediversion_only_adds_solo : ∃ space space' met, ∃ r r' : Request,
    ((Builder.start .empty).run (Builder.soloCalls [("f", 10)])).build "v" = .ok space ∧
    ((Builder.start .empty).run (Builder.soloCalls [("f", 10), ("g", 20)])).build "w" = .ok space' ∧
    Diverted (.start (.at 0)) met r ∧ r.ids.keys = [14] ∧
    (Snapshot.handle ⟨space', .empty⟩ (fun _ _ => false) (fun _ _ _ => 0) r).result = .ok r' ∧
    r'.ids.keys = [14, 24] ∧ r'.calculator? "g" = some ⟨.int 2, []⟩ ∧
    r'.calculator? "f" = r.calculator? "f" := by
  have hbuild : ((Builder.start .empty).run (Builder.soloCalls [("f", 10)])).build "v" = .ok _ :=
    rfl
  have hbuild' : ((Builder.start .empty).run (Builder.soloCalls [("f", 10), ("g", 20)])).build "w" =
    .ok _ := rfl
  have hrun := @Diverted.cons _ _ _ _ .empty (fun _ _ => false) (fun _ _ _ => 0) (.start (.at 0))
    _ _ _ hbuild rfl .nil
  obtain ⟨-, -, -, -, hsettings⟩ :=
    @rediversion_only_adds _ _ _ _ hrun _ _ _ _ hbuild' .empty (fun _ _ => false) (fun _ _ _ => 0)
      rfl
  obtain ⟨installed, -, -, hkeeps⟩ := hsettings _ rfl
  refine ⟨_, _, _, _, _, hbuild, hbuild', hrun, rfl, rfl, rfl, rfl, ?_⟩
  refine hkeeps "f" fun v hv change hcounts => ?_
  -- layer 10 passes the request by, and the experiment of layer 20 changes the other flag
  rcases List.mem_pair.1 hv with rfl | rfl
  · obtain ⟨_, _, hout, -⟩ := hcounts
    cases hout
  · obtain ⟨_, _, hout, -, s, hs, hid, hc⟩ := hcounts
    cases hout
    rcases List.mem_pair.1 hs with rfl | rfl
    · cases hc
    · cases hid

end Rollout
