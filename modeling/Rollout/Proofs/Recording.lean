import Rollout.Proofs.Assignment
/-!
# What a recorded id says

A request carries ids of two kinds: those of the experiments that it was assigned to, and the
fallback ids of layers in which no experiment took it in.  The builder keeps the ids of segments
apart from each other, but it compares fallback ids with nothing.  So the id of an experiment can be
the fallback id of a layer as well, and a request can carry it that was never assigned to the
experiment.

`records_experiments_and_fallbacks` has both ways in which the id of an experiment is recorded.
Where no layer falls back to the id, it says what it should: that the request was assigned to the
experiment.
-/

namespace Rollout

namespace Layer

/-- The request is assigned to an experiment of the layer, and the experiment takes it in. -/
structure Assigns (scope : Scope) (l : Layer) (info : SegmentInfo) : Prop where
  decides : ∃ criterion effect, l.Decides scope criterion (.experiment info effect)
  takes : info.Takes scope

/-- The id that a layer records because none of its segments takes the request in. -/
inductive FallsBack (scope : Scope) (l : Layer) : SegmentId → Prop
  /-- Under no criterion a segment claims the bucket of the request. -/
  | unclaimed (none : ∀ criterion ∈ scope.criteria, ¬ l.ClaimsUnder scope criterion) :
      FallsBack scope l l.info.unbiased
  /-- The segment that claims a hashed bucket refuses the request. -/
  | refused {criterion : Criterion} {s : Segment} (decides : l.Decides scope criterion s)
      (refuses : ¬ s.info.Takes scope) (hashed : criterion.random = false) :
      FallsBack scope l l.info.fixedBiased
  /-- The segment that claims a drawn bucket refuses the request. -/
  | refusedDrawn {criterion : Criterion} {s : Segment} (decides : l.Decides scope criterion s)
      (refuses : ¬ s.info.Takes scope) (random : criterion.random = true) :
      FallsBack scope l l.info.randomBiased

/-- The ids that a layer can fall back to. -/
def fallbacks (l : Layer) : List SegmentId :=
  [l.info.unbiased, l.info.fixedBiased, l.info.randomBiased]

variable {scope : Scope} {l : Layer} {id : SegmentId}

theorem FallsBack.mem (h : l.FallsBack scope id) : id ∈ l.fallbacks := by
  cases h <;> simp [fallbacks]

/-- To a request that carries nothing, a layer contributes the id of the experiment that takes it
in, or one that it falls back to. -/
theorem yields_iff_of_fresh (hfresh : ∀ id, scope.carried.contains id = false) :
    l.Yields scope id ↔ (∃ info, l.Assigns scope info ∧ info.id = id) ∨ l.FallsBack scope id := by
  have hnew : l.New scope := fun id _ => hfresh id
  constructor
  · intro h
    cases h with
    | experiment new decides takes => exact .inl ⟨_, ⟨⟨_, _, decides⟩, takes⟩, rfl⟩
    | randomBiased new decides refuses random => exact .inr (.refusedDrawn decides refuses random)
    | fixedBiased new decides refuses hashed => exact .inr (.refused decides refuses hashed)
    | unbiased new none => exact .inr (.unclaimed none)
  · rintro (⟨info, ⟨⟨criterion, effect, decides⟩, takes⟩, rfl⟩ | hfalls)
    · exact .experiment hnew decides takes
    · cases hfalls with
      | unclaimed none => exact .unbiased hnew none
      | refused decides refuses hashed => exact .fixedBiased hnew decides refuses hashed
      | refusedDrawn decides refuses random => exact .randomBiased hnew decides refuses random

end Layer

/-- A layer that a request comes to is a layer of the space. -/
theorem Visited.mem_layers {scope : Scope} {space : Space} {l : Layer}
    (h : Visited scope space.topLayers l) : l ∈ space.layers := by
  induction h with
  | top mem => exact Space.mem_layers_of_top mem
  | nested _ _ decides _ mem ih =>
    refine Space.mem_layers_of_member (Space.mem_members_iff.2 ⟨_, ih, decides.stands⟩) ?_
    rw [Segment.tree_domain]
    exact List.mem_flatMap.2 ⟨_, mem, Layer.self_mem_tree _⟩

/-- **What the id of an experiment says.**  A new request that is not forced carries the id exactly
if it came to the layer of the experiment, through all domains around it, and was assigned to the
experiment there, which was turned on, at its time and with its condition true; or if it came to a
layer that fell back to that id.  So the id says that the request was assigned to the experiment
wherever no layer of the space has it among its fallback ids. -/
theorem records_experiments_and_fallbacks {declared : FlagRegistry} {calls : List Builder.Call}
    {version : String} {space : Space}
    (h : ((Builder.start declared).run calls).build version = .ok space)
    (disabled : KeySet SegmentId) (host : Host) (draws : Draws) (context : Context)
    (hforced : context.forced.isEmpty = true) {info : SegmentInfo} {effect : Effect}
    (hexperiment : .experiment info effect ∈ space.members) :
    let scope := Snapshot.scope ⟨space, disabled⟩ host draws context .empty topDomain
    ∃ r, (Snapshot.handle ⟨space, disabled⟩ host draws (.start context)).result = .ok r ∧
      (r.ids.contains info.id = true ↔
        (∃ l, Visited scope space.topLayers l ∧ l.Assigns scope info) ∨
          ∃ l, Visited scope space.topLayers l ∧ l.FallsBack scope info.id) ∧
      ((∀ l ∈ space.layers, info.id ∉ l.fallbacks) →
        (r.ids.contains info.id = true ↔
          ∃ l, Visited scope space.topLayers l ∧ l.Assigns scope info)) := by
  intro scope
  have hb := Builder.sound_run declared calls
  obtain ⟨r, hr⟩ := Snapshot.handle_isOk (r := .start context)
    (Builder.not_contested_build hb h disabled host draws context .empty)
  have hfresh : ∀ id, scope.carried.contains id = false := fun _ => rfl
  have hyields : r.ids.contains info.id = true ↔
      ∃ l, Visited scope space.topLayers l ∧ l.Yields scope info.id := by
    rw [(Snapshot.handle_ok hr).2.2, ← Builder.recorded_iff_yields hb h hforced]
    exact or_iff_right Bool.false_ne_true
  have hids : r.ids.contains info.id = true ↔
      (∃ l, Visited scope space.topLayers l ∧ l.Assigns scope info) ∨
        ∃ l, Visited scope space.topLayers l ∧ l.FallsBack scope info.id := by
    rw [hyields, ← exists_or]
    refine exists_congr fun l => ?_
    rw [← and_or_left, Layer.yields_iff_of_fresh hfresh]
    refine and_congr_right fun hl => or_congr_left ⟨?_, fun hassigns => ⟨info, hassigns, rfl⟩⟩
    -- the experiment of that id that the layer assigns the request to is the given one
    rintro ⟨info', hassigns, hid⟩
    obtain ⟨criterion, effect', hdecides⟩ := hassigns.decides
    have hmember : .experiment info' effect' ∈ space.members :=
      Space.mem_members_iff.2 ⟨l, hl.mem_layers, hdecides.stands⟩
    have hsame := Space.eq_of_id_eq (Builder.nodup_ids_build hb h) hmember hexperiment hid
    obtain ⟨rfl, -⟩ := Segment.experiment.inj hsame
    exact hassigns
  refine ⟨r, hr, hids, fun hapart => hids.trans (or_iff_left ?_)⟩
  rintro ⟨l, hl, hfalls⟩
  exact hapart l hl.mem_layers hfalls.mem

/-- An experiment in a domain is met in its time, and no layer falls back to its id. -/
theorem records_experiments_and_fallbacks_late : ∃ space info effect r,
    ((Builder.start .empty).run Builder.lateCalls).build "v" = .ok space ∧
    (Context.at 50).forced.isEmpty = true ∧ .experiment info effect ∈ space.members ∧
    (∀ l ∈ space.layers, info.id ∉ l.fallbacks) ∧
    ((Snapshot.of space).handle (fun _ _ => false) (fun _ _ _ => 0) (.start (.at 50))).result =
      .ok r ∧
    r.ids.keys = [20] ∧
    ∃ l : Layer, l.Assigns ((Snapshot.of space).scope (fun _ _ => false) (fun _ _ _ => 0) (.at 50)
      .empty topDomain) info := by
  have hbuild : ((Builder.start .empty).run Builder.lateCalls).build "v" = .ok _ := rfl
  obtain ⟨r, hr, -, hids⟩ := records_experiments_and_fallbacks hbuild .empty (fun _ _ => false)
    (fun _ _ _ => 0) (.at 50) rfl (.tail _ (.tail _ (.head _)))
  have hkeys : r.ids.keys = [20] := by
    cases hr
    rfl
  obtain ⟨l, -, hassigns⟩ :=
    (hids (by decide +kernel)).1 (Table.mem_keys_iff.1 (hkeys ▸ List.mem_cons_self))
  exact ⟨_, _, _, r, hbuild, rfl, .tail _ (.tail _ (.head _)), by decide +kernel, hr, hkeys, l,
    hassigns⟩

/-- Layer 1 has no segments, and falls back to the id of an experiment of layer 2 that is over. -/
def Builder.confusedCalls : List Builder.Call :=
  [.criterion ⟨0, 1, true⟩, .layer ⟨1, topDomain, false, 20, 102, 103⟩,
    .layer ⟨2, topDomain, false, 201, 202, 203⟩,
    .segment (.experiment ⟨20, 2, 0, KeySet.ofKeys [0], .always, ⟨0, 100⟩, .always⟩ .empty)]

/-- The builder accepts that, and a new request carries the id of the experiment, which refused
it. -/
theorem records_unassigned_experiment : ∃ space info effect r,
    ((Builder.start .empty).run Builder.confusedCalls).build "v" = .ok space ∧
    (Context.at 200).forced.isEmpty = true ∧ .experiment info effect ∈ space.members ∧
    ((Snapshot.of space).handle (fun _ _ => false) (fun _ _ _ => 0) (.start (.at 200))).result =
      .ok r ∧
    r.ids.contains info.id = true ∧
    ¬ ∃ l : Layer, l.Assigns ((Snapshot.of space).scope (fun _ _ => false) (fun _ _ _ => 0)
      (.at 200) .empty topDomain) info := by
  refine ⟨_, _, _, _, rfl, rfl, .head _, rfl, rfl, ?_⟩
  rintro ⟨l, hassigns⟩
  exact absurd hassigns.takes.active (by decide +kernel)

end Rollout
