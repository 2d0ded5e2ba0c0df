import Rollout.Proofs.Contention
/-!
# Kill switches

A segment that is turned off stays off for as long as its space is served, whatever the handler does
in between (`run_of_disable`).  What that closes depends on the way of a request into the segment:

* through the layers, a request gets to what is nested in a domain only if the domain takes it in
  (`accepts_of_entered`), so that everything nested in a domain that is turned off is closed;
* a request that is forced into a segment starts there, and the segments around it are not asked.

So a segment that is turned off is entered by no request.  But it keeps nobody out who is forced
into something that is nested in it (`silences_unless_forced`).
-/

namespace Rollout

/-! ## 1. Acts of the handler -/

namespace Snapshot

/-- What the handler can be asked for while one space is served. -/
inductive Act where
  /-- Diverting a request, with the answers of the host and the numbers that are drawn for it. -/
  | handle (host : Host) (draws : Draws) (r : Request)
  /-- Turning a segment off. -/
  | disable (id : SegmentId)

/-- What is served after an act.  What is decided for a request is kept with the request. -/
def after (snapshot : Snapshot) : Act → Snapshot
  | .handle _ _ _ => snapshot
  | .disable id => (snapshot.disable id).2.1

/-- What is served after acts. -/
def run (snapshot : Snapshot) (acts : List Act) : Snapshot := acts.foldl after snapshot

theorem disable_eq (snapshot : Snapshot) (id : SegmentId) : snapshot.disable id =
    if snapshot.space.segments.contains id then
      (true, { snapshot with disabled := KeySet.add snapshot.disabled id }, [.of .disabled])
    else (false, snapshot, []) := by
  unfold disable disable?
  cases snapshot.space.segments.contains id <;> rfl

theorem run_append (snapshot : Snapshot) (first second : List Act) :
    snapshot.run (first ++ second) = (snapshot.run first).run second :=
  List.foldl_append

/-- One act leaves the space as it is, and turns nothing on. -/
theorem after_keeps (snapshot : Snapshot) (a : Act) :
    ∃ disabled, snapshot.after a = ⟨snapshot.space, disabled⟩ ∧
      ∀ id, snapshot.disabled.contains id = true → disabled.contains id = true := by
  cases a with
  | handle host draws r => exact ⟨_, rfl, fun _ h => h⟩
  | disable id =>
    rw [after, disable_eq]
    split
    · exact ⟨_, rfl, fun _ hid => KeySet.contains_add_iff.2 (.inr hid)⟩
    · exact ⟨_, rfl, fun _ hid => hid⟩

/-- Acts leave the space as it is, and turn nothing on. -/
theorem run_keeps : ∀ (acts : List Act) (snapshot : Snapshot),
    ∃ disabled, snapshot.run acts = ⟨snapshot.space, disabled⟩ ∧
      ∀ id, snapshot.disabled.contains id = true → disabled.contains id = true
  | [], _ => ⟨_, rfl, fun _ h => h⟩
  | a :: acts, snapshot => by
    obtain ⟨disabled, hafter, hoff⟩ := snapshot.after_keeps a
    obtain ⟨disabled', hrun, hoff'⟩ := run_keeps acts (snapshot.after a)
    rw [hafter] at hrun hoff'
    refine ⟨disabled', ?_, fun id hid => hoff' id (hoff id hid)⟩
    rw [← hrun, ← hafter]
    rfl

/-- **Off stays off.**  A segment that was turned off in the course of a run is off after it. -/
theorem run_of_disable {space : Space} {before : List Act} {id : SegmentId}
    (h : (((of space).run before).disable id).1 = true) (later : List Act) :
    space.segments.contains id = true ∧ ∃ disabled,
      (of space).run (before ++ .disable id :: later) = ⟨space, disabled⟩ ∧
      disabled.contains id = true := by
  obtain ⟨disabled, hbefore, -⟩ := run_keeps before (of space)
  rw [hbefore, disable_eq] at h
  have hhas : space.segments.contains id = true := by
    split at h
    · next hhas => exact hhas
    · cases h
  have hafter : after ⟨space, disabled⟩ (.disable id) = ⟨space, KeySet.add disabled id⟩ := by
    rw [after, disable_eq, if_pos hhas]
  obtain ⟨disabled', hlater, hkeeps⟩ := run_keeps later ⟨space, KeySet.add disabled id⟩
  refine ⟨hhas, disabled', ?_, hkeeps id (KeySet.contains_add_iff.2 (.inl rfl))⟩
  rw [run_append, hbefore, ← hlater, ← hafter]
  rfl

end Snapshot

/-! ## 2. The way through the layers -/

/-- A segment that is turned off takes no request in. -/
theorem SegmentInfo.accepts_of_disabled {scope : Scope} {info : SegmentInfo}
    (h : scope.disabled.contains info.id = true) : info.accepts scope = false := by
  simp [accepts, isOpen, h]

/-- **Every segment on the way takes the request in.**  Where no id is used twice, a request that
enters a segment was taken in by all the segments around it, up to where its way starts. -/
theorem accepts_of_entered (scope : Scope) :
    (∀ r : Segment, r.ids.Nodup → ∀ asked, ∀ v ∈ r.visits scope asked, ∀ id, v.entered? = some id →
      ∀ s ∈ r.members, id ∈ s.ids → s.info.accepts scope = true) ∧
    ∀ l : Layer, l.ids.Nodup → ∀ v ∈ l.visits scope, ∀ id, v.entered? = some id →
      ∀ s ∈ l.members, id ∈ s.ids → s.info.accepts scope = true := by
  refine forest_induction ?_ ?_ ?_
  · intro info effect _ asked v _ id _ s hs
    simp at hs
  · intro info layers ih hnodup asked v hv id hid s hs hids
    rw [Segment.ids_domain, List.nodup_cons] at hnodup
    rw [Segment.members_domain] at hs
    obtain ⟨k, hk, hs⟩ := List.mem_flatMap.1 hs
    have hidk : id ∈ k.ids := Layer.ids_subset_of_mem hs id hids
    rw [Segment.visits_domain, List.mem_cons, List.mem_flatMap] at hv
    rcases hv with rfl | ⟨l, hl, hv⟩
    · -- the domain itself is entered, and its id stands nowhere inside it
      obtain rfl : info.id = id := by simpa [Visit.entered?] using hid
      exact absurd (List.mem_flatMap.2 ⟨k, hk, hidk⟩) hnodup.1
    · obtain rfl := eq_of_shared hnodup.2 hl hk (Layer.mem_ids_of_entered hv hid) hidk
      exact ih l hl ((List.nodup_flatMap.1 hnodup.2).1 l hl) v hv id hid s hs hids
  · intro info segments index owned ih hnodup v hv id hid s hs hids
    have hparts := (Layer.ids_perm _).nodup_iff.1 hnodup
    rcases Layer.visits_cases scope (.mk info segments index owned) with
      ⟨outcome, hr, heq⟩ | ⟨t, ht, hacc, heq⟩
    · rw [heq, List.mem_singleton] at hv
      subst hv
      rw [Layer.not_enters_of_inr hr] at hid
      cases hid
    · rw [heq] at hv
      have hidt : id ∈ t.ids := Segment.mem_ids_of_entered hv hid
      obtain ⟨u, hu, hsu⟩ := Layer.mem_members_iff.1 hs
      have hidu : id ∈ u.ids := by
        rcases hsu with rfl | hsu
        · exact hids
        · exact Segment.ids_subset_of_mem hsu id hids
      obtain rfl := eq_of_shared hparts ht hu hidt hidu
      rcases hsu with rfl | hsu
      · exact hacc
      · exact ih t ht ((List.nodup_flatMap.1 hparts).1 t ht) _ v hv id hid s hsu hids

/-! ## 3. What a kill switch closes -/

/-- A request is forced into a segment that it does not carry and that is not turned off. -/
structure Snapshot.Forces (snapshot : Snapshot) (r : Request) (s : Segment) : Prop where
  forced : r.context.forced.contains s.info.id = true
  new : r.ids.contains s.info.id = false
  on : snapshot.disabled.contains s.info.id = false

namespace Builder

variable {b : Builder} {version : String} {space : Space} {disabled : KeySet SegmentId}

/-- A segment that is turned off is not entered. -/
theorem not_entered_of_disabled (hb : b.Sound) (h : b.build version = .ok space) {id : SegmentId}
    (hoff : disabled.contains id = true) (host : Host) (draws : Draws) (r : Request) :
    ∀ v ∈ Snapshot.visits ⟨space, disabled⟩ host draws r.context r.ids, v.entered? ≠ some id := by
  intro v hv hid
  obtain ⟨-, -, -, -, hon⟩ := entered_member hb h hv hid
  rw [hoff] at hon
  cases hon

/-- **The one way in.**  What is nested in a segment that is turned off is entered by requests that
are forced into it or into something around it that is nested there too, and by no others. -/
theorem entered_below_iff (hb : b.Sound) (h : b.build version = .ok space) {s : Segment}
    (hs : s ∈ space.members) (hoff : disabled.contains s.info.id = true) (host : Host)
    (draws : Draws) (r : Request) (v : Visit) :
    (v ∈ Snapshot.visits ⟨space, disabled⟩ host draws r.context r.ids ∧
        ∃ t ∈ s.members, v.Enters t) ↔
      ∃ u ∈ s.members, Snapshot.Forces ⟨space, disabled⟩ r u ∧
        v ∈ u.visits (Snapshot.scope ⟨space, disabled⟩ host draws r.context r.ids u.info.id) [] ∧
        v.entered?.isSome = true := by
  have hnodup := nodup_ids_build hb h
  constructor
  · rintro ⟨hv, t, ht, hent⟩
    have hid : v.entered? = some t.info.id := Visit.entered?_of_enters hent
    have hids : t.info.id ∈ s.ids := Segment.ids_subset_of_mem ht _ t.mem_ids_self
    -- the segment was not asked on the way, since it would have refused
    have hunasked : ∀ root, s.info.accepts
        (Snapshot.scope ⟨space, disabled⟩ host draws r.context r.ids root) ≠ true :=
      fun root => Bool.eq_false_iff.1 (SegmentInfo.accepts_of_disabled hoff)
    rcases (mem_visits_iff hb h).1 hv with ⟨-, l, hl, hv⟩ | ⟨u, hu, hforced, hnew, hon, hv⟩
    · obtain ⟨k, hk, hsk⟩ := List.mem_flatMap.1 hs
      have hidk : t.info.id ∈ k.ids := Layer.ids_subset_of_mem hsk _ hids
      obtain rfl := Space.eq_of_mem_ids hnodup hl hk (Layer.mem_ids_of_entered hv hid) hidk
      rw [Space.ids_eq] at hnodup
      have hlayer := (List.nodup_flatMap.1 hnodup).1 l hl
      exact absurd ((accepts_of_entered _).2 l hlayer v hv _ hid s hsk hids) (hunasked _)
    · rcases Space.nested_or_apart hnodup u hu s hs with rfl | hus | hsu | hapart
      · rw [hoff] at hon
        cases hon
      · exact ⟨u, hus, ⟨hforced, hnew, hon⟩, hv, by simp [hid]⟩
      · have hnodup' := Space.nodup_ids_of_member hnodup hu
        exact absurd ((accepts_of_entered _).1 u hnodup' [] v hv _ hid s hsu hids) (hunasked _)
      · exact absurd hids (hapart (Segment.mem_ids_of_entered hv hid))
  · rintro ⟨u, hu, hforces, hv, hsome⟩
    obtain ⟨id, hid⟩ := Option.isSome_iff_exists.1 hsome
    refine ⟨(mem_visits_iff hb h).2 (.inr
      ⟨u, Space.mem_members_of_member hs hu, hforces.forced, hforces.new, hforces.on, hv⟩), ?_⟩
    rcases (enters_member _).1 u [] v hv id hid with ⟨hent, -⟩ | ⟨t, ht, hent, -⟩
    · exact ⟨u, hu, hent⟩
    · exact ⟨t, members_trans.1 s u hu t ht, hent⟩

end Builder

/-- **What a kill switch closes.**  Once a segment was turned off, no request enters it, whatever
the handler did before and after.  What is nested in it is entered exactly where a request is forced
into something nested there that is not turned off itself.  If it is forced into nothing of that
kind, nothing nested there counts for it: a flag that no other experiment has anything to say of
keeps its calculator. -/
theorem silences_unless_forced {declared : FlagRegistry} {calls : List Builder.Call}
    {version : String} {space : Space}
    (h : ((Builder.start declared).run calls).build version = .ok space)
    (before later : List Snapshot.Act) {id : SegmentId}
    (hoff : (((Snapshot.of space).run before).disable id).1 = true) :
    ∃ s ∈ space.members, s.info.id = id ∧ ∀ (host : Host) (draws : Draws) (r : Request),
      let snapshot := (Snapshot.of space).run (before ++ .disable id :: later)
      let visits := snapshot.visits host draws r.context r.ids
      (∀ v ∈ visits, v.entered? ≠ some id) ∧
      (∀ v, (v ∈ visits ∧ ∃ t ∈ s.members, v.Enters t) ↔
        ∃ u ∈ s.members, snapshot.Forces r u ∧
          v ∈ u.visits (snapshot.scope host draws r.context r.ids u.info.id) [] ∧
          v.entered?.isSome = true) ∧
      ∃ r', (snapshot.handle host draws r).result = .ok r' ∧
        ((∀ u ∈ s.members, ¬ snapshot.Forces r u) → ∀ flag,
          (∀ v ∈ visits, Gain.tells r.context.time flag v = true →
            ∃ t, (t = s ∨ t ∈ s.members) ∧ v.Enters t) →
          r'.calculator? flag = (r.settings.getD space.settings).calculator? flag) := by
  have hb := Builder.sound_run declared calls
  obtain ⟨hhas, disabled, hrun, hoff⟩ := Snapshot.run_of_disable hoff later
  obtain ⟨s, hs⟩ := Table.contains_iff.1 hhas
  obtain ⟨hmem, rfl⟩ := (Builder.get?_segments_build hb h).1 hs
  refine ⟨s, hmem, rfl, fun host draws r => ?_⟩
  rw [hrun]
  dsimp only
  have hself := Builder.not_entered_of_disabled hb h hoff host draws r
  have hbelow := Builder.entered_below_iff hb h hmem hoff host draws r
  obtain ⟨d, hd⟩ := Snapshot.divert_isOk
    (Builder.not_contested_build hb h disabled host draws r.context r.ids)
  obtain ⟨r', hr', hkeeps⟩ := Snapshot.calculator?_handle_of_idle hd
  refine ⟨hself, hbelow, r', hr', fun hnone flag honly => hkeeps flag fun v hv => ?_⟩
  refine Bool.eq_false_iff.2 fun htells => ?_
  obtain ⟨t, rfl | ht, hent⟩ := honly v hv htells
  · exact hself v hv (Visit.entered?_of_enters hent)
  · obtain ⟨u, hu, hforces, -⟩ := (hbelow v).1 ⟨hv, t, ht, hent⟩
    exact hnone u hu hforces

/-- An experiment that is nested in a domain, and changes a flag. -/
def Builder.nestedCalls : List Builder.Call :=
  let info (id : SegmentId) (layer : LayerId) : SegmentInfo :=
    ⟨id, layer, 0, KeySet.ofKeys [0], .always, .always, .always⟩
  [.flag ⟨"f", ⟨.int 1, []⟩⟩, .criterion ⟨0, 1, true⟩,
    .layer ⟨1, topDomain, false, 101, 102, 103⟩, .segment (.domain (info 10 1)),
    .layer ⟨2, 10, false, 201, 202, 203⟩,
    .segment (.experiment (info 20 2) (Table.ofList [("f", .replace ⟨.int 2, []⟩)]))]

/-- A request that is not forced keeps out of the experiment once the domain is turned off. -/
theorem silences_unless_forced_unforced : ∃ space r,
    ((Builder.start .empty).run Builder.nestedCalls).build "v" = .ok space ∧
    ((Snapshot.of space).disable 10).1 = true ∧
    (((Snapshot.of space).run [.disable 10]).handle (fun _ _ => false) (fun _ _ _ => 0)
      (.start (.at 0))).result = .ok r ∧
    r.ids.keys = [103] ∧ r.calculator? "f" = some ⟨.int 1, []⟩ := by
  have hbuild : ((Builder.start .empty).run Builder.nestedCalls).build "v" = .ok _ := rfl
  obtain ⟨s, -, -, hs⟩ := silences_unless_forced hbuild [] []
    (rfl : (Snapshot.disable _ 10).1 = true)
  obtain ⟨-, -, r, hr, hkeeps⟩ := hs (fun _ _ => false) (fun _ _ _ => 0) (.start (.at 0))
  have hkeys : r.ids.keys = [103] := by
    cases hr
    rfl
  refine ⟨_, r, hbuild, rfl, hr, hkeys, ?_⟩
  refine hkeeps (fun u _ hforces => Bool.false_ne_true hforces.forced) "f" fun v hv htells => ?_
  -- the only visit is that of layer 1, which records that the domain refused the request
  obtain rfl := List.mem_singleton.1 hv
  cases htells

/-- A request that is forced into the experiment enters it all the same, and the flag is changed. -/
theorem entered_below_disabled : ∃ space info layers inner effect visit r,
    ((Builder.start .empty).run Builder.nestedCalls).build "v" = .ok space ∧
    ((Snapshot.of space).disable 10).1 = true ∧
    .domain info layers ∈ space.members ∧ info.id = 10 ∧
    .experiment inner effect ∈ (Segment.domain info layers).members ∧
    visit ∈ ((Snapshot.of space).run [.disable 10]).visits (fun _ _ => false) (fun _ _ _ => 0)
      { Context.at 0 with forced := KeySet.ofKeys [20] } .empty ∧
    visit.outcome = .experiment inner effect ∧
    (((Snapshot.of space).run [.disable 10]).handle (fun _ _ => false) (fun _ _ _ => 0)
      (.start { Context.at 0 with forced := KeySet.ofKeys [20] })).result = .ok r ∧
    r.ids.keys = [20] ∧ r.calculator? "f" = some ⟨.int 2, []⟩ :=
  ⟨_, _, _, _, _, _, _, rfl, rfl, .head _, rfl, .head _, .head _, rfl, rfl, rfl, rfl⟩

end Rollout
