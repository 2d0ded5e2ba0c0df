import Rollout.Proofs.Assignment
/-!
# Requests that come back

A request may be diverted again on the snapshot that it was diverted on.  Nothing is to change then:
the layers in which it gained an id pass it by.  What is left to look at are the layers in which it
gained none.

* Where no criterion is random, such a layer comes to the same decision again (`Visited.of_again`,
  `Layer.Yields.of_again`), which records nothing as it recorded nothing before.  So a second
  diversion changes nothing at all (`handle_idempotent`).
* A layer that is new to a request records something, unless the request ends in a domain without
  layers (`records_or_ends`).  Where numbers are drawn, these are the layers in which a second
  diversion can turn out differently (`repeats_unless_left_open`).
-/

namespace Rollout

/-! ## 1. The same request again -/

/-- The request when it comes back: it carries other ids by then, and other numbers are drawn. -/
def Scope.again (scope : Scope) (carried : KeySet SegmentId) (draw : LayerId → CriterionId → Nat) :
    Scope :=
  { scope with carried, draw }

section

variable {scope : Scope} {carried : KeySet SegmentId} {draw : LayerId → CriterionId → Nat}
  {l : Layer}

/-- A layer that is new to a request is new to it as long as it carries less. -/
theorem Layer.New.of_again (h : l.New (scope.again carried draw))
    (hgrows : ∀ id, scope.carried.contains id = true → carried.contains id = true) :
    l.New scope := by
  intro id hid
  refine Bool.eq_false_iff.2 fun hc => ?_
  have hlater : carried.contains id = false := h id hid
  rw [hgrows id hc] at hlater
  cases hlater

theorem Scope.bucket?_again {criterion : Criterion} (h : criterion.random = false)
    (layer : LayerId) :
    (scope.again carried draw).bucket? layer criterion = scope.bucket? layer criterion := by
  rw [bucket?, bucket?, h]
  rfl

theorem Layer.claimsUnder_again_iff {criterion : Criterion} (h : criterion.random = false) :
    l.ClaimsUnder (scope.again carried draw) criterion ↔ l.ClaimsUnder scope criterion := by
  simp only [ClaimsUnder, Scope.bucket?_again h]

variable (hfixed : ∀ criterion ∈ scope.criteria, criterion.random = false)

include hfixed

theorem Layer.Decides.of_again {criterion : Criterion} {s : Segment}
    (h : l.Decides (scope.again carried draw) criterion s) : l.Decides scope criterion s := by
  refine ⟨h.among, h.stands, ?_, fun other hother hclaims => h.least other hother ?_⟩
  · obtain ⟨bucket, hb, hs⟩ := h.claims
    exact ⟨bucket, (Scope.bucket?_again (hfixed criterion h.among) _).symm.trans hb, hs⟩
  · exact (claimsUnder_again_iff (hfixed other hother)).2 hclaims

variable (hgrows : ∀ id, scope.carried.contains id = true → carried.contains id = true)

include hgrows

/-- **The same decision.**  Where no number is drawn, a layer yields nothing else to a request that
comes back. -/
theorem Layer.Yields.of_again {id : SegmentId} (h : l.Yields (scope.again carried draw) id) :
    l.Yields scope id := by
  cases h with
  | experiment new decides takes =>
    exact .experiment (new.of_again hgrows) (decides.of_again hfixed)
      ⟨takes.enabled, takes.active, takes.condition⟩
  | randomBiased new decides refuses random =>
    exact .randomBiased (new.of_again hgrows) (decides.of_again hfixed)
      (fun takes => refuses ⟨takes.enabled, takes.active, takes.condition⟩) random
  | fixedBiased new decides refuses hashed =>
    exact .fixedBiased (new.of_again hgrows) (decides.of_again hfixed)
      (fun takes => refuses ⟨takes.enabled, takes.active, takes.condition⟩) hashed
  | unbiased new none =>
    exact .unbiased (new.of_again hgrows) fun criterion hc hclaims =>
      none criterion hc ((claimsUnder_again_iff (hfixed criterion hc)).2 hclaims)

/-- A request that comes back comes to no other layers. -/
theorem Visited.of_again {tops : List Layer} (h : Visited (scope.again carried draw) tops l) :
    Visited scope tops l := by
  induction h with
  | top mem => exact .top mem
  | nested _ new decides takes mem ih =>
    exact .nested ih (new.of_again hgrows) (decides.of_again hfixed)
      ⟨takes.enabled, takes.active, takes.condition⟩ mem

end

/-- A layer that yields an id owns it, and the request is new to it. -/
theorem Layer.Yields.owns {scope : Scope} {l : Layer} {id : SegmentId} (h : l.Yields scope id) :
    l.New scope ∧ l.Owns id := by
  rw [Layer.owns_iff]
  cases h with
  | experiment new decides _ =>
    exact ⟨new, .inr ⟨_, decides.stands, Segment.owns_experiment.2 rfl⟩⟩
  | randomBiased new _ _ _ | fixedBiased new _ _ _ | unbiased new _ => exact ⟨new, .inl (by simp)⟩

/-- **Nothing new.**  Where no number is drawn, a request that carries whatever it recorded in
layers records nothing there when it comes back. -/
theorem silent_again (scope : Scope) {criteria : List Criterion} {carried : KeySet SegmentId}
    {draw : LayerId → CriterionId → Nat} {tops : List Layer}
    (hreadable : ∀ t ∈ tops, ∀ m ∈ t.tree, m.Readable criteria) (hordered : scope.Ordered)
    (hfixed : ∀ criterion ∈ scope.criteria, criterion.random = false)
    (hgrows : ∀ id, scope.carried.contains id = true → carried.contains id = true)
    (hkept : ∀ t ∈ tops, ∀ v ∈ t.visits scope, ∀ id, v.recorded? = some id →
      carried.contains id = true) :
    ∀ t ∈ tops, ∀ v ∈ t.visits (scope.again carried draw), v.recorded? = none := by
  intro t ht v hv
  refine Option.eq_none_iff_forall_ne_some.2 fun id hid => ?_
  have hordered' : (scope.again carried draw).Ordered := hordered
  obtain ⟨l, hl, hyields⟩ :=
    (Visited.of_visit tops hordered').2 t (hreadable t ht) (.top ht) v hv id hid
  -- the first time the same layer yielded the same id, so by now the request carries it
  obtain ⟨u, hu, hmem, hsubset⟩ := (hl.of_again hfixed hgrows).visits_subset hreadable hordered
  obtain ⟨w, hw, hwid⟩ :=
    (hreadable u hu l hmem).recorded_of_yields hordered (hyields.of_again hfixed hgrows)
  have hnew : carried.contains id = false := hyields.owns.1 id hyields.owns.2
  rw [hkept u hu w (hsubset w hw) id hwid] at hnew
  cases hnew

/-! ## 2. Layers that record nothing -/

/-- **A layer that is new to a request records something**, unless the request ends in a domain that
has no layers. -/
theorem records_or_ends (scope : Scope) :
    (∀ s : Segment, (∀ l ∈ s.tree, l.Made ∧ l.New scope) → ∀ asked,
      (∀ v ∈ s.visits scope asked, v.isContested = false) → ∃ v ∈ s.visits scope asked,
        v.recorded? ≠ none ∨ ∃ info, Segment.domain info [] ∈ s :: s.members ∧
          v.Enters (.domain info [])) ∧
    ∀ l : Layer, (∀ m ∈ l.tree, m.Made ∧ m.New scope) →
      (∀ v ∈ l.visits scope, v.isContested = false) → ∃ v ∈ l.visits scope,
        v.recorded? ≠ none ∨ ∃ info, Segment.domain info [] ∈ l.members ∧
          v.Enters (.domain info []) := by
  refine forest_induction ?_ ?_ ?_
  · intro info effect _ asked _
    rw [Segment.visits_experiment]
    exact ⟨_, List.mem_cons_self, .inl nofun⟩
  · intro info layers ih hnew asked hcontested
    rw [Segment.visits_domain, Segment.members_domain] at *
    cases layers with
    | nil => exact ⟨_, List.mem_cons_self, .inr ⟨info, List.mem_cons_self, rfl⟩⟩
    | cons l rest =>
      obtain ⟨v, hv, hends⟩ := ih l List.mem_cons_self
        (fun m hm => hnew m (by simp [hm])) fun v hv => hcontested v (by simp [hv])
      refine ⟨v, by simp [hv], hends.imp_right fun ⟨info', hmem, henters⟩ => ?_⟩
      exact ⟨info', by simp [hmem], henters⟩
  · intro info segments index owned ih hnew hcontested
    rcases Layer.visits_cases scope (.mk info segments index owned) with
      ⟨outcome, hr, heq⟩ | ⟨s, hs, -, heq⟩
    · rw [heq] at hcontested ⊢
      refine ⟨_, List.mem_cons_self, .inl ?_⟩
      have hruling := Layer.ruling_ruling scope (.mk info segments index owned)
      rw [hr] at hruling
      cases hruling with
      | carried known =>
        obtain ⟨-, hself⟩ := hnew _ (Layer.self_mem_tree _)
        rw [(Layer.disjoint_owned_iff fun m hm => (hnew m hm).1).2 hself] at known
        cases known
      | unclaimed => nofun
      | refused => nofun
      | contested => cases hcontested _ List.mem_cons_self
    · have hnested : ∀ l ∈ s.tree, l.Made ∧ l.New scope := by
        refine fun l hl => hnew l ?_
        exact Layer.mem_tree_of_mem hs hl
      rw [heq] at hcontested ⊢
      obtain ⟨v, hv, hends⟩ := ih s hs hnested _ hcontested
      refine ⟨v, hv, hends.imp_right fun ⟨info', hmem, henters⟩ => ⟨info', ?_, henters⟩⟩
      exact Layer.mem_members_iff.2 ⟨s, hs, List.mem_cons.1 hmem⟩

/-- The request has been in the layer and recorded nothing there: it went into a domain that has no
layers. -/
structure Layer.LeftOpen (scope : Scope) (l : Layer) : Prop where
  silent : ∀ v ∈ l.visits scope, v.recorded? = none
  ended : ∃ info, Segment.domain info [] ∈ l.members ∧
    ∃ v ∈ l.visits scope, v.Enters (.domain info [])

/-- A layer that is new to a request that comes back has been left open, since it carries whatever
it recorded there. -/
theorem Layer.New.leftOpen {scope : Scope} {carried : KeySet SegmentId}
    {draw : LayerId → CriterionId → Nat} {l : Layer} (h : l.New (scope.again carried draw))
    (hmade : ∀ m ∈ l.tree, m.Made)
    (hgrows : ∀ id, scope.carried.contains id = true → carried.contains id = true)
    (hcontested : ∀ v ∈ l.visits scope, v.isContested = false)
    (hkept : ∀ v ∈ l.visits scope, ∀ id, v.recorded? = some id → carried.contains id = true) :
    l.LeftOpen scope := by
  have hsilent : ∀ v ∈ l.visits scope, v.recorded? = none := by
    intro v hv
    refine Option.eq_none_iff_forall_ne_some.2 fun id hid => ?_
    have hnew : carried.contains id = false := h id ((owns_of_recorded scope).2 l v hv id hid)
    rw [hkept v hv id hid] at hnew
    cases hnew
  have hnew : ∀ m ∈ l.tree, m.Made ∧ m.New scope :=
    fun m hm => ⟨hmade m hm, (h.of_again hgrows).of_mem_tree hm⟩
  obtain ⟨v, hv, hrecords | ⟨info, hmem, henters⟩⟩ :=
    (records_or_ends scope).2 l hnew hcontested
  · exact absurd (hsilent v hv) hrecords
  · exact ⟨hsilent, info, hmem, v, hv, henters⟩

/-! ## 3. Diversions that record nothing -/

/-- A visit of a layer that has something to say of a flag is that of an experiment in it, which is
recorded. -/
theorem Layer.member_of_tells {scope : Scope} {l : Layer} {v : Visit} (hv : v ∈ l.visits scope)
    {time : Int64} {flag : String} (h : Gain.tells time flag v = true) :
    v.recorded? ≠ none ∧
      ∃ info effect, .experiment info effect ∈ l.members ∧ effect.names flag = true := by
  obtain ⟨layer, outcome, asked⟩ := v
  cases outcome with
  | experiment info effect =>
    obtain ⟨t, ht, hent, -⟩ := (enters_member scope).2 l _ hv info.id rfl
    have hnames : effect.names flag = true := (Bool.and_eq_true_iff.1 h).2
    obtain rfl : t = .experiment info effect := Visit.eq_of_enters hent rfl
    exact ⟨nofun, info, effect, ht, hnames⟩
  | _ => cases h

/-- Visits that record nothing gain nothing. -/
theorem Gain.visitAll_of_silent (scope : Scope) : ∀ (visits : List Visit) (gain : Gain),
    (∀ v ∈ visits, v.isContested = false ∧ v.recorded? = .none) →
    ∃ asked, gain.visitAll scope visits = .ok { gain with asked }
  | [], gain, _ => ⟨gain.asked, rfl⟩
  | v :: visits, gain, h => by
    obtain ⟨hcontested, hrecorded⟩ := h v List.mem_cons_self
    have hids : idsAfter gain.ids v = gain.ids := by rw [idsAfter, hrecorded]
    have hoverrides : ∀ ids, overridesAfter scope ids gain.overrides v = gain.overrides := by
      intro ids
      obtain ⟨layer, outcome, asked⟩ := v
      cases outcome with
      | experiment info effect => cases hrecorded
      | _ => rfl
    rw [visitAll_cons, visit_eq scope gain v hcontested, hids, hoverrides]
    obtain ⟨asked, hrest⟩ := visitAll_of_silent scope visits
      ⟨gain.ids, gain.overrides, gain.asked ++ v.asked⟩ fun w hw => h w (List.mem_cons_of_mem _ hw)
    exact ⟨asked, hrest⟩

namespace Snapshot

variable {snapshot : Snapshot} {host : Host} {draws : Draws}

/-- A diversion whose visits record nothing leaves neither ids nor overrides. -/
theorem divert_of_silent {context : Context} {carried : KeySet SegmentId}
    (h : ∀ v ∈ snapshot.visits host draws context carried,
      v.isContested = false ∧ v.recorded? = none) :
    ∃ asked, snapshot.divert host draws context carried = .ok ⟨.empty, [], asked⟩ := by
  cases hf : context.forced.isEmpty with
  | false =>
    obtain ⟨asked, hall⟩ := Gain.visitAll_of_silent
      (snapshot.scope host draws context carried topDomain) _ .none h
    exact ⟨asked, by rw [divert_forced hf, hall]; rfl⟩
  | true =>
    simp only [visits, hf, if_true, List.mem_append] at h
    obtain ⟨first, hl⟩ := Gain.visitAll_of_silent
      (snapshot.scope host draws context carried topDomain) _ .none fun v hv => h v (.inl hv)
    obtain ⟨second, hp⟩ := Gain.visitAll_of_silent
      (snapshot.scope host draws context carried topDomain) _ ⟨.empty, .empty, first⟩
      fun v hv => h v (.inr hv)
    refine ⟨second, ?_⟩
    rw [divert_unforced hf, hl, Except.bind]
    change (Gain.visitAll _ ⟨.empty, .empty, first⟩ _).map _ = _
    rw [hp]
    rfl

/-- A request that has been diverted stays as it is in a diversion that records nothing. -/
theorem handle_of_silent {r : Request} (hdiverted : r.isDiverted = true)
    (h : ∀ v ∈ snapshot.visits host draws r.context r.ids,
      v.isContested = false ∧ v.recorded? = none) :
    (snapshot.handle host draws r).result = .ok r := by
  obtain ⟨asked, hd⟩ := divert_of_silent h
  have hids : KeySet.union r.ids .empty = r.ids := rfl
  rw [handle, hd]
  simp only [Request.record, hdiverted, List.isEmpty_nil, Bool.and_self, if_true, hids]

end Snapshot

/-! ## 4. Without random criteria -/

/-- Where no criterion is random, a request that comes back to layers of a built space with whatever
it recorded there records nothing. -/
theorem Builder.silent_again {b : Builder} {version : String} {space : Space} (hb : b.Sound)
    (h : b.build version = .ok space)
    (hfixed : ∀ criterion ∈ space.criteria, criterion.random = false)
    {disabled : KeySet SegmentId} {host : Host} (draws draws' : Draws) {context : Context}
    {carried carried' : KeySet SegmentId} {root : SegmentId} {tops : List Layer}
    (htops : ∀ t ∈ tops, t ∈ space.layers)
    (hgrows : ∀ id, carried.contains id = true → carried'.contains id = true)
    (hkept : ∀ t ∈ tops,
      ∀ v ∈ t.visits (Snapshot.scope ⟨space, disabled⟩ host draws context carried root),
        ∀ id, v.recorded? = some id → carried'.contains id = true) :
    ∀ t ∈ tops, ∀ v ∈ t.visits (Snapshot.scope ⟨space, disabled⟩ host draws' context carried' root),
      v.recorded? = none :=
  Rollout.silent_again (Snapshot.scope ⟨space, disabled⟩ host draws context carried root)
    (fun t ht => readable_build hb h t (htops t ht)) (ordered_build hb h) hfixed hgrows hkept

/-- **Once is enough.**  Whatever calls a space was built by, if none of its criteria is random, a
request that is handed to a snapshot of it a second time stays exactly as it is: with its ids, its
settings and the values that it remembers. -/
theorem handle_idempotent {declared : FlagRegistry} {calls : List Builder.Call} {version : String}
    {space : Space} (h : ((Builder.start declared).run calls).build version = .ok space)
    (hfixed : ∀ criterion ∈ space.criteria, criterion.random = false)
    (disabled : KeySet SegmentId) (host : Host) (draws draws' : Draws) (r : Request) :
    ∃ r', (Snapshot.handle ⟨space, disabled⟩ host draws r).result = .ok r' ∧
      (Snapshot.handle ⟨space, disabled⟩ host draws' r').result = .ok r' := by
  have hb := Builder.sound_run declared calls
  obtain ⟨r', hr'⟩ := Snapshot.handle_isOk
    (Builder.not_contested_build hb h disabled host draws r.context r.ids)
  obtain ⟨hdiverted, hcontext, hids⟩ := Snapshot.handle_ok hr'
  have hgrows : ∀ id, r.ids.contains id = true → r'.ids.contains id = true :=
    fun id hid => (hids id).2 (.inl hid)
  have hkept : ∀ v ∈ Snapshot.visits ⟨space, disabled⟩ host draws r.context r.ids, ∀ id,
      v.recorded? = some id → r'.ids.contains id = true :=
    fun v hv id hid => (hids id).2 (.inr ⟨v, hv, hid⟩)
  refine ⟨r', hr', Snapshot.handle_of_silent hdiverted fun v hv =>
    ⟨Builder.not_contested_build hb h disabled host draws' _ _ v hv, ?_⟩⟩
  rw [hcontext] at hv
  rcases (Builder.mem_visits_iff hb h).1 hv with
    ⟨hforced, l, hl, hv⟩ | ⟨s, hs, hforced, hnew, hon, hv⟩
  · refine Builder.silent_again hb h hfixed draws draws' (fun t => Space.mem_layers_of_top) hgrows
      (fun t ht w hw => hkept w ?_) l hl v hv
    exact (Builder.mem_visits_iff hb h).2 (.inl ⟨hforced, t, ht, hw⟩)
  · -- the request was forced into the segment before, since it carried even less then
    have hnew' : r.ids.contains s.info.id = false := by
      refine Bool.eq_false_iff.2 fun hc => ?_
      rw [hgrows _ hc] at hnew
      cases hnew
    have hfirst : ∀ w ∈ s.visits (Snapshot.scope ⟨space, disabled⟩ host draws r.context r.ids
        s.info.id) [], ∀ id, w.recorded? = some id → r'.ids.contains id = true :=
      fun w hw => hkept w ((Builder.mem_visits_iff hb h).2 (.inr ⟨s, hs, hforced, hnew', hon, hw⟩))
    cases s with
    | experiment info effect =>
      rw [Segment.visits_experiment] at hfirst
      have hcarried := hfirst _ List.mem_cons_self info.id rfl
      rw [Segment.info_experiment, hcarried] at hnew
      cases hnew
    | domain info layers =>
      rw [Segment.visits_domain] at hv hfirst
      rcases List.mem_cons.1 hv with rfl | hv
      · rfl
      obtain ⟨l, hl, hv⟩ := List.mem_flatMap.1 hv
      refine Builder.silent_again hb h hfixed draws draws'
        (fun t ht => Space.mem_layers_of_member hs ?_) hgrows (fun t ht w hw => hfirst w ?_)
        l hl v hv
      · rw [Segment.tree_domain]
        exact List.mem_flatMap.2 ⟨t, ht, t.self_mem_tree⟩
      · exact List.mem_cons_of_mem _ (List.mem_flatMap.2 ⟨t, ht, hw⟩)

/-- A domain under a hashed criterion, with a layer in it. -/
def Builder.hashedCalls : List Builder.Call :=
  [.criterion ⟨0, 10, false⟩, .layer ⟨1, topDomain, false, 101, 102, 103⟩,
    .segment (.domain ⟨10, 1, 0, KeySet.ofKeys [0, 1], .always, .always, .always⟩),
    .layer ⟨2, 10, false, 201, 202, 203⟩]

/-- A request that is forced into a domain is there again the second time, and gains nothing. -/
theorem handle_idempotent_forced : ∃ space r,
    ((Builder.start .empty).run Builder.hashedCalls).build "v" = .ok space ∧
    (∀ criterion ∈ space.criteria, criterion.random = false) ∧
    ((Snapshot.of space).handle (fun _ _ => false) (fun _ _ _ => 0)
      (.start { Context.at 0 with forced := KeySet.ofKeys [10] })).result = .ok r ∧
    r.ids.keys = [201] ∧
    ((Snapshot.of space).handle (fun _ _ => false) (fun _ _ _ => 7) r).result = .ok r := by
  have hbuild : ((Builder.start .empty).run Builder.hashedCalls).build "v" = .ok _ := rfl
  have hfixed : ∀ criterion ∈ [(⟨0, 10, false⟩ : Criterion)], criterion.random = false := by decide
  obtain ⟨r, hr, hagain⟩ := handle_idempotent hbuild hfixed .empty (fun _ _ => false)
    (fun _ _ _ => 0) (fun _ _ _ => 7) (.start { Context.at 0 with forced := KeySet.ofKeys [10] })
  have hkeys : r.ids.keys = [201] := by
    cases hr
    rfl
  exact ⟨_, r, hbuild, hfixed, hr, hkeys, hagain⟩

/-! ## 5. With random criteria -/

/-- **What is left to a second draw.**  Whatever calls a space was built by, a request that is not
forced is handled twice by a snapshot of it, whatever is drawn each time.  If the first time left no
layer open, the second time changes nothing at all.  If it did, the request gains only ids that
these layers own, and only flags can change that an experiment in these layers changes. -/
theorem repeats_unless_left_open {declared : FlagRegistry} {calls : List Builder.Call}
    {version : String} {space : Space}
    (h : ((Builder.start declared).run calls).build version = .ok space)
    (disabled : KeySet SegmentId) (host : Host) (draws draws' : Draws) (r : Request)
    (hforced : r.context.forced.isEmpty = true) :
    let scope := Snapshot.scope ⟨space, disabled⟩ host draws r.context r.ids topDomain
    ∃ r' r'', (Snapshot.handle ⟨space, disabled⟩ host draws r).result = .ok r' ∧
      (Snapshot.handle ⟨space, disabled⟩ host draws' r').result = .ok r'' ∧
      ((∀ l ∈ space.topLayers, ¬ l.LeftOpen scope) → r'' = r') ∧
      (∀ id, r''.ids.contains id = true → r'.ids.contains id = true ∨
        ∃ l ∈ space.topLayers, l.LeftOpen scope ∧ l.Owns id) ∧
      ∀ flag, (∀ l ∈ space.topLayers, l.LeftOpen scope → ∀ info effect,
          .experiment info effect ∈ l.members → effect.names flag = false) →
        r''.calculator? flag = r'.calculator? flag := by
  intro scope
  have hb := Builder.sound_run declared calls
  have hcontested := Builder.not_contested_build hb h disabled host
  obtain ⟨r', hr'⟩ := Snapshot.handle_isOk (hcontested draws r.context r.ids)
  obtain ⟨hdiverted, hcontext, hids⟩ := Snapshot.handle_ok hr'
  have hmem : ∀ v, v ∈ Snapshot.visits ⟨space, disabled⟩ host draws' r'.context r'.ids ↔
      ∃ l ∈ space.topLayers, v ∈ l.visits (scope.again r'.ids (draws' topDomain)) := by
    intro v
    rw [hcontext, Builder.mem_visits_iff_unforced hb h hforced]
    rfl
  -- a layer either passes the request by the second time or was left open the first time
  have hlayer : ∀ l ∈ space.topLayers, ∀ v ∈ l.visits (scope.again r'.ids (draws' topDomain)),
      v.recorded? = none ∨ l.LeftOpen scope := by
    intro l hl v hv
    have hmade : ∀ m ∈ l.tree, m.Made := fun m hm =>
      Builder.made_build hb h m (Space.mem_layers_of_mem_tree (Space.mem_layers_of_top hl) hm)
    have hfirst : ∀ w ∈ l.visits scope,
        w ∈ Snapshot.visits ⟨space, disabled⟩ host draws r.context r.ids :=
      fun w hw => (Builder.mem_visits_iff_unforced hb h hforced).2 ⟨l, hl, hw⟩
    by_cases hnew : l.New (scope.again r'.ids (draws' topDomain))
    · exact .inr (hnew.leftOpen hmade (fun id hid => (hids id).2 (.inl hid))
        (fun w hw => hcontested draws _ _ w (hfirst w hw))
        fun w hw id hid => (hids id).2 (.inr ⟨w, hfirst w hw, hid⟩))
    · rw [Layer.visits_of_not_new hmade hnew, List.mem_singleton] at hv
      subst hv
      exact .inl rfl
  obtain ⟨d, hd⟩ := Snapshot.divert_isOk (hcontested draws' r'.context r'.ids)
  obtain ⟨r'', hr'', hflags⟩ := Snapshot.calculator?_handle_of_idle hd
  obtain ⟨-, -, hids'⟩ := Snapshot.handle_ok hr''
  refine ⟨r', r'', hr', hr'', fun hclosed => ?_, fun id hid => ?_, fun flag hquiet => ?_⟩
  · have hstays := Snapshot.handle_of_silent hdiverted fun v hv => by
      obtain ⟨l, hl, hvl⟩ := (hmem v).1 hv
      exact ⟨hcontested draws' _ _ v hv, (hlayer l hl v hvl).resolve_right (hclosed l hl)⟩
    exact Except.ok.inj (hr''.symm.trans hstays)
  · refine ((hids' id).1 hid).imp_right fun ⟨v, hv, hvid⟩ => ?_
    obtain ⟨l, hl, hvl⟩ := (hmem v).1 hv
    refine ⟨l, hl, (hlayer l hl v hvl).resolve_left fun hnone => ?_,
      (owns_of_recorded _).2 l v hvl id hvid⟩
    rw [hnone] at hvid
    cases hvid
  · obtain ⟨settings, hsettings⟩ := Option.isSome_iff_exists.1 hdiverted
    refine (hflags flag fun v hv => Bool.eq_false_iff.2 fun htells => ?_).trans ?_
    · obtain ⟨l, hl, hvl⟩ := (hmem v).1 hv
      obtain ⟨hrecords, info, effect, hmember, hnames⟩ := Layer.member_of_tells hvl htells
      have hopen := (hlayer l hl v hvl).resolve_left hrecords
      rw [hquiet l hl hopen info effect hmember] at hnames
      cases hnames
    · rw [Request.calculator?, hsettings]
      rfl

/-- A domain without layers, and an experiment that changes a flag. -/
def Builder.openCalls : List Builder.Call :=
  let info (id : SegmentId) (bucket : Bucket) : SegmentInfo :=
    ⟨id, 1, 0, KeySet.ofKeys [bucket], .always, .always, .always⟩
  [.flag ⟨"f", ⟨.int 1, []⟩⟩, .criterion ⟨0, 2147483647, true⟩,
    .layer ⟨1, topDomain, false, 101, 102, 103⟩, .segment (.domain (info 10 1)),
    .segment (.experiment (info 20 2) (Table.ofList [("f", .replace ⟨.int 2, []⟩)]))]

/-- A request that drew the experiment stays there, though it draws the domain when it comes
back. -/
theorem repeats_unless_left_open_entered : ∃ space r,
    ((Builder.start .empty).run Builder.openCalls).build "v" = .ok space ∧
    (Context.at 0).forced.isEmpty = true ∧
    ((Snapshot.of space).handle (fun _ _ => false) (fun _ _ _ => 2) (.start (.at 0))).result =
      .ok r ∧
    r.ids.keys = [20] ∧
    ((Snapshot.of space).handle (fun _ _ => false) (fun _ _ _ => 1) r).result = .ok r := by
  have hbuild : ((Builder.start .empty).run Builder.openCalls).build "v" = .ok _ := rfl
  obtain ⟨r, r', hr, hr', hstays, -⟩ := repeats_unless_left_open hbuild .empty (fun _ _ => false)
    (fun _ _ _ => 2) (fun _ _ _ => 1) (.start (.at 0)) rfl
  have hkeys : r.ids.keys = [20] := by
    cases hr
    rfl
  obtain rfl := hstays fun l hl hopen => by
    obtain rfl := List.mem_singleton.1 hl
    cases hopen.silent _ List.mem_cons_self
  exact ⟨_, r', hbuild, rfl, hr, hkeys, hr'⟩

/-- A request that drew the domain gained nothing.  When it comes back and draws the experiment, it
enters that, and the flag is changed. -/
theorem entered_on_return : ∃ space r r',
    ((Builder.start .empty).run Builder.openCalls).build "v" = .ok space ∧
    ((Snapshot.of space).handle (fun _ _ => false) (fun _ _ _ => 1) (.start (.at 0))).result =
      .ok r ∧
    ((Snapshot.of space).handle (fun _ _ => false) (fun _ _ _ => 2) r).result = .ok r' ∧
    r.ids.keys = [] ∧ r.calculator? "f" = some ⟨.int 1, []⟩ ∧
    r'.ids.keys = [20] ∧ r'.calculator? "f" = some ⟨.int 2, []⟩ :=
  ⟨_, _, _, rfl, rfl, rfl, rfl, rfl, rfl, rfl⟩

end Rollout
