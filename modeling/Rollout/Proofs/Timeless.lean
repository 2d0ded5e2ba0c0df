import Rollout.Proofs.Arranged
import Rollout.Proofs.Request
import Rollout.Proofs.Shorthand
/-!
# What a request knows of its time

The time of a request decides on two things only: whether a segment is open for the request, and
whether the overrides of an experiment count.  Both are asked of windows.  So a request at one time
fares like the same request at another one if no window of the space tells the two times apart
(`Builder.handle_retimed`).

A segment for which a document gives no bounds is always open, and that is not quite always: the
window without bounds ends before the last millisecond (`Window.contains_always_iff`).  So without
bounds times cannot be told apart as long as the last one is not among them (`Payload.timeless`),
and at the last one no overrides count at all.
-/

namespace Rollout

/-! ## 1. Another time -/

/-- The context at another time. -/
def Context.retimed (context : Context) (time : Int64) : Context := { context with time }

/-- The request at another time. -/
def Request.retimed (r : Request) (time : Int64) : Request :=
  { r with context := r.context.retimed time }

/-- The scope at another time. -/
def Scope.retimed (scope : Scope) (time : Int64) : Scope :=
  { scope with context := scope.context.retimed time }

/-- The windows of a segment do not tell two times apart. -/
structure SegmentInfo.Blind (time time' : Int64) (info : SegmentInfo) : Prop where
  active : info.active.contains time' = info.active.contains time
  overridesWindow : info.overridesWindow.contains time' = info.overridesWindow.contains time

/-- No condition looks at the time. -/
theorem Leaf.answer_retimed (context : Context) (time : Int64) (host : Host) :
    Leaf.answer (context.retimed time) host = Leaf.answer context host := by
  funext l
  cases l <;> rfl

/-- Reads do not look at the time. -/
theorem Request.read_retimed (r : Request) (time : Int64) (host : Host) :
    (∀ name, ((r.retimed time).value host name).result = (r.value host name).result) ∧
      ∀ flag, ((r.retimed time).get host flag).result = (r.get host flag).result := by
  have hanswers : (r.retimed time).answers host = r.answers host := Leaf.answer_retimed ..
  refine ⟨fun name => ?_, fun flag => ?_⟩
  · cases hcached : r.cache.get? name with
    | some v =>
      have hcached' : (r.retimed time).cache.get? name = some v := hcached
      rw [value, value, hcached, hcached']
    | none =>
      rw [result_value hcached, result_value (r := r.retimed time) hcached, hanswers]
      rfl
  · rw [result_get, result_get, uncached, uncached, hanswers]
    rfl

/-! ## 2. What a request meets at another time -/

namespace SegmentInfo

variable {scope : Scope} {time : Int64} {info : SegmentInfo}

theorem Blind.isOpen (h : info.Blind scope.context.time time) :
    info.isOpen (scope.retimed time) = info.isOpen scope :=
  congrArg (!scope.disabled.contains info.id && ·) h.active

theorem Blind.accepts (h : info.Blind scope.context.time time) :
    info.accepts (scope.retimed time) = info.accepts scope := by
  have hanswers : (scope.retimed time).answers = scope.answers := Leaf.answer_retimed ..
  rw [SegmentInfo.accepts, SegmentInfo.accepts, h.isOpen, hanswers]

theorem Blind.asked (h : info.Blind scope.context.time time) :
    info.asked (scope.retimed time) = info.asked scope := by
  have hanswers : (scope.retimed time).answers = scope.answers := Leaf.answer_retimed ..
  rw [SegmentInfo.asked, SegmentInfo.asked, h.isOpen, hanswers]

end SegmentInfo

/-- A layer that divides the requests, with segments whose windows do not tell two times apart,
decides the same way at both. -/
theorem Layer.agrees_retimed {criteria : List Criterion} {scope : Scope} {time : Int64} {l : Layer}
    (hdivides : l.Divides criteria)
    (hblind : ∀ s ∈ l.segments, s.info.Blind scope.context.time time) :
    l.Agrees criteria scope (scope.retimed time) where
  divides := hdivides
  carried := rfl
  claimant := rfl
  accepts s hs := (hblind s hs).accepts
  asked s hs := (hblind s hs).asked

/-- The overrides of a visit count at both times or at neither. -/
def Visit.Blind (time time' : Int64) (v : Visit) : Prop :=
  ∀ info effect, v.outcome = .experiment info effect → info.Blind time time'

namespace Gain

/-- A visit brings the same at another time. -/
theorem visit_retimed {scope : Scope} {time : Int64} {v : Visit}
    (h : v.Blind scope.context.time time) (gain : Gain) :
    gain.visit (scope.retimed time) v = gain.visit scope v := by
  obtain ⟨layer, outcome, asked⟩ := v
  cases outcome with
  | experiment info effect =>
    have hwindow : info.overridesWindow.contains (scope.retimed time).context.time =
        info.overridesWindow.contains scope.context.time := (h info effect rfl).overridesWindow
    have hcarried : (scope.retimed time).carried = scope.carried := rfl
    simp only [visit, hwindow, hcarried]
  | _ => rfl

theorem visitAll_retimed {scope : Scope} {time : Int64} : ∀ {visits : List Visit},
    (∀ v ∈ visits, v.Blind scope.context.time time) → ∀ gain : Gain,
    gain.visitAll (scope.retimed time) visits = gain.visitAll scope visits
  | [], _, gain => by rw [visitAll, visitAll, List.foldlM_nil, List.foldlM_nil]
  | v :: visits, h, gain => by
    obtain ⟨hv, hvisits⟩ := List.forall_mem_cons.1 h
    rw [visitAll_cons, visitAll_cons, visit_retimed hv]
    exact bind_congr fun g => visitAll_retimed hvisits g

end Gain

namespace Builder

variable {b : Builder} {version : String} {space : Space} {disabled : KeySet SegmentId}
  {host : Host} {draws : Draws} {context : Context} {carried : KeySet SegmentId} {time : Int64}

/-- An experiment that a request enters is an experiment of the space. -/
theorem mem_members_of_visit (hb : b.Sound) (h : b.build version = .ok space) {v : Visit}
    (hv : v ∈ Snapshot.visits ⟨space, disabled⟩ host draws context carried) {info : SegmentInfo}
    {effect : Effect} (hout : v.outcome = .experiment info effect) :
    .experiment info effect ∈ space.members := by
  have hentered : v.entered? = some info.id := by rw [Visit.entered?, hout]
  obtain ⟨t, ht, hent, -⟩ := entered_member hb h hv hentered
  exact Visit.eq_of_enters hent hout ▸ ht

/-- **What a request meets at another time** is the same, if no window of the space tells the times
apart. -/
theorem visits_retimed (hb : b.Sound) (h : b.build version = .ok space) {scope : Scope}
    (hblind : ∀ s ∈ space.members, s.info.Blind scope.context.time time) :
    (∀ s ∈ space.members, ∀ asked, s.visits (scope.retimed time) asked = s.visits scope asked) ∧
      ∀ l ∈ space.layers, l.visits (scope.retimed time) = l.visits scope := by
  have hagrees : ∀ l ∈ space.layers, l.Agrees space.criteria scope (scope.retimed time) :=
    fun l hl => Layer.agrees_retimed (divides_build hb h l hl) fun s hs =>
      hblind s (Space.mem_members_iff.2 ⟨l, hl, hs⟩)
  exact ⟨fun s hs => visits_congr.1 s fun l hl => hagrees l (Space.mem_layers_of_member hs hl),
    fun l hl => visits_congr.2 l fun m hm => hagrees m (Space.mem_layers_of_mem_tree hl hm)⟩

/-- What a request meets in the layers of the space itself. -/
theorem visitsOfLayers_retimed (hb : b.Sound) (h : b.build version = .ok space) {scope : Scope}
    (hblind : ∀ s ∈ space.members, s.info.Blind scope.context.time time) {layers : List Layer}
    (htop : ∀ l ∈ layers, l ∈ space.topLayers) :
    visitsOfLayers (scope.retimed time) layers = visitsOfLayers scope layers := by
  rw [visitsOfLayers_eq, visitsOfLayers_eq]
  exact List.flatMap_congr fun l hl =>
    (visits_retimed hb h hblind).2 l (Space.mem_layers_of_top (htop l hl))

/-- What a request meets on the way into a segment that it is forced into. -/
theorem forcedVisits_retimed (hb : b.Sound) (h : b.build version = .ok space) {scope : Scope}
    (hblind : ∀ s ∈ space.members, s.info.Blind scope.context.time time) (id : SegmentId) :
    Snapshot.forcedVisits ⟨space, disabled⟩ (scope.retimed time) id =
      Snapshot.forcedVisits ⟨space, disabled⟩ scope id := by
  rw [Snapshot.forcedVisits, Snapshot.forcedVisits]
  cases hs : space.segments.get? id with
  | none => rfl
  | some s =>
    have hmem : s ∈ space.members := ((get?_segments_build hb h).1 hs).1
    have hvisits : s.visits (scope.retimed time) [] = s.visits scope [] :=
      (visits_retimed hb h hblind).1 s hmem []
    dsimp only
    rw [hvisits]
    rfl

/-- **A diversion at another time** comes to the same, if no window of the space tells the times
apart. -/
theorem divert_retimed (hb : b.Sound) (h : b.build version = .ok space)
    (hblind : ∀ s ∈ space.members, s.info.Blind context.time time) (disabled : KeySet SegmentId)
    (host : Host) (draws : Draws) (carried : KeySet SegmentId) :
    Snapshot.divert ⟨space, disabled⟩ host draws (context.retimed time) carried =
      Snapshot.divert ⟨space, disabled⟩ host draws context carried := by
  have hscope : ∀ root,
      Snapshot.scope ⟨space, disabled⟩ host draws (context.retimed time) carried root =
        (Snapshot.scope ⟨space, disabled⟩ host draws context carried root).retimed time :=
    fun _ => rfl
  have hmet : ∀ v ∈ Snapshot.visits ⟨space, disabled⟩ host draws context carried,
      v.Blind (Snapshot.scope ⟨space, disabled⟩ host draws context carried topDomain).context.time
        time := fun v hv info effect hout =>
    hblind _ (mem_members_of_visit hb h hv hout)
  cases hf : context.forced.isEmpty with
  | false =>
    have hf' : (context.retimed time).forced.isEmpty = false := hf
    have hvisits : Snapshot.visits ⟨space, disabled⟩ host draws (context.retimed time) carried =
        Snapshot.visits ⟨space, disabled⟩ host draws context carried := by
      rw [Snapshot.visits, Snapshot.visits, hf, hf', if_neg Bool.false_ne_true,
        if_neg Bool.false_ne_true]
      refine List.flatMap_congr fun id _ => ?_
      rw [hscope, forcedVisits_retimed hb h hblind]
    rw [Snapshot.divert_forced hf, Snapshot.divert_forced hf', hvisits, hscope,
      Gain.visitAll_retimed hmet]
  | true =>
    have hf' : (context.retimed time).forced.isEmpty = true := hf
    rw [Snapshot.visits, if_pos hf, List.forall_mem_append] at hmet
    have hlaunch :
        Snapshot.launchVisits ⟨space, disabled⟩ host draws (context.retimed time) carried =
        Snapshot.launchVisits ⟨space, disabled⟩ host draws context carried := by
      rw [Snapshot.launchVisits, Snapshot.launchVisits, hscope]
      exact visitsOfLayers_retimed hb h hblind fun l hl => List.mem_append_left _ hl
    have hpermanent : Snapshot.permanentVisits ⟨space, disabled⟩ host draws (context.retimed time)
          carried = Snapshot.permanentVisits ⟨space, disabled⟩ host draws context carried := by
      rw [Snapshot.permanentVisits, Snapshot.permanentVisits, hscope]
      exact visitsOfLayers_retimed hb h hblind fun l hl => List.mem_append_right _ hl
    rw [Snapshot.divert_unforced hf, Snapshot.divert_unforced hf', hlaunch, hpermanent, hscope]
    simp only [Gain.visitAll_retimed hmet.1, Gain.visitAll_retimed hmet.2]

/-- **A request at another time fares the same**, if no window of the space tells the times
apart. -/
theorem handle_retimed (hb : b.Sound) (h : b.build version = .ok space) {r : Request}
    (hblind : ∀ s ∈ space.members, s.info.Blind r.context.time time) (disabled : KeySet SegmentId)
    (host : Host) (draws : Draws) :
    (Snapshot.handle ⟨space, disabled⟩ host draws (r.retimed time)).result =
      (Snapshot.handle ⟨space, disabled⟩ host draws r).result.map (·.retimed time) := by
  have hdivert := divert_retimed hb h hblind disabled host draws r.ids
  have hids : (r.retimed time).ids = r.ids := rfl
  have hcontext : (r.retimed time).context = r.context.retimed time := rfl
  rw [Snapshot.handle, Snapshot.handle, hids, hcontext, hdivert]
  cases Snapshot.divert ⟨space, disabled⟩ host draws r.context r.ids with
  | error e => rfl
  | ok d =>
    have hrecord : (r.retimed time).record space.settings d =
        (r.record space.settings d).retimed time := by
      unfold Request.record
      have hdiverted : (r.retimed time).isDiverted = r.isDiverted := rfl
      rw [hdiverted]
      split <;> rfl
    exact congrArg Except.ok hrecord

end Builder

/-! ## 3. No bounds -/

/-- The window without bounds has every time but the last. -/
theorem Window.contains_always_iff {time : Int64} :
    always.contains time = true ↔ time ≠ Int64.maxValue := by
  have hstart : Int64.minValue ≤ time := Int64.minValue_le time
  rw [contains, Bool.and_eq_true, decide_eq_true_iff, decide_eq_true_iff]
  change Int64.minValue ≤ time ∧ time < Int64.maxValue ↔ _
  rw [and_iff_right hstart, Int64.lt_iff_le_and_ne, and_iff_right (Int64.le_maxValue time)]

/-- The windows of a segment are the ones without bounds. -/
def SegmentInfo.Unbounded (info : SegmentInfo) : Prop :=
  info.active = .always ∧ info.overridesWindow = .always

/-- Windows without bounds do not tell times apart, unless one of them is the last. -/
theorem SegmentInfo.Unbounded.blind {info : SegmentInfo} (h : info.Unbounded) {time time' : Int64}
    (hlast : time ≠ Int64.maxValue) (hlast' : time' ≠ Int64.maxValue) : info.Blind time time' := by
  have hsame : Window.always.contains time' = Window.always.contains time := by
    rw [Window.contains_always_iff.2 hlast, Window.contains_always_iff.2 hlast']
  exact ⟨h.1 ▸ hsame, h.2 ▸ hsame⟩

/-- The document gives no bounds for a segment. -/
def SegmentDocument.Unbounded (d : SegmentDocument) : Prop :=
  d.start = none ∧ d.stop = none ∧ d.overridesStart = none ∧ d.overridesStop = none

instance (d : SegmentDocument) : Decidable d.Unbounded :=
  inferInstanceAs (Decidable (_ ∧ _ ∧ _ ∧ _))

/-- Where a document gives no bounds, the segment has windows without bounds. -/
theorem SegmentDocument.Unbounded.info {registry : ConditionRegistry}
    {types : List (String × FlagType)} {counts : Table CriterionId Bucket} {d : SegmentDocument}
    (hopen : d.Unbounded) {s : SegmentDefinition} (h : d.meaning registry types counts = .ok s) :
    s.info.Unbounded := by
  obtain ⟨hstart, hstop, hoverridesStart, hoverridesStop⟩ := hopen
  have hwindows : s.info.active = .between d.start d.stop ∧
      s.info.overridesWindow = .between d.overridesStart d.overridesStop := by
    unfold SegmentDocument.meaning at h
    obtain ⟨-, -, h⟩ := bind_ok h
    obtain ⟨condition, -, h⟩ := bind_ok h
    dsimp only at h
    split at h
    · cases h
      exact ⟨rfl, rfl⟩
    · obtain ⟨overrides, -, h⟩ := bind_ok h
      cases h
      exact ⟨rfl, rfl⟩
  rw [hstart, hstop, hoverridesStart, hoverridesStop] at hwindows
  exact hwindows

/-- Where a document gives no bounds for any segment, no segment of its space has any. -/
theorem SpaceDocument.Describes.unbounded {conditions : ConditionRegistry} {declared : FlagRegistry}
    {version : String} {d : SpaceDocument} {space : Space}
    (h : d.Describes conditions declared version space) (hopen : ∀ s ∈ d.segments, s.Unbounded) :
    ∀ t ∈ space.members, t.info.Unbounded := by
  intro t ht
  obtain ⟨types, segments, hsegments, -, hinfos⟩ := h.segments
  obtain ⟨t', ht', hinfo⟩ := List.mem_map.1 (hinfos.mem_iff.1 (List.mem_map_of_mem ht))
  obtain ⟨s, hs, hmeans⟩ := exists_of_forall₂ hsegments.flip t' ht'
  exact hinfo ▸ (hopen s hs).info hmeans

namespace Builder

variable {b : Builder} {version : String} {space : Space} {context : Context}

/-- **Times but the last.**  A new request at one of them fares and reads like the one at
another. -/
theorem handle_start_retimed (hb : b.Sound) (h : b.build version = .ok space)
    (hopen : ∀ s ∈ space.members, s.info.Unbounded) (disabled : KeySet SegmentId)
    (host : Host) (draws : Draws) {time time' : Int64} (hlast : time ≠ Int64.maxValue)
    (hlast' : time' ≠ Int64.maxValue) : ∃ r r',
      (Snapshot.handle ⟨space, disabled⟩ host draws (.start (context.retimed time))).result =
        .ok r ∧
      (Snapshot.handle ⟨space, disabled⟩ host draws (.start (context.retimed time'))).result =
        .ok r' ∧
      r'.ids = r.ids ∧ ∀ host' : Host,
        (∀ name, (r'.value host' name).result = (r.value host' name).result) ∧
          ∀ flag, (r'.get host' flag).result = (r.get host' flag).result := by
  obtain ⟨r, hr⟩ := Snapshot.handle_isOk (r := .start (context.retimed time))
    (not_contested_build hb h disabled host draws (context.retimed time) .empty)
  have hretimed :
      (Snapshot.handle ⟨space, disabled⟩ host draws (.start (context.retimed time'))).result =
      (Snapshot.handle ⟨space, disabled⟩ host draws (.start (context.retimed time))).result.map
        (·.retimed time') :=
    handle_retimed hb h (r := .start (context.retimed time))
      (fun s hs => (hopen s hs).blind hlast hlast') disabled host draws
  rw [hr] at hretimed
  exact ⟨r, r.retimed time', hr, hretimed, rfl, fun host' => r.read_retimed time' host'⟩

/-- **The last time.**  A new request gets no overrides at all, and unless it is forced it does not
enter anything. -/
theorem handle_start_last (hb : b.Sound) (h : b.build version = .ok space)
    (hopen : ∀ s ∈ space.members, s.info.Unbounded) (disabled : KeySet SegmentId)
    (host : Host) (draws : Draws) (hlast : context.time = Int64.maxValue) : ∃ r,
      (Snapshot.handle ⟨space, disabled⟩ host draws (.start context)).result = .ok r ∧
      (∀ flag, r.calculator? flag = space.settings.calculator? flag) ∧
      (context.forced.isEmpty = true →
        ∀ v ∈ Snapshot.visits ⟨space, disabled⟩ host draws context .empty, v.entered? = none) := by
  have hclosed : Window.always.contains context.time = false := by
    rw [hlast]
    rfl
  obtain ⟨d, hd⟩ := Snapshot.divert_isOk
    (not_contested_build hb h disabled host draws context .empty)
  obtain ⟨r, hr, hidle⟩ := Snapshot.calculator?_handle_of_idle (r := .start context) hd
  refine ⟨r, hr, fun flag => hidle flag fun v hv => ?_, fun hf v hv => ?_⟩
  · obtain ⟨layer, outcome, asked⟩ := v
    cases outcome with
    | experiment info effect =>
      have hwindow : info.overridesWindow = .always :=
        (hopen _ (mem_members_of_visit hb h hv rfl)).2
      have hoff : info.overridesWindow.contains context.time = false := hwindow ▸ hclosed
      exact Bool.and_eq_false_imp.2 fun hon => absurd (hoff.symm.trans hon) Bool.false_ne_true
    | _ => rfl
  · refine Option.eq_none_iff_forall_ne_some.2 fun id hid => ?_
    obtain ⟨l, hl, hv⟩ := (mem_visits_iff_unforced hb h hf).1 hv
    obtain ⟨t, ht, -, -, haccepts⟩ := (enters_member _).2 l v hv id hid
    have hwindow : t.info.active = .always := (hopen t (List.mem_flatMap.2 ⟨l, hl, ht⟩)).1
    have hin := (SegmentInfo.accepts_iff_takes.1 haccepts).active
    rw [hwindow] at hin
    exact absurd (hclosed.symm.trans hin) Bool.false_ne_true

end Builder

/-- **Without bounds time does not matter, but for the last time there is.**  Let the document of a
payload give no bounds for any segment.  Then a new request to its space, forced or not, fares the
same at all times but the last: it gets the same ids, and every flag reads as the same value.  At
the last time no overrides count, so that every flag has the calculator that is defined for it, and
a request that is not forced does not enter anything. -/
theorem Payload.timeless {schema : Schema} {payload : Payload} {space : Space} {d : SpaceDocument}
    (h : payload.space schema = .ok space) (hd : document schema.format payload.chunks = .ok d)
    (hopen : ∀ s ∈ d.segments, s.Unbounded) (disabled : KeySet SegmentId) (host : Host)
    (draws : Draws) (context : Context) :
    (∀ time time', time ≠ Int64.maxValue → time' ≠ Int64.maxValue → ∃ r r',
      (Snapshot.handle ⟨space, disabled⟩ host draws (.start (context.retimed time))).result =
        .ok r ∧
      (Snapshot.handle ⟨space, disabled⟩ host draws (.start (context.retimed time'))).result =
        .ok r' ∧
      r'.ids = r.ids ∧ ∀ host' : Host,
        (∀ name, (r'.value host' name).result = (r.value host' name).result) ∧
          ∀ flag, (r'.get host' flag).result = (r.get host' flag).result) ∧
    ∃ r, (Snapshot.handle ⟨space, disabled⟩ host draws
        (.start (context.retimed Int64.maxValue))).result = .ok r ∧
      (∀ name, r.calculator? name = space.settings.calculator? name) ∧
      (context.forced.isEmpty = true → ∀ v ∈ Snapshot.visits ⟨space, disabled⟩ host draws
        (context.retimed Int64.maxValue) .empty, v.entered? = none) := by
  obtain ⟨d', definition, hd', hmeaning, hbuild⟩ := space_eq_ok_iff.1 h
  obtain rfl : d = d' := Except.ok.inj (hd.symm.trans hd')
  have hdescribes : d.Describes schema.conditions schema.declared payload.version space :=
    ⟨definition, hmeaning, hbuild⟩
  obtain ⟨b, hadd, hspace⟩ := SpaceDefinition.build_eq_ok_iff.1 hbuild
  have hb := (Builder.holds_of_accepted hadd).sound
  have hunbounded := hdescribes.unbounded hopen
  exact ⟨fun time time' hlast hlast' =>
      Builder.handle_start_retimed hb hspace hunbounded disabled host draws hlast hlast',
    Builder.handle_start_last hb hspace hunbounded disabled host draws rfl⟩

/-- A payload with an experiment that is given no bounds.  Fields are told by their places here. -/
def Payload.unbounded : Payload where
  version := "v1"
  chunks := [
    "\x7b\"flags\":[[\"f\",\"int\",1,[]]],\"diversions\":[[0,1,true]]," ++
      "\"layers\":[[1,null,0,false,101,102,103]]," ++
      "\"experiments\":[[10,null,1,0,false,[0],[],[],\"and\",null,null,null,null," ++
      "[[\"f\",\"replace\",2,[]]]]]\x7d"]

/-- What it is read against: in it there are no conditions that can be named. -/
def Schema.bare : Schema := ⟨.json, .empty, .empty⟩

/-- The ids that a new request has in a space at a time, and the text of what a flag reads as. -/
def Space.fresh? (space : Space) (time : Int64) (name : String) :
    Option (List SegmentId × Option String) :=
  ((Snapshot.of space).handle (fun _ _ => false) (fun _ _ _ => 0)
    (.start (.at time))).result.toOption.map fun r =>
      (r.ids.keys, (r.value (fun _ _ => false) name).result.map (·.text))

theorem Space.exists_of_fresh? {space : Space} {time : Int64} {name : String} {ids : List SegmentId}
    {text : Option String} (h : space.fresh? time name = some (ids, text)) : ∃ r,
      ((Snapshot.of space).handle (fun _ _ => false) (fun _ _ _ => 0) (.start (.at time))).result =
        .ok r ∧
      r.ids.keys = ids ∧ (r.value (fun _ _ => false) name).result.map (·.text) = text := by
  obtain ⟨r, hr, hread⟩ := Option.map_eq_some_iff.1 h
  obtain ⟨hids, htext⟩ := Prod.mk.inj hread
  exact ⟨r, ok_of_toOption hr, hids, htext⟩

/-- The document gives no bounds for the one segment that it lists.  In its space a new request
enters the experiment at time 0; at the last time it does not. -/
theorem Payload.reads_unbounded : ∃ space d, unbounded.space .bare = .ok space ∧
    document .json unbounded.chunks = .ok d ∧ d.segments.map (·.id) = [10] ∧
    (∀ s ∈ d.segments, s.Unbounded) ∧ space.fresh? 0 "f" = some ([10], some "2") ∧
    space.fresh? Int64.maxValue "f" = some ([103], some "1") := by
  have hread : ((document .json unbounded.chunks).toOption.any fun d =>
      (unbounded.space .bare).toOption.any fun space =>
        decide (d.segments.map (·.id) = [10] ∧ (∀ s ∈ d.segments, s.Unbounded) ∧
          space.fresh? 0 "f" = some ([10], some "2") ∧
          space.fresh? Int64.maxValue "f" = some ([103], some "1"))) = true := by
    decide +kernel
  obtain ⟨d, hd, hread⟩ := (Option.any_eq_true _ _).1 hread
  obtain ⟨space, hspace, hread⟩ := (Option.any_eq_true _ _).1 hread
  exact ⟨space, d, ok_of_toOption hspace, ok_of_toOption hd, of_decide_eq_true hread⟩

/-- A new request enters the experiment at time 0, and so it does at the last time but one. -/
theorem Payload.timeless_unbounded : ∃ space d r r',
    unbounded.space .bare = .ok space ∧ document .json unbounded.chunks = .ok d ∧
    d.segments.map (·.id) = [10] ∧ (∀ s ∈ d.segments, s.Unbounded) ∧
    (0 : Int64) ≠ Int64.maxValue ∧ Int64.maxValue - 1 ≠ Int64.maxValue ∧
    ((Snapshot.of space).handle (fun _ _ => false) (fun _ _ _ => 0) (.start (.at 0))).result =
      .ok r ∧
    ((Snapshot.of space).handle (fun _ _ => false) (fun _ _ _ => 0)
      (.start (.at (Int64.maxValue - 1)))).result = .ok r' ∧
    r'.ids = r.ids ∧ r.ids.keys = [10] ∧
    (r'.value (fun _ _ => false) "f").result.map (·.text) = some "2" := by
  obtain ⟨space, d, hspace, hd, hids, hopen, hfresh, -⟩ := reads_unbounded
  have hzero : (0 : Int64) ≠ Int64.maxValue := by decide
  have hbefore : Int64.maxValue - 1 ≠ Int64.maxValue := by decide
  obtain ⟨r, hr, hkeys, hvalue⟩ := Space.exists_of_fresh? hfresh
  obtain ⟨q, r', hq, hr', hsame, hreads⟩ := (timeless hspace hd hopen .empty (fun _ _ => false)
    (fun _ _ _ => 0) (.at 0)).1 0 (Int64.maxValue - 1) hzero hbefore
  obtain rfl : r = q := Except.ok.inj (hr.symm.trans hq)
  have hvalue' : (r'.value (fun _ _ => false) "f").result =
      (r.value (fun _ _ => false) "f").result :=
    (hreads _).1 "f"
  exact ⟨space, d, r, r', hspace, hd, hids, hopen, hzero, hbefore, hr, hr', hsame, hkeys,
    hvalue' ▸ hvalue⟩

/-- **The last time.**  At time 0 a new request enters the experiment and has its value of the flag;
at the last time it has a fallback id, and the flag has its base value. -/
theorem Payload.last_time_differs : ∃ space d r r',
    unbounded.space .bare = .ok space ∧ document .json unbounded.chunks = .ok d ∧
    (∀ s ∈ d.segments, s.Unbounded) ∧
    ((Snapshot.of space).handle (fun _ _ => false) (fun _ _ _ => 0) (.start (.at 0))).result =
      .ok r ∧
    ((Snapshot.of space).handle (fun _ _ => false) (fun _ _ _ => 0)
      (.start (.at Int64.maxValue))).result = .ok r' ∧
    r.ids.keys = [10] ∧ (r.value (fun _ _ => false) "f").result.map (·.text) = some "2" ∧
    r'.ids.keys = [103] ∧ (r'.value (fun _ _ => false) "f").result.map (·.text) = some "1" := by
  obtain ⟨space, d, hspace, hd, -, hopen, hfresh, hlast⟩ := reads_unbounded
  obtain ⟨r, hr, hkeys, hvalue⟩ := Space.exists_of_fresh? hfresh
  obtain ⟨r', hr', hkeys', hvalue'⟩ := Space.exists_of_fresh? hlast
  exact ⟨space, d, r, r', hspace, hd, hopen, hr, hr', hkeys, hvalue, hkeys', hvalue'⟩

end Rollout
