import Rollout.Commander
import Rollout.Proofs.Reloading
/-!
# The worker over whole runs

Commands are sent to a worker, ticks come due and something else is put on offer, in any order and
with any delay between the sending of a command and its being taken.  Whatever the order, all that
the worker does is a row of reloads (`Worker.history`): the first one is forced and comes before
everything else, and each of the others goes back to a tick or to a refresh that was taken before a
shutdown.

Each reload in the row begins where the one before it ended (`Reloader.Leads`).  So none of them
finds another one under way, and what is served in the end is what the last of them published that
published anything.
-/

namespace Rollout

/-! ## 1. What a reload comes to -/

namespace Reloader

/-- What a forced reload of an offer comes to; what is served before does not matter. -/
def forced (schema : Schema) : Offer → Except ReloadError ReloadOutcome
  | .error e => .error (.load e)
  | .ok none => .ok .absent
  | .ok (some payload) =>
    match payload.space schema with
    | .error e => .error (.rejected payload.version e)
    | .ok _ => .ok .updated

namespace Reloads

variable {schema : Schema} {r r' : Reloader} {force : Bool} {offer : Offer}
  {result : Except ReloadError ReloadOutcome}

/-- A reload that is not refused does not end as one that is. -/
theorem not_busy (h : r.Reloads schema force offer result r') : result ≠ .error .busy := by
  cases h <;> exact fun hbusy => by cases hbusy

theorem eq_forced (h : r.Reloads schema true offer result r') : result = forced schema offer := by
  cases h with
  | unloaded e => rfl
  | absent => rfl
  | unchanged hforce hversion => cases hforce
  | rejected htry hspace => rw [forced, hspace]
  | updated htry hspace => rw [forced, hspace]

end Reloads

end Reloader

/-! ## 2. The reloads of a worker -/

/-- A reload that a worker makes. -/
structure Attempt where
  /-- The refresh that it answers, if it answers one. -/
  ticket? : Option Nat
  force : Bool
  /-- What is on offer. -/
  offer : Offer
  /-- What is served before. -/
  reloader : Reloader

namespace Attempt

/-- What an attempt comes to. -/
def done (schema : Schema) (a : Attempt) : Reloaded := a.reloader.reload schema a.offer a.force

/-- What is said of an attempt to the one who asked for it. -/
def reply? (schema : Schema) (a : Attempt) : Option (Nat × Except ReloadError ReloadOutcome) :=
  a.ticket?.map fun ticket => (ticket, (a.done schema).result)

/-- The refresh that an attempt answers, with what is on offer for it. -/
def asked? (a : Attempt) : Option (Nat × Offer) := a.ticket?.map fun ticket => (ticket, a.offer)

end Attempt

namespace Worker

variable {schema : Schema} {w : Worker}

/-- The reload that an event brings about. -/
def attempt? (w : Worker) (event : WorkerEvent) : Option Attempt :=
  if w.ended then none
  else
    match event with
    | .tick => some ⟨none, false, w.offered, w.reloader⟩
    | .refresh ticket => some ⟨some ticket, true, w.offered, w.reloader⟩
    | .offer _ | .shutdown => none

/-- The reloads that events bring about, in order. -/
def attempts (schema : Schema) (w : Worker) : List WorkerEvent → List Attempt
  | [] => []
  | event :: events =>
    (w.attempt? event).toList ++ attempts schema (w.step schema event) events

/-- What a worker starts with, and then the reloads that events bring about. -/
def history (schema : Schema) (r : Reloader) (offered : Offer) (events : List WorkerEvent) :
    List Attempt :=
  ⟨none, true, offered, r⟩ :: (start schema r offered).attempts schema events

/-- The worker after an attempt. -/
def make (schema : Schema) (a : Attempt) (w : Worker) : Worker :=
  { w with
    reloader := (a.done schema).reloader
    replies := w.replies ++ (a.reply? schema).toList
    emissions := w.emissions ++ (a.done schema).emissions }

/-- All that an event can do to a worker: nothing but bring about a reload, nothing but put
something on offer, or nothing but end it. -/
theorem step_cases (schema : Schema) (w : Worker) (event : WorkerEvent) :
    (∃ a, w.attempt? event = some a ∧ w.ended = false ∧ a.reloader = w.reloader ∧
      a.offer = w.offered ∧ (a.ticket? = none ∨ a.force = true) ∧ event ≠ .shutdown ∧
      w.step schema event = w.make schema a) ∨
    (w.attempt? event = none ∧ ∃ offered ended,
      (ended = true ↔ w.ended = true ∨ event = .shutdown) ∧
      w.step schema event = { w with offered, ended }) := by
  cases hended : w.ended with
  | true =>
    refine .inr ⟨if_pos hended, (w.step schema event).offered, true, by simp, ?_⟩
    obtain ⟨reloader, offered, ended, replies, emissions⟩ := w
    cases hended
    cases event <;> rfl
  | false =>
    cases event with
    | tick =>
      refine .inl ⟨⟨none, false, w.offered, w.reloader⟩, by simp [attempt?, hended], rfl, rfl, rfl,
        .inl rfl, by simp, ?_⟩
      simp [step, hended, make, reload, Attempt.reply?, Attempt.done]
    | refresh ticket =>
      refine .inl ⟨⟨some ticket, true, w.offered, w.reloader⟩, by simp [attempt?, hended], rfl, rfl,
        rfl, .inr rfl, by simp, ?_⟩
      simp [step, hended, make, reload, Attempt.reply?, Attempt.done]
    | offer offer =>
      refine .inr ⟨by simp [attempt?], offer, false, by simp, ?_⟩
      rw [step, ← hended]
    | shutdown => exact .inr ⟨by simp [attempt?], w.offered, true, by simp, rfl⟩

theorem run_cons (event : WorkerEvent) (events : List WorkerEvent) :
    w.run schema (event :: events) = (w.step schema event).run schema events := rfl

theorem run_append (first second : List WorkerEvent) :
    w.run schema (first ++ second) = (w.run schema first).run schema second :=
  List.foldl_append

theorem attempts_append : ∀ (first second : List WorkerEvent) (w : Worker),
    w.attempts schema (first ++ second) =
      w.attempts schema first ++ (w.run schema first).attempts schema second
  | [], _, _ => rfl
  | event :: first, second, w => by
    simp only [List.cons_append, attempts, run_cons, attempts_append first second,
      List.append_assoc]

/-- A worker that has ended does nothing. -/
theorem run_of_ended : ∀ (events : List WorkerEvent) {w : Worker}, w.ended = true →
    w.attempts schema events = [] ∧ ∃ offered, w.run schema events = { w with offered }
  | [], w, _ => ⟨rfl, w.offered, rfl⟩
  | event :: events, w, hended => by
    obtain ⟨_, -, hnot, -⟩ | ⟨hnone, offered, ended, hiff, hstep⟩ := step_cases schema w event
    · exact absurd (hended.symm.trans hnot) (by decide)
    · have hstill : ended = true := hiff.2 (.inl hended)
      obtain ⟨hattempts, later, hrun⟩ :=
        run_of_ended events (w := w.step schema event) (by rw [hstep]; exact hstill)
      refine ⟨by rw [attempts, hnone, hattempts]; rfl, later, ?_⟩
      rw [run_cons, hrun, hstep, hstill, ← hended]

/-- Nothing but a shutdown ends a worker. -/
theorem ended_run_iff : ∀ (events : List WorkerEvent) {w : Worker},
    (w.run schema events).ended = true ↔ w.ended = true ∨ .shutdown ∈ events
  | [], w => by simp [run]
  | event :: events, w => by
    rw [run_cons, ended_run_iff events, List.mem_cons, ← or_assoc, eq_comm (b := event)]
    refine or_congr_left ?_
    obtain ⟨a, -, hgoing, -, -, -, hevent, hstep⟩ | ⟨-, offered, ended, hiff, hstep⟩ :=
      step_cases schema w event
    · simp [hstep, make, hgoing, hevent]
    · simpa only [hstep] using hiff

/-- What a worker answers and emits comes from its reloads alone. -/
theorem run_outputs : ∀ (events : List WorkerEvent) (w : Worker),
    (w.run schema events).replies =
        w.replies ++ (w.attempts schema events).filterMap (Attempt.reply? schema) ∧
      (w.run schema events).emissions =
        w.emissions ++ (w.attempts schema events).flatMap fun a => (a.done schema).emissions
  | [], w => by simp [run, attempts]
  | event :: events, w => by
    obtain ⟨hreplies, hemissions⟩ := run_outputs events (w.step schema event)
    rw [run_cons, hreplies, hemissions, attempts]
    obtain ⟨a, ha, -, -, -, -, -, hstep⟩ | ⟨hnone, offered, ended, -, hstep⟩ :=
      step_cases schema w event
    · cases hreply : a.reply? schema <;> simp [ha, hstep, make, hreply]
    · simp [hnone, hstep]

end Worker

/-! ## 3. Reloads in a row -/

namespace Reloader

/-- Reloads that follow one another: each begins where the one before it ended. -/
inductive Leads (schema : Schema) : Reloader → List Attempt → Reloader → Prop where
  | nil (r : Reloader) : Leads schema r [] r
  | cons {a : Attempt} {rest : List Attempt} {r : Reloader} (hidle : a.reloader.running = false)
      (hrest : Leads schema (a.done schema).reloader rest r) : Leads schema a.reloader (a :: rest) r

namespace Leads

variable {schema : Schema} {r r' : Reloader} {row : List Attempt}

/-- None of them is refused. -/
theorem not_busy (h : Leads schema r row r') :
    ∀ a ∈ row, (a.done schema).result ≠ .error .busy := by
  induction h with
  | nil r => exact fun _ ha => absurd ha List.not_mem_nil
  | cons hidle hrest ih =>
    intro a ha
    rcases List.mem_cons.1 ha with rfl | ha
    · exact (reloads schema hidle _ _).not_busy
    · exact ih a ha

/-- What is said of those that were asked for is what comes of a forced reload of what is on
offer. -/
theorem replies_eq (h : Leads schema r row r')
    (hforced : ∀ a ∈ row, a.ticket? = none ∨ a.force = true) :
    row.filterMap (Attempt.reply? schema) =
      (row.filterMap Attempt.asked?).map fun (ticket, offer) => (ticket, forced schema offer) := by
  induction h with
  | nil r => rfl
  | @cons a rest r hidle hrest ih =>
    have hrest := ih fun x hx => hforced x (List.mem_cons_of_mem _ hx)
    rcases hforced a List.mem_cons_self with hticket | hforce
    · rw [List.filterMap_cons_none (by rw [Attempt.reply?, hticket]; rfl),
        List.filterMap_cons_none (by rw [Attempt.asked?, hticket]; rfl), hrest]
    · have hresult : (a.done schema).result = forced schema a.offer := by
        rw [Attempt.done, hforce]
        exact (reloads schema hidle a.offer true).eq_forced
      cases hticket : a.ticket? with
      | none =>
        rw [List.filterMap_cons_none (by rw [Attempt.reply?, hticket]; rfl),
          List.filterMap_cons_none (by rw [Attempt.asked?, hticket]; rfl), hrest]
      | some ticket =>
        rw [List.filterMap_cons_some (by rw [Attempt.reply?, hticket, Option.map_some, hresult]),
          List.filterMap_cons_some (by rw [Attempt.asked?, hticket, Option.map_some]), hrest]
        rfl

end Leads

/-- The last reload in a row that published anything published what is served, or none did and what
was served before is served still. -/
inductive LastPublished (schema : Schema) (r : Reloader) (row : List Attempt) (served : Snapshot) :
    Prop where
  | never (hnone : ∀ a ∈ row, (a.done schema).result ≠ .ok .updated)
      (hserved : served = r.snapshot) : LastPublished schema r row served
  | last {before after : List Attempt} {a : Attempt} {payload : Payload} {space : Space}
      (hrow : row = before ++ a :: after) (hupdated : (a.done schema).result = .ok .updated)
      (hnone : ∀ x ∈ after, (x.done schema).result ≠ .ok .updated)
      (hoffer : a.offer = .ok (some payload)) (hspace : payload.space schema = .ok space)
      (hserved : served = .of space) : LastPublished schema r row served

/-- Where what is served after reloads comes from. -/
theorem Leads.lastPublished {schema : Schema} {r r' : Reloader} {row : List Attempt}
    (h : Leads schema r row r') : LastPublished schema r row r'.snapshot := by
  induction h with
  | nil r => exact .never (fun _ ha => absurd ha List.not_mem_nil) rfl
  | @cons a rest r hidle hrest ih =>
    have hreloads := reloads schema hidle a.offer a.force
    cases ih with
    | @last before after b payload space hrow hupdated hnone hoffer hspace hserved =>
      have hrow : a :: rest = (a :: before) ++ b :: after := congrArg (a :: ·) hrow
      exact .last hrow hupdated hnone hoffer hspace hserved
    | never hnone hserved =>
      by_cases hupdated : (a.done schema).result = .ok .updated
      · obtain ⟨payload, space, hoffer, hspace, hsnapshot, -⟩ := hreloads.of_updated hupdated
        exact .last (List.nil_append _).symm hupdated hnone hoffer hspace (hserved.trans hsnapshot)
      · refine .never (fun x hx => ?_) (hserved.trans ?_)
        · rcases List.mem_cons.1 hx with rfl | hx
          · exact hupdated
          · exact hnone x hx
        · exact congrArg Reloader.snapshot (hreloads.eq_of_not_updated hupdated)

end Reloader

namespace Worker

variable {schema : Schema}

/-- The reloads of a worker follow one another. -/
theorem leads_attempts : ∀ (events : List WorkerEvent) {w : Worker}, w.reloader.running = false →
    Reloader.Leads schema w.reloader (w.attempts schema events) (w.run schema events).reloader
  | [], w, _ => .nil w.reloader
  | event :: events, w, hidle => by
    rw [attempts, run_cons]
    obtain ⟨a, ha, -, hfrom, -, -, -, hstep⟩ | ⟨hnone, offered, ended, -, hstep⟩ :=
      step_cases schema w event
    · have hreloads := Reloader.reloads schema (hfrom ▸ hidle) a.offer a.force
      have hrest := leads_attempts events (w := w.make schema a) (hreloads.idle (hfrom ▸ hidle))
      rw [ha, hstep, ← hfrom]
      exact .cons (hfrom ▸ hidle) hrest
    · have hrest := leads_attempts events (w := { w with offered, ended }) hidle
      rw [hnone, hstep]
      exact hrest

/-- Whoever asks for a reload gets a forced one. -/
theorem forced_attempts : ∀ (events : List WorkerEvent) (w : Worker),
    ∀ a ∈ w.attempts schema events, a.ticket? = none ∨ a.force = true
  | [], _, _, ha => absurd ha List.not_mem_nil
  | event :: events, w, a, ha => by
    rcases List.mem_append.1 ha with ha | ha
    · obtain ⟨b, hb, -, -, -, hforced, -, -⟩ | ⟨hnone, -⟩ := step_cases schema w event
      · rw [hb, Option.toList_some, List.mem_singleton] at ha
        exact ha ▸ hforced
      · rw [hnone] at ha
        exact absurd ha List.not_mem_nil
    · exact forced_attempts events _ a ha

/-! ## 4. What is asked of a worker -/

/-- The refreshes that are taken before a shutdown, in order, each with what is on offer when it is
taken. -/
def asked (offered : Offer) : List WorkerEvent → List (Nat × Offer)
  | [] => []
  | .tick :: events => asked offered events
  | .refresh ticket :: events => (ticket, offered) :: asked offered events
  | .offer offer :: events => asked offer events
  | .shutdown :: _ => []

/-- Each refresh that is taken brings about one reload of what is on offer. -/
theorem asked_attempts : ∀ (events : List WorkerEvent) {w : Worker}, w.ended = false →
    (w.attempts schema events).filterMap Attempt.asked? = asked w.offered events
  | [], _, _ => rfl
  | .tick :: events, w, hgoing => by
    have hattempt : w.attempt? .tick = some ⟨none, false, w.offered, w.reloader⟩ := by
      simp [attempt?, hgoing]
    have hstep : w.step schema .tick = (w.reload schema false).2 := by simp [step, hgoing]
    have hrest := asked_attempts events (w := (w.reload schema false).2) hgoing
    rw [attempts, hattempt, hstep, Option.toList_some, List.singleton_append,
      List.filterMap_cons_none rfl, hrest]
    rfl
  | .refresh ticket :: events, w, hgoing => by
    have hattempt : w.attempt? (.refresh ticket) =
        some ⟨some ticket, true, w.offered, w.reloader⟩ := by
      simp [attempt?, hgoing]
    have hafter : (w.step schema (.refresh ticket)).ended = false ∧
        (w.step schema (.refresh ticket)).offered = w.offered := by
      simp [step, hgoing, reload]
    have hasked : Attempt.asked? ⟨some ticket, true, w.offered, w.reloader⟩ =
        some (ticket, w.offered) := rfl
    have hrest := asked_attempts events hafter.1
    rw [attempts, hattempt, Option.toList_some, List.singleton_append,
      List.filterMap_cons_some hasked, hrest, hafter.2]
    rfl
  | .offer offer :: events, w, hgoing => by
    have hattempt : w.attempt? (.offer offer) = none := by simp [attempt?]
    have hrest := asked_attempts events (w := w.step schema (.offer offer)) hgoing
    rw [attempts, hattempt, Option.toList_none, List.nil_append, hrest]
    rfl
  | .shutdown :: events, w, hgoing => by
    have hattempt : w.attempt? .shutdown = none := by simp [attempt?]
    have hended : (w.step schema .shutdown).ended = true := rfl
    rw [attempts, hattempt, (run_of_ended events hended).1]
    rfl

/-- What a worker has done after events. -/
structure Serves (schema : Schema) (r : Reloader) (offered : Offer) (events : List WorkerEvent)
    (w : Worker) : Prop where
  /-- Before the first event there was one reload, a forced one, and nothing else. -/
  first : start schema r offered =
    ⟨(r.reload schema offered true).reloader, offered, false, [],
      (r.reload schema offered true).emissions⟩
  /-- All that was emitted comes from the reloads in the history. -/
  emissions : w.emissions =
    (history schema r offered events).flatMap fun a => (a.done schema).emissions
  /-- Each refresh that was taken before a shutdown brought about one reload of what was on
  offer. -/
  asked : (history schema r offered events).filterMap Attempt.asked? = asked offered events
  /-- Whoever asked for a reload got a forced one. -/
  forced : ∀ a ∈ history schema r offered events, a.ticket? = none ∨ a.force = true
  /-- Each refresh that was taken before a shutdown has one answer, in the same order: what came of
  a forced reload of what was on offer. -/
  replies : w.replies = (Worker.asked offered events).map fun (ticket, offer) =>
    (ticket, Reloader.forced schema offer)
  /-- No reload found another one under way. -/
  notBusy : ∀ a ∈ history schema r offered events, (a.done schema).result ≠ .error .busy
  /-- The worker goes on until a shutdown, whatever came of the reloads. -/
  ended : w.ended = true ↔ .shutdown ∈ events
  /-- Nothing was reloaded after a shutdown. -/
  closed : ∀ before after, events = before ++ .shutdown :: after →
    history schema r offered events = history schema r offered before ∧
      ∃ offered' ended, w = { (start schema r offered).run schema before with
        offered := offered', ended }
  /-- What is served is what the last reload published that published anything. -/
  served : Reloader.LastPublished schema r (history schema r offered events) w.reloader.snapshot

/-- The reloads in a history follow one another. -/
theorem leads_history {r : Reloader} (hidle : r.running = false) (offered : Offer)
    (events : List WorkerEvent) : Reloader.Leads schema r (history schema r offered events)
      ((start schema r offered).run schema events).reloader := by
  have hreloads := Reloader.reloads schema hidle offered true
  exact Reloader.Leads.cons (a := ⟨none, true, offered, r⟩) hidle
    (leads_attempts events (w := start schema r offered) (hreloads.idle hidle))

/-- **One worker, one reload at a time**, whatever it is told. -/
theorem serves_run {r : Reloader} (hidle : r.running = false) (offered : Offer)
    (events : List WorkerEvent) :
    Serves schema r offered events ((start schema r offered).run schema events) where
  first := rfl
  emissions := (run_outputs events _).2
  asked := asked_attempts events rfl
  forced := by
    intro a ha
    rcases List.mem_cons.1 ha with rfl | ha
    · exact .inl rfl
    · exact forced_attempts events _ a ha
  replies := by
    have hleads := @leads_attempts schema events (start schema r offered)
      ((Reloader.reloads schema hidle offered true).idle hidle)
    rw [(run_outputs events _).1, hleads.replies_eq (forced_attempts events _),
      asked_attempts events rfl]
    rfl
  notBusy := (leads_history hidle offered events).not_busy
  ended := by
    rw [ended_run_iff]
    exact or_iff_right Bool.false_ne_true
  closed := by
    rintro before after rfl
    have hended :
        (((start schema r offered).run schema before).step schema .shutdown).ended = true :=
      rfl
    obtain ⟨hattempts, later, hrun⟩ := @run_of_ended schema after _ hended
    refine ⟨?_, later, true, ?_⟩
    · simp [history, attempts_append, attempts, attempt?, hattempts]
    · rw [run_append, run_cons, hrun]
      rfl
  served := (leads_history hidle offered events).lastPublished

end Worker

/-! ## 5. Commands that wait -/

namespace WorkerEvent

/-- Whether an event is a command, which waits until it is taken. -/
def isCommand : WorkerEvent → Bool
  | .refresh _ | .shutdown => true
  | .tick | .offer _ => false

/-- The ticket of a refresh. -/
def ticket? : WorkerEvent → Option Nat
  | .refresh ticket => some ticket
  | .tick | .offer _ | .shutdown => none

end WorkerEvent

/-- The refreshes that are answered are the first ones that a worker sees. -/
theorem Worker.tickets_asked : ∀ (events : List WorkerEvent) (offered : Offer),
    (asked offered events).map Prod.fst <+: events.filterMap WorkerEvent.ticket?
  | [], _ => List.prefix_rfl
  | .tick :: events, offered => tickets_asked events offered
  | .refresh ticket :: events, offered =>
    (List.prefix_cons_inj ticket).2 (tickets_asked events offered)
  | .offer offer :: events, _ => tickets_asked events offer
  | .shutdown :: _, _ => List.nil_prefix

namespace Shift

/-- What can happen next, one thing at a time and in any order. -/
inductive Act where
  /-- Something else is on offer from now on. -/
  | offer (offer : Offer)
  /-- A refresh is asked for. -/
  | ask
  /-- The worker is told to end. -/
  | dismiss
  /-- A tick is due and the worker sees to it. -/
  | tick
  /-- The worker takes the command that has waited longest. -/
  | take

/-- A worker after its first reload, with nothing to do yet. -/
def begun (schema : Schema) (r : Reloader) (offered : Offer) : Shift :=
  ⟨.start schema r offered, [], 0, 0⟩

/-- What comes of an act. -/
def after (schema : Schema) (s : Shift) : Act → Shift
  | .offer offer => { s with worker := s.worker.step schema (.offer offer) }
  | .ask => { s with tickets := s.tickets + 1 }.send (.refresh s.tickets)
  | .dismiss => s.send .shutdown
  | .tick => { s with worker := s.worker.step schema .tick }
  | .take =>
    match s.queue with
    | [] => s
    | command :: queue => { s with worker := s.worker.step schema command, queue }

/-- What comes of acts. -/
def run (schema : Schema) (s : Shift) (acts : List Act) : Shift := acts.foldl (after schema) s

/-- What an act is for the worker. -/
def sees? (s : Shift) : Act → Option WorkerEvent
  | .offer offer => some (.offer offer)
  | .tick => some .tick
  | .take => s.queue.head?
  | .ask | .dismiss => none

/-- The command that an act sends. -/
def sends? (s : Shift) : Act → Option WorkerEvent
  | .ask => if s.worker.ended then none else some (.refresh s.tickets)
  | .dismiss => if s.worker.ended then none else some .shutdown
  | .offer _ | .tick | .take => none

/-- What the worker sees of acts. -/
def seen (schema : Schema) (s : Shift) : List Act → List WorkerEvent
  | [] => []
  | act :: acts => (s.sees? act).toList ++ seen schema (s.after schema act) acts

/-- The commands that acts send. -/
def sent (schema : Schema) (s : Shift) : List Act → List WorkerEvent
  | [] => []
  | act :: acts => (s.sends? act).toList ++ sent schema (s.after schema act) acts

variable {schema : Schema}

theorem run_cons (s : Shift) (act : Act) (acts : List Act) :
    s.run schema (act :: acts) = (s.after schema act).run schema acts := rfl

/-- The worker changes by what it sees and by nothing else. -/
theorem worker_after (s : Shift) (act : Act) :
    (s.after schema act).worker = s.worker.run schema (s.sees? act).toList := by
  cases act with
  | offer offer => rfl
  | ask =>
    rw [after, send]
    split <;> rfl
  | dismiss =>
    rw [after, send]
    split <;> rfl
  | tick => rfl
  | take =>
    rw [after, sees?]
    cases s.queue <;> rfl

theorem worker_run : ∀ (acts : List Act) (s : Shift),
    (s.run schema acts).worker = s.worker.run schema (s.seen schema acts)
  | [], _ => rfl
  | act :: acts, s => by
    rw [run_cons, worker_run acts, worker_after, seen, Worker.run_append]

/-- A command is sent to the end of the queue and taken from its head. -/
theorem queue_after {s : Shift} (hqueue : ∀ event ∈ s.queue, event.isCommand = true) (act : Act) :
    (∀ event ∈ (s.after schema act).queue, event.isCommand = true) ∧
      (s.sees? act).toList.filter WorkerEvent.isCommand ++ (s.after schema act).queue =
        s.queue ++ (s.sends? act).toList := by
  have hsend : ∀ event ∈ s.queue ++ (s.sends? act).toList, event.isCommand = true := by
    intro event he
    rcases List.mem_append.1 he with he | he
    · exact hqueue event he
    · cases act with
      | ask => cases hended : s.worker.ended <;> simp_all [sends?, WorkerEvent.isCommand]
      | dismiss => cases hended : s.worker.ended <;> simp_all [sends?, WorkerEvent.isCommand]
      | _ => exact absurd he List.not_mem_nil
  cases act with
  | offer offer => exact ⟨hqueue, by simp [sees?, sends?, after, WorkerEvent.isCommand]⟩
  | tick => exact ⟨hqueue, by simp [sees?, sends?, after, WorkerEvent.isCommand]⟩
  | ask =>
    have hafter : (s.after schema .ask).queue = s.queue ++ (s.sends? .ask).toList := by
      cases hended : s.worker.ended <;> simp [after, send, sends?, hended]
    exact ⟨hafter ▸ hsend, hafter⟩
  | dismiss =>
    have hafter : (s.after schema .dismiss).queue = s.queue ++ (s.sends? .dismiss).toList := by
      cases hended : s.worker.ended <;> simp [after, send, sends?, hended]
    exact ⟨hafter ▸ hsend, hafter⟩
  | take =>
    cases hhead : s.queue with
    | nil => simp [after, sees?, sends?, hhead]
    | cons command queue =>
      rw [hhead] at hqueue
      refine ⟨?_, ?_⟩
      · simpa [after, hhead] using fun event he => hqueue event (List.mem_cons_of_mem _ he)
      · simp [after, sees?, sends?, hhead, hqueue command List.mem_cons_self]

/-- **First come, first served.**  The commands that the worker has seen, with those that still
wait, are the ones that were sent, in the same order. -/
theorem queue_run : ∀ (acts : List Act) {s : Shift},
    (∀ event ∈ s.queue, event.isCommand = true) →
      (s.seen schema acts).filter WorkerEvent.isCommand ++ (s.run schema acts).queue =
        s.queue ++ s.sent schema acts
  | [], s, _ => by simp [seen, sent, run]
  | act :: acts, s, hqueue => by
    obtain ⟨hnext, hact⟩ := @queue_after schema s hqueue act
    rw [run_cons, seen, sent, List.filter_append, List.append_assoc, queue_run acts hnext,
      ← List.append_assoc, hact, List.append_assoc]

/-- Tickets are handed out once each, in ascending order. -/
theorem tickets_sent : ∀ (acts : List Act) (s : Shift),
    ((s.sent schema acts).filterMap WorkerEvent.ticket?).Pairwise (· < ·) ∧
      ∀ ticket ∈ (s.sent schema acts).filterMap WorkerEvent.ticket?, s.tickets ≤ ticket
  | [], _ => ⟨.nil, fun _ h => absurd h List.not_mem_nil⟩
  | act :: acts, s => by
    obtain ⟨hordered, hleast⟩ := tickets_sent acts (s.after schema act)
    have hsame : (s.sends? act).toList.filterMap WorkerEvent.ticket? = [] ∧
          s.tickets ≤ (s.after schema act).tickets ∨
        (s.sends? act).toList.filterMap WorkerEvent.ticket? = [s.tickets] ∧
          s.tickets + 1 ≤ (s.after schema act).tickets := by
      cases act with
      | offer offer => exact .inl ⟨rfl, le_rfl⟩
      | tick => exact .inl ⟨rfl, le_rfl⟩
      | take => cases hqueue : s.queue <;> simp [sends?, after, hqueue]
      | ask =>
        cases hended : s.worker.ended <;> simp [sends?, after, send, hended, WorkerEvent.ticket?]
      | dismiss =>
        cases hended : s.worker.ended <;> simp [sends?, after, send, hended, WorkerEvent.ticket?]
    rw [sent, List.filterMap_append]
    rcases hsame with ⟨hnone, hle⟩ | ⟨hone, hle⟩
    · rw [hnone, List.nil_append]
      exact ⟨hordered, fun ticket ht => hle.trans (hleast ticket ht)⟩
    · rw [hone, List.singleton_append]
      refine ⟨List.pairwise_cons.2 ⟨fun ticket ht => hle.trans (hleast ticket ht), hordered⟩, ?_⟩
      intro ticket ht
      rcases List.mem_cons.1 ht with rfl | ht
      · exact le_rfl
      · exact (Nat.le_of_succ_le hle).trans (hleast ticket ht)

end Shift

/-- **The worker keeps its word**, at every moment of every run and in whatever order ticks come
due, commands are sent and taken, and something else is put on offer.  Before everything else it
makes a forced reload.  Each refresh that it takes before a shutdown has one answer: what came of
one forced reload of what was on offer just then.  The answers come in the order of the commands,
which are taken in the order in which they were sent.  No reload is refused, none of them ends the
worker by failing, and none is made after a shutdown.  What is served is what the last reload
published that published anything, and what was served at first until there is one. -/
theorem works_in_order {schema : Schema} {r : Reloader} (hidle : r.running = false)
    (offered : Offer) (acts : List Shift.Act) :
    let begun := Shift.begun schema r offered
    let s := begun.run schema acts
    let seen := begun.seen schema acts
    let sent := begun.sent schema acts
    Worker.Serves schema r offered seen s.worker ∧
    seen.filter WorkerEvent.isCommand ++ s.queue = sent ∧
    s.worker.replies.map Prod.fst <+: sent.filterMap WorkerEvent.ticket? ∧
    (sent.filterMap WorkerEvent.ticket?).Pairwise (· < ·) := by
  intro begun s seen sent
  have hworker : s.worker = begun.worker.run schema seen := Shift.worker_run acts begun
  have hserves : Worker.Serves schema r offered seen s.worker :=
    hworker ▸ Worker.serves_run hidle offered seen
  have hqueue : seen.filter WorkerEvent.isCommand ++ s.queue = sent :=
    Shift.queue_run acts fun _ he => absurd he List.not_mem_nil
  refine ⟨hserves, hqueue, ?_, (Shift.tickets_sent acts begun).1⟩
  have htickets : ∀ events : List WorkerEvent, events.filterMap WorkerEvent.ticket? =
      (events.filter WorkerEvent.isCommand).filterMap WorkerEvent.ticket? := by
    intro events
    rw [List.filterMap_filter]
    refine List.filterMap_congr fun event _ => ?_
    cases event <;> rfl
  have hanswered : s.worker.replies.map Prod.fst = (Worker.asked offered seen).map Prod.fst := by
    rw [hserves.replies, List.map_map]
    rfl
  rw [hanswered]
  refine (Worker.tickets_asked seen offered).trans ?_
  rw [htickets, ← hqueue, List.filterMap_append]
  exact List.prefix_append _ _

/-- A worker that starts with scrap on offer.  A refresh is asked for and taken, a better payload is
put on offer and found by a tick, then two refreshes are asked for, and the offer is withdrawn
before the second one is taken.  In the end the worker is told to end, and one more refresh is asked
for in vain. -/
def Shift.fullDay : List Shift.Act :=
  [.ask, .take, .offer (.ok (some .sample)), .tick, .ask, .ask, .take, .offer (.ok none), .take,
    .tick, .dismiss, .ask, .take, .offer (.ok (some .sample)), .tick, .take]

/-- The first refresh fails and the next ones do not, the last one is not answered, and the sample
is served. -/
theorem works_in_order_fullDay : ∃ s : Shift,
    s = (Shift.begun ⟨.yaml, .empty, .empty⟩ .initial (.ok (some .scrap))).run
      ⟨.yaml, .empty, .empty⟩ Shift.fullDay ∧
    Reloader.initial.running = false ∧
    (s.worker.replies.map fun (ticket, result) => (ticket, result.toOption)) =
      [(0, none), (1, some .updated), (2, some .absent)] ∧
    s.worker.ended = true ∧ s.worker.reloader.version = "v1" := by
  have hworks := @works_in_order ⟨.yaml, .empty, .empty⟩ .initial rfl
    (.ok (some .scrap)) Shift.fullDay
  refine ⟨_, rfl, rfl, ?_, ?_, ?_⟩
  · rw [hworks.1.replies]
    decide +kernel
  · decide +kernel
  · decide +kernel

/-! ## 6. Workers under command -/

namespace Shift

variable {schema : Schema} {s t u : Shift}

/-- One shift comes out of another by acts, at whatever time. -/
def Reaches (schema : Schema) (s t : Shift) : Prop :=
  ∃ acts clock, t = { s.run schema acts with clock }

/-- Acts do not look at the clock. -/
theorem run_clock : ∀ (acts : List Act) (s : Shift) (clock : Nat),
    ({ s with clock } : Shift).run schema acts = { s.run schema acts with clock }
  | [], _, _ => rfl
  | act :: acts, s, clock => by
    have hafter : ({ s with clock } : Shift).after schema act =
        { s.after schema act with clock } := by
      cases act with
      | ask => cases hended : s.worker.ended <;> simp [after, send, hended]
      | dismiss => cases hended : s.worker.ended <;> simp [after, send, hended]
      | take => cases hqueue : s.queue <;> simp [after, hqueue]
      | _ => rfl
    rw [run_cons, hafter, run_clock acts, run_cons]

theorem Reaches.trans (h : s.Reaches schema t) (h' : t.Reaches schema u) : s.Reaches schema u := by
  obtain ⟨acts, clock, rfl⟩ := h
  obtain ⟨more, later, rfl⟩ := h'
  refine ⟨acts ++ more, later, ?_⟩
  rw [run_clock, run, run, run, List.foldl_append]

theorem reaches_run (acts : List Act) : s.Reaches schema (s.run schema acts) :=
  ⟨acts, (s.run schema acts).clock, rfl⟩

/-- A worker that gets to see all that it was told takes one command after the other. -/
theorem reaches_settle (s : Shift) : s.Reaches schema (s.settle schema) := by
  obtain ⟨w, queue, clock, tickets⟩ := s
  induction queue generalizing w with
  | nil => exact reaches_run []
  | cons command queue ih =>
    exact (reaches_run [.take]).trans (ih (w.step schema command))

theorem reaches_ticks (n : Nat) (s : Shift) : s.Reaches schema
    { s with worker := s.worker.run schema (List.replicate n .tick) } := by
  induction n generalizing s with
  | zero => exact reaches_run []
  | succ n ih => exact (reaches_run [.tick]).trans (ih _)

theorem reaches_pass (interval milliseconds : Nat) (s : Shift) :
    s.Reaches schema (s.pass schema interval milliseconds) := by
  refine (s.reaches_settle.trans (reaches_ticks _ _)).trans ⟨[], s.clock + milliseconds, rfl⟩

theorem reaches_perform (interval : Nat) (s : Shift) (c : Command) :
    s.Reaches schema (s.perform schema interval c).2 := by
  match c with
  | .offer offer => exact reaches_run [.offer offer]
  | .sleep 0 => exact reaches_run []
  | .sleep (milliseconds + 1) => exact s.reaches_pass interval (milliseconds + 1)
  | .refresh => exact (reaches_run [.ask]).trans (reaches_settle _)
  | .abandon => exact reaches_run [.ask]
  | .shutdown => exact reaches_run [.dismiss]
  | .version => exact reaches_run []

theorem reaches_performAll (interval : Nat) : ∀ (commands : List Command) (s : Shift),
    s.Reaches schema (s.performAll schema interval commands).2
  | [], _ => (reaches_run [.dismiss]).trans (reaches_settle _)
  | c :: commands, s =>
    (s.reaches_perform interval c).trans (reaches_performAll interval commands _)

end Shift

/-- Whoever commands a worker by the clock, at any interval, gets one of the runs above. -/
theorem Worker.exists_acts_command (schema : Schema) (interval : Nat) (r : Reloader)
    (offered : Offer) (commands : List Command) : ∃ acts,
      (Worker.command schema interval r offered commands).2 =
        ((Shift.begun schema r offered).run schema acts).worker := by
  have hpass := @Shift.reaches_pass schema interval 1 (.begun schema r offered)
  obtain ⟨acts, clock, hshift⟩ := hpass.trans (Shift.reaches_performAll interval commands _)
  refine ⟨acts, ?_⟩
  change ((Shift.begun schema r offered).pass schema interval 1
    |>.performAll schema interval commands).2.worker = _
  rw [hshift]

end Rollout
