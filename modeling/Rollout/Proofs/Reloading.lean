import Rollout.Proofs.DocumentTyping
import Rollout.Proofs.KillSwitch
import Rollout.Reload
/-!
# Reloading over whole runs

A reload either publishes a whole space or changes nothing at all.  Whether it has anything to do is
decided by the version alone: what is on offer under the version that is served is taken to be
served.

That this is right in the long run is an invariant (`Supply.Sound`): whatever was offered, reloaded
and turned off before, the space that is served was built from a payload that was on offer at some
time, or nothing was ever published.  So as long as payloads of one version say the same, a reload
that has nothing to do has nothing to do indeed (`reload_safe`).
-/

namespace Rollout

/-! ## 1. One reload -/

/-- The space of a payload is served under the version of the payload. -/
theorem Payload.version_space {schema : Schema} {payload : Payload} {space : Space}
    (h : payload.space schema = .ok space) : space.version = payload.version := by
  obtain ⟨_, -, hbuild⟩ := exists_definition h
  rw [(Builder.build_ok hbuild).2]
  rfl

namespace Reloader

/-- All that a reload which is not refused can come to, and what is served then. -/
inductive Reloads (schema : Schema) (r : Reloader) (force : Bool) :
    Offer → Except ReloadError ReloadOutcome → Reloader → Prop where
  /-- Nothing could be had. -/
  | unloaded (e : LoadError) : Reloads schema r force (.error e) (.error (.load e)) r
  /-- Nothing is on offer. -/
  | absent : Reloads schema r force (.ok none) (.ok .absent) r
  /-- The version on offer is served already. -/
  | unchanged {payload : Payload} (hforce : force = false)
      (hversion : payload.version = r.version) :
      Reloads schema r force (.ok (some payload)) (.ok .unchanged) r
  /-- What is on offer describes no space. -/
  | rejected {payload : Payload} {e : DocumentError}
      (htry : force = true ∨ payload.version ≠ r.version)
      (hspace : payload.space schema = .error e) :
      Reloads schema r force (.ok (some payload)) (.error (.rejected payload.version e)) r
  /-- The space on offer is published. -/
  | updated {payload : Payload} {space : Space}
      (htry : force = true ∨ payload.version ≠ r.version)
      (hspace : payload.space schema = .ok space) :
      Reloads schema r force (.ok (some payload)) (.ok .updated) ⟨.of space, false⟩

/-- **All or nothing.**  A reload that is asked for while no other is under way comes to one of
these. -/
theorem reloads (schema : Schema) {r : Reloader} (hidle : r.running = false) (offer : Offer)
    (force : Bool) : r.Reloads schema force offer (r.reload schema offer force).result
      (r.reload schema offer force).reloader := by
  obtain ⟨snapshot, running⟩ := r
  subst hidle
  simp only [reload, start, Bool.false_eq_true, if_false, finish]
  match offer with
  | .error e => exact .unloaded e
  | .ok none => exact .absent
  | .ok (some payload) =>
    rw [take]
    by_cases hskip : (!force && payload.version == snapshot.space.version) = true
    · rw [if_pos hskip]
      obtain ⟨hforce, hversion⟩ := Bool.and_eq_true_iff.1 hskip
      exact .unchanged (Bool.not_eq_true' _ ▸ hforce) (beq_iff_eq.1 hversion)
    · rw [if_neg hskip]
      have htry : force = true ∨ payload.version ≠ version ⟨snapshot, false⟩ := by
        simp only [Bool.and_eq_true, Bool.not_eq_true', beq_iff_eq, not_and_or,
          Bool.not_eq_false] at hskip
        exact hskip
      cases hspace : payload.space schema with
      | error e => exact .rejected htry hspace
      | ok space => exact .updated htry hspace

namespace Reloads

variable {schema : Schema} {r r' : Reloader} {force : Bool} {offer : Offer}
  {result : Except ReloadError ReloadOutcome}

/-- A reload that publishes nothing changes nothing. -/
theorem eq_of_not_updated (h : r.Reloads schema force offer result r')
    (hnot : result ≠ .ok .updated) : r' = r := by
  cases h with
  | updated => exact absurd rfl hnot
  | _ => rfl

/-- A reload has nothing to do just if it is not forced and the version on offer is served. -/
theorem unchanged_iff (h : r.Reloads schema force offer result r') : result = .ok .unchanged ↔
    force = false ∧ ∃ payload, offer = .ok (some payload) ∧ payload.version = r.version := by
  have hclash : ∀ {payload : Payload}, force = true ∨ payload.version ≠ r.version →
      ¬ (force = false ∧ payload.version = r.version) := by
    rintro payload (htry | htry) ⟨hforce, hversion⟩
    · exact absurd (hforce.symm.trans htry) Bool.false_ne_true
    · exact htry hversion
  cases h with
  | unloaded e => simp
  | absent => simp
  | unchanged hforce hversion => exact iff_of_true rfl ⟨hforce, _, rfl, hversion⟩
  | rejected htry hspace => simpa using fun hforce hversion => hclash htry ⟨hforce, hversion⟩
  | updated htry hspace => simpa using fun hforce hversion => hclash htry ⟨hforce, hversion⟩

/-- A reload that publishes serves the space on offer, with everything turned on. -/
theorem of_updated (h : r.Reloads schema force offer result r') (hresult : result = .ok .updated) :
    ∃ payload space, offer = .ok (some payload) ∧ payload.space schema = .ok space ∧
      r'.snapshot = .of space ∧ r'.snapshot.space.version = payload.version := by
  cases h with
  | updated htry hspace => exact ⟨_, _, rfl, hspace, rfl, Payload.version_space hspace⟩
  | _ => cases hresult

/-- No reload leaves another one under way. -/
theorem idle (h : r.Reloads schema force offer result r') (hidle : r.running = false) :
    r'.running = false := by
  cases h with
  | updated => rfl
  | _ => exact hidle

end Reloads

end Reloader

/-! ## 2. Runs -/

/-- A reloader and what is on offer to it. -/
structure Supply where
  reloader : Reloader
  offered : Offer

namespace Supply

/-- What can happen, one thing at a time. -/
inductive Act where
  /-- Something else is on offer from now on. -/
  | offer (offer : Offer)
  /-- A reload. -/
  | reload (force : Bool)
  /-- Turning a segment off. -/
  | disable (id : SegmentId)

/-- Before anything is on offer. -/
def initial : Supply := ⟨.initial, .ok none⟩

/-- A reload of what is on offer. -/
def reload (schema : Schema) (s : Supply) (force : Bool) : Reloaded :=
  s.reloader.reload schema s.offered force

/-- What is served and on offer after an act. -/
def after (schema : Schema) (s : Supply) : Act → Supply
  | .offer offer => { s with offered := offer }
  | .reload force => { s with reloader := (s.reload schema force).reloader }
  | .disable id =>
    { s with reloader := { s.reloader with snapshot := (s.reloader.snapshot.disable id).2.1 } }

/-- What is served and on offer after acts. -/
def run (schema : Schema) (s : Supply) (acts : List Act) : Supply := acts.foldl (after schema) s

/-- A payload is on offer at some time. -/
def Offers (acts : List Act) (payload : Payload) : Prop := Act.offer (.ok (some payload)) ∈ acts

/-- Versions are told apart: each is named, and stands for one content. -/
structure Versioned (acts : List Act) : Prop where
  named : ∀ payload, Offers acts payload → payload.version ≠ ""
  same : ∀ first second, Offers acts first → Offers acts second →
    first.version = second.version → first.chunks = second.chunks

/-- Where what is served and what is on offer come from: from payloads that were on offer. -/
structure Sound (schema : Schema) (Seen : Payload → Prop) (s : Supply) : Prop where
  idle : s.reloader.running = false
  offered : ∀ payload, s.offered = .ok (some payload) → Seen payload
  served : s.reloader.snapshot.space = .empty "" ∨
    ∃ payload, Seen payload ∧ payload.space schema = .ok s.reloader.snapshot.space

variable {schema : Schema} {Seen : Payload → Prop} {s : Supply}

theorem Sound.initial : Sound schema Seen .initial where
  idle := rfl
  offered := fun _ h => by cases h
  served := .inl rfl

/-- Nothing that can happen takes what is served from anywhere else. -/
theorem Sound.after (h : Sound schema Seen s) {a : Act}
    (ha : ∀ payload, a = .offer (.ok (some payload)) → Seen payload) :
    Sound schema Seen (s.after schema a) := by
  cases a with
  | offer offer => exact { h with offered := fun payload hp => ha payload (congrArg Act.offer hp) }
  | reload force =>
    have hreloads := Reloader.reloads schema h.idle s.offered force
    refine ⟨hreloads.idle h.idle, h.offered, ?_⟩
    rw [Supply.after, Supply.reload]
    by_cases hresult : (s.reloader.reload schema s.offered force).result = .ok .updated
    · obtain ⟨payload, space, hoffered, hspace, hsnapshot, -⟩ := hreloads.of_updated hresult
      rw [hsnapshot]
      exact .inr ⟨payload, h.offered payload hoffered, hspace⟩
    · rw [hreloads.eq_of_not_updated hresult]
      exact h.served
  | disable id =>
    obtain ⟨disabled, hafter, -⟩ := s.reloader.snapshot.after_keeps (.disable id)
    have hspace : (s.reloader.snapshot.after (.disable id)).space = s.reloader.snapshot.space := by
      rw [hafter]
    exact ⟨h.idle, h.offered, hspace ▸ h.served⟩

/-- **Where the space that is served comes from**, at every moment of every run. -/
theorem sound_run : ∀ {acts : List Act} {s : Supply}, Sound schema Seen s →
    (∀ payload, Offers acts payload → Seen payload) → Sound schema Seen (s.run schema acts)
  | [], _, h, _ => h
  | a :: acts, s, h, hseen => by
    change Sound schema Seen ((s.after schema a).run schema acts)
    refine sound_run (h.after fun payload ha => ?_) fun payload hp => ?_
    · exact hseen payload (ha ▸ List.mem_cons_self)
    · exact hseen payload (List.mem_cons_of_mem _ hp)

/-- What is on offer under the version that is served is what is served. -/
theorem Sound.space_of_version {acts : List Act} (h : Sound schema (Offers acts) s)
    (hversioned : Versioned acts) {payload : Payload} (hoffered : s.offered = .ok (some payload))
    (hversion : payload.version = s.reloader.version) :
    payload.space schema = .ok s.reloader.snapshot.space := by
  have hseen := h.offered payload hoffered
  rcases h.served with hempty | ⟨before, hbefore, hspace⟩
  · -- nothing was published yet, and the empty version names nothing
    refine absurd ?_ (hversioned.named payload hseen)
    rw [hversion, Reloader.version, hempty]
    rfl
  · have hsame : payload.version = before.version :=
      hversion.trans (Payload.version_space hspace)
    have hchunks := hversioned.same payload before hseen hbefore hsame
    obtain ⟨_, _⟩ := payload
    obtain ⟨_, _⟩ := before
    cases hsame
    cases hchunks
    exact hspace

end Supply

/-- **A reload is safe.**  Whatever was offered, reloaded and turned off before, a reload that
publishes nothing leaves the space that is served as it is, with its kill switches.  It finds
nothing to do exactly if it is not forced and the version on offer is the one that is served.  One
that publishes serves the space of the payload on offer, under its version and with everything
turned on.  So after a reload that published or found nothing to do, the space of the payload on
offer is served. -/
theorem reload_safe {schema : Schema} {acts : List Supply.Act} (h : Supply.Versioned acts)
    (force : Bool) :
    let before := Supply.initial.run schema acts
    let done := before.reload schema force
    let after := done.reloader.snapshot
    (done.result ≠ .ok .updated → after = before.reloader.snapshot) ∧
    (done.result = .ok .unchanged ↔ force = false ∧
      ∃ payload, before.offered = .ok (some payload) ∧
        payload.version = before.reloader.version) ∧
    (done.result = .ok .updated → ∃ payload space, before.offered = .ok (some payload) ∧
      payload.space schema = .ok space ∧ after = .of space ∧
        after.space.version = payload.version) ∧
    (done.result = .ok .updated ∨ done.result = .ok .unchanged →
      ∃ payload, before.offered = .ok (some payload) ∧
        payload.space schema = .ok after.space) := by
  intro before done after
  have hsound : Supply.Sound schema (Supply.Offers acts) before :=
    Supply.sound_run .initial fun _ hp => hp
  have hreloads : before.reloader.Reloads schema force before.offered done.result done.reloader :=
    Reloader.reloads schema hsound.idle before.offered force
  refine ⟨fun hnot => congrArg Reloader.snapshot (hreloads.eq_of_not_updated hnot),
    hreloads.unchanged_iff, hreloads.of_updated, ?_⟩
  rintro (hresult | hresult)
  · obtain ⟨payload, space, hoffered, hspace, hsnapshot, -⟩ := hreloads.of_updated hresult
    refine ⟨payload, hoffered, ?_⟩
    rw [hspace, show after = .of space from hsnapshot]
    rfl
  · obtain ⟨-, payload, hoffered, hversion⟩ := hreloads.unchanged_iff.1 hresult
    have hnot : done.result ≠ .ok .updated := by
      rw [hresult]
      exact fun heq => by cases heq
    refine ⟨payload, hoffered, ?_⟩
    rw [show after = before.reloader.snapshot from
      congrArg Reloader.snapshot (hreloads.eq_of_not_updated hnot)]
    exact hsound.space_of_version h hoffered hversion

/-- A payload with one experiment. -/
def Payload.sample : Payload where
  version := "v1"
  chunks := ["flags:\n- name: f\n  type: bool\n  base_value: true\n",
    "diversions:\n- id: 0\n  num_buckets: 1\n",
    "layers:\n- id: 1\n  unbiased_id: 101\n  fixed_biased_id: 102\n  random_biased_id: 103\n",
    "experiments:\n- id: 10\n  layer_id: 1\n  buckets: [0]\n"]

/-- A payload that describes nothing. -/
def Payload.scrap : Payload := ⟨"v2", ["flags: f"]⟩

/-- The sample is published, its experiment turned off, and a payload refused that describes
nothing. -/
def Supply.relapse : List Act :=
  [.offer (.ok (some .sample)), .reload false, .disable 10, .offer (.ok (some .scrap)),
    .reload true, .offer (.ok (some .sample))]

/-- The sample is still served then, with its experiment turned off, and a reload leaves it so. -/
theorem reload_safe_relapse : ∃ before : Supply,
    before = Supply.initial.run ⟨.yaml, .empty, .empty⟩ Supply.relapse ∧
    Supply.Versioned Supply.relapse ∧
    (before.reload ⟨.yaml, .empty, .empty⟩ false).result = .ok .unchanged ∧
    Payload.sample.space ⟨.yaml, .empty, .empty⟩ = .ok before.reloader.snapshot.space ∧
    (before.reload ⟨.yaml, .empty, .empty⟩ false).reloader.snapshot = before.reloader.snapshot ∧
    before.reloader.snapshot.disabled.keys = [10] := by
  have hversioned : Supply.Versioned Supply.relapse := by
    have hoffers : ∀ payload, Supply.Offers Supply.relapse payload →
        payload = .scrap ∨ payload = .sample := by
      intro payload hp
      simpa [Supply.Offers, Supply.relapse, or_comm] using hp
    constructor
    · intro payload hp
      rcases hoffers payload hp with rfl | rfl <;> decide
    · intro first second hfirst hsecond
      rcases hoffers first hfirst with rfl | rfl <;>
        rcases hoffers second hsecond with rfl | rfl <;> decide
  have hoffered : (Supply.initial.run ⟨.yaml, .empty, .empty⟩ Supply.relapse).offered =
      .ok (some .sample) := rfl
  have hbefore : (Supply.initial.run ⟨.yaml, .empty, .empty⟩ Supply.relapse).reloader.version =
        Payload.sample.version ∧
      (Supply.initial.run ⟨.yaml, .empty, .empty⟩
        Supply.relapse).reloader.snapshot.disabled.keys = [10] := by
    decide +kernel
  have hsafe := @reload_safe ⟨.yaml, .empty, .empty⟩ _ hversioned false
  dsimp only at hsafe
  generalize hrun : Supply.initial.run ⟨.yaml, .empty, .empty⟩ Supply.relapse = before at *
  obtain ⟨hkeeps, hunchanged, -, hserved⟩ := hsafe
  have hresult := hunchanged.2 ⟨rfl, _, hoffered, hbefore.1.symm⟩
  have hsame := hkeeps (by rw [hresult]; exact fun h => by cases h)
  obtain ⟨payload, hpayload, hspace⟩ := hserved (.inr hresult)
  rw [hoffered] at hpayload
  cases hpayload
  rw [hsame] at hspace
  exact ⟨before, rfl, hversioned, hresult, hspace, hsame, hbefore.2⟩

end Rollout
