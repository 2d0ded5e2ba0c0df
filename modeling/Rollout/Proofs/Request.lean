import Rollout.Serving
/-!
# Reading flags

What a read gives is decided by two things: by what is remembered, if it has the type of the flag,
and otherwise by the calculator of the flag (`Request.result_get`).  A read never touches the
settings, and what it adds to the values that are remembered is said by `Request.cache_get` and
`Request.cache_value`.  A diversion that leaves other settings lets all of them go
(`Snapshot.cache_handle`).
-/

namespace Rollout

namespace Request

variable {r r' : Request} {host : Host} {name : String} {flag : Flag} {v : Value}

/-! ## 1. What a read gives -/

/-- What a declared flag reads as if nothing is remembered: the value of its calculator if that has
the declared type, and the default otherwise. -/
def uncached (r : Request) (host : Host) (flag : Flag) : Value :=
  match r.calculator? flag.name with
  | none => flag.default
  | some c =>
    let v := (c.evaluate (r.answers host)).value
    if v.type = flag.type then v else flag.default

/-- **A read** gives what is remembered, or else what is computed. -/
theorem result_get (r : Request) (host : Host) (flag : Flag) :
    (r.get host flag).result = (r.cached? flag).getD (r.uncached host flag) := by
  unfold get uncached calculator?
  cases r.cached? flag with
  | some v => rfl
  | none =>
    cases r.settings with
    | none => rfl
    | some settings =>
      simp only [Option.bind_some, Option.getD_none]
      cases settings.calculator? flag.name with
      | none => rfl
      | some c =>
        dsimp only
        split <;> rfl

/-- A request that remembers nothing reads what is computed. -/
theorem result_get_of_empty (h : r.cache = .empty) :
    (r.get host flag).result = r.uncached host flag := by
  rw [result_get, cached?, h]
  rfl

/-- A flag that is not remembered has the value of its calculator. -/
theorem result_value (h : r.cache.get? name = none) : (r.value host name).result =
    (r.calculator? name).map fun c => (c.evaluate (r.answers host)).value := by
  simp only [value, h]
  cases r.calculator? name <;> rfl

/-- Requests that remember nothing read a flag alike if it has one calculator in both. -/
theorem read_congr (hcontext : r'.context = r.context) (hcache : r.cache = .empty)
    (hcache' : r'.cache = .empty) (h : r'.calculator? name = r.calculator? name) :
    (r'.value host name).result = (r.value host name).result ∧ ∀ default : Value,
      (r'.get host ⟨name, default⟩).result = (r.get host ⟨name, default⟩).result := by
  have hnone : r.cache.get? name = none := by rw [hcache]; rfl
  have hnone' : r'.cache.get? name = none := by rw [hcache']; rfl
  have hanswers : r'.answers host = r.answers host := by rw [answers, answers, hcontext]
  refine ⟨?_, fun default => ?_⟩
  · rw [result_value hnone, result_value hnone', h, hanswers]
  · rw [result_get_of_empty hcache, result_get_of_empty hcache', uncached, uncached, h, hanswers]

/-! ## 2. What a read leaves behind -/

/-- Reading a flag leaves the settings alone. -/
theorem settings_remember (r : Request) (name : String) (e : Evaluation) :
    (r.remember name e).settings = r.settings := by
  unfold remember
  split <;> rfl

theorem settings_get (r : Request) (host : Host) (flag : Flag) :
    (r.get host flag).request.settings = r.settings := by
  unfold get
  split
  · rfl
  · rfl
  · split
    · exact settings_remember ..
    · dsimp only
      split
      · exact settings_remember ..
      · rfl

theorem settings_value (r : Request) (host : Host) (name : String) :
    (r.value host name).request.settings = r.settings := by
  unfold value
  split
  · rfl
  · split
    · rfl
    · exact settings_remember ..

/-- What is remembered is what was remembered before, or the value of an evaluation that is good for
longer than one read. -/
theorem get?_remember {e : Evaluation} {other : String}
    (h : (r.remember name e).cache.get? other = some v) :
    r.cache.get? other = some v ∨ other = name ∧ e.level ≠ .none ∧ e.value = v := by
  have hinsert : (r.cache.insert name e.value).get? other = some v →
      r.cache.get? other = some v ∨ other = name ∧ e.value = v := by
    intro h
    rw [Table.get?_insert] at h
    split at h
    · next heq => exact .inr ⟨heq, Option.some.inj h⟩
    · exact .inl h
  unfold remember at h
  cases hlevel : e.level <;> rw [hlevel] at h
  · exact .inl h
  all_goals exact (hinsert h).imp_right fun ⟨heq, hv⟩ => ⟨heq, by simp, hv⟩

/-- The calculator of a flag computes a value that is good for longer than one read. -/
def Keeps (r : Request) (host : Host) (name : String) (v : Value) : Prop :=
  ∃ c, r.calculator? name = some c ∧ (c.evaluate (r.answers host)).level ≠ .none ∧
    (c.evaluate (r.answers host)).value = v

/-- A read by handle adds to what is remembered the value that it computes, or the default of a flag
without a calculator. -/
theorem cache_get {other : String} (h : (r.get host flag).request.cache.get? other = some v) :
    r.cache.get? other = some v ∨ other = flag.name ∧
      (r.Keeps host flag.name v ∨ r.calculator? flag.name = none ∧ v = flag.default) := by
  unfold get at h
  split at h
  · exact .inl h
  · exact .inl h
  next settings _ hsettings =>
    have hcalc : r.calculator? flag.name = settings.calculator? flag.name := by
      rw [calculator?, hsettings, Option.bind_some]
    split at h
    · next hnone =>
      refine (get?_remember h).imp_right fun ⟨heq, _, hv⟩ => ⟨heq, .inr ⟨?_, hv.symm⟩⟩
      rw [hcalc, hnone]
    · next c hc =>
      dsimp only at h
      split at h
      · refine (get?_remember h).imp_right fun ⟨heq, hlevel, hv⟩ => ⟨heq, .inl ⟨c, ?_, hlevel, hv⟩⟩
        rw [hcalc, hc]
      · exact .inl h

/-- A read by name adds the value that it computes. -/
theorem cache_value {other : String} (h : (r.value host name).request.cache.get? other = some v) :
    r.cache.get? other = some v ∨ other = name ∧ r.Keeps host name v := by
  unfold value at h
  split at h
  · exact .inl h
  · split at h
    · exact .inl h
    · next c hc =>
      exact (get?_remember h).imp_right fun ⟨heq, hlevel, hv⟩ => ⟨heq, c, hc, hlevel, hv⟩

end Request

/-! ## 3. What a diversion leaves -/

namespace Snapshot

variable {snapshot : Snapshot} {host : Host} {draws : Draws}

/-- A diversion keeps both the settings and what is remembered, or lets go of what is remembered. -/
theorem cache_handle {r r' : Request} (h : (snapshot.handle host draws r).result = .ok r') :
    r'.settings = r.settings ∧ r'.cache = r.cache ∨ r'.cache = .empty := by
  unfold handle at h
  split at h
  · cases h
  · cases h
    unfold Request.record
    split
    · exact .inl ⟨rfl, rfl⟩
    · exact .inr rfl

/-- A new request remembers nothing after a diversion. -/
theorem cache_handle_start {context : Context} {r : Request}
    (h : (snapshot.handle host draws (.start context)).result = .ok r) : r.cache = .empty :=
  (cache_handle h).elim (fun hsame => hsame.2) id

end Snapshot

end Rollout
