import Rollout.Proofs.Request
import Rollout.Proofs.Stability
/-!
# The cache cannot be seen

A request remembers values that it computed, and it goes on remembering them while it is diverted
again, while other spaces are served, and while what it depends on changes.  A read by name may
leave a value of a type that the flag was not declared with, and a read by handle leaves the default
of a flag without a calculator.  This module shows that reads by handle give, all the same, what
they would give if nothing was remembered (`get_transparent`).

Two things make it so.  A diversion that keeps what is remembered keeps the settings, hence the
calculators.  And a value is remembered only if its evaluation is good for longer than one read, so
that it depends on nothing that changes within the request (`Modifier.applyAll_congr`).  So what is
remembered is at any time what the steady answers give (`Request.Faithful`).
-/

namespace Rollout

/-! ## 1. What can become of a request -/

/-- An evaluation that is good for longer than one read is the same for answers that agree on the
leaves which are. -/
theorem Calculator.evaluate_congr {c : Calculator} {answers answers' : Answers}
    (h : ∀ l ∈ c.leaves, l.level ≠ .none → answers' l = answers l)
    (hlevel : (c.evaluate answers).level ≠ .none) : c.evaluate answers' = c.evaluate answers := by
  have hrank : ∀ {level : CacheLevel}, CacheLevel.request.rank ≤ level.rank ↔ level ≠ .none := by
    intro level
    cases level <;> simp [CacheLevel.rank]
  exact (Modifier.applyAll_congr (fun l hl hl' => h l hl (hrank.1 hl')) (hrank.2 hlevel)).1

namespace Request

/-- For all leaves of the flag's calculator but those that may change from read to read, the answers
are the steady ones. -/
def Steady (steady : Answers) (r : Request) (host : Host) (name : String) : Prop :=
  ∀ c, r.calculator? name = some c → ∀ l ∈ c.leaves, l.level ≠ .none → r.answers host l = steady l

/-- What can become of a request: its surroundings change, it is diverted through whatever is served
at the time, and its flags are read, where each flag has one default.  The answers that are good for
longer than one read stay what they are. -/
inductive Lives (steady : Answers) (defaults : String → Value) : Request → Prop
  | start {context : Context} : Lives steady defaults (.start context)
  | around {r : Request} {context : Context} (hr : Lives steady defaults r) :
    Lives steady defaults { r with context }
  | handle {r r' : Request} {snapshot : Snapshot} {host : Host} {draws : Draws}
    (hr : Lives steady defaults r) (h : (snapshot.handle host draws r).result = .ok r') :
    Lives steady defaults r'
  | get {r : Request} {host : Host} {flag : Flag} (hr : Lives steady defaults r)
    (hsteady : r.Steady steady host flag.name) (hflag : flag.default = defaults flag.name) :
    Lives steady defaults (r.get host flag).request
  | value {r : Request} {host : Host} {name : String} (hr : Lives steady defaults r)
    (hsteady : r.Steady steady host name) : Lives steady defaults (r.value host name).request

variable {steady : Answers} {defaults : String → Value} {r r' : Request} {host : Host}
  {name : String} {v : Value}

/-! ## 2. What is remembered -/

/-- A value is what a flag has for the rest of the request: its calculator gives it, whatever may
change, or it has no calculator and the value is its default. -/
def Lasting (steady : Answers) (defaults : String → Value) (r : Request) (name : String)
    (v : Value) : Prop :=
  (∃ c, r.calculator? name = some c ∧ (c.evaluate steady).level ≠ .none ∧
    (c.evaluate steady).value = v) ∨ r.calculator? name = none ∧ v = defaults name

/-- All that is remembered is what the flags have for the rest of the request. -/
def Faithful (steady : Answers) (defaults : String → Value) (r : Request) : Prop :=
  ∀ name v, r.cache.get? name = some v → r.Lasting steady defaults name v

/-- What is computed to be remembered lasts. -/
theorem Keeps.lasting (h : r.Keeps host name v) (hsteady : r.Steady steady host name) :
    r.Lasting steady defaults name v := by
  obtain ⟨c, hc, hlevel, hv⟩ := h
  have heq : c.evaluate steady = c.evaluate (r.answers host) :=
    Calculator.evaluate_congr (fun l hl hl' => (hsteady c hc l hl hl').symm) hlevel
  exact .inl ⟨c, hc, heq ▸ hlevel, heq ▸ hv⟩

/-- Whether a value lasts is known from the settings. -/
theorem Lasting.of_settings (h : r.Lasting steady defaults name v)
    (hsettings : r'.settings = r.settings) : r'.Lasting steady defaults name v := by
  unfold Lasting calculator? at *
  rwa [hsettings]

/-- **What is remembered is right**, whatever became of the request. -/
theorem Lives.faithful (h : r.Lives steady defaults) : r.Faithful steady defaults := by
  induction h with
  | start => exact fun _ _ hv => nomatch hv
  | around _ ih => exact ih
  | handle _ hhandle ih =>
    intro name v hv
    rcases Snapshot.cache_handle hhandle with ⟨hsettings, hcache⟩ | hcache
    · exact (ih name v (hcache ▸ hv)).of_settings hsettings
    · rw [hcache] at hv
      exact nomatch hv
  | get _ hsteady hflag ih =>
    intro name v hv
    refine Lasting.of_settings ?_ (settings_get ..)
    rcases cache_get hv with hv | ⟨rfl, hkeeps | ⟨hnone, hv⟩⟩
    · exact ih name v hv
    · exact hkeeps.lasting hsteady
    · exact .inr ⟨hnone, hv.trans hflag⟩
  | value _ hsteady ih =>
    intro name v hv
    refine Lasting.of_settings ?_ (settings_value ..)
    rcases cache_value hv with hv | ⟨rfl, hkeeps⟩
    · exact ih name v hv
    · exact hkeeps.lasting hsteady

/-- A value that lasts and has the type of the flag is what a read computes. -/
theorem Lasting.eq_uncached {flag : Flag} (h : r.Lasting steady defaults flag.name v)
    (hsteady : r.Steady steady host flag.name) (hflag : flag.default = defaults flag.name)
    (htype : v.type = flag.type) : v = r.uncached host flag := by
  unfold uncached
  rcases h with ⟨c, hc, hlevel, rfl⟩ | ⟨hnone, rfl⟩
  · rw [hc]
    dsimp only
    rw [Calculator.evaluate_congr (hsteady c hc) hlevel, if_pos htype]
  · rw [hnone]
    exact hflag.symm

end Request

/-- **The cache cannot be seen.**  Whatever diversions, reads and changes around it a request went
through, a declared flag reads as if nothing was remembered: as the value that its calculator
computes at that moment, if it has one and the value has the declared type, and as its default
otherwise. -/
theorem get_transparent {steady : Answers} {defaults : String → Value} {r : Request}
    (hr : r.Lives steady defaults) {host : Host} {flag : Flag}
    (hsteady : r.Steady steady host flag.name) (hflag : flag.default = defaults flag.name) :
    (r.get host flag).result = r.uncached host flag ∧
      (r.get host flag).result = ({ r with cache := .empty }.get host flag).result := by
  have hread : (r.get host flag).result = r.uncached host flag := by
    rw [Request.result_get]
    cases hcached : r.cached? flag with
    | none => rfl
    | some v =>
      obtain ⟨hv, htype⟩ := Option.filter_eq_some_iff.1 hcached
      exact (hr.faithful _ v hv).eq_uncached hsteady hflag (beq_iff_eq.1 htype)
  have hforget : r.uncached host flag = { r with cache := .empty }.uncached host flag := rfl
  exact ⟨hread, (hread.trans hforget).trans (Request.result_get_of_empty rfl).symm⟩

/-- A space of two flags: one asks for the answer of the moment, the other for an answer that
stays. -/
def Space.wavering : Space :=
  let plus (l : Leaf) : Modifier := .mk (.int 10) (.add .int) (.leaf l) []
  .make "v" (Table.ofList [("f", ⟨.int 1, [plus (.supplied "x" .none [])]⟩),
    ("g", ⟨.int 2, [plus (.supplied "y" .request [])]⟩)]) .empty [] [] []

/-- Both flags, and one that is not defined, are read before the answer of the moment changes and
after it: the two that are remembered read as before, and the other one as what it is now. -/
theorem get_transparent_wavering :
    let steady : Answers := Leaf.answer (.at 0) fun _ _ => false
    let now : Host := fun name _ => name == "x"
    ∃ r : Request, r.Lives steady (fun _ => .int 0) ∧ r.cache.keys = ["g", "h"] ∧
      (∀ name, r.Steady steady now name) ∧
      (r.get now ⟨"f", .int 0⟩).result = .int 11 ∧ (r.get now ⟨"g", .int 0⟩).result = .int 2 ∧
      (r.get now ⟨"h", .int 0⟩).result = .int 0 := by
  intro steady now
  have hsteady : ∀ {r : Request} {host : Host} (name : String),
      r.settings = some Space.wavering.settings → host "y" [] = false →
        r.Steady steady host name := by
    intro r host name hsettings hy c hc l hl hlevel
    rw [Request.calculator?, hsettings] at hc
    have hentry : (name, c) ∈ Space.wavering.flags.entries := Table.get?_eq_some_iff.1 hc
    have hleaf : l = .supplied "x" .none [] ∨ l = .supplied "y" .request [] := by
      rcases List.mem_cons.1 hentry with h | h
      · cases h
        exact .inl (List.mem_singleton.1 hl)
      · cases List.mem_singleton.1 h
        exact .inr (List.mem_singleton.1 hl)
    rcases hleaf with rfl | rfl
    · exact absurd rfl hlevel
    · exact hy
  have hlives : Request.Lives steady (fun _ => .int 0)
      ⟨.at 0, .empty, some Space.wavering.settings, .empty⟩ :=
    .handle .start (rfl : ((Snapshot.of .wavering).handle (fun _ _ => false) (fun _ _ _ => 0)
      (.start (.at 0))).result = .ok _)
  have hread : ∀ {r : Request} (name : String), r.Lives steady (fun _ => .int 0) →
      r.settings = some Space.wavering.settings →
      Request.Lives steady (fun _ => .int 0) (r.get (fun _ _ => false) ⟨name, .int 0⟩).request ∧
        (r.get (fun _ _ => false) ⟨name, .int 0⟩).request.settings = some Space.wavering.settings :=
    fun name hr hs => ⟨.get hr (hsteady name hs rfl) rfl, (Request.settings_get ..).trans hs⟩
  obtain ⟨hlives, hs⟩ := hread "f" hlives rfl
  obtain ⟨hlives, hs⟩ := hread "g" hlives hs
  obtain ⟨hlives, hs⟩ := hread "h" hlives hs
  have hgives : ∀ {r : Request} (name : String), r.Lives steady (fun _ => .int 0) →
      r.settings = some Space.wavering.settings →
      (r.get now ⟨name, .int 0⟩).result = r.uncached now ⟨name, .int 0⟩ :=
    fun name hr hs => (get_transparent hr (hsteady name hs rfl) rfl).1
  exact ⟨_, hlives, rfl, fun name => hsteady name hs rfl, hgives "f" hlives hs,
    hgives "g" hlives hs, hgives "h" hlives hs⟩

end Rollout
