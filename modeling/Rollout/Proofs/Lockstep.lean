import Rollout.Proofs.Resolution
/-!
# Two diversions side by side

Several results compare what a request gains in two spaces that differ in one respect.  What a
request gains is decided by its visits, so the two accounts are followed visit by visit.

`Gain.Alongside` says how two accounts may go side by side as far as one flag is concerned: what the
second one meets and the first one does not has nothing to say of the flag, and records extra ids
only; everything else records the same id in both and says the same of the flag, to requests that
are in the same segments but for the extra ids.  Then the ids are the same but for the extra ones,
and so is the calculator that is left for the flag (`Gain.Alongside.lockstep`,
`Gain.lockstep_passes`).
-/

namespace Rollout

namespace Gain

/-- Two accounts go side by side for a flag, given what may have been recorded before.  The ids that
only the second one records are extra. -/
inductive Alongside (time : Int64) (flag : String) (extra : SegmentId → Prop) :
    (SegmentId → Prop) → List Visit → List Visit → Prop
  | nil {seen : SegmentId → Prop} : Alongside time flag extra seen [] []
  /-- A visit of the second account only. -/
  | extra {seen : SegmentId → Prop} {v' : Visit} {visits visits' : List Visit}
    (silent : tells time flag v' = false) (records : ∀ id, v'.recorded? = some id → extra id)
    (rest : Alongside time flag extra seen visits visits') :
    Alongside time flag extra seen visits (v' :: visits')
  /-- A visit of both. -/
  | both {seen : SegmentId → Prop} {v v' : Visit} {visits visits' : List Visit}
    (records : v'.recorded? = v.recorded?)
    (agrees : ∀ isIn isIn' : SegmentId → Bool,
      (∀ id, isIn id = true → seen id ∨ v.recorded? = some id) →
      (∀ id, ¬ extra id → isIn' id = isIn id) →
      v'.calculator? time isIn' flag = v.calculator? time isIn flag)
    (rest : Alongside time flag extra (fun id => seen id ∨ v.recorded? = some id) visits visits') :
    Alongside time flag extra seen (v :: visits) (v' :: visits')

variable {time : Int64} {flag : String} {extra seen : SegmentId → Prop}
  {visits visits' : List Visit}

/-- One part of an account after the other. -/
theorem Alongside.append {first first' second second' : List Visit}
    (h : Alongside time flag extra seen first first')
    (hsecond : Alongside time flag extra (fun id => seen id ∨ Recorded first id) second second') :
    Alongside time flag extra seen (first ++ second) (first' ++ second') := by
  induction h with
  | nil => simpa [Recorded] using hsecond
  | extra silent records _ ih => exact .extra silent records (ih hsecond)
  | both records agrees _ ih =>
    refine .both records agrees (ih ?_)
    simpa only [recorded_cons, or_assoc] using hsecond

/-- What only the second account has goes beside nothing. -/
theorem alongside_extra : ∀ {visits' : List Visit} {seen : SegmentId → Prop},
    (∀ v' ∈ visits', tells time flag v' = false ∧ ∀ id, v'.recorded? = some id → extra id) →
    Alongside time flag extra seen [] visits'
  | [], _, _ => .nil
  | v' :: _, _, h => by
    obtain ⟨⟨silent, records⟩, hrest⟩ := List.forall_mem_cons.1 h
    exact .extra silent records (alongside_extra hrest)

/-- Accounts whose visits look the same, seen in a way that keeps what is recorded, go side by side
if each visit says the same of the flag in both.  What a visit says need agree only for requests
that are in segments that are recorded by then, and in the same segments but for the extra ones. -/
theorem alongside_of_map {see : Visit → Visit} (hsee : ∀ v, (see v).recorded? = v.recorded?) :
    ∀ {visits visits' : List Visit} {seen : SegmentId → Prop}, visits'.map see = visits.map see →
    (∀ before v after v', visits = before ++ v :: after → v' ∈ visits' → see v' = see v →
      ∀ isIn isIn' : SegmentId → Bool,
        (∀ id, isIn id = true → seen id ∨ Recorded (before ++ [v]) id) →
        (∀ id, ¬ extra id → isIn' id = isIn id) →
        v'.calculator? time isIn' flag = v.calculator? time isIn flag) →
    Alongside time flag extra seen visits visits'
  | [], [], _, _, _ => .nil
  | [], _ :: _, _, heq, _ => by cases heq
  | _ :: _, [], _, heq, _ => by cases heq
  | v :: visits, v' :: visits', seen, heq, hsame => by
    obtain ⟨hv, hrest⟩ := List.cons_eq_cons.1 heq
    have hrecorded : v'.recorded? = v.recorded? := by rw [← hsee, hv, hsee]
    refine .both hrecorded (fun isIn isIn' hin hextra => ?_) (alongside_of_map hsee hrest ?_)
    · refine hsame [] v visits v' rfl List.mem_cons_self hv _ _ (fun id hid => ?_) hextra
      exact (hin id hid).imp_right fun hid => ⟨v, List.mem_singleton_self v, hid⟩
    · intro before w after w' hsplit hw' hww isIn isIn' hin hextra
      refine hsame (v :: before) w after w' (congrArg (v :: ·) hsplit)
        (List.mem_cons_of_mem _ hw') hww isIn isIn' (fun id hid => ?_) hextra
      rw [List.cons_append, recorded_cons, ← or_assoc]
      exact hin id hid

/-- **Lockstep.**  Accounts that go side by side leave the same ids, but for the extra ones, and the
same calculator for the flag. -/
theorem Alongside.lockstep {scope scope' : Scope}
    (h : Alongside scope.context.time flag extra seen visits visits')
    (htime : scope'.context.time = scope.context.time)
    (hcarried : ∀ id, scope.carried.contains id = true → seen id)
    (hcarried' : ∀ id, ¬ extra id → scope'.carried.contains id = scope.carried.contains id) :
    ∀ {gain gain' g g' : Gain}, gain.visitAll scope visits = .ok g →
      gain'.visitAll scope' visits' = .ok g' → (∀ id, gain.ids.contains id = true → seen id) →
      (∀ id, ¬ extra id → gain'.ids.contains id = gain.ids.contains id) →
      gain'.overrides.get? flag = gain.overrides.get? flag →
      (∀ id, ¬ extra id → g'.ids.contains id = g.ids.contains id) ∧
        g'.overrides.get? flag = g.overrides.get? flag := by
  induction h with
  | nil =>
    intro gain gain' g g' hg hg' _ hids hover
    cases hg
    cases hg'
    exact ⟨hids, hover⟩
  | @extra seen v' visits visits' silent records _ ih =>
    intro gain gain' g g' hg hg' hseen hids hover
    refine ih hcarried hg (visitAll_cons_ok hg').2 hseen (fun id hid => ?_) ?_
    · rw [← hids id hid, Bool.eq_iff_iff, contains_idsAfter]
      exact or_iff_left fun hrecorded => hid (records id hrecorded)
    · rw [← hover]
      exact get?_overridesAfter_of_not_tells (htime ▸ silent) _ _
  | @both seen v v' visits visits' records agrees _ ih =>
    intro gain gain' g g' hg hg' hseen hids hover
    have hids' : ∀ id, ¬ extra id →
        (idsAfter gain'.ids v').contains id = (idsAfter gain.ids v).contains id := by
      intro id hid
      rw [Bool.eq_iff_iff, contains_idsAfter, contains_idsAfter, records, hids id hid]
    have hseen' : ∀ id, (idsAfter gain.ids v).contains id = true →
        seen id ∨ v.recorded? = some id :=
      fun id hid => (contains_idsAfter.1 hid).imp_left (hseen id)
    refine ih (fun id hid => .inl (hcarried id hid)) (visitAll_cons_ok hg).2
      (visitAll_cons_ok hg').2 hseen' hids' ?_
    rw [get?_overridesAfter, get?_overridesAfter, htime, hover, agrees _ _ (fun id hid => ?_)
      fun id hid => ?_]
    · rw [Bool.or_eq_true] at hid
      exact hid.elim (hseen' id) fun hid => .inl (hcarried id hid)
    · rw [hids' id hid, hcarried' id hid]

/-- **Lockstep of two passes** of a new request.  The pass of the launch layers comes first; the
pass of the other layers starts with the ids that it records, and with calculators of its own. -/
theorem lockstep_passes {scope scope' : Scope} {first first' second second' : List Visit}
    {launched launched' settled settled' : Gain}
    (htime : scope'.context.time = scope.context.time)
    (hnew : ∀ id, scope.carried.contains id = false)
    (hnew' : ∀ id, scope'.carried.contains id = false)
    (hl : Gain.none.visitAll scope first = .ok launched)
    (hl' : Gain.none.visitAll scope' first' = .ok launched')
    (hs : Gain.visitAll scope { launched with overrides := .empty } second = .ok settled)
    (hs' : Gain.visitAll scope' { launched' with overrides := .empty } second' = .ok settled')
    (hfirst : Alongside scope.context.time flag extra (fun _ => False) first first')
    (hsecond : Alongside scope.context.time flag extra (Recorded first) second second') :
    launched'.overrides.get? flag = launched.overrides.get? flag ∧
      settled'.overrides.get? flag = settled.overrides.get? flag := by
  have hcarried : ∀ {P : SegmentId → Prop} (id : SegmentId),
      scope.carried.contains id = true → P id :=
    fun id hid => absurd ((hnew id).symm.trans hid) Bool.false_ne_true
  have hcarried' : ∀ id, ¬ extra id → scope'.carried.contains id = scope.carried.contains id :=
    fun id _ => (hnew' id).trans (hnew id).symm
  obtain ⟨hids, hlaunched⟩ := hfirst.lockstep htime hcarried hcarried' hl hl'
    (fun _ hid => by cases hid) (fun _ _ => rfl) rfl
  obtain ⟨-, hsettled⟩ := hsecond.lockstep htime hcarried hcarried' hs hs'
    (fun id hid => ((contains_ids_visitAll hl).1 hid).resolve_left Bool.false_ne_true) hids rfl
  exact ⟨hlaunched, hsettled⟩

end Gain

end Rollout
