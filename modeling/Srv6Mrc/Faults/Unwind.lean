/-
  What `Netem` leaves behind.

  A qdisc that was added is either still in `_applied` or has had its del attempted, and nothing else
  has: this holds throughout (`Balanced`).  So nothing is left behind when `_applied` is empty, and it
  is not if `apply` raises for another reason than a failed add, or `revert` before the last del.
-/
import Srv6Mrc.Faults.Netem

namespace Srv6Mrc

open Py

/-! ## The books -/

/-- The qdiscs that were added. -/
def added (ran : List Ran) : List (Int × String) :=
  ran.filterMap fun r =>
    match r.cmd with
    | .add nic pid _ => if r.result.success then some (pid, nic.ifname) else none
    | _ => none

/-- The qdiscs whose del was attempted. -/
def deleted (ran : List Ran) : List (Int × String) :=
  ran.filterMap fun r =>
    match r.cmd with
    | .del pid ifname => some (pid, ifname)
    | _ => none

/-- What was added is applied, or has had its del attempted. -/
def Balanced (s : Session) : Prop := (added s.ran).Perm (s.applied ++ deleted s.ran)

section Books

variable {ran : List Ran} {res : RunResult}

@[simp] theorem added_inspect {container : String} :
    added (ran ++ [⟨.inspect container, res⟩]) = added ran := by simp [added]

@[simp] theorem deleted_inspect {container : String} :
    deleted (ran ++ [⟨.inspect container, res⟩]) = deleted ran := by simp [deleted]

@[simp] theorem added_del {pid : Int} {ifname : String} :
    added (ran ++ [⟨.del pid ifname, res⟩]) = added ran := by simp [added]

@[simp] theorem deleted_del {pid : Int} {ifname : String} :
    deleted (ran ++ [⟨.del pid ifname, res⟩]) = deleted ran ++ [(pid, ifname)] := by simp [deleted]

/-- An addition that succeeds is one qdisc more. -/
@[simp] theorem added_add {nic : NICTarget} {pid : Int} {tokens : List String} :
    added (ran ++ [⟨.add nic pid tokens, res⟩]) =
      added ran ++ if res.success then [(pid, nic.ifname)] else [] := by
  cases h : res.success <;> simp [added, h]

@[simp] theorem deleted_add {nic : NICTarget} {pid : Int} {tokens : List String} :
    deleted (ran ++ [⟨.add nic pid tokens, res⟩]) = deleted ran := by simp [deleted]

end Books

/-- With nothing applied, each qdisc added has had one del, and there was no other. -/
theorem Balanced.perm {s : Session} (h : Balanced s) :
    (deleted s.ran).Perm (added s.ran) ↔ s.applied = [] := by
  constructor
  · intro hperm
    have hlen := h.length_eq
    rw [List.length_append, hperm.length_eq] at hlen
    exact List.eq_nil_of_length_eq_zero (by omega)
  · intro hnil
    rw [Balanced, hnil] at h
    exact h.symm

/-- Every qdisc has had its deletion attempted exactly if nothing is applied. -/
theorem Balanced.subperm {s : Session} (h : Balanced s) :
    List.Subperm (added s.ran) (deleted s.ran) ↔ s.applied = [] := by
  constructor
  · intro hsub
    have hle := hsub.length_le
    have hlen := h.length_eq
    rw [List.length_append] at hlen
    exact List.eq_nil_of_length_eq_zero (by omega)
  · intro hnil
    exact (h.perm.mpr hnil).symm.subperm

/-! ## Taking off -/

section Revert

variable {runner : Runner} {quiet : Bool}

theorem popAll_balanced {ran : List Ran} {applied : List (Int × String)}
    (h : Balanced ⟨ran, applied⟩) : Balanced (popAll runner quiet ran applied).state := by
  induction applied generalizing ran with
  | nil => exact h
  | cons q applied ih =>
    obtain ⟨pid, ifname⟩ := q
    have hstep : Balanced ⟨ran ++ [⟨.del pid ifname, runner ran (.del pid ifname)⟩], applied⟩ := by
      unfold Balanced at h ⊢
      rw [added_del, deleted_del]
      refine h.trans ?_
      rw [List.cons_append, ← List.append_assoc]
      exact (List.perm_append_singleton _ _).symm
    unfold popAll
    dsimp only
    split_ifs
    · exact hstep
    · exact ih hstep

theorem popAll_returned {ran : List Ran} {applied : List (Int × String)}
    (h : (popAll runner quiet ran applied).raised = none) :
    (popAll runner quiet ran applied).state.applied = [] := by
  induction applied generalizing ran with
  | nil => rfl
  | cons q applied ih =>
    unfold popAll at h ⊢
    dsimp only at h ⊢
    split_ifs at h ⊢ with hfail
    · exact nomatch h
    · exact ih h

theorem popAll_quiet {ran : List Ran} {applied : List (Int × String)} :
    (popAll runner true ran applied).raised = none := by
  induction applied generalizing ran with
  | nil => rfl
  | cons q applied ih =>
    unfold popAll
    dsimp only
    rw [if_neg (by simp)]
    exact ih

/-- A del fails that is not the last. -/
def DelFails (runner : Runner) : List Ran → List (Int × String) → Prop
  | _, [] => False
  | ran, (pid, ifname) :: applied =>
    let res := runner ran (.del pid ifname)
    applied ≠ [] ∧ (res.success = false ∨ DelFails runner (ran ++ [⟨.del pid ifname, res⟩]) applied)

/-- `revert` leaves something behind if a del before the last one fails. -/
theorem popAll_left {ran : List Ran} {applied : List (Int × String)} :
    (popAll runner false ran applied).state.applied ≠ [] ↔ DelFails runner ran applied := by
  induction applied generalizing ran with
  | nil => exact iff_of_false (fun h => h rfl) id
  | cons q applied ih =>
    obtain ⟨pid, ifname⟩ := q
    unfold popAll DelFails
    dsimp only
    cases hs : (runner ran (.del pid ifname)).success with
    | false => simp
    | true =>
      simp only [Bool.not_true, Bool.false_and, Bool.false_eq_true, if_false, false_or,
        Bool.true_eq_false]
      rw [ih]
      refine ⟨fun h => ⟨?_, h⟩, fun h => h.2⟩
      rintro rfl
      exact h

end Revert

/-! ## Putting on -/

/-- What `apply` goes over: the NICs of the faults that parse, one after another. -/
inductive NicStep where
  | unparsed (err : NetemError)
  | nic (nic : NICTarget) (tokens : List String)

/-- The steps of a fault. -/
def nicSteps (T : Topo) (fault : NetemFault) : List NicStep :=
  match fault.resolve T with
  | .error err => [.unparsed err]
  | .ok (nics, tokens) => nics.map fun nic => .nic nic tokens

/-- One step of `apply`. -/
def applyStep (topo : String) (runner : Runner) (step : NicStep) (s : Session) :
    Outcome NetemRaise Session :=
  match step with
  | .unparsed err => .raise (.unparsed err) s
  | .nic nic tokens => applyNic topo runner false tokens nic s

/-- `apply` gets stuck, or the `revert` after it, with something still applied. -/
inductive Leaks (topo : String) (runner : Runner) : Session → List NicStep → Prop
  /-- A fault does not parse. -/
  | unparsed {s : Session} {err : NetemError} {steps : List NicStep} (h : s.applied ≠ []) :
      Leaks topo runner s (.unparsed err :: steps)
  /-- A container has no pid. -/
  | noPid {s : Session} {nic : NICTarget} {tokens : List String} {steps : List NicStep}
      {err : NetemRaise} (hpid : (resolveContainerPid topo runner nic.container s).1 = .error err)
      (h : s.applied ≠ []) : Leaks topo runner s (.nic nic tokens :: steps)
  /-- The qdisc is added, and a later step gets stuck. -/
  | next {s t : Session} {nic : NICTarget} {tokens : List String} {steps : List NicStep} {pid : Int}
      (hpid : resolveContainerPid topo runner nic.container s = (.ok pid, t))
      (hadd : (runner t.ran (.add nic pid tokens)).success)
      (h : Leaks topo runner
        ⟨t.ran ++ [⟨.add nic pid tokens, runner t.ran (.add nic pid tokens)⟩],
          (pid, nic.ifname) :: t.applied⟩ steps) : Leaks topo runner s (.nic nic tokens :: steps)
  /-- Everything is added, and a del before the last one fails. -/
  | del {s : Session} (h : DelFails runner s.ran s.applied) : Leaks topo runner s []

section Apply

variable {T : Topo} {topo : String} {runner : Runner}

/-- The two sessions have the same books. -/
def SameBooks (s t : Session) : Prop :=
  t.applied = s.applied ∧ added t.ran = added s.ran ∧ deleted t.ran = deleted s.ran

theorem SameBooks.balanced {s t : Session} (h : SameBooks s t) (hs : Balanced s) : Balanced t := by
  unfold Balanced
  rwa [h.1, h.2.1, h.2.2]

/-- Looking for a pid leaves the books. -/
theorem inspectPid_books {name : String} {s : Session} :
    SameBooks s (inspectPid runner name s).2 := by
  have hstate : (inspectPid runner name s).2 = (s.run runner (.inspect name)).2 := by
    unfold inspectPid
    dsimp only
    split_ifs
    · split <;> rfl
    · rfl
    · rfl
  rw [hstate]
  exact ⟨rfl, added_inspect, deleted_inspect⟩

/-- Looking for a pid adds and deletes nothing. -/
theorem resolveContainerPid_books {container : String} {s : Session} :
    SameBooks s (resolveContainerPid topo runner container s).2 := by
  unfold resolveContainerPid
  have hfirst : SameBooks s (inspectPid runner container s).2 := inspectPid_books
  rcases hi : inspectPid runner container s with ⟨err | _ | pid, t⟩
  · rwa [hi] at hfirst
  · rw [hi] at hfirst
    dsimp only at hfirst ⊢
    have hsecond : SameBooks t (inspectPid runner ("clab-" ++ topo ++ "-" ++ container) t).2 :=
      inspectPid_books
    have hboth : SameBooks s (inspectPid runner ("clab-" ++ topo ++ "-" ++ container) t).2 :=
      ⟨hsecond.1.trans hfirst.1, hsecond.2.1.trans hfirst.2.1, hsecond.2.2.trans hfirst.2.2⟩
    rcases hj : inspectPid runner ("clab-" ++ topo ++ "-" ++ container) t with ⟨err | _ | pid, u⟩ <;>
      rwa [hj] at hboth
  · rwa [hi] at hfirst

/-- What a step can do: it gets stuck, or a qdisc is added, or adding it fails and all is undone. -/
theorem applyNic_cases (topo : String) (runner : Runner) (nic : NICTarget) (tokens : List String)
    (s : Session) :
    (∃ err, (resolveContainerPid topo runner nic.container s).1 = .error err ∧
      applyNic topo runner false tokens nic s =
        .raise err (resolveContainerPid topo runner nic.container s).2) ∨
    ∃ pid t, resolveContainerPid topo runner nic.container s = (.ok pid, t) ∧
      (((runner t.ran (.add nic pid tokens)).success = true ∧
        applyNic topo runner false tokens nic s =
          .ok ⟨t.ran ++ [⟨.add nic pid tokens, runner t.ran (.add nic pid tokens)⟩],
            (pid, nic.ifname) :: t.applied⟩) ∨
      ((runner t.ran (.add nic pid tokens)).success = false ∧
        ∃ err, applyNic topo runner false tokens nic s = .raise err
          (popAll runner true (t.ran ++ [⟨.add nic pid tokens, runner t.ran (.add nic pid tokens)⟩])
            t.applied).state)) := by
  rcases hpid : resolveContainerPid topo runner nic.container s with ⟨err | pid, t⟩
  · refine .inl ⟨err, rfl, ?_⟩
    rw [applyNic, if_neg Bool.false_ne_true, hpid]
  · refine .inr ⟨pid, t, rfl, ?_⟩
    rw [applyNic, if_neg Bool.false_ne_true, hpid]
    dsimp only [Session.run]
    cases hadd : (runner t.ran (.add nic pid tokens)).success with
    | true => exact .inl ⟨rfl, if_pos rfl⟩
    | false =>
      refine .inr ⟨rfl, .applyFailed nic (Cmd.add nic pid tokens).argv
        (runner t.ran (.add nic pid tokens)), ?_⟩
      rw [if_neg Bool.false_ne_true, revert, Outcome.andThen_none popAll_quiet]

theorem applyNic_balanced {nic : NICTarget} {tokens : List String} {s : Session} (h : Balanced s) :
    Balanced (applyNic topo runner false tokens nic s).state := by
  have hbooks : SameBooks s (resolveContainerPid topo runner nic.container s).2 :=
    resolveContainerPid_books
  rcases applyNic_cases topo runner nic tokens s with
    ⟨err, -, heq⟩ | ⟨pid, t, hpid, ⟨hadd, heq⟩ | ⟨hadd, err, heq⟩⟩
  · rw [heq]
    exact hbooks.balanced h
  · rw [heq]
    rw [hpid] at hbooks
    have ht := hbooks.balanced h
    unfold Balanced at ht ⊢
    dsimp only [Outcome.state_ok]
    rw [added_add, deleted_add, hadd, if_pos rfl]
    exact (List.perm_append_singleton _ _).trans (ht.cons _)
  · rw [heq]
    rw [hpid] at hbooks
    have ht := hbooks.balanced h
    refine popAll_balanced ?_
    unfold Balanced at ht ⊢
    rwa [added_add, deleted_add, hadd, if_neg Bool.false_ne_true, List.append_nil]

theorem applyStep_balanced {step : NicStep} {s : Session} (h : Balanced s) :
    Balanced (applyStep topo runner step s).state := by
  cases step with
  | unparsed err => exact h
  | nic nic tokens => exact applyNic_balanced h

/-- The faults are gone through NIC by NIC. -/
theorem apply_eq (faults : List NetemFault) (s : Session) :
    apply T topo runner false faults s =
      Outcome.forEach (applyStep topo runner) (faults.flatMap (nicSteps T)) s := by
  have hturn : ∀ fault s, applyFault T topo runner false fault s =
      Outcome.forEach (applyStep topo runner) (nicSteps T fault) s := by
    intro fault s
    unfold applyFault nicSteps
    cases fault.resolve T with
    | error err => rfl
    | ok parsed =>
      obtain ⟨nics, tokens⟩ := parsed
      exact (Outcome.forEach_map (applyStep topo runner) (fun nic => .nic nic tokens) nics s).symm
  rw [Outcome.forEach_flatMap, apply, funext fun fault => funext (hturn fault)]

theorem apply_balanced {faults : List NetemFault} :
    Balanced (apply T topo runner false faults {}).state := by
  rw [apply_eq]
  exact Outcome.forEach_inv (I := Balanced) (fun _ _ _ h => applyStep_balanced h) (List.Perm.refl _)

/-- Something is left when `apply` raises, or by the `revert` after it. -/
def Left (runner : Runner) (o : Outcome NetemRaise Session) : Prop :=
  o.raised ≠ none ∧ o.state.applied ≠ [] ∨
    o.raised = none ∧ DelFails runner o.state.ran o.state.applied

/-- After an exception, what is still applied is left. -/
theorem left_raise {err : NetemRaise} {s : Session} :
    Left runner (.raise err s) ↔ s.applied ≠ [] :=
  ⟨fun h => h.elim (fun h => h.2) (fun h => nomatch h.1), fun h => .inl ⟨Option.some_ne_none _, h⟩⟩

/-- Without one, it is left if a deletion fails. -/
theorem left_ok {s : Session} : Left runner (.ok s) ↔ DelFails runner s.ran s.applied :=
  ⟨fun h => h.elim (fun h => absurd rfl h.1) (fun h => h.2), fun h => .inr ⟨rfl, h⟩⟩

/-- With no step left, a leak is a deletion that fails. -/
theorem leaks_nil {s : Session} : Leaks topo runner s [] ↔ DelFails runner s.ran s.applied :=
  ⟨fun h => by cases h with | del h => exact h, .del⟩

/-- A fault that does not parse leaks what is applied. -/
theorem leaks_unparsed {s : Session} {err : NetemError} {steps : List NicStep} :
    Leaks topo runner s (.unparsed err :: steps) ↔ s.applied ≠ [] :=
  ⟨fun h => by cases h with | unparsed h => exact h, .unparsed⟩

/-- A container without a pid leaks what is applied. -/
theorem leaks_noPid {s : Session} {nic : NICTarget} {tokens : List String} {steps : List NicStep}
    {err : NetemRaise} (hpid : (resolveContainerPid topo runner nic.container s).1 = .error err) :
    Leaks topo runner s (.nic nic tokens :: steps) ↔ s.applied ≠ [] := by
  constructor
  · intro h
    cases h with
    | noPid _ h => exact h
    | next hok => rw [hok] at hpid; exact nomatch hpid
  · exact .noPid hpid

/-- Once the pid is found, what counts is whether the qdisc is added, and what comes then. -/
theorem leaks_next {s t : Session} {nic : NICTarget} {tokens : List String} {steps : List NicStep}
    {pid : Int} (hpid : resolveContainerPid topo runner nic.container s = (.ok pid, t)) :
    Leaks topo runner s (.nic nic tokens :: steps) ↔
      (runner t.ran (.add nic pid tokens)).success = true ∧ Leaks topo runner
        ⟨t.ran ++ [⟨.add nic pid tokens, runner t.ran (.add nic pid tokens)⟩],
          (pid, nic.ifname) :: t.applied⟩ steps := by
  constructor
  · intro h
    cases h with
    | noPid hno => rw [hpid] at hno; exact nomatch hno
    | next hok hadd h =>
      rw [hpid] at hok
      cases hok
      exact ⟨hadd, h⟩
  · rintro ⟨hadd, h⟩
    exact .next hpid hadd h

/-- `apply`, and the `revert` after it, leave something applied if they get stuck. -/
theorem forEach_leaks (steps : List NicStep) (s : Session) :
    Left runner (Outcome.forEach (applyStep topo runner) steps s) ↔ Leaks topo runner s steps := by
  induction steps generalizing s with
  | nil => rw [leaks_nil, Outcome.forEach_nil, left_ok]
  | cons step steps ih =>
    rw [Outcome.forEach_cons]
    cases step with
    | unparsed err =>
      rw [Outcome.andThen_some (by exact Option.some_ne_none _), leaks_unparsed]
      exact left_raise
    | nic nic tokens =>
      have hbooks : SameBooks s (resolveContainerPid topo runner nic.container s).2 :=
        resolveContainerPid_books
      rcases applyNic_cases topo runner nic tokens s with
        ⟨err, hpid, heq⟩ | ⟨pid, t, hpid, ⟨hadd, heq⟩ | ⟨hadd, err, heq⟩⟩
      · rw [applyStep, heq, Outcome.andThen_some (by exact Option.some_ne_none _), left_raise,
          leaks_noPid hpid, hbooks.1]
      · rw [applyStep, heq, leaks_next hpid, and_iff_right hadd, ← ih]
        rfl
      · have hnil : ∀ ran, (popAll runner true ran t.applied).state.applied = [] := fun _ =>
          popAll_returned popAll_quiet
        rw [applyStep, heq, Outcome.andThen_some (by exact Option.some_ne_none _), left_raise,
          leaks_next hpid, hadd, hnil]
        exact iff_of_false (fun h => h rfl) fun h => Bool.false_ne_true h.1

/-! ## Every way out -/

/-- Nothing is left behind: not when `apply` raises, not by the `revert` after it, and not by a run of
    a scenario. -/
structure LeavesNothing (T : Topo) (topo : String) (runner : Runner) (faults : List NetemFault) :
    Prop where
  /-- Each qdisc that was added has had a del attempted. -/
  apply_raises : (apply T topo runner false faults {}).raised ≠ none →
    List.Subperm (added (apply T topo runner false faults {}).state.ran)
      (deleted (apply T topo runner false faults {}).state.ran)
  /-- Each qdisc that was added has had one del attempted, and there was no other. -/
  revert_perm : (apply T topo runner false faults {}).raised = none → ∀ quiet,
    (deleted (revert runner quiet (apply T topo runner false faults {}).state).state.ran).Perm
      (added (revert runner quiet (apply T topo runner false faults {}).state).state.ran)
  /-- Whatever else goes wrong, each qdisc that was added has had a del attempted. -/
  run_scenario : ∀ (E : Type) (dryRun : Bool) (before flows : Option E),
    List.Subperm (added (runScenario T topo runner dryRun before flows faults).state.ran)
      (deleted (runScenario T topo runner dryRun before flows faults).state.ran)

/-- A dry run runs nothing. -/
theorem apply_dry {faults : List NetemFault} {s : Session} :
    (apply T topo runner true faults s).state = s := by
  refine Outcome.forEach_inv (I := fun t => t = s) (fun fault _ t ht => ?_) rfl
  unfold applyFault
  cases fault.resolve T with
  | error err => exact ht
  | ok parsed => exact Outcome.forEach_inv (I := fun t => t = s) (fun _ _ _ ht => ht) ht

/-- The state after `apply`, and, if it returned, after the `revert` that follows. -/
def finalSession (runner : Runner) (o : Outcome NetemRaise Session) : Session :=
  match o.raised with
  | some _ => o.state
  | none => (revert runner false o.state).state

/-- At the end something is applied exactly if it was left. -/
theorem finalSession_applied {o : Outcome NetemRaise Session} :
    (finalSession runner o).applied ≠ [] ↔ Left runner o := by
  obtain ⟨s, _ | err⟩ := o
  · exact popAll_left.trans left_ok.symm
  · exact left_raise.symm

/-- A run without `dry_run` ends with the final session. -/
theorem runScenario_live {E : Type} {flows : Option E} {faults : List NetemFault} :
    (runScenario T topo runner false none flows faults).state =
      finalSession runner (apply T topo runner false faults {}) := by
  unfold runScenario
  dsimp only
  rw [if_neg Bool.false_ne_true]
  rcases apply T topo runner false faults {} with ⟨s, _ | err⟩
  · cases flows <;> rfl
  · rfl

/-- Nothing is left behind if nothing gets stuck with something applied: no fault that does not parse,
    no container without a pid, no del that fails before the last. -/
theorem leavesNothing_iff (T : Topo) (topo : String) (runner : Runner) (faults : List NetemFault) :
    LeavesNothing T topo runner faults ↔
      ¬ Leaks topo runner {} (faults.flatMap (nicSteps T)) := by
  have hbalanced : Balanced (apply T topo runner false faults {}).state := apply_balanced
  rw [← forEach_leaks, ← apply_eq]
  constructor
  · rintro h (⟨hraised, happlied⟩ | ⟨hreturned, hdel⟩)
    · exact happlied (hbalanced.subperm.mp (h.apply_raises hraised))
    · have hperm := h.revert_perm hreturned false
      exact popAll_left.mpr hdel ((popAll_balanced hbalanced).perm.mp hperm)
  · intro hnot
    refine ⟨fun hraised => ?_, fun hreturned quiet => ?_, fun E dryRun before flows => ?_⟩
    · refine hbalanced.subperm.mpr ?_
      by_contra happlied
      exact hnot (.inl ⟨hraised, happlied⟩)
    · refine (popAll_balanced hbalanced).perm.mpr ?_
      cases quiet with
      | true => exact popAll_returned popAll_quiet
      | false =>
        by_contra happlied
        exact hnot (.inr ⟨hreturned, popAll_left.mp happlied⟩)
    · have hempty : List.Subperm (added []) (deleted []) := List.Subperm.refl _
      cases before with
      | some err => exact hempty
      | none =>
        cases dryRun with
        | true =>
          have hdry : (runScenario T topo runner true none flows faults).state = {} := apply_dry
          rw [hdry]
          exact hempty
        | false =>
          have hfinal : Balanced (finalSession runner (apply T topo runner false faults {})) := by
            unfold finalSession
            cases (apply T topo runner false faults {}).raised with
            | some err => exact hbalanced
            | none => exact popAll_balanced hbalanced
          rw [runScenario_live, hfinal.subperm]
          by_contra happlied
          exact hnot (finalSession_applied.mp happlied)

/-- The second host's container is not there: the qdisc of the first stays. -/
theorem leaks_missing_container : ¬ LeavesNothing ⟨4, 8, 16, ["green", "yellow"]⟩ "lab"
    (fun _ cmd =>
      match cmd with
      | .inspect container => if container = "green-host00" then ⟨0, "123\n", ""⟩ else ⟨1, "", ""⟩
      | _ => ⟨0, "", ""⟩)
    [⟨"host green-host00 plane 0", "loss 1%"⟩, ⟨"host green-host01 plane 0", "loss 1%"⟩] := by
  intro h
  have hsub := (h.apply_raises (by decide)).length_le
  exact absurd hsub (by decide)

end Apply

end Srv6Mrc
