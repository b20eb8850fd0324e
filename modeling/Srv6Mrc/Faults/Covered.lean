/-
  When the file of `srctl fault` covers the damage.

  The damage is what the commands that were run have done: interfaces that were set down and not up
  again, NICs with a qdisc that was not deleted.  Each step of the tool says what it does to these
  (`shutdown_effects`, `apply_effects`, `clear_effects`).  The file covers the damage as long as no
  command gets stuck half way, and no netem fault is cleared.
-/
import Srv6Mrc.Faults.Ledger
import Srv6Mrc.Faults.Unwind
import Srv6Mrc.Lib.Reprint

namespace Srv6Mrc

open Py

/-! ## Damage -/

/-- Whether an interface of a node is down, after one more command. -/
def linkDownAfter (e : String × String) (down : Bool) (r : Ran) : Bool :=
  match r.cmd with
  | .link node ifname up => if r.result.success ∧ (node, ifname) = e then !up else down
  | _ => down

/-- The interface was set down, and not up again. -/
def linkDown (ran : List Ran) (e : String × String) : Bool := ran.foldl (linkDownAfter e) false

/-- The NICs with a qdisc, each with the pid it was added with, after one more command. -/
def installedAfter (qdiscs : List (NICTarget × Int)) (r : Ran) : List (NICTarget × Int) :=
  match r.cmd with
  | .add nic pid _ => if r.result.success then (nic, pid) :: qdiscs else qdiscs
  | .del pid ifname =>
    if r.result.success then qdiscs.filter fun q => (q.2, q.1.ifname) ≠ (pid, ifname) else qdiscs
  | _ => qdiscs

/-- The qdiscs that were added, and not deleted. -/
def installed (ran : List Ran) : List (NICTarget × Int) := ran.foldl installedAfter []

/-- One command more, and the interface. -/
@[simp] theorem linkDown_append {ran : List Ran} {r : Ran} {e : String × String} :
    linkDown (ran ++ [r]) e = linkDownAfter e (linkDown ran e) r := by
  rw [linkDown, List.foldl_append]
  rfl

@[simp] theorem installed_append {ran : List Ran} {r : Ran} :
    installed (ran ++ [r]) = installedAfter (installed ran) r := by
  rw [installed, List.foldl_append]
  rfl

/-- The endpoint is this interface. -/
def InterfaceEndpoint.Names (t : InterfaceEndpoint) (e : String × String) : Prop :=
  t.node = e.1 ∧ sonicToClab t.interface = .ok e.2

/-- The fault stands for this interface being down. -/
def LedgerFault.ClaimsLink (f : LedgerFault) (e : String × String) : Prop :=
  f.type = .shutdown ∧ ∃ t ∈ f.targets, t.Names e

/-- The fault stands for a qdisc on this NIC. -/
def LedgerFault.ClaimsNic (T : Topo) (f : LedgerFault) (nic : NICTarget) : Prop :=
  f.type = .netem ∧ ∃ t nics, f.targets.head? = some t ∧ parseTarget T t.interface = .ok nics ∧
    nic ∈ nics

/-- Every interface that is down and every qdisc is covered by a fault of the file. -/
structure Covered (T : Topo) (s : Srctl) : Prop where
  links : ∀ e, linkDown s.ran e → ∃ f ∈ s.file, f.ClaimsLink e
  nics : ∀ q ∈ installed s.ran, ∃ f ∈ s.file, f.ClaimsNic T q.1

/-- A fault that left the file has nothing left of it. -/
structure Released (T : Topo) (s s' : Srctl) : Prop where
  links : ∀ f ∈ s.file, f ∉ s'.file → ∀ e, f.ClaimsLink e → linkDown s'.ran e = false
  nics : ∀ f ∈ s.file, f ∉ s'.file → ∀ q ∈ installed s'.ran, ¬ f.ClaimsNic T q.1

/-- What a fault stands for that stays in the file is still in place. -/
structure Kept (T : Topo) (s s' : Srctl) : Prop where
  links : ∀ f ∈ s.file, f ∈ s'.file → ∀ e, f.ClaimsLink e → linkDown s.ran e → linkDown s'.ran e
  nics : ∀ f ∈ s.file, f ∈ s'.file → ∀ q ∈ installed s.ran, f.ClaimsNic T q.1 → q ∈ installed s'.ran

/-! ## Shutdowns -/

section Shutdown

variable {runner : Runner}

/-- The interface is set, with this command. -/
def LinkOk (runner : Runner) (ran : List Ran) (t : InterfaceEndpoint) (up : Bool) (r : Ran) : Prop :=
  ∃ clabIface, sonicToClab t.interface = .ok clabIface ∧
    r = ⟨.link t.node clabIface up, runner ran (.link t.node clabIface up)⟩ ∧ r.result.success

/-- One of the interfaces is not set down. -/
inductive SomeLinkFails (runner : Runner) : List Ran → List InterfaceEndpoint → Prop
  | here {ran : List Ran} {t : InterfaceEndpoint} {ts : List InterfaceEndpoint}
      (h : ∀ r, ¬ LinkOk runner ran t false r) : SomeLinkFails runner ran (t :: ts)
  | later {ran : List Ran} {t : InterfaceEndpoint} {ts : List InterfaceEndpoint} {r : Ran}
      (hr : LinkOk runner ran t false r) (h : SomeLinkFails runner (ran ++ [r]) ts) :
      SomeLinkFails runner ran (t :: ts)

/-- One of the interfaces is not set down, after the first one was. -/
def PartialShutdown (runner : Runner) (ran : List Ran) (ts : List InterfaceEndpoint) : Prop :=
  ∃ t rest r, ts = t :: rest ∧ LinkOk runner ran t false r ∧ SomeLinkFails runner (ran ++ [r]) rest

/-- What setting an interface can do. -/
theorem setInterface_cases (runner : Runner) (up : Bool) (t : InterfaceEndpoint) (ran : List Ran) :
    (∃ r, LinkOk runner ran t up r ∧ setInterface runner up t ran = .ok (ran ++ [r])) ∨
    ((∀ r, ¬ LinkOk runner ran t up r) ∧ (setInterface runner up t ran).raised ≠ none ∧
      (∀ e, linkDown (setInterface runner up t ran).state e = linkDown ran e) ∧
      installed (setInterface runner up t ran).state = installed ran) := by
  unfold setInterface
  cases hclab : sonicToClab t.interface with
  | error err =>
    refine .inr ⟨?_, Option.some_ne_none _, fun e => rfl, rfl⟩
    rintro r ⟨clabIface, hok, -⟩
    rw [hclab] at hok
    exact nomatch hok
  | ok clabIface =>
    dsimp only
    cases hs : (runner ran (.link t.node clabIface up)).success with
    | true => exact .inl ⟨_, ⟨clabIface, hclab, rfl, hs⟩, if_pos rfl⟩
    | false =>
      rw [if_neg Bool.false_ne_true]
      refine .inr ⟨?_, Option.some_ne_none _, fun e => ?_, ?_⟩
      · rintro r ⟨clab', hok, rfl, hsuccess⟩
        rw [hclab] at hok
        cases hok
        exact Bool.false_ne_true (hs.symm.trans hsuccess)
      · dsimp only [Outcome.state_raise]
        rw [linkDown_append, linkDownAfter]
        simp [hs]
      · dsimp only [Outcome.state_raise]
        rw [installed_append, installedAfter]

/-- What a successful command does to the damage. -/
theorem LinkOk.effects {ran : List Ran} {t : InterfaceEndpoint} {up : Bool} {r : Ran}
    (h : LinkOk runner ran t up r) : installed (ran ++ [r]) = installed ran ∧ ∀ e,
      (t.Names e ∧ linkDown (ran ++ [r]) e = !up) ∨
        (¬ t.Names e ∧ linkDown (ran ++ [r]) e = linkDown ran e) := by
  obtain ⟨clabIface, hclab, rfl, hsuccess⟩ := h
  refine ⟨by rw [installed_append, installedAfter], fun e => ?_⟩
  rw [linkDown_append, linkDownAfter]
  dsimp only at hsuccess ⊢
  by_cases he : (t.node, clabIface) = e
  · subst he
    exact .inl ⟨⟨rfl, hclab⟩, if_pos ⟨hsuccess, rfl⟩⟩
  · refine .inr ⟨?_, if_neg fun h => he h.2⟩
    rintro ⟨hnode, hname⟩
    rw [hclab] at hname
    exact he (Prod.ext hnode (Except.ok.inj hname))

/-- A shutdown takes no qdisc away, and sets nothing down but its targets. -/
theorem shutdown_effects (runner : Runner) (ts : List InterfaceEndpoint) (ran : List Ran) :
    installed (Outcome.forEach (setInterface runner false) ts ran).state = installed ran ∧
      ∀ e, linkDown (Outcome.forEach (setInterface runner false) ts ran).state e →
        linkDown ran e ∨ ∃ t ∈ ts, t.Names e := by
  induction ts generalizing ran with
  | nil => exact ⟨rfl, fun e he => .inl he⟩
  | cons t ts ih =>
    rw [Outcome.forEach_cons]
    rcases setInterface_cases runner false t ran with ⟨r, hok, heq⟩ | ⟨-, hraised, hlinks, hqdiscs⟩
    · rw [heq, Outcome.andThen_none rfl]
      obtain ⟨hinstalled, hdown⟩ := ih (ran ++ [r])
      refine ⟨hinstalled.trans hok.effects.1, fun e he => ?_⟩
      rcases hdown e he with hbefore | ⟨t', ht', hnames⟩
      · rcases hok.effects.2 e with ⟨hnames, -⟩ | ⟨-, hsame⟩
        · exact .inr ⟨t, List.mem_cons_self, hnames⟩
        · exact .inl (hsame ▸ hbefore)
      · exact .inr ⟨t', List.mem_cons_of_mem t ht', hnames⟩
    · rw [Outcome.andThen_some hraised]
      exact ⟨hqdiscs, fun e he => .inl (hlinks e ▸ he)⟩

/-- After an exception a command has failed. -/
theorem someLinkFails_of_raised {ts : List InterfaceEndpoint} {ran : List Ran}
    (h : (Outcome.forEach (setInterface runner false) ts ran).raised ≠ none) :
    SomeLinkFails runner ran ts := by
  induction ts generalizing ran with
  | nil => exact absurd rfl h
  | cons t ts ih =>
    rw [Outcome.forEach_cons] at h
    rcases setInterface_cases runner false t ran with ⟨r, hok, heq⟩ | ⟨hnot, -⟩
    · rw [heq, Outcome.andThen_none rfl] at h
      exact .later hok (ih h)
    · exact .here hnot

/-- A shutdown that fails, and not half way, changes nothing. -/
theorem shutdown_failed (runner : Runner) (ts : List InterfaceEndpoint) (ran : List Ran)
    (h : (Outcome.forEach (setInterface runner false) ts ran).raised ≠ none)
    (hhalf : ¬ PartialShutdown runner ran ts) (e : String × String) :
    linkDown (Outcome.forEach (setInterface runner false) ts ran).state e = linkDown ran e := by
  cases ts with
  | nil => rfl
  | cons t ts =>
    rw [Outcome.forEach_cons] at h ⊢
    rcases setInterface_cases runner false t ran with ⟨r, hok, heq⟩ | ⟨-, hraised, hlinks, -⟩
    · rw [heq, Outcome.andThen_none rfl] at h
      exact absurd ⟨t, ts, r, rfl, hok, someLinkFails_of_raised h⟩ hhalf
    · rw [Outcome.andThen_some hraised]
      exact hlinks e

/-! ## Setting up again -/

/-- Every interface is set up again. -/
inductive AllUp (runner : Runner) : List Ran → List InterfaceEndpoint → Prop
  | nil {ran : List Ran} : AllUp runner ran []
  | cons {ran : List Ran} {t : InterfaceEndpoint} {ts : List InterfaceEndpoint} {r : Ran}
      (hr : LinkOk runner ran t true r) (h : AllUp runner (ran ++ [r]) ts) :
      AllUp runner ran (t :: ts)

/-- The interfaces that faults are set up for. -/
def upTargets (faults : List LedgerFault) : List InterfaceEndpoint :=
  faults.flatMap fun f =>
    match f.type with
    | .shutdown => f.targets
    | .netem => []

/-- What is set up again is what the faults stand for. -/
theorem mem_upTargets {faults : List LedgerFault} {e : String × String} :
    (∃ t ∈ upTargets faults, t.Names e) ↔ ∃ f ∈ faults, f.ClaimsLink e := by
  constructor
  · rintro ⟨t, ht, hnames⟩
    obtain ⟨f, hf, htf⟩ := List.mem_flatMap.mp ht
    refine ⟨f, hf, ?_⟩
    cases htype : f.type with
    | shutdown =>
      rw [htype] at htf
      exact ⟨htype, t, htf, hnames⟩
    | netem =>
      rw [htype] at htf
      exact nomatch htf
  · rintro ⟨f, hf, htype, t, ht, hnames⟩
    refine ⟨t, List.mem_flatMap.mpr ⟨f, hf, ?_⟩, hnames⟩
    rw [htype]
    exact ht

/-- Reverting faults is setting up their interfaces: a netem fault has nothing to revert. -/
theorem revert_eq (faults : List LedgerFault) (ran : List Ran) :
    Outcome.forEach (revertFault runner) faults ran =
      Outcome.forEach (startup runner) (upTargets faults) ran := by
  have hturn : ∀ f ran, revertFault runner f ran = Outcome.forEach (startup runner)
      (match f.type with | .shutdown => f.targets | .netem => []) ran := by
    intro f ran
    unfold revertFault
    cases f.type <;> rfl
  rw [upTargets, Outcome.forEach_flatMap, funext fun f => funext (hturn f)]

/-- With every interface set up, nothing else changes. -/
theorem up_effects {ts : List InterfaceEndpoint} {ran : List Ran} (h : AllUp runner ran ts) :
    (Outcome.forEach (startup runner) ts ran).raised = none ∧
      installed (Outcome.forEach (startup runner) ts ran).state = installed ran ∧
      ∀ e, linkDown (Outcome.forEach (startup runner) ts ran).state e ↔
        linkDown ran e ∧ ¬ ∃ t ∈ ts, t.Names e := by
  induction h with
  | nil => exact ⟨rfl, rfl, fun e => by simp [Outcome.forEach_nil]⟩
  | @cons ran t ts r hr _ ih =>
    have heq : startup runner t ran = .ok (ran ++ [r]) := by
      rcases setInterface_cases runner true t ran with ⟨r', hok, heq⟩ | ⟨hnot, -⟩
      · have hrr : r' = r := by
          obtain ⟨c, hc, rfl, -⟩ := hok
          obtain ⟨c', hc', rfl, -⟩ := hr
          rw [hc] at hc'
          cases hc'
          rfl
        rw [startup, heq, hrr]
        rfl
      · exact absurd hr (hnot r)
    rw [Outcome.forEach_cons, heq, Outcome.andThen_none rfl]
    obtain ⟨hraised, hinstalled, hdown⟩ := ih
    refine ⟨hraised, hinstalled.trans hr.effects.1, fun e => ?_⟩
    dsimp only [Outcome.state_ok]
    rw [hdown e]
    rcases hr.effects.2 e with ⟨hnames, hup⟩ | ⟨hother, hsame⟩
    · rw [hup]
      exact iff_of_false (fun h => absurd h.1 Bool.false_ne_true)
        fun h => h.2 ⟨t, List.mem_cons_self, hnames⟩
    · rw [hsame]
      simp only [List.exists_mem_cons_iff, hother, false_or]

end Shutdown

/-! ## Qdiscs -/

/-- A del of the unwinding fails. -/
def DelMisses (runner : Runner) : List Ran → List (Int × String) → Prop
  | _, [] => False
  | ran, (pid, ifname) :: applied =>
    let res := runner ran (.del pid ifname)
    res.success = false ∨ DelMisses runner (ran ++ [⟨.del pid ifname, res⟩]) applied

/-- `apply` gets stuck with something applied, and does not take all of it off. -/
inductive NetemSticks (topo : String) (runner : Runner) : Session → List NicStep → Prop
  /-- A fault does not parse. -/
  | unparsed {s : Session} {err : NetemError} {steps : List NicStep} (h : s.applied ≠ []) :
      NetemSticks topo runner s (.unparsed err :: steps)
  /-- A container has no pid. -/
  | noPid {s : Session} {nic : NICTarget} {tokens : List String} {steps : List NicStep}
      {err : NetemRaise} (hpid : (resolveContainerPid topo runner nic.container s).1 = .error err)
      (h : s.applied ≠ []) : NetemSticks topo runner s (.nic nic tokens :: steps)
  /-- The qdisc is not added, and the unwinding misses one. -/
  | undo {s t : Session} {nic : NICTarget} {tokens : List String} {steps : List NicStep} {pid : Int}
      (hpid : resolveContainerPid topo runner nic.container s = (.ok pid, t))
      (hadd : (runner t.ran (.add nic pid tokens)).success = false)
      (h : DelMisses runner
        (t.ran ++ [⟨.add nic pid tokens, runner t.ran (.add nic pid tokens)⟩]) t.applied) :
      NetemSticks topo runner s (.nic nic tokens :: steps)
  /-- The qdisc is added, and a later step gets stuck. -/
  | next {s t : Session} {nic : NICTarget} {tokens : List String} {steps : List NicStep} {pid : Int}
      (hpid : resolveContainerPid topo runner nic.container s = (.ok pid, t))
      (hadd : (runner t.ran (.add nic pid tokens)).success)
      (h : NetemSticks topo runner
        ⟨t.ran ++ [⟨.add nic pid tokens, runner t.ran (.add nic pid tokens)⟩],
          (pid, nic.ifname) :: t.applied⟩ steps) : NetemSticks topo runner s (.nic nic tokens :: steps)

section Qdiscs

variable {topo : String} {runner : Runner}

/-- The two sessions have done the same damage, and have the same applied. -/
def SameDamage (s t : Session) : Prop :=
  t.applied = s.applied ∧ installed t.ran = installed s.ran ∧
    ∀ e, linkDown t.ran e = linkDown s.ran e

theorem SameDamage.trans {s t u : Session} (hst : SameDamage s t) (htu : SameDamage t u) :
    SameDamage s u :=
  ⟨htu.1.trans hst.1, htu.2.1.trans hst.2.1, fun e => (htu.2.2 e).trans (hst.2.2 e)⟩

theorem inspectPid_damage (runner : Runner) (name : String) {s : Session} :
    SameDamage s (inspectPid runner name s).2 := by
  have hstate : (inspectPid runner name s).2 = (s.run runner (.inspect name)).2 := by
    unfold inspectPid
    dsimp only
    split_ifs
    · split <;> rfl
    · rfl
    · rfl
  rw [hstate]
  refine ⟨rfl, ?_, fun e => ?_⟩
  · exact installed_append
  · exact linkDown_append

/-- Looking for a pid does no damage. -/
theorem resolveContainerPid_damage {container : String} {s : Session} :
    SameDamage s (resolveContainerPid topo runner container s).2 := by
  unfold resolveContainerPid
  have hfirst : SameDamage s (inspectPid runner container s).2 := inspectPid_damage runner container
  rcases hi : inspectPid runner container s with ⟨err | _ | pid, t⟩
  · rwa [hi] at hfirst
  · rw [hi] at hfirst
    dsimp only at hfirst ⊢
    have hboth := hfirst.trans
      (inspectPid_damage runner ("clab-" ++ topo ++ "-" ++ container))
    rcases hj : inspectPid runner ("clab-" ++ topo ++ "-" ++ container) t with ⟨err | _ | pid, u⟩ <;>
      rwa [hj] at hboth
  · rwa [hi] at hfirst

/-- Unwinding adds nothing, and takes off all that was applied unless a del fails. -/
theorem popAll_effects (runner : Runner) (ran : List Ran) (applied : List (Int × String)) :
    (∀ e, linkDown (popAll runner true ran applied).state.ran e = linkDown ran e) ∧
      ∀ q ∈ installed (popAll runner true ran applied).state.ran, q ∈ installed ran ∧
        (¬ DelMisses runner ran applied → (q.2, q.1.ifname) ∉ applied) := by
  induction applied generalizing ran with
  | nil => exact ⟨fun e => rfl, fun q hq => ⟨hq, fun _ => List.not_mem_nil⟩⟩
  | cons a applied ih =>
    obtain ⟨pid, ifname⟩ := a
    unfold popAll
    dsimp only
    rw [if_neg (by simp)]
    obtain ⟨hlinks, hqdiscs⟩ := ih (ran ++ [⟨.del pid ifname, runner ran (.del pid ifname)⟩])
    refine ⟨fun e => (hlinks e).trans linkDown_append, fun q hq => ?_⟩
    obtain ⟨hmem, hrest⟩ := hqdiscs q hq
    rw [installed_append, installedAfter] at hmem
    dsimp only at hmem
    cases hs : (runner ran (.del pid ifname)).success with
    | false =>
      rw [hs, if_neg Bool.false_ne_true] at hmem
      exact ⟨hmem, fun hmiss => absurd (.inl hs) hmiss⟩
    | true =>
      rw [hs, if_pos rfl, List.mem_filter] at hmem
      refine ⟨hmem.1, fun hmiss => List.not_mem_cons_of_ne_of_not_mem ?_ ?_⟩
      · exact of_decide_eq_true hmem.2
      · exact hrest fun hlater => hmiss (.inr hlater)

/-- `apply` sets no interface down; it leaves qdiscs on the NICs of its steps only, and if it raises
    and does not get stuck, none at all. -/
theorem apply_effects (topo : String) (runner : Runner) (steps : List NicStep) (s : Session) :
    (∀ e, linkDown (Outcome.forEach (applyStep topo runner) steps s).state.ran e =
      linkDown s.ran e) ∧
    ∀ q ∈ installed (Outcome.forEach (applyStep topo runner) steps s).state.ran,
      (q ∈ installed s.ran ∨ ∃ tokens, .nic q.1 tokens ∈ steps) ∧
      ((Outcome.forEach (applyStep topo runner) steps s).raised ≠ none →
        ¬ NetemSticks topo runner s steps → q ∈ installed s.ran ∧ (q.2, q.1.ifname) ∉ s.applied) := by
  induction steps generalizing s with
  | nil => exact ⟨fun e => rfl, fun q hq => ⟨.inl hq, fun h => absurd rfl h⟩⟩
  | cons step steps ih =>
    -- a step that raises with nothing applied
    have hstuck : ∀ (q : NICTarget × Int) (t : Session), SameDamage s t → q ∈ installed t.ran →
        (s.applied ≠ [] → NetemSticks topo runner s (step :: steps)) →
        ¬ NetemSticks topo runner s (step :: steps) →
        q ∈ installed s.ran ∧ (q.2, q.1.ifname) ∉ s.applied := by
      intro q t hsame hq hsticks hnot
      have hnil : s.applied = [] := by_contra fun h => hnot (hsticks h)
      rw [hnil, ← hsame.2.1]
      exact ⟨hq, List.not_mem_nil⟩
    rw [Outcome.forEach_cons]
    cases step with
    | unparsed err =>
      rw [Outcome.andThen_some (by exact Option.some_ne_none _)]
      exact ⟨fun e => rfl, fun q hq => ⟨.inl hq, fun _ =>
        hstuck q s ⟨rfl, rfl, fun e => rfl⟩ hq .unparsed⟩⟩
    | nic nic tokens =>
      have hsame : SameDamage s (resolveContainerPid topo runner nic.container s).2 :=
        resolveContainerPid_damage
      rcases applyNic_cases topo runner nic tokens s with
        ⟨err, hpid, heq⟩ | ⟨pid, t, hpid, ⟨hadd, heq⟩ | ⟨hadd, err, heq⟩⟩
      · rw [applyStep, heq, Outcome.andThen_some (by exact Option.some_ne_none _)]
        refine ⟨hsame.2.2, fun q hq => ⟨.inl (hsame.2.1 ▸ hq), fun _ => ?_⟩⟩
        exact hstuck q _ hsame hq (.noPid hpid)
      · rw [hpid] at hsame
        rw [applyStep, heq, Outcome.andThen_none rfl]
        obtain ⟨hlinks, hqdiscs⟩ := ih
          ⟨t.ran ++ [⟨.add nic pid tokens, runner t.ran (.add nic pid tokens)⟩],
            (pid, nic.ifname) :: t.applied⟩
        have hinstalled : ∀ q, q ∈ installed
            (t.ran ++ [⟨.add nic pid tokens, runner t.ran (.add nic pid tokens)⟩]) ↔
              q = (nic, pid) ∨ q ∈ installed s.ran := by
          intro q
          rw [installed_append, installedAfter]
          dsimp only
          rw [hadd, if_pos rfl, List.mem_cons, hsame.2.1]
        refine ⟨fun e => (hlinks e).trans (linkDown_append.trans (hsame.2.2 e)), fun q hq => ?_⟩
        obtain ⟨hfrom, hundone⟩ := hqdiscs q hq
        constructor
        · rcases hfrom with hbefore | ⟨tokens', hlater⟩
          · rcases (hinstalled q).mp hbefore with rfl | hold
            · exact .inr ⟨tokens, List.mem_cons_self⟩
            · exact .inl hold
          · exact .inr ⟨tokens', List.mem_cons_of_mem _ hlater⟩
        · intro hraised hnot
          obtain ⟨hbefore, hnotapplied⟩ := hundone hraised fun h => hnot (.next hpid hadd h)
          refine ⟨((hinstalled q).mp hbefore).resolve_left ?_, fun h => hnotapplied ?_⟩
          · rintro rfl
            exact hnotapplied List.mem_cons_self
          · rw [← hsame.1] at h
            exact List.mem_cons_of_mem _ h
      · rw [hpid] at hsame
        rw [applyStep, heq, Outcome.andThen_some (by exact Option.some_ne_none _)]
        obtain ⟨hlinks, hqdiscs⟩ := popAll_effects runner
          (t.ran ++ [⟨.add nic pid tokens, runner t.ran (.add nic pid tokens)⟩]) t.applied
        have hinstalled : installed
            (t.ran ++ [⟨.add nic pid tokens, runner t.ran (.add nic pid tokens)⟩]) =
              installed s.ran := by
          rw [installed_append, installedAfter]
          dsimp only
          rw [hadd, if_neg Bool.false_ne_true, hsame.2.1]
        rw [hinstalled] at hqdiscs
        refine ⟨fun e => (hlinks e).trans (linkDown_append.trans (hsame.2.2 e)), fun q hq => ?_⟩
        refine ⟨.inl (hqdiscs q hq).1, fun _ hnot => ⟨(hqdiscs q hq).1, ?_⟩⟩
        rw [← hsame.1]
        exact (hqdiscs q hq).2 fun hmiss => hnot (.undo hpid hadd hmiss)

end Qdiscs

end Srv6Mrc
