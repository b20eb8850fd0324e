/-
  `srv6_mrc/netem.py`: `Netem`, which puts faults on the hosts' NICs and takes them off again, and the
  part of `run_scenario` (`mrc/run.py`) that calls it.

  Every command goes through a runner, which may answer as it likes: it is a function of the commands
  before.  A session is the `Netem` object with the commands it has run so far.
-/
import Srv6Mrc.Lib.Outcome
import Srv6Mrc.Scenario.Netem

namespace Srv6Mrc

open Py

/-! ## Commands -/

/-- A command of the session. -/
inductive Cmd where
  /-- `_docker_pid_cmd` -/
  | inspect (container : String)
  /-- `_nsenter_tc_argv_add`, for the NIC whose container has the pid. -/
  | add (nic : NICTarget) (pid : Int) (tokens : List String)
  /-- `_nsenter_tc_argv_del` -/
  | del (pid : Int) (ifname : String)
  /-- `docker_exec` of `ip link set`, of `fault.py`. -/
  | link (node ifname : String) (up : Bool)
  deriving DecidableEq, Repr

/-- The arguments of a command. -/
def Cmd.argv : Cmd → List String
  | inspect container => ["docker", "inspect", "-f", "\x7b\x7b.State.Pid\x7d\x7d", container]
  | add nic pid tokens =>
    ["nsenter", "-t", toString pid, "-n", "tc", "qdisc", "add", "dev", nic.ifname, "root", "netem"] ++
      tokens
  | del pid ifname =>
    ["nsenter", "-t", toString pid, "-n", "tc", "qdisc", "del", "dev", ifname, "root"]
  | link node ifname up =>
    ["docker", "exec", node, "ip", "link", "set", ifname, if up then "up" else "down"]

/-- `subprocess.CompletedProcess` -/
structure RunResult where
  returncode : Int
  stdout : String := ""
  stderr : String := ""
  deriving DecidableEq, Repr

/-- `res.returncode == 0` -/
def RunResult.success (res : RunResult) : Bool := res.returncode = 0

/-- A command and its result. -/
structure Ran where
  cmd : Cmd
  result : RunResult
  deriving DecidableEq, Repr

/-- What runs the commands; it has seen the ones before. -/
abbrev Runner : Type := List Ran → Cmd → RunResult

/-! ## The session -/

/-- What `netem.py` raises, with the values of the messages. -/
inductive NetemRaise where
  /-- A target or a spec does not parse. -/
  | unparsed (err : NetemError)
  /-- `f"netem: cannot resolve PID for container {container!r} ..."` -/
  | noPid (container : String)
  /-- `int` refused a pid that `isdigit` takes. -/
  | badPid (text : String)
  /-- `f"netem apply failed on {nic}: {_format_err(argv, res)}"` -/
  | applyFailed (nic : NICTarget) (argv : List String) (res : RunResult)
  /-- `f"netem revert failed on pid={pid} dev={ifname}: {_format_err(argv, res)}"` -/
  | revertFailed (pid : Int) (ifname : String) (argv : List String) (res : RunResult)
  deriving DecidableEq, Repr

/-- The commands so far, and `_applied`, where what was added last comes first. -/
structure Session where
  ran : List Ran := []
  applied : List (Int × String) := []
  deriving DecidableEq, Repr

/-- `Fault` of `netem.py`; parsing it again gives the same, so that nothing is kept of it. -/
structure NetemFault where
  target : String
  spec : String
  deriving DecidableEq, Repr

section Methods

variable (T : Topo) (topo : String) (runner : Runner)

/-- `runner(argv)` -/
def Session.run (s : Session) (cmd : Cmd) : RunResult × Session :=
  (runner s.ran cmd, { s with ran := s.ran ++ [⟨cmd, runner s.ran cmd⟩] })

/-- One turn of the loop of `resolve_container_pid`. -/
def inspectPid (name : String) (s : Session) : Except NetemRaise (Option Int) × Session :=
  let (res, s) := s.run runner (.inspect name)
  if res.success then
    let pidStr := stripText res.stdout
    if isDigitText pidStr.toList then
      match intOfText pidStr with
      | some pid => (.ok (if 0 < pid then some pid else none), s)
      | none => (.error (.badPid pidStr), s)
    else (.ok none, s)
  else (.ok none, s)

/-- `resolve_container_pid` -/
def resolveContainerPid (container : String) (s : Session) : Except NetemRaise Int × Session :=
  match inspectPid runner container s with
  | (.error err, s) => (.error err, s)
  | (.ok (some pid), s) => (.ok pid, s)
  | (.ok none, s) =>
    match inspectPid runner ("clab-" ++ topo ++ "-" ++ container) s with
    | (.error err, s) => (.error err, s)
    | (.ok (some pid), s) => (.ok pid, s)
    | (.ok none, s) => (.error (.noPid container), s)

/-- The loop of `revert`, over what is applied. -/
def popAll (quiet : Bool) (ran : List Ran) : List (Int × String) → Outcome NetemRaise Session
  | [] => .ok ⟨ran, []⟩
  | (pid, ifname) :: applied =>
    let cmd := Cmd.del pid ifname
    let res := runner ran cmd
    if !res.success && !quiet then
      .raise (.revertFailed pid ifname cmd.argv res) ⟨ran ++ [⟨cmd, res⟩], applied⟩
    else popAll quiet (ran ++ [⟨cmd, res⟩]) applied

/-- `Netem.revert` -/
def revert (quiet : Bool) (s : Session) : Outcome NetemRaise Session :=
  popAll runner quiet s.ran s.applied

/-- `Fault.resolve`: the NICs and the tokens. -/
def NetemFault.resolve (fault : NetemFault) : Except NetemError (List NICTarget × List String) := do
  let nics ← parseTarget T fault.target
  let tokens ← normalizeSpec fault.spec
  return (nics, tokens)

/-- The loop's turn for a NIC, of `Netem.apply`. -/
def applyNic (dryRun : Bool) (tokens : List String) (nic : NICTarget) (s : Session) :
    Outcome NetemRaise Session :=
  if dryRun then .ok s
  else
    match resolveContainerPid topo runner nic.container s with
    | (.error err, s) => .raise err s
    | (.ok pid, s) =>
      let cmd := Cmd.add nic pid tokens
      let (res, s) := s.run runner cmd
      if res.success then .ok { s with applied := (pid, nic.ifname) :: s.applied }
      else (revert runner true s).andThen fun s => .raise (.applyFailed nic cmd.argv res) s

/-- The loop's turn for a fault, of `Netem.apply`. -/
def applyFault (dryRun : Bool) (fault : NetemFault) (s : Session) : Outcome NetemRaise Session :=
  match fault.resolve T with
  | .error err => .raise (.unparsed err) s
  | .ok (nics, tokens) => Outcome.forEach (applyNic topo runner dryRun tokens) nics s

/-- `Netem.apply` -/
def apply (dryRun : Bool) (faults : List NetemFault) (s : Session) : Outcome NetemRaise Session :=
  Outcome.forEach (applyFault T topo runner dryRun) faults s

/-- What `run_scenario` raises. -/
inductive RunRaise (E : Type) where
  | netem (err : NetemRaise)
  /-- Anything else that goes wrong before or after. -/
  | other (err : E)

/-- `run_scenario`, as far as it has to do with faults: something may be raised before they are
    applied, and by the flows. -/
def runScenario {E : Type} (dryRun : Bool) (before flows : Option E) (faults : List NetemFault) :
    Outcome (RunRaise E) Session :=
  match before with
  | some err => .raise (.other err) {}
  | none =>
    if dryRun then .ok (apply T topo runner true faults {}).state
    else
      match apply T topo runner false faults {} with
      | ⟨s, some err⟩ => .raise (.netem err) s
      | ⟨s, none⟩ =>
        -- the `finally` clause prints what `revert` raises
        let s := (revert runner false s).state
        match flows with
        | some err => .raise (.other err) s
        | none => .ok s

end Methods

end Srv6Mrc
