/-
  `srctl fault` (`cli/srctl.py`, with `fault.py`): faults that are put on by one command and taken off
  by another, with a file in between.

  A command has its effects one by one, through the same runner as `Netem`; the file is written at its
  end.  `clear` reads there what to take off: it sets the interfaces of a shutdown up again, and makes
  a new `Netem` of the target of a netem fault, which has nothing applied.
-/
import Srv6Mrc.Faults.Netem
import Srv6Mrc.Lib.Yaml

namespace Srv6Mrc

open Py

/-! ## The file -/

/-- `InterfaceEndpoint` -/
structure InterfaceEndpoint where
  node : String
  interface : String
  deriving DecidableEq, Repr

/-- The `type` of a fault. -/
inductive FaultType where
  | shutdown
  | netem
  deriving DecidableEq, Repr

/-- `Fault` of `fault.py`. -/
structure LedgerFault where
  id : String
  type : FaultType
  targets : List InterfaceEndpoint
  spec : String
  bidirectional : Bool
  deriving DecidableEq, Repr

/-- `remove_fault`: the first fault with this id. -/
def removeFault (faultId : String) (faults : List LedgerFault) : List LedgerFault :=
  faults.eraseP fun f => f.id = faultId

/-- `find_by_node` -/
def findByNode (node : String) (faults : List LedgerFault) : List LedgerFault :=
  faults.filter fun f => f.targets.any fun t => t.node = node

/-- `find_by_interface` -/
def findByInterface (node interface : String) (faults : List LedgerFault) : List LedgerFault :=
  faults.filter fun f => f.targets.any fun t => t.node = node ∧ t.interface = interface

/-- The number in an id, as far as there is one. -/
def idNumber (id : String) : Option Int :=
  if "fault-".toList.isPrefixOf id.toList then
    ((id.toList.splitOn '-')[1]?).bind fun cs => intOfText (String.ofList cs)
  else none

/-- `max_id` -/
def maxId (faults : List LedgerFault) : Int :=
  faults.foldl (fun m f => match idNumber f.id with | some n => max m n | none => m) 0

/-- `generate_fault_id` -/
def generateFaultId (faults : List LedgerFault) : Except Exc String :=
  let n := maxId faults + 1
  if printableInt n then .ok ("fault-" ++ decPad 3 n.toNat) else .error .valueError

/-! ## Interfaces -/

/-- `sonic_to_clab` -/
def sonicToClab (sonicIface : String) : Except Exc String :=
  if "Ethernet".toList.isPrefixOf sonicIface.toList then
    match intOfText (String.ofList (sonicIface.toList.drop 8)) with
    | some m => if m % 4 = 0 then .ok ("eth" ++ toString (m / 4 + 1)) else .error .valueError
    | none => .error .valueError
  else .error .valueError

/-- `TopologyLinks`: the peer of an endpoint, where what was set last counts. -/
structure TopologyLinks where
  links : List (InterfaceEndpoint × InterfaceEndpoint)

/-- `get_peer` -/
def TopologyLinks.getPeer (L : TopologyLinks) (e : InterfaceEndpoint) : Option InterfaceEndpoint :=
  (L.links.reverse.find? fun link => link.1 = e).map Prod.snd

/-- `get_all_interfaces` -/
def TopologyLinks.getAllInterfaces (L : TopologyLinks) (node : String) : List String :=
  (((L.links.map Prod.fst).filter fun e => e.node = node).map (·.interface)).dedup.mergeSort

/-! ## Commands -/

/-- What the tool has run so far, and the file. -/
structure Srctl where
  ran : List Ran := []
  file : List LedgerFault := []

/-- How a command ends. -/
inductive Exit where
  /-- The exit code. -/
  | code (n : Nat)
  /-- An exception that nothing catches. -/
  | raised (err : Exc)
  deriving DecidableEq, Repr

/-- The commands. -/
inductive Command where
  | shutdown (node : String) (interfaces : List String) (unidirectional : Bool)
  | netem (target spec : String)
  | clear (all : Bool) (node interface : String)

/-- What `shutdown_interface` and `startup_interface` raise. -/
inductive LinkError where
  | valueError
  | runtimeError (node interface stderr : String)

section Commands

variable (T : Topo) (topo : String) (L : TopologyLinks) (runner : Runner)

/-- `shutdown_interface` and `startup_interface` -/
def setInterface (up : Bool) (t : InterfaceEndpoint) (ran : List Ran) :
    Outcome LinkError (List Ran) :=
  match sonicToClab t.interface with
  | .error _ => .raise .valueError ran
  | .ok clabIface =>
    let cmd := Cmd.link t.node clabIface up
    let result := runner ran cmd
    if result.success then .ok (ran ++ [⟨cmd, result⟩])
    else .raise (.runtimeError t.node t.interface result.stderr) (ran ++ [⟨cmd, result⟩])

/-- The targets of a shutdown: the interfaces, each with its peer unless one side is enough. -/
def shutdownTargets (node : String) (interfaces : List String) (unidirectional : Bool) :
    List InterfaceEndpoint :=
  interfaces.flatMap fun iface =>
    ⟨node, iface⟩ :: if unidirectional then [] else (L.getPeer ⟨node, iface⟩).toList

/-- `interfaces`, where `all` stands for those of the node. -/
def shutdownInterfaces (node : String) (interfaces : List String) : List String :=
  match interfaces with
  | [iface] => if iface.map Char.toLower = "all" then L.getAllInterfaces node else [iface]
  | _ => interfaces

/-- `add_fault` of a new fault, and `save`. -/
def record (type : FaultType) (targets : List InterfaceEndpoint) (spec : String)
    (bidirectional : Bool) (s : Srctl) : Srctl × Exit :=
  match generateFaultId s.file with
  | .error err => (s, .raised err)
  | .ok id => ({ s with file := s.file ++ [⟨id, type, targets, spec, bidirectional⟩] }, .code 0)

/-- `_cmd_fault_shutdown` -/
def cmdFaultShutdown (node : String) (interfaces : List String) (unidirectional : Bool) (s : Srctl) :
    Srctl × Exit :=
  let interfaces := shutdownInterfaces L node interfaces
  if interfaces = [] ∨ !interfaces.all fun iface => "Ethernet".toList.isPrefixOf iface.toList then
    (s, .code 1)
  else
    let targets := shutdownTargets L node interfaces unidirectional
    match Outcome.forEach (setInterface runner false) targets s.ran with
    | ⟨ran, some .valueError⟩ => ({ s with ran := ran }, .raised .valueError)
    | ⟨ran, some (.runtimeError _ _ _)⟩ => ({ s with ran := ran }, .code 1)
    | ⟨ran, none⟩ => record .shutdown targets "down" (!unidirectional) { s with ran := ran }

/-- `_cmd_fault_netem` -/
def cmdFaultNetem (target spec : String) (s : Srctl) : Srctl × Exit :=
  match apply T topo runner false [⟨target, spec⟩] { ran := s.ran } with
  | ⟨t, some _⟩ => ({ s with ran := t.ran }, .code 1)
  | ⟨t, none⟩ => record .netem [⟨"netem", target⟩] spec false { s with ran := t.ran }

/-- A turn of the loop over the targets of `_revert_fault`: a `RuntimeError` is printed. -/
def startup (t : InterfaceEndpoint) (ran : List Ran) : Outcome LinkError (List Ran) :=
  match setInterface runner true t ran with
  | ⟨ran, some (.runtimeError _ _ _)⟩ => .ok ran
  | o => o

/-- `_revert_fault` -/
def revertFault (fault : LedgerFault) (ran : List Ran) : Outcome LinkError (List Ran) :=
  match fault.type with
  | .shutdown => Outcome.forEach (startup runner) fault.targets ran
  | .netem => .ok (revert runner false { ran := ran }).state.ran

/-- The faults that `clear` takes off. -/
def selected (all : Bool) (node interface : String) (faults : List LedgerFault) :
    List LedgerFault :=
  if all then faults
  else if node = "" then []
  else if interface = "" then findByNode node faults
  else findByInterface node interface faults

/-- `_cmd_fault_clear`: if an exception gets through, the file is not written. -/
def cmdFaultClear (all : Bool) (node interface : String) (s : Srctl) : Srctl × Exit :=
  let faults := selected all node interface s.file
  if !all ∧ node = "" then (s, .code 1)
  else
    match Outcome.forEach (revertFault runner) faults s.ran with
    | ⟨ran, some _⟩ => ({ s with ran := ran }, .raised .valueError)
    | ⟨ran, none⟩ =>
      (⟨ran, if all then [] else faults.foldl (fun file f => removeFault f.id file) s.file⟩, .code 0)

/-- One command. -/
def Srctl.step (s : Srctl) : Command → Srctl
  | .shutdown node interfaces unidirectional =>
    (cmdFaultShutdown L runner node interfaces unidirectional s).1
  | .netem target spec => (cmdFaultNetem T topo runner target spec s).1
  | .clear all node interface => (cmdFaultClear runner all node interface s).1

/-- Commands one after another, from nothing. -/
def Srctl.after (cmds : List Command) : Srctl := cmds.foldl (Srctl.step T topo L runner) {}

end Commands

end Srv6Mrc
