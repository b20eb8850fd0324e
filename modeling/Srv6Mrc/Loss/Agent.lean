/-
  `srv6_mrc/mrc/agent.py`: `ReceiverMrcAgent`, which counts arrivals and reports them to their senders.

  Its table is a `LossWindowTable`, with the order in which flows came in; next to it is a cache that
  has, for each sender, the EV of its last full arrival.  A round closes the window of one flow after
  the other, and sends what was in it to the flow's sender — on the EV of the cache, if there is one.

  The transport is a parameter: it may raise as it likes, and has seen what it was handed before.
-/
import Srv6Mrc.Loss.Receiver

namespace Srv6Mrc

/-! ## The transport -/

/-- `flow_key`: `(tenant_id, src_id, dst_id)`. -/
structure FlowId where
  tenantId : Int
  srcId : Int
  dstId : Int
  deriving DecidableEq, Repr

/-- What a transport is handed. -/
inductive Message where
  /-- `send_loss_report` -/
  | lossReport (plane path dstLeaf : Int) (payload : List UInt8)
  /-- `send_nack` -/
  | nack (plane path dstLeaf dport : Int) (payload : List UInt8)
  deriving DecidableEq, Repr

/-- What a transport raises. -/
inductive SendRaise where
  | osError
  | other
  deriving DecidableEq, Repr

/-- A transport has seen the messages before, and may raise. -/
abbrev Transport : Type := List Message → Message → Option SendRaise

/-- What the agent's methods raise. -/
inductive AgentRaise where
  /-- The table refuses a call. -/
  | table (err : ReceiverError)
  /-- A field check of a message, or of a record of a report. -/
  | wire (err : WireError)
  /-- The transport raised something else than `OSError`. -/
  | send
  deriving DecidableEq, Repr

/-! ## The agent -/

/-- `_SenderAddr` -/
structure SenderAddr where
  srcId : Int
  lastPlane : Int
  lastPath : Int
  deriving DecidableEq, Repr

/-- `ReceiverMrcAgent`, with what its transport was handed. -/
structure ReceiverMrcAgent (W : LossWindowTable) where
  lossTable : W.Flows FlowId := fun _ => none
  /-- The keys of the table, in the order in which they came in. -/
  knownFlows : List FlowId := []
  senders : Int × Int → Option SenderAddr := fun _ => none
  trimmedSeen : Nat := 0
  nacksSent : Nat := 0
  nackSendErrors : Nat := 0
  handed : List Message := []

namespace ReceiverMrcAgent

variable {W : LossWindowTable} (send : Transport) (myId : Int)

/-- The table after a call that may have made a window for the flow. -/
def setTable (a : ReceiverMrcAgent W) (flowKey : FlowId) (flows : W.Flows FlowId) :
    ReceiverMrcAgent W :=
  { a with
    lossTable := flows
    knownFlows :=
      if (flows flowKey).isSome ∧ flowKey ∉ a.knownFlows then a.knownFlows ++ [flowKey]
      else a.knownFlows }

/-- `record_data` -/
def recordData (flowKey : FlowId) (plane path seq : Int) (a : ReceiverMrcAgent W) :
    Outcome AgentRaise (ReceiverMrcAgent W) :=
  match W.record flowKey plane path seq a.lossTable with
  | ⟨flows, some err⟩ => .raise (.table err) (a.setTable flowKey flows)
  | ⟨flows, none⟩ => .ok { a.setTable flowKey flows with
      senders := Function.update a.senders (flowKey.tenantId, flowKey.srcId)
        (some ⟨flowKey.srcId, plane, path⟩) }

/-- `NACK_PORT_BASE` -/
def nackPortBase : Int := 9800

/-- `nack_port` -/
def nackPort (dstId : Int) : Int := nackPortBase + dstId

/-- The NACK of a trimmed arrival: it goes back as reports do, or as the packet came. -/
def nackOf (flowKey : FlowId) (plane path seq : Int) (a : ReceiverMrcAgent W) :
    Except WireError Message := do
  let (revPlane, revPath) :=
    match a.senders (flowKey.tenantId, flowKey.srcId) with
    | some sender => (sender.lastPlane, sender.lastPath)
    | none => (plane, path)
  let nack ← Nack.new plane path flowKey.tenantId flowKey.srcId myId seq
  return .nack revPlane revPath flowKey.srcId (nackPort myId) (encodeNack nack)

/-- `record_trimmed` -/
def recordTrimmed (flowKey : FlowId) (plane path seq : Int) (a : ReceiverMrcAgent W) :
    Outcome AgentRaise (ReceiverMrcAgent W) :=
  match W.recordTrimmed flowKey plane path a.lossTable with
  | ⟨flows, some err⟩ => .raise (.table err) (a.setTable flowKey flows)
  | ⟨flows, none⟩ =>
    let a := { a.setTable flowKey flows with trimmedSeen := a.trimmedSeen + 1 }
    match a.nackOf myId flowKey plane path seq with
    | .error err => .raise (.wire err) a
    | .ok msg =>
      let handed := a.handed ++ [msg]
      match send a.handed msg with
      | none => .ok { a with nacksSent := a.nacksSent + 1, handed := handed }
      | some .osError => .ok { a with nackSendErrors := a.nackSendErrors + 1, handed := handed }
      | some .other => .raise .send { a with handed := handed }

/-- The turn of the loop of `_emit_one_round` for a flow. -/
def emitFlow (flowKey : FlowId) (a : ReceiverMrcAgent W) :
    Outcome AgentRaise (ReceiverMrcAgent W) :=
  let (flows, report) := W.snapshotAndReset flowKey a.lossTable
  let a := a.setTable flowKey flows
  match report with
  | .error err => .raise (.wire err) a
  | .ok report =>
    if report.planes = [] then .ok a
    else
      match a.senders (flowKey.tenantId, flowKey.srcId) with
      | none => .ok a
      | some sender =>
        match encodeLossReport report.windowId.toNat report.planes with
        | .error _ => .ok a
        | .ok payload =>
          let msg := Message.lossReport sender.lastPlane sender.lastPath sender.srcId payload
          let a' := { a with handed := a.handed ++ [msg] }
          if send a.handed msg = some .other then .raise .send a' else .ok a'

/-- `_emit_one_round` -/
def emitOneRound (a : ReceiverMrcAgent W) : Outcome AgentRaise (ReceiverMrcAgent W) :=
  Outcome.forEach (emitFlow send) a.knownFlows a

/-! ## Runs -/

/-- A call on the agent. -/
inductive Event where
  | data (flowKey : FlowId) (plane path seq : Int)
  | trimmed (flowKey : FlowId) (plane path seq : Int)
  | round
  deriving DecidableEq, Repr

/-- One call, whatever it raises. -/
def step (a : ReceiverMrcAgent W) : Event → ReceiverMrcAgent W
  | .data flowKey plane path seq => (a.recordData flowKey plane path seq).state
  | .trimmed flowKey plane path seq => (a.recordTrimmed send myId flowKey plane path seq).state
  | .round => (a.emitOneRound send).state

variable (W) in
/-- A new agent, after some calls. -/
def after (events : List Event) : ReceiverMrcAgent W := events.foldl (step send myId) {}

end ReceiverMrcAgent

end Srv6Mrc
