/-
  `srv6_mrc/report.py`: `ScenarioReport.from_records`, from the records of senders and receivers to
  one row for each sender.

  A row is joined with a flow of the receiver by the inner addresses: the sender's follow from the
  host names, the receiver's stand in its record, and both are put in one form first.  A record of a
  host that has one already is ignored.  In the end the flows that no row was joined with are listed.

  Values that are only copied from a record to the report are of a type `V`, whatever that is.
-/
import Srv6Mrc.Lib.Text
import Srv6Mrc.Receive.Receiver

namespace Srv6Mrc

open Py

/-! ## Records -/

/-- What a sender reports: `SenderResult.to_dict()`, and what the orchestrator adds to it. -/
structure SenderRecord (V : Type) where
  src : String
  dst : String
  tenant : String
  policy : V
  spine : V
  ratePps : V
  durationS : V
  sent : V
  elapsedS : V
  perPlaneSent : List (Int × V)
  perEvSent : List (String × V)
  errors : V
  mrc : Option V
  trim : Option V
  deriving DecidableEq

/-- A flow of a receiver's record: `FlowStats.to_dict()`, perhaps with a trim block. -/
structure RecvFlow (V : Type) where
  src : String
  dst : String
  sport : Int
  dport : Int
  received : V
  loss : V
  duplicates : V
  reorderMax : V
  reorderMean : V
  reorderP99 : V
  reorderHist : List (Int × Int)
  perPlaneRecv : List (Int × V)
  trim : Option V
  deriving DecidableEq

/-- What a receiver reports. -/
structure RecvRecord (V : Type) where
  host : Option String
  perNic : List (String × V)
  flows : List (RecvFlow V)
  deriving DecidableEq

/-! ## The report -/

/-- `row.notes` -/
inductive RowNote where
  /-- `f"no receiver record for dst={row.dst_host}"` -/
  | noRecord (dst : String)
  /-- `f"cannot parse host_id from {row.src_host}/{row.dst_host}"` -/
  | hostId (src dst : String)
  /-- `f"receiver {row.dst_host} saw no flow {src_addr} -> {dst_addr}"` -/
  | noFlow (dst srcAddr dstAddr : String)
  deriving DecidableEq

/-- A row.  The sender's fields are those of its record, and the receiver's are those of the flow that
    it was joined with, or none. -/
structure FlowRow (V : Type) where
  sender : SenderRecord V
  matched : Option (RecvFlow V) := none
  perNicRx : List (String × V) := []
  notes : List RowNote := []
  deriving DecidableEq

/-- `report.warnings` -/
inductive ReportWarning (V : Type) where
  /-- `f"receiver record without 'host' field: {r!r}"` -/
  | noHost (record : RecvRecord V)
  /-- `f"duplicate receiver record for host={host}; keeping first, ignoring second"` -/
  | duplicateHost (host : String)
  /-- `f"orphan flow at {host}: {f['src']} -> {f['dst']} ({f['received']} pkts)"` -/
  | orphan (host : String) (flow : RecvFlow V)
  deriving DecidableEq

/-- `ScenarioReport` -/
structure ScenarioReport (V : Type) where
  scenario : String
  flows : List (FlowRow V)
  warnings : List (ReportWarning V)
  topologyDims : Option (Nat × Nat)
  daemonRecords : List V

/-! ## Merging -/

/-- `_canon_addr`, the same as the receiver's `_canon_inner`. -/
def canonAddr : String → String := canonInner

/-- `name.rsplit("host", 1)[1]` -/
def afterHost : List Char → Option (List Char)
  | [] => none
  | c :: rest =>
    match afterHost rest with
    | some digits => some digits
    | none => if "host".toList.isPrefixOf (c :: rest) then some ((c :: rest).drop 4) else none

/-- `int(name.rsplit("host", 1)[1])`, `none` for a `ValueError` or an `IndexError`. -/
def hostIdOf (name : String) : Option Int :=
  (afterHost name.toList).bind fun digits => intOfText (String.ofList digits)

/-- An element of `matched_receiver_flows`. -/
structure MatchKey where
  host : String
  src : String
  dst : String
  sport : Int
  dport : Int
  deriving DecidableEq

section Merging

variable {V : Type}

/-- The key of a flow in the record of a host. -/
def RecvFlow.key (host : String) (f : RecvFlow V) : MatchKey :=
  ⟨host, canonAddr f.src, canonAddr f.dst, f.sport, f.dport⟩

/-- The test for the flow between two addresses. -/
def RecvFlow.between (srcCanon dstCanon : String) (f : RecvFlow V) : Bool :=
  canonAddr f.src = srcCanon ∧ canonAddr f.dst = dstCanon

/-- One turn of the loop over the receivers. -/
def keepRecord (st : Dict String (RecvRecord V) × List (ReportWarning V)) (r : RecvRecord V) :
    Dict String (RecvRecord V) × List (ReportWarning V) :=
  match r.host with
  | none => (st.1, st.2 ++ [.noHost r])
  | some host =>
    if (st.1.get host).isSome then (st.1, st.2 ++ [.duplicateHost host])
    else (st.1.set host r, st.2)

/-- `recv_by_host`, and the warnings on the way to it. -/
def recvByHost (receivers : List (RecvRecord V)) :
    Dict String (RecvRecord V) × List (ReportWarning V) :=
  receivers.foldl keepRecord (∅, [])

/-- The variables of the loop over the senders. -/
structure Merge (V : Type) where
  rows : List (FlowRow V) := []
  /-- `matched_receiver_flows` -/
  matched : List MatchKey := []
  /-- The hosts whose record has `_per_nic_attached`. -/
  attached : List String := []

variable (T : Topo) (kept : Dict String (RecvRecord V))

/-- The inner addresses of a sender, made from the host names; `none` if there is no id in one. -/
def SenderRecord.addrs (s : SenderRecord V) : Option (Except TopoError (String × String)) :=
  match hostIdOf s.src, hostIdOf s.dst with
  | some srcId, some dstId => some do
    let srcAddr ← T.innerAddr s.tenant srcId
    let dstAddr ← T.innerAddr s.tenant dstId
    return (srcAddr, dstAddr)
  | _, _ => none

/-- One turn of the loop over the senders. -/
def mergeSender (m : Merge V) (s : SenderRecord V) : Except TopoError (Merge V) :=
  match kept.get s.dst with
  | none => .ok { m with rows := m.rows ++ [{ sender := s, notes := [.noRecord s.dst] }] }
  | some recv =>
    match s.addrs T with
    | none => .ok { m with rows := m.rows ++ [{ sender := s, notes := [.hostId s.src s.dst] }] }
    | some (.error err) => .error err
    | some (.ok (srcAddr, dstAddr)) =>
      match recv.flows.find? (RecvFlow.between (canonAddr srcAddr) (canonAddr dstAddr)) with
      | none =>
        .ok { m with rows := m.rows ++ [{ sender := s, notes := [.noFlow s.dst srcAddr dstAddr] }] }
      | some f =>
        .ok {
          rows := m.rows ++ [{
            sender := s
            matched := some f
            perNicRx := if s.dst ∈ m.attached then [] else recv.perNic }]
          matched := ⟨s.dst, canonAddr srcAddr, canonAddr dstAddr, f.sport, f.dport⟩ :: m.matched
          attached := s.dst :: m.attached }

/-- The loop over the flows nobody claimed. -/
def orphans (matched : List MatchKey) : List (ReportWarning V) :=
  kept.entries.flatMap fun (host, recv) =>
    (recv.flows.filter fun f => f.key host ∉ matched).map (.orphan host)

/-- `from_records` -/
def fromRecords (scenarioName : String) (senders : List (SenderRecord V))
    (receivers : List (RecvRecord V)) (topologyDims : Option (Nat × Nat)) (daemonRecords : List V) :
    Except TopoError (ScenarioReport V) := do
  let (kept, warnings) := recvByHost receivers
  let m ← senders.foldlM (mergeSender T kept) {}
  return {
    scenario := scenarioName
    flows := m.rows
    warnings := warnings ++ orphans kept m.matched
    topologyDims
    daemonRecords }

end Merging

end Srv6Mrc
