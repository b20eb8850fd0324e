/-
  `srv6_mrc/runner.py`: the receiving half, from a captured frame to the report.

  A frame is cut open at fixed offsets: Ethernet with VLAN tags, IPv6, perhaps a second IPv6 inside,
  UDP, perhaps RoCE.  What is left of it is an `Arrival`, a packet of some flow that came in full or
  trimmed to its header.  Full ones go to the tracker and to the counters; what is known of trimmed
  ones is kept in two dicts next to these, and the report joins them, flow by flow.

  `inet_ntop` is the C library's: the model takes it as an argument and asks nothing of it.
-/
import Srv6Mrc.Lib.Wire
import Srv6Mrc.Receive.Reorder
import Srv6Mrc.Topo.Plan

namespace Srv6Mrc

open Py Wire

/-! ## Frames -/

/-- `SPRAY_PORT` -/
def sprayPort : Nat := 9999

/-- `RDMA_PORT` -/
def rdmaPort : Nat := 4791

/-- `_PAYLOAD_HDR_LEN`, of `"!QBB"`. -/
def payloadHdrLen : Nat := 10

/-- `frame[a:b]` -/
def slice (bs : List UInt8) (a b : Nat) : List UInt8 := (bs.drop a).take (b - a)

/-- `int.from_bytes(frame[a:a + 2], "big")` -/
def u16At (bs : List UInt8) (a : Nat) : Nat := ofBE (slice bs a (a + 2))

/-- The number of bytes of VLAN tags, from the first Ethernet type on. -/
def tagBytes : List UInt8 → Nat
  | a :: b :: _ :: _ :: rest =>
    if (ofBE [a, b] = 0x8100 ∨ ofBE [a, b] = 0x88A8) ∧ 2 ≤ rest.length then 4 + tagBytes rest else 0
  | _ => 0

/-- `frame[ip] >> 4 == 6` -/
def isIpv6 (frame : List UInt8) (ip : Nat) : Bool := (frame.getD ip 0).toNat >>> 4 = 6

/-- The end of the IPv6 packet at `ip`, as its length field has it. -/
def packetEnd (frame : List UInt8) (ip : Nat) : Nat := ip + 40 + u16At frame (ip + 4)

/-- What `_parse_frame` returns, the addresses not printed yet. -/
structure ParsedFrame where
  innerSrc : List UInt8
  innerDst : List UInt8
  sport : Nat
  dport : Nat
  udpPayload : List UInt8

/-- The tail of `_parse_frame`: UDP over the IPv6 header at `ip`. -/
def parseUdp (frame : List UInt8) (ip last : Nat) : Option ParsedFrame :=
  if (frame.getD (ip + 6) 0).toNat ≠ 17 then none
  else if last < ip + 40 + 8 then none
  else some {
    innerSrc := slice frame (ip + 8) (ip + 24)
    innerDst := slice frame (ip + 24) (ip + 40)
    sport := u16At frame (ip + 40)
    dport := u16At frame (ip + 42)
    udpPayload := slice frame (ip + 48) last }

/-- `_parse_frame` -/
def parseFrame (frame : List UInt8) : Option ParsedFrame :=
  if frame.length < 14 then none
  else
    let off := 12 + tagBytes (frame.drop 12)
    let ip := off + 2
    if u16At frame off ≠ 0x86DD ∨ frame.length < ip + 40 ∨ ¬ isIpv6 frame ip then none
    else
      let last := min frame.length (packetEnd frame ip)
      if (frame.getD (ip + 6) 0).toNat = 41 then
        let inner := ip + 40
        if last < inner + 40 ∨ ¬ isIpv6 frame inner then none
        else parseUdp frame inner (min last (packetEnd frame inner))
      else parseUdp frame ip last

/-- `_unwrap_bth` -/
def unwrapBth (udpPayload : List UInt8) : Option (List UInt8) :=
  if udpPayload.length ≤ 12 + 4 then none
  else some (slice udpPayload 12 (udpPayload.length - 4))

/-- `parse_payload`: seq, plane and path. -/
def parsePayload (raw : List UInt8) : Option (Nat × Nat × Nat) :=
  if raw.length < payloadHdrLen then none
  else some (ofBE (slice raw 0 8), ofBE (slice raw 8 9), ofBE (slice raw 9 10))

/-! ## Arrivals -/

/-- `_canon_inner` -/
def canonInner (addr : String) : String :=
  match ipv4OfText addr.toList with
  | some octets => ipv4Str octets
  | none =>
    match IPv6Address.ofText addr with
    | some a => a.str
    | none => addr

/-- A data packet for this host. -/
structure Arrival where
  flow : FlowKey
  seq : Nat
  plane : Nat
  path : Nat
  /-- `len(raw) == _PAYLOAD_HDR_LEN` -/
  trimmed : Bool
  deriving DecidableEq

/-- The head of `handle`, up to where it knows what arrived. -/
def arrivalOf (inetNtop : List UInt8 → String) (selfInnerCanon : String) (frame : List UInt8) :
    Option Arrival := do
  let f ← parseFrame frame
  let raw ←
    if f.dport = sprayPort then some f.udpPayload
    else if f.dport = rdmaPort then unwrapBth f.udpPayload
    else none
  if canonInner (inetNtop f.innerDst) = selfInnerCanon then
    let (seq, plane, path) ← parsePayload raw
    some {
      flow := ⟨inetNtop f.innerSrc, inetNtop f.innerDst, f.sport, f.dport⟩
      seq, plane, path
      trimmed := raw.length = payloadHdrLen }
  else none

/-! ## The receiver -/

/-- An entry of `trim_stats`. -/
structure TrimCounts where
  trimmed : Nat := 0
  recovered : Nat := 0
  deriving DecidableEq

/-- The variables of `run_receiver` that the report is made from. -/
structure Receiver where
  /-- `ReorderTracker._flows` -/
  flows : Dict FlowKey FlowStats := ∅
  perNic : Dict String Nat := ∅
  perPlane : Dict Nat Nat := ∅
  trimStats : Dict FlowKey TrimCounts := ∅
  /-- The seqs that arrived trimmed and wait for a full copy, sets. -/
  trimPending : Dict FlowKey (List Nat) := ∅

namespace Receiver

/-- `handle`, of a trimmed packet. -/
def handleTrimmed (st : Receiver) (a : Arrival) : Receiver :=
  let ts := (st.trimStats.get a.flow).getD {}
  { st with
    trimStats := st.trimStats.set a.flow { ts with trimmed := ts.trimmed + 1 }
    trimPending := st.trimPending.set a.flow
      (((st.trimPending.get a.flow).getD []).insert a.seq) }

/-- The part of `handle` that takes a full copy off the pending ones. -/
def recover (st : Receiver) (a : Arrival) : Receiver :=
  match st.trimPending.get a.flow with
  | none => st
  | some pending =>
    if a.seq ∈ pending then
      let ts := (st.trimStats.get a.flow).getD {}
      { st with
        trimPending := st.trimPending.set a.flow (pending.erase a.seq)
        trimStats := st.trimStats.set a.flow { ts with recovered := ts.recovered + 1 } }
    else st

/-- `ReorderTracker.observe` and the counters. -/
def deliver (st : Receiver) (nic : String) (a : Arrival) : Receiver :=
  { st with
    flows := st.flows.set a.flow
      (((st.flows.get a.flow).getD { flow := a.flow }).observe a.seq (some a.plane))
    perNic := FlowStats.count st.perNic nic
    perPlane := FlowStats.count st.perPlane a.plane }

/-- `handle`, from where it knows what arrived. -/
def handle (st : Receiver) (nic : String) (a : Arrival) : Receiver :=
  if a.trimmed then st.handleTrimmed a else (st.recover a).deliver nic a

/-- The state after some arrivals. -/
def handleAll (arrivals : List (String × Arrival)) : Receiver :=
  arrivals.foldl (fun st a => st.handle a.1 a.2) {}

/-! ## The report -/

end Receiver

/-- The `trim` block of a flow. -/
structure TrimBlock where
  trimmed : Nat
  recovered : Nat
  unrecovered : Nat
  deriving DecidableEq

/-- What `_flow_dict` returns: the stats, of which `to_dict` is a view, and the block. -/
structure FlowDict where
  stats : FlowStats
  trim : Option TrimBlock

/-- What `run_receiver` returns. -/
structure Report where
  host : String
  selfId : Int
  tenant : String
  perNic : List (String × Nat)
  perPlane : List (Nat × Nat)
  flows : List FlowDict

namespace Receiver

/-- `_flow_dict` -/
def flowDict (st : Receiver) (f : FlowStats) : FlowDict where
  stats := f
  trim := (st.trimStats.get f.flow).map fun ts => {
    trimmed := ts.trimmed
    recovered := ts.recovered
    unrecovered := ((st.trimPending.get f.flow).getD []).length }

/-- The tail of `run_receiver`. -/
def report (st : Receiver) (selfHost : String) (selfId : Int) (tenant : String)
    (nics : List String) (numPlanes : Nat) : Report where
  host := selfHost
  selfId := selfId
  tenant := tenant
  perNic := nics.map fun n => (n, (st.perNic.get n).getD 0)
  perPlane := (List.range numPlanes).map fun p => (p, (st.perPlane.get p).getD 0)
  flows := (st.flows.entries.map Prod.snd).map st.flowDict

end Receiver

/-- `run_receiver`, on the frames that its capture threads hand to `handle`, in the order in which
    they do. -/
def runReceiver (inetNtop : List UInt8 → String) (T : Topo) (selfHost : String) (selfId : Int)
    (tenant : String) (nics : List String) (frames : List (String × List UInt8)) :
    Except TopoError Report := do
  let self ← T.innerAddr tenant selfId
  let arrivals := frames.filterMap fun f =>
    (arrivalOf inetNtop (canonInner self) f.2).map fun a => (f.1, a)
  return (Receiver.handleAll arrivals).report selfHost selfId tenant nics T.numPlanes

end Srv6Mrc
