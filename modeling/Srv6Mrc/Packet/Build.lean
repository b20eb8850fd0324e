/-
  `srv6_mrc/runner.py`, `encap.py` and `rdma.py`: the bytes of a data packet.

  There are two ways to them.  `buildPacketBytes` has scapy make every packet.  `PacketTemplates`
  keeps, for each EV, a packet that scapy made once, and writes into a copy of it what differs from
  packet to packet: the payload, the PSN and the CRC of a RoCE packet, and the checksum.

  scapy is a parameter, and so is the C library's `inet_pton`.  What is assumed of them is that they
  write the headers of RFC 8200 and RFC 768, with a checksum that verifies, and the BTH and ICRC of
  RoCEv2 (`Conforms`).
-/
import Srv6Mrc.Lib.Checksum
import Srv6Mrc.Receive.Receiver

namespace Srv6Mrc

open Py Wire Checksum

/-! ## What scapy does -/

/-- The packets that the code has scapy build. -/
structure Scapy where
  /-- `bytes(IPv6(src, dst, nh=41) / IPv6(src, dst) / UDP(sport, dport) / payload)` -/
  encapsulated : (srcOuter dstOuter srcInner dstInner : String) → (sport dport : Nat) →
    (payload : List UInt8) → List UInt8
  /-- `bytes(IPv6(src, dst) / UDP(sport, dport) / BTH(opcode, dqpn, psn) / Raw(payload))` -/
  roce : (src dst : String) → (sport dport opcode dqpn psn : Nat) → (payload : List UInt8) →
    List UInt8

/-- An IPv6 header. -/
def ipv6Header (payloadLen : Nat) (nextHeader : UInt8) (src dst : List UInt8) : List UInt8 :=
  [0x60, 0, 0, 0] ++ toBE 2 payloadLen ++ [nextHeader, 64] ++ src ++ dst

/-- A UDP header over some payload. -/
def udpHeader (sport dport payloadLen checksum : Nat) : List UInt8 :=
  toBE 2 sport ++ toBE 2 dport ++ toBE 2 (8 + payloadLen) ++ toBE 2 checksum

/-- The pseudo-header of UDP over IPv6. -/
def pseudoHeader (src dst : List UInt8) (udpLen : Nat) : List UInt8 :=
  src ++ dst ++ toBE 4 udpLen ++ [0, 0, 0, 17]

/-- A BTH: opcode, flags, partition key, FECN and BECN, queue pair, reserved, PSN. -/
def bthHeader (opcode : Nat) (congestion : UInt8) (dqpn psn : Nat) : List UInt8 :=
  toBE 1 opcode ++ [0, 0xff, 0xff, congestion] ++ toBE 3 dqpn ++ [0] ++ toBE 3 psn

/-- What the ICRC is a CRC of: the packet, with the fields that routers change set to ones. -/
def icrcInput (src dst : List UInt8) (sport dport opcode dqpn psn : Nat) (payload : List UInt8) :
    List UInt8 :=
  List.replicate 8 0xff ++
    ([0x6f, 0xff, 0xff, 0xff] ++ toBE 2 (8 + (12 + payload.length + 4)) ++ [17, 0xff] ++ src ++ dst) ++
    udpHeader sport dport (12 + payload.length + 4) 0xffff ++
    bthHeader opcode 0xff dqpn psn ++ payload

/-- `icrc.to_bytes(4, "little")` -/
def icrcBytes (icrc : UInt32) : List UInt8 := (toBE 4 icrc.toNat).reverse

/-- What is assumed of scapy and `inet_pton`. -/
structure Scapy.Conforms (S : Scapy) (inetPton : String → List UInt8) : Prop where
  address : ∀ text, (inetPton text).length = 16
  /-- The layout of the headers, with a checksum that verifies. -/
  encapsulated : ∀ srcOuter dstOuter srcInner dstInner sport dport payload,
    payload.length < 0x10000 - 48 → ∃ checksum,
    Verifies (pseudoHeader (inetPton srcInner) (inetPton dstInner) (8 + payload.length) ++
      (udpHeader sport dport payload.length 0 ++ payload)) checksum ∧
    S.encapsulated srcOuter dstOuter srcInner dstInner sport dport payload =
      ipv6Header (40 + (8 + payload.length)) 41 (inetPton srcOuter) (inetPton dstOuter) ++
        ipv6Header (8 + payload.length) 17 (inetPton srcInner) (inetPton dstInner) ++
        udpHeader sport dport payload.length checksum ++ payload
  /-- The same, with a BTH and an ICRC around the payload. -/
  roce : ∀ src dst sport dport opcode dqpn psn payload, payload.length < 0x10000 - 64 →
    dqpn < 2 ^ 24 → psn < 2 ^ 24 → ∃ checksum,
    S.roce src dst sport dport opcode dqpn psn payload =
      ipv6Header (8 + (12 + payload.length + 4)) 17 (inetPton src) (inetPton dst) ++
        udpHeader sport dport (12 + payload.length + 4) checksum ++
        (bthHeader opcode 0 dqpn psn ++ payload ++ icrcBytes (crc32
          (icrcInput (inetPton src) (inetPton dst) sport dport opcode dqpn psn payload) 0))

/-! ## The payload -/

/-- What building a packet raises. -/
inductive BuildError where
  /-- `struct.error`: a field is out of the range of its format. -/
  | structError
  /-- A check of `topo.py`. -/
  | topo (err : TopoError)
  /-- `RuntimeError(f"build_outer_template internal error: expected ... bytes, got ...")` -/
  | templateLength (expected got : Nat)
  deriving DecidableEq, Repr

/-- `struct.pack(_PAYLOAD_HDR, seq, plane, path)` -/
def packPayloadHdr (seq plane path : Int) : Except BuildError (List UInt8) :=
  if (0 ≤ seq ∧ seq < 2 ^ 64) ∧ (0 ≤ plane ∧ plane < 256) ∧ 0 ≤ path ∧ path < 256 then
    .ok (toBE 8 seq.toNat ++ toBE 1 plane.toNat ++ toBE 1 path.toNat)
  else .error .structError

/-- `_PAD` -/
def pad : List UInt8 := List.replicate 32 0x58

/-- `encode_payload` -/
def encodePayload (seq plane path : Int) : Except BuildError (List UInt8) := do
  let hdr ← packPayloadHdr seq plane path
  return hdr ++ pad

/-- `mrc_payload`, of either way: a trimmed packet has the header only. -/
def mrcPayload (seq plane path : Int) (trimmed : Bool) : Except BuildError (List UInt8) :=
  if trimmed then packPayloadHdr seq plane path else encodePayload seq plane path

/-- `DQPN_BASE` -/
def dqpnBase : Nat := 0x010000

/-- `dqpn_for_ev` -/
def Topo.dqpnForEv (T : Topo) (plane path : Int) : Except TopoError Nat := do
  let p ← T.checkPlane plane
  let s ← T.checkSpine path
  return dqpnBase ||| (p <<< 8) ||| s

/-- `RDMA_OPCODE` -/
def rdmaOpcode : Nat := 0x64

section Builders

variable (T : Topo) (S : Scapy)

/-- A call into `topo.py`. -/
def liftTopo {α : Type} : Except TopoError α → Except BuildError α
  | .ok a => .ok a
  | .error err => .error (.topo err)

/-- `wrap_rdma`: what comes after the UDP header. -/
def wrapRdma (payload : List UInt8) (plane path seq : Int) (src dst : String) (sport dport : Nat) :
    Except BuildError (List UInt8) := do
  let dqpn ← liftTopo (T.dqpnForEv plane path)
  return (S.roce src dst sport dport rdmaOpcode dqpn (seq % 0x1000000).toNat payload).drop 48

/-- `_build_packet_bytes` -/
def buildPacketBytes (srcUnderlay dstOuter srcInner dstInner : String) (seq plane path : Int)
    (transport : String) (trimmed : Bool) : Except BuildError (List UInt8) := do
  let mrc ← mrcPayload seq plane path trimmed
  if transport = "rdma" then
    let payload ← wrapRdma T S mrc plane path seq srcInner dstInner sprayPort rdmaPort
    return S.encapsulated srcUnderlay dstOuter srcInner dstInner sprayPort rdmaPort payload
  else return S.encapsulated srcUnderlay dstOuter srcInner dstInner sprayPort sprayPort mrc

/-! ## Templates -/

/-- `buf[a:b] = bs` -/
def setSlice (buf : List UInt8) (a b : Nat) (bs : List UInt8) : List UInt8 :=
  buf.take a ++ bs ++ buf.drop b

/-- `UDP_CSUM_OFFSET` -/
def udpCsumOffset : Nat := 86

/-- `PAYLOAD_OFFSET` -/
def payloadOffset : Nat := 88

/-- `build_outer_template` -/
def buildOuterTemplate (srcUnderlay dstOuter srcInner dstInner : String) (sport dport payloadLen : Nat) :
    Except BuildError (List UInt8) :=
  let template := S.encapsulated srcUnderlay dstOuter srcInner dstInner sport dport
    (List.replicate payloadLen 0)
  let expectedLen := 40 + 40 + 8 + payloadLen
  if template.length ≠ expectedLen then .error (.templateLength expectedLen template.length)
  else .ok (setSlice template udpCsumOffset (udpCsumOffset + 2) [0, 0])

/-- `udp6_checksum_inplace`; the sum starts the carries over with every word. -/
def udp6ChecksumInplace (buf : List UInt8) (payloadLen : Nat) : List UInt8 :=
  let src := slice buf 48 (48 + 16)
  let dst := slice buf 64 (64 + 16)
  let udpLen := 8 + payloadLen
  let pseudo := src ++ dst ++ toBE 4 udpLen ++ [0, 0, 0, 0x11]
  let udpRegion := slice buf 80 (80 + udpLen)
  setSlice buf udpCsumOffset (udpCsumOffset + 2) (toBE 2 (checksum (pseudo ++ udpRegion)))

/-- An entry of `_cache`: the template, the length of its UDP payload, and for RoCE the CRC of the
    ICRC's constant prefix (the BTH is always at the start of the payload). -/
structure Template where
  bytes : List UInt8
  plen : Nat
  icrcPrefix : Option UInt32
  deriving DecidableEq

/-- The key of an entry. -/
structure TemplateKey where
  plane : Int
  path : Int
  trimmed : Bool
  dstOuter : String
  deriving DecidableEq

/-- `_PacketTemplates` -/
structure PacketTemplates where
  srcInner : String
  dstInner : String
  transport : String
  cache : TemplateKey → Option Template := fun _ => none

/-- `_make` -/
def PacketTemplates.make (x : PacketTemplates) (plane path : Int) (srcUnderlay dstOuter : String)
    (trimmed : Bool) : Except BuildError Template := do
  let mrcLen := if trimmed then payloadHdrLen else payloadHdrLen + pad.length
  if x.transport ≠ "rdma" then
    let tpl ← buildOuterTemplate S srcUnderlay dstOuter x.srcInner x.dstInner sprayPort sprayPort mrcLen
    return ⟨tpl, mrcLen, none⟩
  else
    -- a real RoCE frame for seq 0 gives the constant BTH bytes
    let frame ← wrapRdma T S (List.replicate mrcLen 0) plane path 0 x.srcInner x.dstInner sprayPort
      rdmaPort
    let plen := frame.length
    let tpl ← buildOuterTemplate S srcUnderlay dstOuter x.srcInner x.dstInner sprayPort rdmaPort plen
    let tpl := setSlice tpl payloadOffset (payloadOffset + 12) (frame.take 12)
    let ip6 := setSlice (setSlice (slice tpl 40 (40 + 40)) 0 4 [0x6f, 0xff, 0xff, 0xff]) 7 8 [0xff]
    let udp := setSlice (slice tpl 80 payloadOffset) 6 8 [0xff, 0xff]
    let bth := setSlice (frame.take 9) 4 5 [0xff]
    let pre := List.replicate 8 0xff ++ ip6 ++ udp ++ bth
    return ⟨tpl, plen, some (crc32 pre 0)⟩

/-- What `build` writes into a copy of a template. -/
def Template.fill (entry : Template) (seq : Int) (mrc : List UInt8) : List UInt8 :=
  let buf :=
    match entry.icrcPrefix with
    | none => setSlice entry.bytes payloadOffset (payloadOffset + entry.plen) mrc
    | some icrcPrefix =>
      let psn := toBE 3 (seq % 0x1000000).toNat
      let start := payloadOffset
      let buf := setSlice entry.bytes (start + 9) (start + 12) psn
      let buf := setSlice buf (start + 12) (start + 12 + mrc.length) mrc
      let icrc := crc32 (psn ++ mrc) icrcPrefix
      setSlice buf (start + 12 + mrc.length) (start + 16 + mrc.length) (icrcBytes icrc)
  udp6ChecksumInplace buf entry.plen

/-- A call of `build`. -/
structure BuildCall where
  seq : Int
  plane : Int
  path : Int
  srcUnderlay : String
  dstOuter : String
  trimmed : Bool

/-- `build`: what it returns, and the templates after it. -/
def PacketTemplates.build (x : PacketTemplates) (c : BuildCall) :
    Except BuildError (List UInt8) × PacketTemplates :=
  let key : TemplateKey := ⟨c.plane, c.path, c.trimmed, c.dstOuter⟩
  let finish (entry : Template) : Except BuildError (List UInt8) := do
    let mrc ← mrcPayload c.seq c.plane c.path c.trimmed
    return entry.fill c.seq mrc
  match x.cache key with
  | some entry => (finish entry, x)
  | none =>
    match x.make T S c.plane c.path c.srcUnderlay c.dstOuter c.trimmed with
    | .error err => (.error err, x)
    | .ok entry => (finish entry, { x with cache := Function.update x.cache key (some entry) })

/-- The templates after some calls of `build`. -/
def PacketTemplates.after (x : PacketTemplates) (calls : List BuildCall) : PacketTemplates :=
  calls.foldl (fun x c => (x.build T S c).2) x

end Builders

end Srv6Mrc
