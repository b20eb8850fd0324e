/-
  The templates build what scapy builds.

  A packet is its headers, a checksum and a payload.  Writing into a template gives a packet with the
  same headers and the right payload and a checksum that verifies, and there is only one such packet
  (`checksum_inplace`).  For RoCE the payload has a CRC, which goes on from that of the constant bytes
  before it (`crc32_append`).  The cache forgets one argument, the outer source; it is the same for all
  packets of a plane, so that every entry is what `make` would make now (`Fresh`).
-/
import Srv6Mrc.Packet.Build

namespace Srv6Mrc

open Py Wire Checksum

/-! ## Slices -/

/-- Writing to a slice of as many bytes. -/
theorem setSlice_eq (buf as xs bs ys : List UInt8) (a b : Nat) (h : buf = as ++ (xs ++ bs))
    (ha : as.length = a) (hb : a + xs.length = b) : setSlice buf a b ys = as ++ (ys ++ bs) := by
  subst h
  have hdrop : (as ++ (xs ++ bs)).drop b = bs := by
    rw [← List.append_assoc]
    refine List.drop_left' ?_
    rw [List.length_append]
    omega
  rw [setSlice, List.take_left' ha, hdrop, List.append_assoc]

theorem slice_eq {buf xs : List UInt8} (as bs : List UInt8) {a b : Nat} (h : buf = as ++ (xs ++ bs))
    (ha : as.length = a) (hb : a + xs.length = b) : slice buf a b = xs := by
  subst h
  rw [slice, List.drop_left' ha]
  exact List.take_left' (by omega)

/-! ## Headers -/

@[simp] theorem length_ipv6Header {n : Nat} {nh : UInt8} {src dst : List UInt8}
    (hsrc : src.length = 16) (hdst : dst.length = 16) : (ipv6Header n nh src dst).length = 40 := by
  unfold ipv6Header
  simp [hsrc, hdst]

/-- The part of a UDP header before the checksum. -/
def udpPorts (sport dport payloadLen : Nat) : List UInt8 :=
  toBE 2 sport ++ toBE 2 dport ++ toBE 2 (8 + payloadLen)

/-- The checksum is the end of a UDP header. -/
theorem udpHeader_eq {sport dport n c : Nat} :
    udpHeader sport dport n c = udpPorts sport dport n ++ toBE 2 c := rfl

@[simp] theorem length_udpPorts {sport dport n : Nat} : (udpPorts sport dport n).length = 6 := by
  simp [udpPorts]

@[simp] theorem length_udpHeader {sport dport n c : Nat} :
    (udpHeader sport dport n c).length = 8 := by
  simp [udpHeader_eq]

@[simp] theorem length_pseudoHeader {src dst : List UInt8} {n : Nat} (hsrc : src.length = 16)
    (hdst : dst.length = 16) : (pseudoHeader src dst n).length = 40 := by
  unfold pseudoHeader
  simp [hsrc, hdst]

/-- A BTH up to the PSN. -/
def bthFront (opcode : Nat) (congestion : UInt8) (dqpn : Nat) : List UInt8 :=
  toBE 1 opcode ++ [0, 0xff, 0xff, congestion] ++ toBE 3 dqpn ++ [0]

theorem bthHeader_eq {opcode dqpn psn : Nat} {congestion : UInt8} :
    bthHeader opcode congestion dqpn psn = bthFront opcode congestion dqpn ++ toBE 3 psn := rfl

@[simp] theorem length_bthFront {opcode dqpn : Nat} {congestion : UInt8} :
    (bthFront opcode congestion dqpn).length = 9 := by
  simp [bthFront]

@[simp] theorem length_bthHeader {opcode dqpn psn : Nat} {congestion : UInt8} :
    (bthHeader opcode congestion dqpn psn).length = 12 := by
  simp [bthHeader_eq]

@[simp] theorem length_icrcBytes {icrc : UInt32} : (icrcBytes icrc).length = 4 := by
  simp [icrcBytes]

/-! ## The checksum -/

/-- The pseudo-header alone keeps the sum from being zero. -/
theorem wordSum_pseudo_pos {src dst rest : List UInt8} {n : Nat} (hsrc : src.length = 16)
    (hdst : dst.length = 16) : 0 < wordSum (pseudoHeader src dst n ++ rest) := by
  have hlen : (src ++ dst ++ toBE 4 n).length % 2 = 0 := by simp [hsrc, hdst]
  have hlast : wordSum ([0, 0, 0, 17] ++ rest) = 17 + wordSum rest := by
    show 0 * 256 + 0 + (0 * 256 + 17 + wordSum rest) = _
    omega
  rw [pseudoHeader, List.append_assoc, wordSum_append hlen, hlast]
  omega

section Conforming

variable {S : Scapy} {inetPton : String → List UInt8}

/-- A packet of these headers and this payload. -/
def packetWith (inetPton : String → List UInt8) (srcOuter dstOuter srcInner dstInner : String)
    (sport dport checksum : Nat) (payload : List UInt8) : List UInt8 :=
  ipv6Header (40 + (8 + payload.length)) 41 (inetPton srcOuter) (inetPton dstOuter) ++
    ipv6Header (8 + payload.length) 17 (inetPton srcInner) (inetPton dstInner) ++
    udpHeader sport dport payload.length checksum ++ payload

/-- Writing the checksum into a packet without one gives the packet that scapy builds. -/
theorem checksum_inplace (srcOuter dstOuter srcInner dstInner : String) (sport dport : Nat)
    (h : S.Conforms inetPton) (payload : List UInt8) (hlen : payload.length < 0x10000 - 48) :
    udp6ChecksumInplace (packetWith inetPton srcOuter dstOuter srcInner dstInner sport dport 0 payload)
      payload.length = S.encapsulated srcOuter dstOuter srcInner dstInner sport dport payload := by
  obtain ⟨c, hverifies, hpacket⟩ := h.encapsulated srcOuter dstOuter srcInner dstInner sport dport
    payload hlen
  have hso := h.address srcOuter
  have hdo := h.address dstOuter
  have hsi := h.address srcInner
  have hdi := h.address dstInner
  rw [hpacket]
  unfold packetWith
  generalize inetPton srcOuter = so at hso ⊢
  generalize inetPton dstOuter = dO at hdo ⊢
  generalize inetPton srcInner = si at hsi hverifies ⊢
  generalize inetPton dstInner = di at hdi hverifies ⊢
  -- the outer header, and the inner one up to its addresses
  let front : List UInt8 := ipv6Header (40 + (8 + payload.length)) 41 so dO ++
    ([0x60, 0, 0, 0] ++ toBE 2 (8 + payload.length) ++ [17, 64])
  have hfront : front.length = 48 := by simp [front, hso, hdo]
  have hwhole : ∀ c, ipv6Header (40 + (8 + payload.length)) 41 so dO ++
      ipv6Header (8 + payload.length) 17 si di ++ udpHeader sport dport payload.length c ++ payload =
        front ++ (si ++ (di ++ (udpPorts sport dport payload.length ++ (toBE 2 c ++ payload)))) := by
    intro c
    simp only [front, ipv6Header, udpHeader_eq, List.append_assoc]
  rw [hwhole 0, hwhole c, udp6ChecksumInplace]
  have hsrc : slice (front ++ (si ++ (di ++ (udpPorts sport dport payload.length ++
      (toBE 2 0 ++ payload))))) 48 (48 + 16) = si := slice_eq _ _ rfl hfront (by rw [hsi])
  have hdst : slice (front ++ (si ++ (di ++ (udpPorts sport dport payload.length ++
      (toBE 2 0 ++ payload))))) 64 (64 + 16) = di :=
    slice_eq _ _ (List.append_assoc front si _).symm (by rw [List.length_append, hfront, hsi])
      (by rw [hdi])
  have hregion : slice (front ++ (si ++ (di ++ (udpPorts sport dport payload.length ++
      (toBE 2 0 ++ payload))))) 80 (80 + (8 + payload.length)) =
        udpHeader sport dport payload.length 0 ++ payload := by
    refine slice_eq (front ++ si ++ di) [] ?_ ?_ ?_
    · simp only [udpHeader_eq, List.append_assoc, List.append_nil]
    · rw [List.length_append, List.length_append, hfront, hsi, hdi]
    · rw [List.length_append, length_udpHeader]
  rw [hsrc, hdst, hregion]
  have hunique : checksum (si ++ di ++ toBE 4 (8 + payload.length) ++ [0, 0, 0, 0x11] ++
      (udpHeader sport dport payload.length 0 ++ payload)) = c :=
    checksum_unique (checksum_verifies (wordSum_pseudo_pos hsi hdi)) hverifies
  rw [hunique]
  have hset := setSlice_eq
    (front ++ (si ++ (di ++ (udpPorts sport dport payload.length ++ (toBE 2 0 ++ payload)))))
    (front ++ si ++ di ++ udpPorts sport dport payload.length) (toBE 2 0) payload (toBE 2 c)
    udpCsumOffset (udpCsumOffset + 2) (by simp only [List.append_assoc])
    (by simp only [List.length_append, hfront, hsi, hdi, length_udpPorts]; rfl)
    (by rw [length_toBE])
  rw [hset]
  simp only [List.append_assoc]

/-- A template is a packet without a payload and without a checksum. -/
theorem buildOuterTemplate_eq (srcOuter dstOuter srcInner dstInner : String) (sport dport : Nat)
    (h : S.Conforms inetPton) (payloadLen : Nat) (hlen : payloadLen < 0x10000 - 48) :
    buildOuterTemplate S srcOuter dstOuter srcInner dstInner sport dport payloadLen =
      .ok (packetWith inetPton srcOuter dstOuter srcInner dstInner sport dport 0
        (List.replicate payloadLen 0)) := by
  obtain ⟨c, -, hpacket⟩ := h.encapsulated srcOuter dstOuter srcInner dstInner sport dport
    (List.replicate payloadLen 0) (by rwa [List.length_replicate])
  have hso := h.address srcOuter
  have hdo := h.address dstOuter
  have hsi := h.address srcInner
  have hdi := h.address dstInner
  unfold buildOuterTemplate
  dsimp only
  rw [hpacket, if_neg]
  · refine congrArg Except.ok ?_
    unfold packetWith
    have hset := setSlice_eq
      (ipv6Header (40 + (8 + (List.replicate payloadLen (0 : UInt8)).length)) 41 (inetPton srcOuter) (inetPton dstOuter) ++
        ipv6Header (8 + (List.replicate payloadLen (0 : UInt8)).length) 17 (inetPton srcInner) (inetPton dstInner) ++
        udpHeader sport dport (List.replicate payloadLen (0 : UInt8)).length c ++
        List.replicate payloadLen 0)
      (ipv6Header (40 + (8 + (List.replicate payloadLen (0 : UInt8)).length)) 41 (inetPton srcOuter) (inetPton dstOuter) ++
        ipv6Header (8 + (List.replicate payloadLen (0 : UInt8)).length) 17 (inetPton srcInner) (inetPton dstInner) ++
        udpPorts sport dport (List.replicate payloadLen (0 : UInt8)).length)
      (toBE 2 c) (List.replicate payloadLen 0) ([0, 0]) udpCsumOffset (udpCsumOffset + 2)
      (by simp only [udpHeader_eq, List.append_assoc])
      (by simp only [List.length_append, length_ipv6Header hso hdo, length_ipv6Header hsi hdi,
            length_udpPorts]; rfl)
      (by rw [length_toBE])
    rw [hset]
    simp only [udpHeader_eq, List.append_assoc]
    rfl
  · rw [not_not]
    simp only [List.length_append, length_ipv6Header hso hdo, length_ipv6Header hsi hdi,
      length_udpHeader, List.length_replicate]

/-! ## Writing into the payload -/

section Write

variable {srcOuter dstOuter srcInner dstInner : String} {sport dport : Nat}

/-- What stands before the payload, of `n` bytes. -/
def headersWith (inetPton : String → List UInt8) (srcOuter dstOuter srcInner dstInner : String)
    (sport dport checksum n : Nat) : List UInt8 :=
  ipv6Header (40 + (8 + n)) 41 (inetPton srcOuter) (inetPton dstOuter) ++
    ipv6Header (8 + n) 17 (inetPton srcInner) (inetPton dstInner) ++ udpHeader sport dport n checksum

/-- A packet is its headers and its payload. -/
theorem packetWith_eq (payload : List UInt8) :
    packetWith inetPton srcOuter dstOuter srcInner dstInner sport dport 0 payload =
      headersWith inetPton srcOuter dstOuter srcInner dstInner sport dport 0 payload.length ++
        payload := rfl

/-- The headers of a packet have 88 bytes. -/
theorem length_headersWith (h : S.Conforms inetPton) {n : Nat} :
    (headersWith inetPton srcOuter dstOuter srcInner dstInner sport dport 0 n).length = 88 := by
  have hso := h.address srcOuter
  have hdo := h.address dstOuter
  have hsi := h.address srcInner
  have hdi := h.address dstInner
  simp only [headersWith, List.length_append, length_ipv6Header hso hdo, length_ipv6Header hsi hdi,
    length_udpHeader]

variable (srcOuter dstOuter srcInner dstInner sport dport) in
/-- Bytes of the payload are replaced by as many others. -/
theorem setSlice_payload (h : S.Conforms inetPton) (as xs bs ys : List UInt8) (a b : Nat)
    (ha : payloadOffset + as.length = a) (hb : a + xs.length = b) (hys : ys.length = xs.length) :
    setSlice (packetWith inetPton srcOuter dstOuter srcInner dstInner sport dport 0
        (as ++ (xs ++ bs))) a b ys =
      packetWith inetPton srcOuter dstOuter srcInner dstInner sport dport 0 (as ++ (ys ++ bs)) := by
  have hsame : (as ++ (ys ++ bs)).length = (as ++ (xs ++ bs)).length := by
    simp only [List.length_append, hys]
  rw [packetWith_eq, packetWith_eq, hsame]
  refine (setSlice_eq _ _ _ _ _ _ _ (List.append_assoc _ _ _).symm ?_ hb).trans (List.append_assoc _ _ _)
  rw [List.length_append, length_headersWith h]
  exact ha

/-- The inner header of a packet. -/
theorem slice_inner (h : S.Conforms inetPton) {payload : List UInt8} :
    slice (packetWith inetPton srcOuter dstOuter srcInner dstInner sport dport 0 payload) 40 (40 + 40) =
      ipv6Header (8 + payload.length) 17 (inetPton srcInner) (inetPton dstInner) := by
  unfold packetWith
  rw [List.append_assoc, List.append_assoc]
  refine slice_eq _ _ rfl (length_ipv6Header (h.address srcOuter) (h.address dstOuter)) ?_
  rw [length_ipv6Header (h.address srcInner) (h.address dstInner)]

/-- The UDP header of a packet. -/
theorem slice_udp (h : S.Conforms inetPton) {payload : List UInt8} :
    slice (packetWith inetPton srcOuter dstOuter srcInner dstInner sport dport 0 payload) 80
      payloadOffset = udpHeader sport dport payload.length 0 := by
  unfold packetWith
  rw [List.append_assoc]
  refine slice_eq _ _ rfl ?_ (by rw [length_udpHeader]; rfl)
  rw [List.length_append, length_ipv6Header (h.address srcOuter) (h.address dstOuter),
    length_ipv6Header (h.address srcInner) (h.address dstInner)]

end Write

/-! ## What the ICRC does not see -/

/-- The fields of an IPv6 header that the ICRC does not cover. -/
theorem mask_ip6 {n : Nat} {nh : UInt8} {src dst : List UInt8} :
    setSlice (setSlice (ipv6Header n nh src dst) 0 4 [0x6f, 0xff, 0xff, 0xff]) 7 8 [0xff] =
      [0x6f, 0xff, 0xff, 0xff] ++ toBE 2 n ++ [nh, 0xff] ++ src ++ dst := rfl

/-- The field of a UDP header that it does not cover. -/
theorem mask_udp {sport dport n c : Nat} :
    setSlice (udpHeader sport dport n c) 6 8 [0xff, 0xff] = udpHeader sport dport n 0xffff := rfl

/-- The byte of a BTH that it does not cover. -/
theorem mask_bth {opcode dqpn : Nat} {congestion : UInt8} :
    setSlice (bthFront opcode congestion dqpn) 4 5 [0xff] = bthFront opcode 0xff dqpn := rfl

/-! ## The templates -/

/-- The bytes of a packet that are its own. -/
def mrcLen (trimmed : Bool) : Nat := if trimmed then payloadHdrLen else payloadHdrLen + pad.length

/-- The length of a payload depends on whether it is trimmed. -/
theorem length_mrcPayload {seq plane path : Int} {trimmed : Bool} {mrc : List UInt8}
    (h : mrcPayload seq plane path trimmed = .ok mrc) : mrc.length = mrcLen trimmed := by
  have hhdr : ∀ hdr, packPayloadHdr seq plane path = .ok hdr → hdr.length = payloadHdrLen := by
    intro hdr hpack
    unfold packPayloadHdr at hpack
    split_ifs at hpack with hrange
    rw [← Except.ok.inj hpack]
    simp [payloadHdrLen]
  unfold mrcPayload at h
  unfold mrcLen
  cases trimmed with
  | true => exact hhdr mrc h
  | false =>
    rw [if_neg Bool.false_ne_true] at h ⊢
    unfold encodePayload at h
    cases hpack : packPayloadHdr seq plane path with
    | error err =>
      rw [hpack] at h
      exact absurd h (by simp [bind, Except.bind])
    | ok hdr =>
      rw [hpack] at h
      rw [← Except.ok.inj h, List.length_append, hhdr hdr hpack]

/-- What is packed is in range. -/
theorem mrcPayload_range {seq plane path : Int} {trimmed : Bool} {mrc : List UInt8}
    (h : mrcPayload seq plane path trimmed = .ok mrc) :
    (0 ≤ seq ∧ seq < 2 ^ 64) ∧ (0 ≤ plane ∧ plane < 256) ∧ 0 ≤ path ∧ path < 256 := by
  by_contra hrange
  have hpack : packPayloadHdr seq plane path = .error .structError := if_neg hrange
  unfold mrcPayload encodePayload at h
  rw [hpack] at h
  cases trimmed with
  | true => exact absurd h (by simp)
  | false => exact absurd h (by simp [bind, Except.bind])

/-- The header of a payload. -/
def payloadHdr (seq plane path : Int) : List UInt8 :=
  toBE 8 seq.toNat ++ toBE 1 plane.toNat ++ toBE 1 path.toNat

/-- A payload can be made of numbers in range. -/
theorem mrcPayload_ok {seq plane path : Int} (trimmed : Bool) (hseq : 0 ≤ seq ∧ seq < 2 ^ 64)
    (hplane : 0 ≤ plane ∧ plane < 256) (hpath : 0 ≤ path ∧ path < 256) :
    mrcPayload seq plane path trimmed =
      .ok (payloadHdr seq plane path ++ if trimmed then [] else pad) := by
  have hpack : packPayloadHdr seq plane path = .ok (payloadHdr seq plane path) :=
    if_pos ⟨hseq, hplane, hpath⟩
  unfold mrcPayload encodePayload
  rw [hpack]
  cases trimmed with
  | true => exact congrArg Except.ok (List.append_nil _).symm
  | false => rfl

section Entries

variable {T : Topo} {x : PacketTemplates}

/-- What `_make` returns for UDP. -/
def udpEntry (inetPton : String → List UInt8) (srcUnderlay dstOuter srcInner dstInner : String)
    (n : Nat) : Template :=
  { bytes := packetWith inetPton srcUnderlay dstOuter srcInner dstInner sprayPort sprayPort 0
      (List.replicate n 0)
    plen := n
    icrcPrefix := none }

/-- The bytes that the ICRC of a data packet is over, up to the PSN. -/
def icrcFront (inetPton : String → List UInt8) (srcInner dstInner : String) (dqpn n : Nat) :
    List UInt8 :=
  List.replicate 8 0xff ++
    ([0x6f, 0xff, 0xff, 0xff] ++ toBE 2 (8 + (12 + n + 4)) ++ [17, 0xff] ++ inetPton srcInner ++
      inetPton dstInner) ++
    udpHeader sprayPort rdmaPort (12 + n + 4) 0xffff ++ bthFront rdmaOpcode 0xff dqpn

/-- What `_make` returns for RoCE. -/
def rdmaEntry (inetPton : String → List UInt8) (srcUnderlay dstOuter srcInner dstInner : String)
    (dqpn n : Nat) : Template :=
  { bytes := packetWith inetPton srcUnderlay dstOuter srcInner dstInner sprayPort rdmaPort 0
      (bthHeader rdmaOpcode 0 dqpn 0 ++ List.replicate (n + 4) 0)
    plen := 12 + n + 4
    icrcPrefix := some (crc32 (icrcFront inetPton srcInner dstInner dqpn n) 0) }

theorem mrcLen_lt {trimmed : Bool} : mrcLen trimmed < 64 := by
  cases trimmed <;> decide

theorem make_udp (h : S.Conforms inetPton) (hudp : x.transport ≠ "rdma") (plane path : Int)
    (srcUnderlay dstOuter : String) (trimmed : Bool) :
    x.make T S plane path srcUnderlay dstOuter trimmed =
      .ok (udpEntry inetPton srcUnderlay dstOuter x.srcInner x.dstInner (mrcLen trimmed)) := by
  have hlen : mrcLen trimmed < 64 := mrcLen_lt
  unfold PacketTemplates.make
  rw [if_pos hudp]
  have htemplate := buildOuterTemplate_eq srcUnderlay dstOuter x.srcInner x.dstInner sprayPort
    sprayPort h (mrcLen trimmed) (by omega)
  unfold mrcLen at htemplate
  rw [htemplate]
  rfl

/-- The RoCE payload that scapy makes. -/
theorem roce_drop (h : S.Conforms inetPton) {src dst : String} {sport dport opcode dqpn psn : Nat}
    {payload : List UInt8} (hlen : payload.length < 0x10000 - 64) (hdqpn : dqpn < 2 ^ 24)
    (hpsn : psn < 2 ^ 24) :
    (S.roce src dst sport dport opcode dqpn psn payload).drop 48 =
      bthHeader opcode 0 dqpn psn ++ payload ++ icrcBytes (crc32
        (icrcInput (inetPton src) (inetPton dst) sport dport opcode dqpn psn payload) 0) := by
  obtain ⟨c, hpacket⟩ := h.roce src dst sport dport opcode dqpn psn payload hlen hdqpn hpsn
  rw [hpacket]
  refine List.drop_left' ?_
  rw [List.length_append, length_ipv6Header (h.address src) (h.address dst), length_udpHeader]

theorem make_rdma (h : S.Conforms inetPton) (hrdma : x.transport = "rdma") {plane path : Int}
    {dqpn : Nat} (hdqpn : T.dqpnForEv plane path = .ok dqpn) (hlt : dqpn < 2 ^ 24)
    (srcUnderlay dstOuter : String) (trimmed : Bool) :
    x.make T S plane path srcUnderlay dstOuter trimmed =
      .ok (rdmaEntry inetPton srcUnderlay dstOuter x.srcInner x.dstInner dqpn (mrcLen trimmed)) := by
  have hlen : mrcLen trimmed < 64 := mrcLen_lt
  have hso := h.address srcUnderlay
  have hdo := h.address dstOuter
  have hsi := h.address x.srcInner
  have hdi := h.address x.dstInner
  -- the frame for seq 0
  generalize hicrc : icrcBytes (crc32 (icrcInput (inetPton x.srcInner) (inetPton x.dstInner) sprayPort
    rdmaPort rdmaOpcode dqpn 0 (List.replicate (mrcLen trimmed) 0)) 0) = icrc
  have hicrcLen : icrc.length = 4 := by rw [← hicrc, length_icrcBytes]
  have hframe : wrapRdma T S (List.replicate (mrcLen trimmed) 0) plane path 0 x.srcInner x.dstInner
      sprayPort rdmaPort =
        .ok (bthHeader rdmaOpcode 0 dqpn 0 ++ List.replicate (mrcLen trimmed) 0 ++ icrc) := by
    unfold wrapRdma
    rw [hdqpn, ← hicrc]
    refine congrArg Except.ok (roce_drop h ?_ hlt (by decide))
    rw [List.length_replicate]
    omega
  have hplen : (bthHeader rdmaOpcode 0 dqpn 0 ++ List.replicate (mrcLen trimmed) 0 ++ icrc).length =
      12 + mrcLen trimmed + 4 := by
    rw [List.length_append, List.length_append, length_bthHeader, List.length_replicate, hicrcLen]
  have htemplate := buildOuterTemplate_eq srcUnderlay dstOuter x.srcInner x.dstInner sprayPort
    rdmaPort h (12 + mrcLen trimmed + 4) (by omega)
  have hzeros : List.replicate (12 + mrcLen trimmed + 4) (0 : UInt8) =
      [] ++ (List.replicate 12 0 ++ List.replicate (mrcLen trimmed + 4) 0) := by
    rw [List.nil_append, List.replicate_append_replicate, Nat.add_assoc]
  have hbth : (bthHeader rdmaOpcode 0 dqpn 0 ++ List.replicate (mrcLen trimmed) 0 ++ icrc).take 12 =
      bthHeader rdmaOpcode 0 dqpn 0 := by
    rw [List.append_assoc]
    exact List.take_left' length_bthHeader
  have hbthFront : (bthHeader rdmaOpcode 0 dqpn 0 ++ List.replicate (mrcLen trimmed) 0 ++ icrc).take 9 =
      bthFront rdmaOpcode 0 dqpn := by
    rw [bthHeader_eq, List.append_assoc, List.append_assoc]
    exact List.take_left' length_bthFront
  have hwrite := setSlice_payload srcUnderlay dstOuter x.srcInner x.dstInner sprayPort rdmaPort h []
    (List.replicate 12 0) (List.replicate (mrcLen trimmed + 4) 0) (bthHeader rdmaOpcode 0 dqpn 0)
    payloadOffset (payloadOffset + 12) rfl
    (by rw [List.length_replicate]) (by rw [length_bthHeader, List.length_replicate])
  have hpayload : ([] ++ (bthHeader rdmaOpcode 0 dqpn 0 ++
      List.replicate (mrcLen trimmed + 4) (0 : UInt8))).length = 12 + mrcLen trimmed + 4 := by
    rw [List.nil_append, List.length_append, length_bthHeader, List.length_replicate, Nat.add_assoc]
  have hmrc : (if trimmed = true then payloadHdrLen else payloadHdrLen + pad.length) =
    mrcLen trimmed := rfl
  unfold PacketTemplates.make
  rw [if_neg (not_not.mpr hrdma), hmrc, hframe]
  simp only [bind, Except.bind]
  rw [hplen, htemplate]
  simp only [pure, Except.pure]
  rw [hzeros, hbth, hbthFront, hwrite, slice_inner h, slice_udp h, mask_ip6, mask_udp, mask_bth,
    hpayload]
  rfl

/-- A UDP template with a payload is what scapy builds with it. -/
theorem fill_udp (h : S.Conforms inetPton) {srcUnderlay dstOuter srcInner dstInner : String}
    {seq : Int} {mrc : List UInt8} (hlen : mrc.length < 64) :
    (udpEntry inetPton srcUnderlay dstOuter srcInner dstInner mrc.length).fill seq mrc =
      S.encapsulated srcUnderlay dstOuter srcInner dstInner sprayPort sprayPort mrc := by
  have hwrite := setSlice_payload srcUnderlay dstOuter srcInner dstInner sprayPort sprayPort h []
    (List.replicate mrc.length 0) [] mrc payloadOffset (payloadOffset + mrc.length) rfl
    (by rw [List.length_replicate])
    (by rw [List.length_replicate])
  simp only [List.nil_append, List.append_nil] at hwrite
  have hsum := checksum_inplace srcUnderlay dstOuter srcInner dstInner sprayPort sprayPort h mrc
    (by omega)
  unfold Template.fill udpEntry
  dsimp only
  rw [hwrite, hsum]

/-- What the ICRC is computed of: a fixed front, the PSN, and the payload. -/
theorem icrcInput_eq {srcInner dstInner : String} {dqpn psn : Nat} {mrc : List UInt8} :
    icrcInput (inetPton srcInner) (inetPton dstInner) sprayPort rdmaPort rdmaOpcode dqpn psn mrc =
      icrcFront inetPton srcInner dstInner dqpn mrc.length ++ (toBE 3 psn ++ mrc) := by
  simp only [icrcInput, icrcFront, bthHeader_eq, List.append_assoc]

/-- A RoCE template with a PSN, a payload and a CRC is what scapy builds with them. -/
theorem fill_rdma (h : S.Conforms inetPton) {srcUnderlay dstOuter srcInner dstInner : String}
    {dqpn : Nat} (hlt : dqpn < 2 ^ 24) {seq : Int} {mrc : List UInt8} (hlen : mrc.length < 64) :
    (rdmaEntry inetPton srcUnderlay dstOuter srcInner dstInner dqpn mrc.length).fill seq mrc =
      S.encapsulated srcUnderlay dstOuter srcInner dstInner sprayPort rdmaPort
        ((S.roce srcInner dstInner sprayPort rdmaPort rdmaOpcode dqpn (seq % 0x1000000).toNat
          mrc).drop 48) := by
  have hpsn : (seq % 0x1000000).toNat < 2 ^ 24 := by omega
  rw [roce_drop h (by omega) hlt hpsn, icrcInput_eq, crc32_append]
  unfold Template.fill rdmaEntry
  dsimp only
  generalize (seq % 0x1000000).toNat = psn
  generalize hicrc : icrcBytes (crc32 (toBE 3 psn ++ mrc)
    (crc32 (icrcFront inetPton srcInner dstInner dqpn mrc.length) 0)) = icrc
  have hicrcLen : icrc.length = 4 := by rw [← hicrc, length_icrcBytes]
  -- the PSN, the payload and the CRC are written one after the other
  have hpsnAt := setSlice_payload srcUnderlay dstOuter srcInner dstInner sprayPort rdmaPort h
    (bthFront rdmaOpcode 0 dqpn) (toBE 3 0) (List.replicate (mrc.length + 4) 0) (toBE 3 psn)
    (payloadOffset + 9) (payloadOffset + 12)
    (by rw [length_bthFront]) (by rw [length_toBE]) (by rw [length_toBE, length_toBE])
  have hmrcAt := setSlice_payload srcUnderlay dstOuter srcInner dstInner sprayPort rdmaPort h
    (bthFront rdmaOpcode 0 dqpn ++ toBE 3 psn) (List.replicate mrc.length 0) (List.replicate 4 0)
    mrc (payloadOffset + 12) (payloadOffset + 12 + mrc.length)
    (by rw [List.length_append, length_bthFront, length_toBE])
    (by rw [List.length_replicate]) (by rw [List.length_replicate])
  have hicrcAt := setSlice_payload srcUnderlay dstOuter srcInner dstInner sprayPort rdmaPort h
    (bthFront rdmaOpcode 0 dqpn ++ toBE 3 psn ++ mrc) (List.replicate 4 0) [] icrc
    (payloadOffset + 12 + mrc.length) (payloadOffset + 16 + mrc.length)
    (by rw [List.length_append, List.length_append, length_bthFront, length_toBE]; omega)
    (by rw [List.length_replicate]; omega) (by rw [hicrcLen, List.length_replicate])
  have hzeros : List.replicate (mrc.length + 4) (0 : UInt8) =
      List.replicate mrc.length 0 ++ List.replicate 4 0 := List.replicate_add ..
  have hsum := checksum_inplace srcUnderlay dstOuter srcInner dstInner sprayPort rdmaPort h
    (bthFront rdmaOpcode 0 dqpn ++ (toBE 3 psn ++ (mrc ++ icrc)))
    (by simp only [List.length_append, length_bthFront, length_toBE, hicrcLen]; omega)
  have hplen : (bthFront rdmaOpcode 0 dqpn ++ (toBE 3 psn ++ (mrc ++ icrc))).length =
      12 + mrc.length + 4 := by
    simp only [List.length_append, length_bthFront, length_toBE, hicrcLen]
    omega
  rw [hplen] at hsum
  simp only [List.append_assoc, List.append_nil] at hmrcAt hicrcAt
  simp only [bthHeader_eq, List.append_assoc]
  rw [hpsnAt, hzeros, hmrcAt, hicrcAt, hsum]

/-! ## The cache -/

/-- Every entry is what `_make` would make now, where the outer source is that of the plane. -/
def PacketTemplates.Fresh (x : PacketTemplates) (T : Topo) (S : Scapy) (U : Int → String) : Prop :=
  ∀ key entry, x.cache key = some entry →
    x.make T S key.plane key.path (U key.plane) key.dstOuter key.trimmed = .ok entry

variable {U : Int → String} {c : BuildCall}

/-- What `build` returns does not depend on the cache. -/
theorem build_fst (hx : x.Fresh T S U) (hc : c.srcUnderlay = U c.plane) :
    (x.build T S c).1 = (do
      let entry ← x.make T S c.plane c.path c.srcUnderlay c.dstOuter c.trimmed
      let mrc ← mrcPayload c.seq c.plane c.path c.trimmed
      return entry.fill c.seq mrc) := by
  unfold PacketTemplates.build
  cases hkey : x.cache ⟨c.plane, c.path, c.trimmed, c.dstOuter⟩ with
  | some entry =>
    have hmake := hx _ entry hkey
    dsimp only at hmake ⊢
    rw [hkey, hc, hmake]
    rfl
  | none =>
    dsimp only
    rw [hkey]
    cases x.make T S c.plane c.path c.srcUnderlay c.dstOuter c.trimmed with
    | error err => rfl
    | ok entry => rfl

/-- A call keeps the flow and the cache fresh. -/
theorem build_snd (hx : x.Fresh T S U) (hc : c.srcUnderlay = U c.plane) :
    (x.build T S c).2.Fresh T S U ∧ (x.build T S c).2.srcInner = x.srcInner ∧
      (x.build T S c).2.dstInner = x.dstInner ∧ (x.build T S c).2.transport = x.transport := by
  unfold PacketTemplates.build
  cases hkey : x.cache ⟨c.plane, c.path, c.trimmed, c.dstOuter⟩ with
  | some entry =>
    dsimp only
    rw [hkey]
    exact ⟨hx, rfl, rfl, rfl⟩
  | none =>
    dsimp only
    rw [hkey]
    cases hmake : x.make T S c.plane c.path c.srcUnderlay c.dstOuter c.trimmed with
    | error err => exact ⟨hx, rfl, rfl, rfl⟩
    | ok entry =>
      refine ⟨?_, rfl, rfl, rfl⟩
      intro key entry' hentry
      change Function.update x.cache _ (some entry) key = some entry' at hentry
      by_cases hnew : key = ⟨c.plane, c.path, c.trimmed, c.dstOuter⟩
      · rw [hnew, Function.update_self] at hentry
        rw [hnew, ← Option.some.inj hentry]
        dsimp only
        rw [← hc]
        exact hmake
      · rw [Function.update_of_ne hnew] at hentry
        exact hx key entry' hentry

/-- Builds leave the cache fresh, and the builder's own values as they are. -/
theorem after_snd (hx : x.Fresh T S U) {calls : List BuildCall}
    (hcalls : ∀ c ∈ calls, c.srcUnderlay = U c.plane) :
    (x.after T S calls).Fresh T S U ∧ (x.after T S calls).srcInner = x.srcInner ∧
      (x.after T S calls).dstInner = x.dstInner ∧ (x.after T S calls).transport = x.transport := by
  induction calls generalizing x with
  | nil => exact ⟨hx, rfl, rfl, rfl⟩
  | cons c calls ih =>
    obtain ⟨hfresh, hsrc, hdst, htransport⟩ := build_snd hx (hcalls c List.mem_cons_self)
    obtain ⟨hfresh', hsrc', hdst', htransport'⟩ := ih hfresh
      fun c' hc' => hcalls c' (List.mem_cons_of_mem c hc')
    exact ⟨hfresh', hsrc'.trans hsrc, hdst'.trans hdst, htransport'.trans htransport⟩

/-! ## Both ways -/

/-- A queue pair number of an EV in range fits into three bytes. -/
theorem dqpnForEv_lt {plane path : Int} {dqpn : Nat} (h : T.dqpnForEv plane path = .ok dqpn)
    (hplane : plane < 256) (hpath : path < 256) : dqpn < 2 ^ 24 := by
  unfold Topo.dqpnForEv at h
  cases hp : T.checkPlane plane with
  | error err =>
    rw [hp] at h
    exact absurd h (by simp [bind, Except.bind])
  | ok p =>
    cases hs : T.checkSpine path with
    | error err =>
      rw [hp, hs] at h
      exact absurd h (by simp [bind, Except.bind])
    | ok s =>
      rw [hp, hs] at h
      obtain ⟨rfl, -⟩ := checkIndex_ok.mp hp
      obtain ⟨rfl, -⟩ := checkIndex_ok.mp hs
      have hshift : p <<< 8 < 2 ^ 24 := by
        rw [Nat.shiftLeft_eq]
        omega
      rw [← Except.ok.inj h]
      exact Nat.or_lt_two_pow (Nat.or_lt_two_pow (by decide) hshift) (by omega)

/-- A template made and filled is what scapy makes. -/
theorem make_fill (h : S.Conforms inetPton) (bytes : List UInt8) :
    (do
      let entry ← x.make T S c.plane c.path c.srcUnderlay c.dstOuter c.trimmed
      let mrc ← mrcPayload c.seq c.plane c.path c.trimmed
      return entry.fill c.seq mrc) = .ok bytes ↔
    buildPacketBytes T S c.srcUnderlay c.dstOuter x.srcInner x.dstInner c.seq c.plane c.path
      x.transport c.trimmed = .ok bytes := by
  unfold buildPacketBytes
  cases hmrc : mrcPayload c.seq c.plane c.path c.trimmed with
  | error err =>
    cases x.make T S c.plane c.path c.srcUnderlay c.dstOuter c.trimmed with
    | error err' => simp [bind, Except.bind]
    | ok entry => simp [bind, Except.bind]
  | ok mrc =>
    obtain ⟨-, ⟨-, hplane⟩, -, hpath⟩ := mrcPayload_range hmrc
    have hlen := length_mrcPayload hmrc
    have hshort : mrc.length < 64 := by
      rw [hlen]
      exact mrcLen_lt
    by_cases hrdma : x.transport = "rdma"
    · cases hdqpn : T.dqpnForEv c.plane c.path with
      | error err =>
        have hmake : x.make T S c.plane c.path c.srcUnderlay c.dstOuter c.trimmed =
            .error (.topo err) := by
          unfold PacketTemplates.make wrapRdma
          rw [if_neg (not_not.mpr hrdma), hdqpn]
          rfl
        have hwrap : wrapRdma T S mrc c.plane c.path c.seq x.srcInner x.dstInner sprayPort rdmaPort =
            .error (.topo err) := by
          unfold wrapRdma
          rw [hdqpn]
          rfl
        rw [hmake]
        simp only [bind, Except.bind]
        rw [if_pos hrdma, hwrap]
      | ok dqpn =>
        have hlt := dqpnForEv_lt hdqpn hplane hpath
        have hwrap : wrapRdma T S mrc c.plane c.path c.seq x.srcInner x.dstInner sprayPort rdmaPort =
            .ok ((S.roce x.srcInner x.dstInner sprayPort rdmaPort rdmaOpcode dqpn
              (c.seq % 0x1000000).toNat mrc).drop 48) := by
          unfold wrapRdma
          rw [hdqpn]
          rfl
        rw [make_rdma h hrdma hdqpn hlt, ← hlen]
        simp only [bind, Except.bind]
        rw [if_pos hrdma, hwrap, fill_rdma h hlt hshort]
    · rw [make_udp h hrdma, ← hlen]
      simp only [bind, Except.bind]
      rw [if_neg hrdma, fill_udp h hshort]

/-- There is a packet for every sequence number and every EV. -/
theorem buildPacketBytes_ok {srcUnderlay dstOuter srcInner dstInner transport : String}
    {seq plane path : Int} {trimmed : Bool} (hseq : 0 ≤ seq ∧ seq < 2 ^ 64)
    (hplane : 0 ≤ plane ∧ plane < T.numPlanes ∧ plane < 256)
    (hpath : 0 ≤ path ∧ path < T.numSpines ∧ path < 256) :
    ∃ bytes, buildPacketBytes T S srcUnderlay dstOuter srcInner dstInner seq plane path transport
      trimmed = .ok bytes := by
  have hmrc := mrcPayload_ok trimmed hseq ⟨hplane.1, hplane.2.2⟩ ⟨hpath.1, hpath.2.2⟩
  have hdqpn : ∃ dqpn, T.dqpnForEv plane path = .ok dqpn := by
    unfold Topo.dqpnForEv Topo.checkPlane Topo.checkSpine checkIndex
    rw [if_pos ⟨hplane.1, hplane.2.1⟩, if_pos ⟨hpath.1, hpath.2.1⟩]
    exact ⟨_, rfl⟩
  obtain ⟨dqpn, hdqpn⟩ := hdqpn
  unfold buildPacketBytes wrapRdma
  rw [hmrc, hdqpn]
  simp only [bind, Except.bind]
  by_cases hrdma : transport = "rdma"
  · exact ⟨_, (if_pos hrdma).trans rfl⟩
  · exact ⟨_, (if_neg hrdma).trans rfl⟩

end Entries

/-- The flow that a sender has templates for. -/
def flowTemplates (srcInner dstInner transport : String) : PacketTemplates :=
  { srcInner := srcInner, dstInner := dstInner, transport := transport }

/-- Whatever was built before, a packet from a template is the packet that scapy would build, and
    there is one for every sequence number and every EV. -/
theorem fast_is_slow (h : S.Conforms inetPton) (T : Topo) (U : Int → String)
    (srcInner dstInner transport : String) (before : List BuildCall) (c : BuildCall)
    (hbefore : ∀ c' ∈ before, c'.srcUnderlay = U c'.plane) (hc : c.srcUnderlay = U c.plane) :
    let slow := buildPacketBytes T S c.srcUnderlay c.dstOuter srcInner dstInner c.seq c.plane c.path
      transport c.trimmed
    let fast := (((flowTemplates srcInner dstInner transport).after T S before).build T S c).1
    (∀ bytes, fast = .ok bytes ↔ slow = .ok bytes) ∧
      ((0 ≤ c.seq ∧ c.seq < 2 ^ 64) → (0 ≤ c.plane ∧ c.plane < T.numPlanes ∧ c.plane < 256) →
        (0 ≤ c.path ∧ c.path < T.numSpines ∧ c.path < 256) → ∃ bytes, slow = .ok bytes) := by
  intro slow fast
  have hempty : (flowTemplates srcInner dstInner transport).Fresh T S U :=
    fun _ _ hentry => absurd hentry (Option.some_ne_none _).symm
  obtain ⟨hfresh, hsrc, hdst, htransport⟩ := after_snd hempty hbefore
  constructor
  · intro bytes
    have heq := make_fill (T := T) (c := c) h bytes
      (x := (flowTemplates srcInner dstInner transport).after T S before)
    rw [← build_fst hfresh hc, hsrc, hdst, htransport] at heq
    exact heq
  · intro hseq hplane hpath
    exact buildPacketBytes_ok hseq hplane hpath
end Conforming

/-! ## A scapy that conforms -/

/-- The packets of the RFCs. -/
def rfcScapy (inetPton : String → List UInt8) : Scapy where
  encapsulated := fun srcOuter dstOuter srcInner dstInner sport dport payload =>
    packetWith inetPton srcOuter dstOuter srcInner dstInner sport dport
      (checksum (pseudoHeader (inetPton srcInner) (inetPton dstInner) (8 + payload.length) ++
        (udpHeader sport dport payload.length 0 ++ payload))) payload
  roce := fun src dst sport dport opcode dqpn psn payload =>
    let frame := bthHeader opcode 0 dqpn psn ++ payload ++ icrcBytes (crc32
      (icrcInput (inetPton src) (inetPton dst) sport dport opcode dqpn psn payload) 0)
    ipv6Header (8 + (12 + payload.length + 4)) 17 (inetPton src) (inetPton dst) ++
      udpHeader sport dport (12 + payload.length + 4)
        (checksum (pseudoHeader (inetPton src) (inetPton dst) (8 + frame.length) ++
          (udpHeader sport dport frame.length 0 ++ frame))) ++ frame

/-- Headers written as the standards say conform. -/
theorem rfcScapy_conforms {inetPton : String → List UInt8}
    (h : ∀ text, (inetPton text).length = 16) : (rfcScapy inetPton).Conforms inetPton where
  address := h
  encapsulated := by
    intro srcOuter dstOuter srcInner dstInner sport dport payload _
    exact ⟨_, checksum_verifies (wordSum_pseudo_pos (h srcInner) (h dstInner)), rfl⟩
  roce := by
    intro src dst sport dport opcode dqpn psn payload _ _ _
    exact ⟨_, rfl⟩

/-- `inet_pton`, and zeros where it would raise. -/
def inetPton6 (text : String) : List UInt8 :=
  match Ipv6.ofText text with
  | some ip => ip.hextets.flatMap (toBE 2)
  | none => List.replicate 16 0

theorem length_inetPton6 (text : String) : (inetPton6 text).length = 16 := by
  unfold inetPton6
  cases Ipv6.ofText text with
  | none => exact List.length_replicate
  | some ip =>
    have hsum : ∀ hextets : List Nat, (hextets.flatMap (toBE 2)).length = 2 * hextets.length := by
      intro hextets
      induction hextets with
      | nil => rfl
      | cons hextet hextets ih =>
        rw [List.flatMap_cons, List.length_append, length_toBE, ih, List.length_cons]
        omega
    show (ip.hextets.flatMap (toBE 2)).length = 16
    rw [hsum, ip.length_eq]

/-- The first RoCE packet of an EV is cached, and the PSN of the second has run over. -/
theorem fast_is_slow_rdma :
    let before : List BuildCall :=
      [⟨0, 1, 2, "2001:db8:bbbb:2::1", "fc00:1:f002:e005:d000::", false⟩]
    let c : BuildCall := ⟨2 ^ 24 + 5, 1, 2, "2001:db8:bbbb:2::1", "fc00:1:f002:e005:d000::", false⟩
    let slow := buildPacketBytes ⟨4, 8, 16, ["green", "yellow"]⟩ (rfcScapy inetPton6)
      c.srcUnderlay c.dstOuter "2001:db8:bbbb:2::1" "2001:db8:bbbb:5::1" c.seq c.plane c.path "rdma"
      c.trimmed
    let fast := (((flowTemplates "2001:db8:bbbb:2::1" "2001:db8:bbbb:5::1" "rdma").after
      ⟨4, 8, 16, ["green", "yellow"]⟩ (rfcScapy inetPton6) before).build ⟨4, 8, 16, ["green", "yellow"]⟩
        (rfcScapy inetPton6) c).1
    ∃ bytes, slow = .ok bytes ∧ fast = .ok bytes := by
  intro before c slow fast
  obtain ⟨hiff, hbuilt⟩ := fast_is_slow (rfcScapy_conforms length_inetPton6)
    ⟨4, 8, 16, ["green", "yellow"]⟩ (fun _ => "2001:db8:bbbb:2::1") "2001:db8:bbbb:2::1"
    "2001:db8:bbbb:5::1" "rdma" before c (by simp [before]) rfl
  obtain ⟨bytes, hbytes⟩ := hbuilt (by decide) (by decide) (by decide)
  exact ⟨bytes, hbytes, (hiff bytes).mpr hbytes⟩

end Srv6Mrc
