/-
  A probe's way, from the emit thread to the counter of its EV.

  The steps are in five files: the probe is encoded (`probe.py`), put into a packet (`encap.py`) and
  handed to the socket of its plane (`transport.py`); the fabric that the generator configures takes
  it to the peer and back (`fabric.py`); and the daemon counts it (`daemon.py`, `ev_state.py`).  None
  of them knows of the others but by the bytes.  Together they count the probe in the flow that it
  was sent for and on the EV that it was sent on (`probe_returns`).
-/
import Srv6Mrc.Daemon.Dispatch
import Srv6Mrc.Fabric.Outage
import Srv6Mrc.Packet.UdpChecksum
import Srv6Mrc.Transport.Send

namespace Srv6Mrc

open Py Wire Checksum Fabric Net

/-! ## What the bytes of a packet say -/

/-- The addresses, the port and the payload of an encapsulated datagram, and that a receiver who sums
    it up does not drop it. -/
structure Conveys (bytes : List UInt8) (outer src dst : Ipv6) (dport : Nat) (payload : List UInt8) :
    Prop where
  outer_eq : words (slice bytes 24 40) = outer.hextets
  src_eq : words (slice bytes 48 64) = src.hextets
  dst_eq : words (slice bytes 64 80) = dst.hextets
  dport_eq : ofBE (slice bytes 82 84) = dport
  payload_eq : bytes.drop payloadOffset = payload
  verifies : onesSum (summed bytes payload.length) = 0xFFFF

theorem words_field {x : Nat} (hx : x < 65536) (rest : List UInt8) :
    words (toBE 2 x ++ rest) = x :: words rest := by
  obtain ⟨a, b, hab⟩ := List.length_eq_two.mp (length_toBE 2 x)
  have hval : ofBE (toBE 2 x) = x := ofBE_toBE hx
  rw [hab] at hval ⊢
  have hpair : a.toNat * 256 + b.toNat = x := by
    rw [← hval]
    show a.toNat * 256 + b.toNat = a.toNat * 256 ^ 1 + (b.toNat * 256 ^ 0 + 0)
    omega
  rw [← hpair]
  rfl

theorem words_toBE {hextets : List Nat} (h : ∀ x ∈ hextets, x < 65536) :
    words (hextets.flatMap (toBE 2)) = hextets := by
  induction hextets with
  | nil => rfl
  | cons x hextets ih =>
    rw [List.flatMap_cons, words_field (h x List.mem_cons_self),
      ih fun y hy => h y (List.mem_cons_of_mem x hy)]

theorem words_inetPton6 {text : String} {ip : Ipv6} (h : Ipv6.ofText text = some ip) :
    words (inetPton6 text) = ip.hextets := by
  unfold inetPton6
  rw [h]
  exact words_toBE ip.lt

/-- The checksum is one of the words that are summed up. -/
theorem wordSum_udp {pseudo payload : List UInt8} (hpseudo : pseudo.length % 2 = 0)
    {sport dport n c : Nat} (hc : c < 0x10000) :
    wordSum (pseudo ++ (udpHeader sport dport n c ++ payload)) =
      wordSum (pseudo ++ (udpHeader sport dport n 0 ++ payload)) + c := by
  have hports : (udpPorts sport dport n).length % 2 = 0 := by rw [length_udpPorts]
  have hfield : ∀ c < 0x10000, wordSum (toBE 2 c) = c := by
    intro c hc
    unfold wordSum
    rw [← List.append_nil (toBE 2 c), words_field hc]
    rfl
  have hsplit : ∀ c < 0x10000, wordSum (pseudo ++ (udpHeader sport dport n c ++ payload)) =
      wordSum pseudo + (wordSum (udpPorts sport dport n) + (c + wordSum payload)) := by
    intro c hc
    rw [udpHeader_eq, List.append_assoc, wordSum_append hpseudo, wordSum_append hports,
      wordSum_append (by rw [length_toBE]), hfield c hc]
  rw [hsplit c hc, hsplit 0 (by decide)]
  omega

/-- The packets that scapy builds. -/
theorem conveys_encapsulated {S : Scapy} (hS : S.Conforms inetPton6)
    {srcOuter dstOuter srcInner dstInner : String} {outer src dst : Ipv6}
    (houter : Ipv6.ofText dstOuter = some outer) (hsrc : Ipv6.ofText srcInner = some src)
    (hdst : Ipv6.ofText dstInner = some dst) (sport : Nat) {dport : Nat} (hdport : dport < 0x10000)
    {payload : List UInt8} (hlen : payload.length < 0x10000 - 48) :
    Conveys (S.encapsulated srcOuter dstOuter srcInner dstInner sport dport payload) outer src dst
      dport payload := by
  obtain ⟨c, hverifies, hpacket⟩ := hS.encapsulated srcOuter dstOuter srcInner dstInner sport dport
    payload hlen
  rw [hpacket]
  have hso := hS.address srcOuter
  have hdo := hS.address dstOuter
  have hsi := hS.address srcInner
  have hdi := hS.address dstInner
  -- the packet, as its checksum sees it
  let parts : Parts payload.length :=
    { front := ipv6Header (40 + (8 + payload.length)) 41 (inetPton6 srcOuter) (inetPton6 dstOuter) ++
        ([0x60, 0, 0, 0] ++ toBE 2 (8 + payload.length) ++ [17, 64])
      src := inetPton6 srcInner
      dst := inetPton6 dstInner
      ports := udpPorts sport dport payload.length
      field := toBE 2 c
      payload := payload
      rest := []
      length_front := by simp [hso, hdo]
      length_src := hsi
      length_dst := hdi
      length_ports := length_udpPorts
      length_field := length_toBE 2 c
      length_payload := rfl }
  have hbuf : ipv6Header (40 + (8 + payload.length)) 41 (inetPton6 srcOuter) (inetPton6 dstOuter) ++
      ipv6Header (8 + payload.length) 17 (inetPton6 srcInner) (inetPton6 dstInner) ++
      udpHeader sport dport payload.length c ++ payload = parts.buf := by
    simp only [parts, Parts.buf, ipv6Header, udpHeader_eq, List.append_assoc, List.append_nil]
  rw [hbuf]
  refine ⟨?_, ?_, ?_, ?_, ?_, ?_⟩
  · -- the outer destination is the address of the route
    have hslice : slice parts.buf 24 40 = inetPton6 dstOuter := by
      refine slice_eq ([0x60, 0, 0, 0] ++ toBE 2 (40 + (8 + payload.length)) ++ [41, 64] ++
        inetPton6 srcOuter) (ipv6Header (8 + payload.length) 17 (inetPton6 srcInner)
          (inetPton6 dstInner) ++ udpHeader sport dport payload.length c ++ payload) ?_
        (by simp [hso]) (by rw [hdo])
      rw [← hbuf]
      simp only [ipv6Header, List.append_assoc]
    rw [hslice, words_inetPton6 houter]
  · rw [parts.slice_src]
    exact words_inetPton6 hsrc
  · rw [parts.slice_dst]
    exact words_inetPton6 hdst
  · have hslice : slice parts.buf 82 84 = toBE 2 dport := by
      refine slice_eq (parts.front ++ parts.src ++ parts.dst ++ toBE 2 sport)
        (toBE 2 (8 + payload.length) ++ (toBE 2 c ++ payload)) ?_ ?_ (by rw [length_toBE])
      · simp only [parts, Parts.buf, udpPorts, List.append_assoc, List.append_nil]
      · rw [List.length_append, List.length_append, List.length_append, parts.length_front,
          parts.length_src, parts.length_dst, length_toBE]
    rw [hslice, ofBE_toBE hdport]
  · rw [← hbuf]
    refine List.drop_left' ?_
    simp only [List.length_append, length_ipv6Header hso hdo, length_ipv6Header hsi hdi,
      length_udpHeader]
    rfl
  · -- the checksum that was written verifies
    obtain ⟨hpos, hlt, hmod⟩ := hverifies
    have hsum : wordSum (summed parts.buf payload.length) = wordSum (pseudoHeader (inetPton6 srcInner)
        (inetPton6 dstInner) (8 + payload.length) ++ (udpHeader sport dport payload.length 0 ++
          payload)) + c := by
      have hheader : udpPorts sport dport payload.length ++ (toBE 2 c ++ payload) =
          udpHeader sport dport payload.length c ++ payload := by
        rw [udpHeader_eq, List.append_assoc]
      rw [parts.summed_eq, hheader]
      exact wordSum_udp (by rw [length_pseudoHeader hsi hdi]) hlt
    rw [onesSum_eq_iff (by omega), hsum]
    exact hmod

/-! ## What is sent is what is read -/

theorem checkU8_iff {v : Int} {name : String} {x : UInt8} : checkU8 v name = .ok x ↔ v = x.toNat := by
  have hx : x.toNat < 2 ^ 8 := x.toNat_lt
  constructor
  · intro h
    unfold checkU8 at h
    split_ifs at h with hout
    rw [← Except.ok.inj h, UInt8.toNat_ofNat_of_lt' (show v.toNat < 2 ^ 8 by omega)]
    omega
  · rintro rfl
    exact checkU8_toNat x name

theorem checkU16_iff {v : Int} {name : String} {x : UInt16} :
    checkU16 v name = .ok x ↔ v = x.toNat := by
  have hx : x.toNat < 2 ^ 16 := x.toNat_lt
  constructor
  · intro h
    unfold checkU16 at h
    split_ifs at h with hout
    rw [← Except.ok.inj h, UInt16.toNat_ofNat_of_lt' (show v.toNat < 2 ^ 16 by omega)]
    omega
  · rintro rfl
    exact checkU16_toNat x name

/-- The bytes of a probe, if its fields fit. -/
theorem encodeProbe_ok {planeId pathId tenantId srcId dstId : Int} {payload : List UInt8} :
    encodeProbe planeId pathId tenantId srcId dstId = .ok payload ↔
      ∃ probe : Probe, payload = probeBytes probe ∧ planeId = probe.planeId.toNat ∧
        pathId = probe.pathId.toNat ∧ tenantId = probe.tenantId.toNat ∧
        srcId = probe.srcId.toNat ∧ dstId = probe.dstId.toNat := by
  constructor
  · intro h
    unfold encodeProbe at h
    obtain ⟨p, hp, h⟩ := Outcome.bind_ok.mp h
    obtain ⟨q, hq, h⟩ := Outcome.bind_ok.mp h
    obtain ⟨t, ht, h⟩ := Outcome.bind_ok.mp h
    obtain ⟨a, ha, h⟩ := Outcome.bind_ok.mp h
    obtain ⟨b, hb, h⟩ := Outcome.bind_ok.mp h
    exact ⟨⟨p, q, t, a, b⟩, (Except.ok.inj h).symm, checkU8_iff.mp hp, checkU8_iff.mp hq,
      checkU16_iff.mp ht, checkU16_iff.mp ha, checkU8_iff.mp hb⟩
  · rintro ⟨probe, rfl, rfl, rfl, rfl, rfl, rfl⟩
    exact encodeProbe_eq probe

theorem length_probeBytes (probe : Probe) : (probeBytes probe).length = probePayloadLen :=
  length_pack ..

theorem probeBytes_head (probe : Probe) :
    ∃ rest, probeBytes probe = magicProbe :: rest := ⟨_, Wire.pack_byte ..⟩

/-- The placeholder is not the address of a probe, so that it contradicts none. -/
theorem evMismatch_placeholder (d : MrcDaemon) {color : Color} {peer : String}
    (h : Reads peer [0x2001, 0xdb8, tenantGroup color, 0, 0, 0, 0, 0xffff]) (probe : Probe) :
    d.evMismatch probe (some peer) = false := by
  have hnone : d.topo.probeEvFromInnerDst peer = none := by
    unfold Topo.probeEvFromInnerDst
    rw [exploded_eq, reads_iff.mp h]
    cases color <;> simp [tenantGroup]
  unfold MrcDaemon.evMismatch
  dsimp only
  rw [hnone]
  split_ifs <;> rfl

/-! ## The whole way -/

/-- What `receive` does with a probe for one of the flows, if its peer's address names no EV. -/
theorem receive_probe {d : MrcDaemon} {flow : DaemonFlow} (hmem : flow ∈ d.flows)
    (honly : ∀ other ∈ d.flows, other.dstId = flow.dstId → other = flow) {probe : Probe}
    (hdst : flow.dstId = probe.dstId.toNat) {peer : Option String}
    (hpeer : d.evMismatch probe peer = false) (receivedAtNs : Int) (st : d.State) :
    d.receive receivedAtNs (probeBytes probe) peer st =
      .ok (((st.count .packetsReceived).setAgent flow (d.recordProbeRecv flow probe.planeId.toNat
        probe.pathId.toNat (st.agents flow))).count .probesDispatched) := by
  have hdemux := MrcDaemon.demux_eq hmem honly
  have hdecode := decode_probeBytes probe
  obtain ⟨rest, hrest⟩ := probeBytes_head probe
  rw [hdst] at hdemux
  rw [hrest] at hdecode ⊢
  unfold MrcDaemon.receive MrcDaemon.dispatch MrcDaemon.dispatchProbe
  dsimp only
  rw [if_pos rfl, hdecode]
  dsimp only
  rw [hdemux]
  dsimp only
  rw [hpeer]
  rfl

/-- A probe that a flow's transport sends on an EV, over any fabric of the generator: it leaves on the
    NIC of the plane, comes back over the spine to the interface that alone has its destination, is a
    sound datagram for the daemon's port, and is counted by the daemon as what it is. -/
theorem probe_returns (F : Fabric) (hF : F.Fits) (tenants : List String) (color : Color)
    (htenant : colorName color ∈ tenants) (p s src dst : Nat) (hp : p < F.numPlanes)
    (hs : s < F.numSpines) (hsrc : src < F.numLeaves) (hdst : dst < F.numLeaves) (S : Scapy)
    (hS : S.Conforms inetPton6) (sidMode : String) (x : Srv6RawTransport)
    (hx : Srv6RawTransport.new (F.topo tenants) S (colorName color) src true sidMode = .ok x)
    (tenantId : Int) (payload : List UInt8) (hpayload : encodeProbe p s tenantId src dst = .ok payload)
    (d : MrcDaemon) (htopo : d.topo = F.topo tenants) (flow : DaemonFlow) (hmem : flow ∈ d.flows)
    (hflow : flow.dstId = dst)
    (honly : ∀ other ∈ d.flows, other.dstId = flow.dstId → other = flow) :
    ∃ sent outer source inner,
      (x.sendProbe S ⟨p, s, dst, payload⟩).1 = .ok sent ∧ sent.plane = p ∧
      Ipv6.ofText sent.dst = some outer ∧
      Conveys sent.bytes outer source inner sprayReportPort payload ∧
      F.network.Delivers (.leaving (.host color src) (p + 1) ⟨some outer, inner⟩)
        (probePath color p s src dst) ∧
      (∀ color' n' dev, n' < F.numLeaves →
        (F.HasAddress color' n' dev inner ↔ color' = color ∧ n' = src ∧ dev = .eth (p + 1))) ∧
      ∀ peer, Ipv6.ofText peer = some source → ∀ (receivedAtNs : Int) (st : d.State),
        let o := d.receive receivedAtNs payload (some peer) st
        o.raised = none ∧
        (∀ c, o.state.counters c = st.counters c +
          if c = .packetsReceived ∨ c = .probesDispatched then 1 else 0) ∧
        (∀ flow', flow' ≠ flow → o.state.agents flow' = st.agents flow') ∧
        ∃ e : (d.table flow).EV, (e.1 : Nat) = p ∧ (e.2 : Nat) = s ∧
          (o.state.agents flow).fused.table = (st.agents flow).fused.table.setEv flow.tenant e
            { (st.agents flow).fused.table.evs flow.tenant e with
              currentRecv := ((st.agents flow).fused.table.evs flow.tenant e).currentRecv + 1
              totalRecv := ((st.agents flow).fused.table.evs flow.tenant e).totalRecv + 1 } := by
  have hspines := hF.spines
  obtain ⟨probe, rfl, hplane, hpath, -, -, hprobeDst⟩ := encodeProbe_ok.mp hpayload
  obtain ⟨⟨htopo', htenant', hid, -⟩, hinnerSrc, hright, -⟩ := Srv6RawTransport.new_ok hx
  obtain ⟨source', source, hsource, hsourceGroups⟩ := Topo.reads_probeInnerSrc hinnerSrc
  obtain ⟨outerText, hcall, outer, houter, houterGroups⟩ :=
    reads_probeOuterDst hF htenant hp hs hsrc hdst
  obtain ⟨inner, hinner, hinnerGroups⟩ :=
    reads_probeEvAddr color (Nat.lt_of_lt_of_le hsrc hF.leaves) (hF.lowByte_lt hp hs)
  have hlen : (probeBytes probe).length < 0x10000 - 48 := by
    rw [length_probeBytes]
    decide
  have hsent : (x.sendProbe S ⟨p, s, dst, probeBytes probe⟩).1 = .ok ⟨p, S.encapsulated
      x.probeInnerSrc outerText x.probeInnerSrc (Fabric.probeEvAddr color src p s) sprayProbePort
      sprayReportPort (probeBytes probe), outerText⟩ := by
    rw [Srv6RawTransport.sendProbe_fst hS (by rw [htopo', htenant', hid]; exact hright)]
    unfold Srv6RawTransport.sendProbeSlow
    rw [htopo', htenant', hid, hcall, topo_probeEvAddr htenant hsrc hp hs]
    rfl
  refine ⟨_, outer, source, inner, hsent, rfl, houter,
    conveys_encapsulated hS houter hsource hinner sprayProbePort (by decide) hlen,
    delivers_probe hF hp hs hsrc hdst houterGroups hinnerGroups,
    fun color' n' dev hn' => hasAddress_probe_iff hF hp hs hsrc hn' hinnerGroups,
    fun peer hpeer receivedAtNs st => ?_⟩
  -- the daemon reads the placeholder source as no mismatch
  have hquiet := evMismatch_placeholder d ⟨source, hpeer, hsourceGroups⟩ probe
  rw [receive_probe hmem honly (hflow.trans hprobeDst) hquiet]
  refine ⟨rfl, fun c => ?_, fun flow' hne => Function.update_of_ne hne _ _, ?_⟩
  · show Function.update (Function.update st.counters .packetsReceived _) .probesDispatched _ c = _
    cases c <;> rfl
  · show ∃ e : (d.table flow).EV, _ ∧ _ ∧ (Function.update st.agents flow _ flow).fused.table = _
    rw [Function.update_self]
    rcases MrcDaemon.recordProbeRecv_cases flow probe.planeId.toNat probe.pathId.toNat
      (st.agents flow) with ⟨e, he₁, he₂, htable⟩ | ⟨hout, -⟩
    · exact ⟨e, by omega, by omega, htable⟩
    · -- an EV of the fabric is one of the table
      rw [htopo] at hout
      have hplanes : (F.topo tenants).numPlanes = F.numPlanes := rfl
      have hnumSpines : (F.topo tenants).numSpines = F.numSpines := rfl
      omega

/-- A green probe from host 3 to host 6, on plane 2 and spine 1. -/
theorem probe_returns_green :
    let F : Fabric := ⟨4, 4, 8, false⟩
    let S := rfcScapy inetPton6
    ∃ x sent outer source inner,
      Srv6RawTransport.new (F.topo ["green", "yellow"]) S "green" 3 true "uA" = .ok x ∧
      (x.sendProbe S ⟨2, 1, 6, probeBytes ⟨2, 1, 1, 3, 6⟩⟩).1 = .ok sent ∧ sent.plane = 2 ∧
      Conveys sent.bytes outer source inner 9997 (probeBytes ⟨2, 1, 1, 3, 6⟩) ∧
      F.network.Delivers (.leaving (.host .green 3) 3 ⟨some outer, inner⟩)
        (probePath .green 2 1 3 6) := by
  intro F S
  have hS := rfcScapy_conforms length_inetPton6
  obtain ⟨x, hx⟩ : ∃ x, Srv6RawTransport.new (F.topo ["green", "yellow"]) S "green" 3 true "uA"
      = .ok x :=
    (Srv6RawTransport.new_returns hS).mpr ⟨⟨.green, rfl, by decide⟩, by decide, by decide⟩
  let d : MrcDaemon :=
    { topo := F.topo ["green", "yellow"], flows := [⟨"green", 6⟩], evCfg := {}, maxWindowSkewMs := 500
      flows_ne := by decide, tenants_known := by decide, numPlanes_pos := by decide
      numSpines_pos := by decide, window_nonneg := by decide }
  obtain ⟨sent, outer, source, inner, hsent, hplane, -, hconveys, hdelivers, -⟩ :=
    probe_returns F ⟨by decide, by decide, by decide⟩ ["green", "yellow"] .green (by decide) 2 1 3 6
      (by decide) (by decide) (by decide) (by decide) S hS "uA" x hx 1 (probeBytes ⟨2, 1, 1, 3, 6⟩)
      (encodeProbe_eq ⟨2, 1, 1, 3, 6⟩) d rfl ⟨"green", 6⟩ List.mem_cons_self rfl
      (fun _ h _ => List.mem_singleton.mp h)
  exact ⟨x, sent, outer, source, inner, hx, hsent, hplane, hconveys, hdelivers⟩

end Srv6Mrc
