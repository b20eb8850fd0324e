/-
  The receiver reads what the sender built, and nothing else makes it raise.

  `parseFrame` reads bytes that may not be there, as zeros.  Python would raise, so that the first
  thing to show is that it never comes to that: `tryParseFrame` is the same code with its exceptions,
  and it has none (`tryParseFrame_eq`).  The tests before a read keep it in the frame, and the ends of
  the IPv6 packets keep the payload in them (`parseFrame_inside`).

  That the builder is inverted is a matter of offsets.  A header is read wherever it stands
  (`HeaderAt`), be it the outer one or the inner one, behind any number of tags.
-/
import Srv6Mrc.Packet.Fast

namespace Srv6Mrc

open Py Wire

/-! ## With exceptions -/

/-- What reading raises. -/
inductive ReadError where
  /-- `IndexError`: a byte that is not there. -/
  | indexError
  /-- `struct.error`: too few bytes for the format. -/
  | structError
  /-- `ValueError`: `inet_ntop` wants sixteen bytes. -/
  | valueError
  deriving DecidableEq

/-- `frame[i]` -/
def byteAt (frame : List UInt8) (i : Nat) : Except ReadError UInt8 :=
  if i < frame.length then .ok (frame.getD i 0) else .error .indexError

/-- `struct.unpack_from("!HH", frame, udp)` -/
def unpackPorts (frame : List UInt8) (udp : Nat) : Except ReadError (Nat × Nat) :=
  if udp + 4 ≤ frame.length then .ok (u16At frame udp, u16At frame (udp + 2)) else .error .structError

/-- `socket.inet_ntop(socket.AF_INET6, addr)` -/
def ntop (inetNtop : List UInt8 → String) (addr : List UInt8) : Except ReadError String :=
  if addr.length = 16 then .ok (inetNtop addr) else .error .valueError

/-- What `_parse_frame` returns. -/
structure Datagram where
  innerSrc : String
  innerDst : String
  sport : Nat
  dport : Nat
  payload : List UInt8
  deriving DecidableEq

section

variable (inetNtop : List UInt8 → String)

/-- The tail of `_parse_frame`. -/
def tryParseUdp (frame : List UInt8) (ip last : Nat) (nh : UInt8) :
    Except ReadError (Option Datagram) :=
  if nh.toNat ≠ 17 then .ok none
  else if last < ip + 40 + 8 then .ok none
  else do
    let (sport, dport) ← unpackPorts frame (ip + 40)
    let src ← ntop inetNtop (slice frame (ip + 8) (ip + 24))
    let dst ← ntop inetNtop (slice frame (ip + 24) (ip + 40))
    return some ⟨src, dst, sport, dport, slice frame (ip + 48) last⟩

/-- `_parse_frame` -/
def tryParseFrame (frame : List UInt8) : Except ReadError (Option Datagram) :=
  if frame.length < 14 then .ok none
  else
    let off := 12 + tagBytes (frame.drop 12)
    let ip := off + 2
    if u16At frame off ≠ 0x86DD ∨ frame.length < ip + 40 then .ok none
    else do
      let version ← byteAt frame ip
      if version.toNat >>> 4 ≠ 6 then return none
      else
        let last := min frame.length (packetEnd frame ip)
        let nh ← byteAt frame (ip + 6)
        if nh.toNat = 41 then
          let inner := ip + 40
          if last < inner + 40 then return none
          else
            let version ← byteAt frame inner
            if version.toNat >>> 4 ≠ 6 then return none
            else
              let nh ← byteAt frame (inner + 6)
              tryParseUdp inetNtop frame inner (min last (packetEnd frame inner)) nh
        else tryParseUdp inetNtop frame ip last nh

/-- `parse_payload` -/
def tryParsePayload (raw : List UInt8) : Except ReadError (Option (Nat × Nat × Nat)) :=
  if raw.length < payloadHdrLen then .ok none
  else
    -- `struct.unpack` wants the length of the format and no more
    let hdr := slice raw 0 payloadHdrLen
    if hdr.length = 10 then .ok (some (ofBE (slice hdr 0 8), ofBE (slice hdr 8 9), ofBE (slice hdr 9 10)))
    else .error .structError

/-- What `handle` reads out of a frame: the datagram, its payload out of the BTH, and what stands in
    the payload. -/
def tryRead (frame : List UInt8) : Except ReadError (Option (Datagram × Nat × Nat × Nat)) := do
  match ← tryParseFrame inetNtop frame with
  | none => return none
  | some d =>
    let unwrapped :=
      if d.dport = sprayPort then some d.payload
      else if d.dport = rdmaPort then unwrapBth d.payload
      else none
    match unwrapped with
    | none => return none
    | some raw =>
      match ← tryParsePayload raw with
      | none => return none
      | some fields => return some ({ d with payload := raw }, fields)

end

/-- The addresses of a parsed frame are printed. -/
def ParsedFrame.print (inetNtop : List UInt8 → String) (f : ParsedFrame) : Datagram :=
  ⟨inetNtop f.innerSrc, inetNtop f.innerDst, f.sport, f.dport, f.udpPayload⟩

/-- The length of a slice within the bytes. -/
theorem length_slice {bs : List UInt8} {a b : Nat} (h : b ≤ bs.length) : (slice bs a b).length = b - a := by
  rw [slice, List.length_take, List.length_drop]
  omega

/-- A byte within the frame can be read. -/
theorem byteAt_ok {frame : List UInt8} {i : Nat} (h : i < frame.length) :
    byteAt frame i = .ok (frame.getD i 0) := if_pos h

theorem isIpv6_iff {frame : List UInt8} {ip : Nat} :
    isIpv6 frame ip = true ↔ (frame.getD ip 0).toNat >>> 4 = 6 := decide_eq_true_iff

/-- Within the frame parsing does not raise. -/
theorem tryParseUdp_eq (inetNtop : List UInt8 → String) {frame : List UInt8} {ip last : Nat}
    (hlast : last ≤ frame.length) :
    tryParseUdp inetNtop frame ip last (frame.getD (ip + 6) 0) =
      .ok ((parseUdp frame ip last).map (ParsedFrame.print inetNtop)) := by
  unfold tryParseUdp parseUdp
  by_cases hnh : (frame.getD (ip + 6) 0).toNat ≠ 17
  · rw [if_pos hnh, if_pos hnh]
    rfl
  · rw [if_neg hnh, if_neg hnh]
    by_cases hshort : last < ip + 40 + 8
    · rw [if_pos hshort, if_pos hshort]
      rfl
    · rw [if_neg hshort, if_neg hshort]
      have hports : unpackPorts frame (ip + 40) = .ok (u16At frame (ip + 40), u16At frame (ip + 42)) :=
        if_pos (by omega)
      have hsrc : ntop inetNtop (slice frame (ip + 8) (ip + 24)) =
          .ok (inetNtop (slice frame (ip + 8) (ip + 24))) := by
        refine if_pos ?_
        rw [length_slice (by omega)]
        omega
      have hdst : ntop inetNtop (slice frame (ip + 24) (ip + 40)) =
          .ok (inetNtop (slice frame (ip + 24) (ip + 40))) := by
        refine if_pos ?_
        rw [length_slice (by omega)]
        omega
      rw [hports, hsrc, hdst]
      rfl

/-- `_parse_frame` does not raise. -/
theorem tryParseFrame_eq (inetNtop : List UInt8 → String) (frame : List UInt8) :
    tryParseFrame inetNtop frame = .ok ((parseFrame frame).map (ParsedFrame.print inetNtop)) := by
  unfold tryParseFrame parseFrame
  by_cases hlen : frame.length < 14
  · rw [if_pos hlen, if_pos hlen]
    rfl
  · rw [if_neg hlen, if_neg hlen]
    dsimp only
    generalize 12 + tagBytes (frame.drop 12) = off
    by_cases hip : u16At frame off ≠ 0x86DD ∨ frame.length < off + 2 + 40
    · rw [if_pos hip, if_pos (hip.imp_right Or.inl)]
      rfl
    · have hfits := (not_or.mp hip).2
      rw [if_neg hip, byteAt_ok (by omega), byteAt_ok (by omega)]
      simp only [bind, Except.bind]
      by_cases hsix : (frame.getD (off + 2) 0).toNat >>> 4 = 6
      · have hgood : ¬ (u16At frame off ≠ 0x86DD ∨ frame.length < off + 2 + 40 ∨
            ¬ isIpv6 frame (off + 2)) := by
          rintro (h | h | h)
          · exact hip (Or.inl h)
          · exact hfits h
          · exact h (isIpv6_iff.mpr hsix)
        rw [if_neg (not_not.mpr hsix), if_neg hgood]
        have hlast : min frame.length (packetEnd frame (off + 2)) ≤ frame.length := Nat.min_le_left _ _
        generalize min frame.length (packetEnd frame (off + 2)) = last at hlast ⊢
        by_cases hencap : (frame.getD (off + 2 + 6) 0).toNat = 41
        · rw [if_pos hencap, if_pos hencap]
          by_cases hshort : last < off + 2 + 40 + 40
          · rw [if_pos hshort, if_pos (Or.inl hshort)]
            rfl
          · rw [if_neg hshort, byteAt_ok (by omega), byteAt_ok (by omega)]
            simp only
            by_cases hinner : (frame.getD (off + 2 + 40) 0).toNat >>> 4 = 6
            · have hgood : ¬ (last < off + 2 + 40 + 40 ∨ ¬ isIpv6 frame (off + 2 + 40)) := by
                rintro (h | h)
                · exact hshort h
                · exact h (isIpv6_iff.mpr hinner)
              rw [if_neg (not_not.mpr hinner), if_neg hgood]
              exact tryParseUdp_eq inetNtop ((Nat.min_le_left _ _).trans hlast)
            · have hbad : ¬ isIpv6 frame (off + 2 + 40) := fun h => hinner (isIpv6_iff.mp h)
              rw [if_pos hinner, if_pos (Or.inr hbad)]
              rfl
        · rw [if_neg hencap, if_neg hencap]
          exact tryParseUdp_eq inetNtop hlast
      · have hbad : ¬ isIpv6 frame (off + 2) := fun h => hsix (isIpv6_iff.mp h)
        rw [if_pos hsix, if_pos (Or.inr (Or.inr hbad))]
        rfl

/-- Nor does `parse_payload`. -/
theorem tryParsePayload_eq (raw : List UInt8) : tryParsePayload raw = .ok (parsePayload raw) := by
  unfold tryParsePayload parsePayload
  by_cases hshort : raw.length < payloadHdrLen
  · rw [if_pos hshort, if_pos hshort]
  · have hlen : (slice raw 0 payloadHdrLen).length = 10 := length_slice (Nat.not_lt.mp hshort)
    have hfield : ∀ a b, b ≤ 10 → slice (slice raw 0 payloadHdrLen) a b = slice raw a b := by
      intro a b hb
      unfold slice payloadHdrLen
      rw [List.drop_zero, List.drop_take, List.take_take, Nat.min_eq_left (by omega)]
    rw [if_neg hshort, if_neg hshort, if_pos hlen, hfield 0 8 (by decide), hfield 8 9 (by decide),
      hfield 9 10 (by decide)]

/-! ## Inside the frame -/

/-- Where the IPv6 headers of a frame are. -/
def ipHeaders (frame : List UInt8) : List Nat :=
  let ip := 12 + tagBytes (frame.drop 12) + 2
  if (frame.getD (ip + 6) 0).toNat = 41 then [ip, ip + 40] else [ip]

/-- Some bytes are a part of the frame, after its IPv6 headers and before the end of any of the
    IPv6 packets. -/
def LiesInside (frame payload : List UInt8) : Prop :=
  ∃ start stop, payload = slice frame start stop ∧ start ≤ stop ∧ stop ≤ frame.length ∧
    ∀ ip ∈ ipHeaders frame, ip + 48 ≤ start ∧ stop ≤ packetEnd frame ip

/-- The payload of what is parsed lies behind the headers. -/
theorem parseUdp_payload {frame : List UInt8} {ip last : Nat} {f : ParsedFrame}
    (h : parseUdp frame ip last = some f) :
    f.udpPayload = slice frame (ip + 48) last ∧ ip + 48 ≤ last := by
  unfold parseUdp at h
  split_ifs at h with hnh hshort
  rw [← Option.some.inj h]
  exact ⟨rfl, by omega⟩

/-- The payload of a parsed frame lies inside. -/
theorem parseFrame_inside {frame : List UInt8} {f : ParsedFrame} (h : parseFrame frame = some f) :
    LiesInside frame f.udpPayload := by
  unfold parseFrame at h
  unfold LiesInside ipHeaders
  split_ifs at h with hlen
  dsimp only at h ⊢
  generalize 12 + tagBytes (frame.drop 12) + 2 = ip at h ⊢
  split_ifs at h with hip hencap hinner
  · obtain ⟨hpayload, hle⟩ := parseUdp_payload h
    refine ⟨_, _, hpayload, hle, by omega, ?_⟩
    rw [if_pos hencap]
    intro header hheader
    rcases List.mem_pair.mp hheader with rfl | rfl
    · exact ⟨by omega, by omega⟩
    · exact ⟨by omega, by omega⟩
  · obtain ⟨hpayload, hle⟩ := parseUdp_payload h
    refine ⟨_, _, hpayload, hle, by omega, ?_⟩
    rw [if_neg hencap]
    intro header hheader
    rw [List.mem_singleton.mp hheader]
    exact ⟨le_refl _, by omega⟩

/-- What is in the BTH is a part of it. -/
theorem unwrapBth_inside {payload raw : List UInt8} (h : unwrapBth payload = some raw) :
    12 + 4 < payload.length ∧ raw = slice payload 12 (payload.length - 4) := by
  unfold unwrapBth at h
  split_ifs at h with hshort
  exact ⟨Nat.not_le.mp hshort, (Option.some.inj h).symm⟩

theorem slice_slice {bs : List UInt8} {a b c d : Nat} (hcd : a + d ≤ b) :
    slice (slice bs a b) c d = slice bs (a + c) (a + d) := by
  unfold slice
  rw [List.drop_take, List.take_take, List.drop_drop]
  congr 1
  omega

/-- What lies behind a BTH lies inside too. -/
theorem LiesInside.unwrap {frame payload raw : List UInt8} (h : LiesInside frame payload)
    (hraw : unwrapBth payload = some raw) : LiesInside frame raw := by
  obtain ⟨start, stop, rfl, hle, hstop, hends⟩ := h
  obtain ⟨hlong, hpart⟩ := unwrapBth_inside hraw
  rw [length_slice hstop] at hlong hpart
  rw [slice_slice (by omega)] at hpart
  refine ⟨_, _, hpart, by omega, by omega, ?_⟩
  intro ip hip
  obtain ⟨hafter, hbefore⟩ := hends ip hip
  exact ⟨by omega, by omega⟩

/-- Reading any frame comes to an end, with a payload inside of it if with any. -/
theorem tryRead_inside (inetNtop : List UInt8 → String) (frame : List UInt8) :
    tryRead inetNtop frame = .ok none ∨
      ∃ d fields, tryRead inetNtop frame = .ok (some (d, fields)) ∧ LiesInside frame d.payload := by
  unfold tryRead
  rw [tryParseFrame_eq]
  cases hframe : parseFrame frame with
  | none => exact Or.inl rfl
  | some f =>
    have hinside := parseFrame_inside hframe
    simp only [bind, Except.bind, Option.map_some]
    generalize hunwrapped : (if (f.print inetNtop).dport = sprayPort then some (f.print inetNtop).payload
      else if (f.print inetNtop).dport = rdmaPort then unwrapBth (f.print inetNtop).payload
      else none) = unwrapped
    cases unwrapped with
    | none => exact Or.inl rfl
    | some raw =>
      have hraw : LiesInside frame raw := by
        split_ifs at hunwrapped with hspray hrdma
        · rw [← Option.some.inj hunwrapped]
          exact hinside
        · exact hinside.unwrap hunwrapped
      simp only [tryParsePayload_eq]
      cases parsePayload raw with
      | none => exact Or.inl rfl
      | some fields => exact Or.inr ⟨_, fields, rfl, hraw⟩

/-! ## A header, wherever it stands -/

/-- The frame has this IPv6 header and these bytes after it, from `ip` on. -/
structure HeaderAt (frame : List UInt8) (ip payloadLen : Nat) (nh : UInt8)
    (src dst rest : List UInt8) : Prop where
  split : ∃ front : List UInt8, front.length = ip ∧
    frame = front ++ (ipv6Header payloadLen nh src dst ++ rest)
  src : src.length = 16
  dst : dst.length = 16
  payloadLen : payloadLen < 0x10000

theorem getD_split {front rest : List UInt8} {b : UInt8} {i : Nat} (h : front.length = i) :
    (front ++ b :: rest).getD i 0 = b := by
  subst h
  simp [List.getD]

/-- The two bytes after a front, as a number. -/
theorem u16At_split {front rest : List UInt8} {i n : Nat} (h : front.length = i) (hn : n < 0x10000) :
    u16At (front ++ (toBE 2 n ++ rest)) i = n := by
  unfold u16At
  rw [slice_eq _ _ rfl h (by rw [length_toBE])]
  exact ofBE_toBE hn

namespace HeaderAt

variable {frame src dst rest : List UInt8} {ip payloadLen : Nat} {nh : UInt8}

theorem isIpv6 (h : HeaderAt frame ip payloadLen nh src dst rest) : isIpv6 frame ip = true := by
  obtain ⟨front, hip, rfl⟩ := h.split
  rw [isIpv6_iff]
  have hbyte : (front ++ (ipv6Header payloadLen nh src dst ++ rest)).getD ip 0 = 0x60 := getD_split hip
  rw [hbyte]
  decide

/-- Its packet ends where the length says. -/
theorem packetEnd (h : HeaderAt frame ip payloadLen nh src dst rest) :
    packetEnd frame ip = ip + 40 + payloadLen := by
  obtain ⟨front, hip, rfl⟩ := h.split
  have hbytes : front ++ (ipv6Header payloadLen nh src dst ++ rest) = (front ++ [0x60, 0, 0, 0]) ++
      (toBE 2 payloadLen ++ ([nh, 64] ++ src ++ dst ++ rest)) := by
    simp only [ipv6Header, List.append_assoc]
  unfold Srv6Mrc.packetEnd
  rw [hbytes, u16At_split (by rw [List.length_append, hip]; rfl) h.payloadLen]

theorem nextHeader (h : HeaderAt frame ip payloadLen nh src dst rest) :
    frame.getD (ip + 6) 0 = nh := by
  obtain ⟨front, hip, rfl⟩ := h.split
  have hbytes : front ++ (ipv6Header payloadLen nh src dst ++ rest) =
      (front ++ ([0x60, 0, 0, 0] ++ toBE 2 payloadLen)) ++ nh :: (64 :: (src ++ dst ++ rest)) := by
    simp only [ipv6Header, List.append_assoc]
    rfl
  rw [hbytes]
  exact getD_split (by simp [hip])

theorem addresses (h : HeaderAt frame ip payloadLen nh src dst rest) :
    slice frame (ip + 8) (ip + 24) = src ∧ slice frame (ip + 24) (ip + 40) = dst := by
  obtain ⟨front, hip, rfl⟩ := h.split
  constructor
  · refine slice_eq (front ++ ([0x60, 0, 0, 0] ++ toBE 2 payloadLen ++ [nh, 64]))
      (dst ++ rest) ?_ (by simp [hip]) (by rw [h.src])
    simp only [ipv6Header, List.append_assoc]
  · refine slice_eq (front ++ ([0x60, 0, 0, 0] ++ toBE 2 payloadLen ++ [nh, 64] ++ src))
      rest ?_ (by simp [hip, h.src]) (by rw [h.dst])
    simp only [ipv6Header, List.append_assoc]

theorem length_le (h : HeaderAt frame ip payloadLen nh src dst rest) :
    frame.length = ip + 40 + rest.length := by
  obtain ⟨front, hip, rfl⟩ := h.split
  rw [List.length_append, List.length_append, length_ipv6Header h.src h.dst, hip]
  omega

/-- UDP over the header is read. -/
theorem parseUdp {payload padding : List UInt8} {sport dport c : Nat}
    (h : HeaderAt frame ip (8 + payload.length) 17 src dst
      (udpHeader sport dport payload.length c ++ (payload ++ padding)))
    (hsport : sport < 0x10000) (hdport : dport < 0x10000) :
    parseUdp frame ip (ip + 40 + (8 + payload.length)) = some ⟨src, dst, sport, dport, payload⟩ := by
  obtain ⟨hsrc, hdst⟩ := h.addresses
  have hlen : (ipv6Header (8 + payload.length) 17 src dst).length = 40 :=
    length_ipv6Header h.src h.dst
  unfold Srv6Mrc.parseUdp
  rw [h.nextHeader, if_neg (by decide), if_neg (by omega), hsrc, hdst]
  obtain ⟨front, hip, rfl⟩ := h.split
  -- the ports and the payload, each after what stands before it
  have hfront : (front ++ ipv6Header (8 + payload.length) 17 src dst).length = ip + 40 := by
    rw [List.length_append, hip, hlen]
  have hs : u16At (front ++ (ipv6Header (8 + payload.length) 17 src dst ++
      (udpHeader sport dport payload.length c ++ (payload ++ padding)))) (ip + 40) = sport := by
    have hbytes : front ++ (ipv6Header (8 + payload.length) 17 src dst ++
        (udpHeader sport dport payload.length c ++ (payload ++ padding))) =
          (front ++ ipv6Header (8 + payload.length) 17 src dst) ++ (toBE 2 sport ++
            (toBE 2 dport ++ toBE 2 (8 + payload.length) ++ toBE 2 c ++ (payload ++ padding))) := by
      simp only [udpHeader, List.append_assoc]
    rw [hbytes]
    exact u16At_split hfront hsport
  have hd : u16At (front ++ (ipv6Header (8 + payload.length) 17 src dst ++
      (udpHeader sport dport payload.length c ++ (payload ++ padding)))) (ip + 42) = dport := by
    have hbytes : front ++ (ipv6Header (8 + payload.length) 17 src dst ++
        (udpHeader sport dport payload.length c ++ (payload ++ padding))) =
          (front ++ ipv6Header (8 + payload.length) 17 src dst ++ toBE 2 sport) ++ (toBE 2 dport ++
            (toBE 2 (8 + payload.length) ++ toBE 2 c ++ (payload ++ padding))) := by
      simp only [udpHeader, List.append_assoc]
    rw [hbytes]
    exact u16At_split (by rw [List.length_append, hfront, length_toBE]) hdport
  have hp : slice (front ++ (ipv6Header (8 + payload.length) 17 src dst ++
      (udpHeader sport dport payload.length c ++ (payload ++ padding)))) (ip + 48)
        (ip + 40 + (8 + payload.length)) = payload := by
    refine slice_eq (front ++ ipv6Header (8 + payload.length) 17 src dst ++
      udpHeader sport dport payload.length c) padding ?_ ?_ (by omega)
    · simp only [List.append_assoc]
    · rw [List.length_append, hfront, length_udpHeader]
  rw [hs, hd, hp]

end HeaderAt

/-! ## On the wire -/

/-- An 802.1Q tag, or an 802.1ad one. -/
structure VlanTag where
  dot1ad : Bool
  tci : UInt16

def VlanTag.bytes (tag : VlanTag) : List UInt8 :=
  (if tag.dot1ad then [0x88, 0xa8] else [0x81, 0x00]) ++ toBE 2 tag.tci.toNat

/-- A packet in an Ethernet frame. -/
def ethernet (macs : List UInt8) (tags : List VlanTag) (packet padding : List UInt8) : List UInt8 :=
  macs ++ (tags.flatMap VlanTag.bytes ++ ([0x86, 0xdd] ++ (packet ++ padding)))

@[simp] theorem VlanTag.length_bytes (tag : VlanTag) : tag.bytes.length = 4 := by
  unfold VlanTag.bytes
  cases tag.dot1ad <;> simp

theorem length_tags (tags : List VlanTag) : (tags.flatMap VlanTag.bytes).length = 4 * tags.length := by
  induction tags with
  | nil => rfl
  | cons tag tags ih =>
    rw [List.flatMap_cons, List.length_append, tag.length_bytes, ih, List.length_cons]
    omega

/-- The loop over the tags goes on to the type of the packet, and stops there. -/
theorem tagBytes_tags (tags : List VlanTag) (rest : List UInt8) :
    tagBytes (tags.flatMap VlanTag.bytes ++ ([0x86, 0xdd] ++ rest)) = 4 * tags.length := by
  induction tags with
  | nil =>
    match rest with
    | [] => rfl
    | [a] => rfl
    | a :: b :: rest => exact if_neg (fun h => absurd h.1 (by decide))
  | cons tag tags ih =>
    have hmore : 2 ≤ (tags.flatMap VlanTag.bytes ++ ([0x86, 0xdd] ++ rest)).length := by
      simp only [List.length_append, List.length_cons]
      omega
    have hstep : ∀ a b c d, (ofBE [a, b] = 0x8100 ∨ ofBE [a, b] = 0x88A8) →
        tagBytes ([a, b, c, d] ++ (tags.flatMap VlanTag.bytes ++ ([0x86, 0xdd] ++ rest))) =
          4 + 4 * tags.length := by
      intro a b c d htag
      exact (if_pos ⟨htag, hmore⟩).trans (congrArg (4 + ·) ih)
    rw [List.flatMap_cons, List.append_assoc, List.length_cons, Nat.mul_succ, Nat.add_comm _ 4]
    unfold VlanTag.bytes
    cases tag.dot1ad with
    | true => exact hstep _ _ _ _ (Or.inr (by decide))
    | false => exact hstep _ _ _ _ (Or.inl (by decide))

section Frames

variable {macs packet padding : List UInt8} {tags : List VlanTag}

variable (packet padding tags) in
/-- An IPv6 packet in a frame is found. -/
theorem ethernet_type (hmacs : macs.length = 12) :
    12 + tagBytes ((ethernet macs tags packet padding).drop 12) = 12 + 4 * tags.length ∧
      u16At (ethernet macs tags packet padding) (12 + 4 * tags.length) = 0x86DD ∧
      (ethernet macs tags packet padding).length =
        12 + 4 * tags.length + 2 + packet.length + padding.length := by
  unfold ethernet
  refine ⟨?_, ?_, ?_⟩
  · rw [List.drop_left' hmacs, tagBytes_tags]
  · rw [← List.append_assoc]
    refine u16At_split (n := 0x86DD) ?_ (by decide)
    rw [List.length_append, hmacs, length_tags]
  · simp only [List.length_append, hmacs, length_tags, List.length_cons, List.length_nil]
    omega

variable (padding tags) in
/-- Behind MAC addresses and tags the header is found. -/
theorem ethernet_header (hmacs : macs.length = 12) {src dst rest : List UInt8} {n : Nat} {nh : UInt8}
    (hpacket : packet = ipv6Header n nh src dst ++ rest) (hsrc : src.length = 16)
    (hdst : dst.length = 16) (hn : n < 0x10000) :
    HeaderAt (ethernet macs tags packet padding) (12 + 4 * tags.length + 2) n nh src dst
      (rest ++ padding) := by
  refine ⟨⟨macs ++ tags.flatMap VlanTag.bytes ++ [0x86, 0xdd], ?_, ?_⟩, hsrc, hdst, hn⟩
  · rw [List.length_append, List.length_append, hmacs, length_tags]
    rfl
  · rw [hpacket]
    simp only [ethernet, List.append_assoc]

variable {src dst srcOuter dstOuter payload : List UInt8} {sport dport c : Nat}

/-- A packet without its outer header is read. -/
theorem parseFrame_inner (hmacs : macs.length = 12) (hsrc : src.length = 16) (hdst : dst.length = 16)
    (hsport : sport < 0x10000) (hdport : dport < 0x10000) (hlen : 8 + payload.length < 0x10000)
    (hpacket : packet = ipv6Header (8 + payload.length) 17 src dst ++
      (udpHeader sport dport payload.length c ++ payload)) :
    parseFrame (ethernet macs tags packet padding) = some ⟨src, dst, sport, dport, payload⟩ := by
  obtain ⟨htags, htype, hframe⟩ := ethernet_type packet padding tags
    hmacs
  have hheader := ethernet_header padding tags hmacs hpacket hsrc hdst hlen
  rw [List.append_assoc] at hheader
  have hpacketLen : packet.length = 40 + (8 + payload.length) := by
    rw [hpacket, List.length_append, length_ipv6Header hsrc hdst, List.length_append, length_udpHeader]
  have hlast : min (ethernet macs tags packet padding).length
      (packetEnd (ethernet macs tags packet padding) (12 + 4 * tags.length + 2)) =
        12 + 4 * tags.length + 2 + 40 + (8 + payload.length) := by
    rw [hheader.packetEnd]
    omega
  unfold parseFrame
  rw [if_neg (by omega), htags]
  dsimp only
  rw [if_neg, hlast, hheader.nextHeader, if_neg (by decide)]
  · exact hheader.parseUdp hsport hdport
  · rintro (h | h | h)
    · exact h htype
    · omega
    · exact h hheader.isIpv6

/-- A packet with its outer header is read. -/
theorem parseFrame_outer (hmacs : macs.length = 12) (hsrc : src.length = 16) (hdst : dst.length = 16)
    (hsrcOuter : srcOuter.length = 16) (hdstOuter : dstOuter.length = 16)
    (hsport : sport < 0x10000) (hdport : dport < 0x10000) (hlen : 40 + (8 + payload.length) < 0x10000)
    (hpacket : packet = ipv6Header (40 + (8 + payload.length)) 41 srcOuter dstOuter ++
      (ipv6Header (8 + payload.length) 17 src dst ++
        (udpHeader sport dport payload.length c ++ payload))) :
    parseFrame (ethernet macs tags packet padding) = some ⟨src, dst, sport, dport, payload⟩ := by
  obtain ⟨htags, htype, hframe⟩ := ethernet_type packet padding tags
    hmacs
  have hheader := ethernet_header padding tags hmacs hpacket hsrcOuter
    hdstOuter hlen
  have hinner : HeaderAt (ethernet macs tags packet padding) (12 + 4 * tags.length + 2 + 40)
      (8 + payload.length) 17 src dst
      (udpHeader sport dport payload.length c ++ (payload ++ padding)) := by
    obtain ⟨front, hfront, hsplit⟩ := hheader.split
    refine ⟨⟨front ++ ipv6Header (40 + (8 + payload.length)) 41 srcOuter dstOuter, ?_, ?_⟩, hsrc, hdst,
      by omega⟩
    · rw [List.length_append, length_ipv6Header hsrcOuter hdstOuter, hfront]
    · rw [hsplit]
      simp only [List.append_assoc]
  have hpacketLen : packet.length = 40 + (40 + (8 + payload.length)) := by
    rw [hpacket, List.length_append, List.length_append, length_ipv6Header hsrcOuter hdstOuter,
      length_ipv6Header hsrc hdst, List.length_append, length_udpHeader]
  have hlast : min (ethernet macs tags packet padding).length
      (packetEnd (ethernet macs tags packet padding) (12 + 4 * tags.length + 2)) =
        12 + 4 * tags.length + 2 + 40 + (40 + (8 + payload.length)) := by
    rw [hheader.packetEnd]
    omega
  have hinnerLast : min (12 + 4 * tags.length + 2 + 40 + (40 + (8 + payload.length)))
      (packetEnd (ethernet macs tags packet padding) (12 + 4 * tags.length + 2 + 40)) =
        12 + 4 * tags.length + 2 + 40 + 40 + (8 + payload.length) := by
    rw [hinner.packetEnd]
    omega
  unfold parseFrame
  rw [if_neg (by omega), htags]
  dsimp only
  rw [if_neg, hlast, hheader.nextHeader, if_pos (by decide), if_neg, hinnerLast]
  · exact hinner.parseUdp hsport hdport
  · rintro (h | h)
    · omega
    · exact h hinner.isIpv6
  · rintro (h | h | h)
    · exact h htype
    · omega
    · exact h hheader.isIpv6

end Frames

/-! ## What was built is read -/

/-- What the BTH was put around comes out of it. -/
theorem unwrapBth_bth {opcode dqpn psn : Nat} {congestion : UInt8} {mrc icrc : List UInt8}
    (hmrc : mrc ≠ []) (hicrc : icrc.length = 4) :
    unwrapBth (bthHeader opcode congestion dqpn psn ++ mrc ++ icrc) = some mrc := by
  have hlen : (bthHeader opcode congestion dqpn psn ++ mrc ++ icrc).length = 12 + mrc.length + 4 := by
    rw [List.length_append, List.length_append, length_bthHeader, hicrc]
  have hpos := List.length_pos_iff.mpr hmrc
  unfold unwrapBth
  rw [if_neg (by omega), hlen]
  refine congrArg some (slice_eq _ _ (List.append_assoc _ _ _) length_bthHeader ?_)
  omega

/-- The payload of a packet is read back. -/
theorem parsePayload_mrc {seq plane path : Int} (rest : List UInt8) (hseq : 0 ≤ seq ∧ seq < 2 ^ 64)
    (hplane : 0 ≤ plane ∧ plane < 256) (hpath : 0 ≤ path ∧ path < 256) :
    parsePayload (payloadHdr seq plane path ++ rest) =
      some (seq.toNat, plane.toNat, path.toNat) := by
  have hread : ∀ a b w n (front back : List UInt8), front.length = a → a + w = b → n < 256 ^ w →
      payloadHdr seq plane path ++ rest = front ++ (toBE w n ++ back) →
        ofBE (slice (payloadHdr seq plane path ++ rest) a b) = n := by
    intro a b w n front back hfront hb hn hbytes
    rw [slice_eq _ _ hbytes hfront (by rw [length_toBE, hb]), ofBE_toBE hn]
  unfold parsePayload
  have hlong : ¬ (payloadHdr seq plane path ++ rest).length < payloadHdrLen := by
    simp only [payloadHdr, payloadHdrLen, List.length_append, length_toBE]
    omega
  rw [if_neg hlong,
    hread 0 8 8 seq.toNat [] (toBE 1 plane.toNat ++ (toBE 1 path.toNat ++ rest)) rfl rfl (by omega)
      (by simp only [payloadHdr, List.append_assoc, List.nil_append]),
    hread 8 9 1 plane.toNat (toBE 8 seq.toNat) (toBE 1 path.toNat ++ rest) (by rw [length_toBE]) rfl
      (by omega) (by simp only [payloadHdr, List.append_assoc]),
    hread 9 10 1 path.toNat (toBE 8 seq.toNat ++ toBE 1 plane.toNat) rest
      (by rw [List.length_append, length_toBE, length_toBE]) rfl (by omega)
      (by simp only [payloadHdr, List.append_assoc])]

section Built

variable {S : Scapy} {inetPton : String → List UInt8} {T : Topo}
  {srcUnderlay dstOuter srcInner dstInner transport : String} {seq plane path : Int} {trimmed : Bool}
  {bytes : List UInt8}

/-- `DPORT` of a transport. -/
def dportOf (transport : String) : Nat := if transport = "rdma" then rdmaPort else sprayPort

/-- The payload that is around the MRC payload. -/
def Wraps (transport : String) (payload mrc : List UInt8) : Prop :=
  if transport = "rdma" then unwrapBth payload = some mrc else payload = mrc

/-- What is built is a packet around its MRC payload. -/
theorem buildPacketBytes_packet (h : S.Conforms inetPton)
    (hbuilt : buildPacketBytes T S srcUnderlay dstOuter srcInner dstInner seq plane path transport
      trimmed = .ok bytes) :
    ∃ mrc payload c, mrcPayload seq plane path trimmed = .ok mrc ∧ Wraps transport payload mrc ∧
      payload.length < 128 ∧ bytes = packetWith inetPton srcUnderlay dstOuter srcInner dstInner
        sprayPort (dportOf transport) c payload := by
  unfold buildPacketBytes at hbuilt
  cases hmrc : mrcPayload seq plane path trimmed with
  | error err =>
    rw [hmrc] at hbuilt
    exact absurd hbuilt (by simp [bind, Except.bind])
  | ok mrc =>
    have hlen : mrc.length < 64 := by
      rw [length_mrcPayload hmrc]
      exact mrcLen_lt
    rw [hmrc] at hbuilt
    simp only [bind, Except.bind] at hbuilt
    unfold Wraps dportOf
    by_cases hrdma : transport = "rdma"
    · -- the RoCE transport wraps the payload, and `unwrap_bth` takes it out again
      rw [if_pos hrdma] at hbuilt
      simp only [if_pos hrdma]
      unfold wrapRdma at hbuilt
      cases hdqpn : T.dqpnForEv plane path with
      | error err =>
        rw [hdqpn] at hbuilt
        exact absurd hbuilt (by simp [bind, Except.bind, liftTopo])
      | ok dqpn =>
        obtain ⟨-, ⟨-, hplane⟩, -, hpath⟩ := mrcPayload_range hmrc
        rw [hdqpn] at hbuilt
        rw [← Except.ok.inj hbuilt, roce_drop h (by omega) (dqpnForEv_lt hdqpn hplane hpath) (by omega)]
        generalize hicrc : icrcBytes _ = icrc
        have hicrcLen : icrc.length = 4 := by rw [← hicrc, length_icrcBytes]
        have hpayload : (bthHeader rdmaOpcode 0 dqpn (seq % 0x1000000).toNat ++ mrc ++ icrc).length =
            12 + mrc.length + 4 := by
          rw [List.length_append, List.length_append, length_bthHeader, hicrcLen]
        have hne : mrc ≠ [] := by
          intro hnil
          have hlen' := length_mrcPayload hmrc
          rw [hnil] at hlen'
          cases trimmed <;> exact absurd hlen' (by decide)
        obtain ⟨c, -, hpacket⟩ := h.encapsulated srcUnderlay dstOuter srcInner dstInner sprayPort
          rdmaPort (bthHeader rdmaOpcode 0 dqpn (seq % 0x1000000).toNat ++ mrc ++ icrc) (by omega)
        exact ⟨mrc, _, c, rfl, unwrapBth_bth hne hicrcLen, by omega, hpacket⟩
    · -- over plain UDP the payload is the packet's own
      rw [if_neg hrdma] at hbuilt
      simp only [if_neg hrdma]
      obtain ⟨c, -, hpacket⟩ := h.encapsulated srcUnderlay dstOuter srcInner dstInner sprayPort
        sprayPort mrc (by omega)
      rw [← Except.ok.inj hbuilt]
      exact ⟨mrc, mrc, c, rfl, rfl, by omega, hpacket⟩

/-- A frame around a packet that was built, with the outer header or without it. -/
def Carries (frame bytes : List UInt8) : Prop :=
  ∃ macs tags packet padding, macs.length = 12 ∧ (packet = bytes ∨ packet = bytes.drop 40) ∧
    frame = ethernet macs tags packet padding

/-- A packet that was built is read back. -/
theorem parseFrame_built (h : S.Conforms inetPton) {sport dport c : Nat} {payload frame : List UInt8}
    (hsport : sport < 0x10000) (hdport : dport < 0x10000) (hlen : payload.length < 128)
    (hframe : Carries frame
      (packetWith inetPton srcUnderlay dstOuter srcInner dstInner sport dport c payload)) :
    parseFrame frame = some ⟨inetPton srcInner, inetPton dstInner, sport, dport, payload⟩ := by
  have hso := h.address srcUnderlay
  have hdo := h.address dstOuter
  have hsi := h.address srcInner
  have hdi := h.address dstInner
  obtain ⟨macs, tags, packet, padding, hmacs, hpacket, rfl⟩ := hframe
  rcases hpacket with rfl | rfl
  · refine parseFrame_outer (c := c) hmacs hsi hdi hso hdo hsport hdport (by omega) ?_
    simp only [packetWith, List.append_assoc]
  · refine parseFrame_inner (c := c) hmacs hsi hdi hsport hdport (by omega) ?_
    simp only [packetWith, List.append_assoc]
    exact List.drop_left' (length_ipv6Header hso hdo)

/-- What the sender built is read back, and whether it was trimmed. -/
theorem tryRead_built (h : S.Conforms inetPton) (inetNtop : List UInt8 → String)
    (hbuilt : buildPacketBytes T S srcUnderlay dstOuter srcInner dstInner seq plane path transport
      trimmed = .ok bytes) {frame : List UInt8} (hframe : Carries frame bytes) :
    ∃ mrc, tryRead inetNtop frame = .ok (some (⟨inetNtop (inetPton srcInner),
        inetNtop (inetPton dstInner), sprayPort, dportOf transport, mrc⟩,
        seq.toNat, plane.toNat, path.toNat)) ∧
      (mrc.length = payloadHdrLen ↔ trimmed = true) := by
  obtain ⟨mrc, payload, c, hmrc, hwraps, hlen, rfl⟩ := buildPacketBytes_packet h hbuilt
  obtain ⟨hseq, hplane, hpath⟩ := mrcPayload_range hmrc
  have hdport : dportOf transport < 0x10000 := by
    unfold dportOf
    split_ifs <;> decide
  have hparsed := parseFrame_built h (by decide) hdport hlen hframe
  have hfields : parsePayload mrc = some (seq.toNat, plane.toNat, path.toNat) := by
    rw [mrcPayload_ok trimmed hseq hplane hpath] at hmrc
    rw [← Except.ok.inj hmrc]
    exact parsePayload_mrc _ hseq hplane hpath
  have hunwrapped : (if dportOf transport = sprayPort then some payload
      else if dportOf transport = rdmaPort then unwrapBth payload else none) = some mrc := by
    unfold Wraps at hwraps
    unfold dportOf
    by_cases hrdma : transport = "rdma"
    · rw [if_pos hrdma] at hwraps
      rw [if_pos hrdma, if_neg (by decide), if_pos rfl]
      exact hwraps
    · rw [if_neg hrdma] at hwraps
      rw [if_neg hrdma, if_pos rfl, hwraps]
  refine ⟨mrc, ?_, ?_⟩
  · unfold tryRead
    rw [tryParseFrame_eq, hparsed]
    simp only [bind, Except.bind, Option.map_some, ParsedFrame.print, hunwrapped,
      tryParsePayload_eq, hfields]
    rfl
  · rw [length_mrcPayload hmrc]
    cases trimmed <;> decide

end Built

/-- The receiver reads what the sender built, in any frame; and whatever the frame, it does not raise,
    and its payload is within the frame and the IPv6 packets. -/
theorem receiver_inverts_builder {S : Scapy} {inetPton : String → List UInt8}
    (h : S.Conforms inetPton) (inetNtop : List UInt8 → String) (T : Topo) :
    (∀ srcUnderlay dstOuter srcInner dstInner seq plane path transport trimmed bytes,
      buildPacketBytes T S srcUnderlay dstOuter srcInner dstInner seq plane path transport trimmed =
          .ok bytes →
        ∀ frame, Carries frame bytes → ∃ mrc s p q,
          tryRead inetNtop frame = .ok (some (⟨inetNtop (inetPton srcInner),
            inetNtop (inetPton dstInner), sprayPort, dportOf transport, mrc⟩, s, p, q)) ∧
          ((s : Int) = seq ∧ (p : Int) = plane ∧ (q : Int) = path) ∧
          (mrc.length = 10 ↔ trimmed = true)) ∧
    (∀ frame, tryParseFrame inetNtop frame = .ok none ∨
      ∃ d, tryParseFrame inetNtop frame = .ok (some d) ∧ LiesInside frame d.payload) ∧
    (∀ frame, tryRead inetNtop frame = .ok none ∨
      ∃ d fields, tryRead inetNtop frame = .ok (some (d, fields)) ∧ LiesInside frame d.payload) ∧
    ∀ raw, (∃ fields, tryParsePayload raw = .ok fields) ∧ (unwrapBth raw = none ∨
      ∃ start stop, start ≤ stop ∧ stop ≤ raw.length ∧ unwrapBth raw = some (slice raw start stop)) := by
  refine ⟨?_, ?_, tryRead_inside inetNtop, ?_⟩
  · intro srcUnderlay dstOuter srcInner dstInner seq plane path transport trimmed bytes hbuilt frame
      hframe
    obtain ⟨mrc, payload, c, hmrc, -⟩ := buildPacketBytes_packet h hbuilt
    obtain ⟨⟨hseq, -⟩, ⟨hplane, -⟩, hpath, -⟩ := mrcPayload_range hmrc
    obtain ⟨mrc, hread, htrimmed⟩ := tryRead_built h inetNtop hbuilt hframe
    exact ⟨mrc, _, _, _, hread, ⟨Int.toNat_of_nonneg hseq, Int.toNat_of_nonneg hplane,
      Int.toNat_of_nonneg hpath⟩, htrimmed⟩
  · intro frame
    rw [tryParseFrame_eq]
    cases hframe : parseFrame frame with
    | none => exact Or.inl rfl
    | some f => exact Or.inr ⟨_, rfl, parseFrame_inside hframe⟩
  · intro raw
    refine ⟨⟨_, tryParsePayload_eq raw⟩, ?_⟩
    cases hraw : unwrapBth raw with
    | none => exact Or.inl rfl
    | some payload =>
      obtain ⟨hlong, rfl⟩ := unwrapBth_inside hraw
      exact Or.inr ⟨12, raw.length - 4, by omega, by omega, rfl⟩

/-- `inet_ntop` -/
def inetNtop6 (addr : List UInt8) : String :=
  match Ipv6.ofHextets (Checksum.words addr) with
  | some ip => IPv6Address.str ⟨ip, none⟩
  | none => ""

/-- A trimmed RoCE packet behind a tag, without its outer header and padded. -/
theorem receiver_inverts_trimmed :
    ∃ bytes mrc, buildPacketBytes ⟨4, 8, 16, ["green", "yellow"]⟩ (rfcScapy inetPton6)
        "2001:db8:bbbb:2::1" "fc00:1:f002:e005:d000::" "2001:db8:bbbb:02::1" "2001:db8:bbbb:05::1"
        41 1 2 "rdma" true = .ok bytes ∧
      tryRead inetNtop6 (ethernet (List.replicate 12 0) [⟨false, 10⟩] (bytes.drop 40) [0, 0, 0]) =
        .ok (some (⟨"2001:db8:bbbb:2::1", "2001:db8:bbbb:5::1", 9999, 4791, mrc⟩, 41, 1, 2)) ∧
      mrc.length = 10 := by
  have hok : ∃ bytes, buildPacketBytes ⟨4, 8, 16, ["green", "yellow"]⟩ (rfcScapy inetPton6)
      "2001:db8:bbbb:2::1" "fc00:1:f002:e005:d000::" "2001:db8:bbbb:02::1" "2001:db8:bbbb:05::1"
      41 1 2 "rdma" true = .ok bytes := buildPacketBytes_ok (by decide) (by decide) (by decide)
  obtain ⟨bytes, hbytes⟩ := hok
  obtain ⟨hbuilt, -⟩ := receiver_inverts_builder (rfcScapy_conforms length_inetPton6) inetNtop6
    ⟨4, 8, 16, ["green", "yellow"]⟩
  obtain ⟨mrc, s, p, q, hread, ⟨hs, hp, hq⟩, htrimmed⟩ := hbuilt _ _ _ _ _ _ _ _ _ bytes hbytes
    (ethernet (List.replicate 12 0) [⟨false, 10⟩] (bytes.drop 40) [0, 0, 0])
    ⟨_, _, _, _, List.length_replicate, Or.inr rfl, rfl⟩
  have hsrc : inetNtop6 (inetPton6 "2001:db8:bbbb:02::1") = "2001:db8:bbbb:2::1" := by decide
  have hdst : inetNtop6 (inetPton6 "2001:db8:bbbb:05::1") = "2001:db8:bbbb:5::1" := by decide
  obtain rfl : s = 41 := by omega
  obtain rfl : p = 1 := by omega
  obtain rfl : q = 2 := by omega
  rw [hsrc, hdst] at hread
  exact ⟨bytes, mrc, hbytes, hread, htrimmed.mpr rfl⟩

end Srv6Mrc
