/-
  `srv6_mrc/encap.py`: `udp6_checksum_inplace`, on any buffer.

  The function writes two bytes, and a receiver that sums up the pseudo-header and the datagram gets
  all ones.  It does not clear the field before it sums up: that the caller has done so is needed, or
  that the field was all ones, which is the other zero of the sum (`udp6ChecksumInplace_iff`).
-/
import Srv6Mrc.Packet.Fast

namespace Srv6Mrc

open Wire Checksum

/-- What a receiver sums up: the pseudo-header, and the datagram with its checksum. -/
def summed (buf : List UInt8) (payloadLen : Nat) : List UInt8 :=
  pseudoHeader (slice buf 48 64) (slice buf 64 80) (8 + payloadLen) ++
    slice buf 80 (80 + (8 + payloadLen))

/-- The checksum field. -/
def csumField (buf : List UInt8) : Nat := ofBE (slice buf udpCsumOffset (udpCsumOffset + 2))

/-! ## The parts of a buffer -/

/-- A part in the middle is not seen outside of it. -/
theorem getElem_middle {as xs ys bs : List UInt8} (h : ys.length = xs.length) {i : Nat}
    (hi : i < as.length ∨ as.length + ys.length ≤ i) :
    (as ++ (ys ++ bs))[i]? = (as ++ (xs ++ bs))[i]? := by
  by_cases hlt : i < as.length
  · rw [List.getElem?_append_left hlt, List.getElem?_append_left hlt]
  · have hge : as.length ≤ i := by omega
    have hback : ys.length ≤ i - as.length := by omega
    rw [List.getElem?_append_right hge, List.getElem?_append_right hge,
      List.getElem?_append_right hback, List.getElem?_append_right (h ▸ hback), h]

/-- A buffer in parts: up to the inner addresses, these, the UDP header up to the checksum, the
    checksum, the payload, and what may come after it. -/
structure Parts (payloadLen : Nat) where
  front : List UInt8
  src : List UInt8
  dst : List UInt8
  ports : List UInt8
  field : List UInt8
  payload : List UInt8
  rest : List UInt8
  length_front : front.length = 48
  length_src : src.length = 16
  length_dst : dst.length = 16
  length_ports : ports.length = 6
  length_field : field.length = 2
  length_payload : payload.length = payloadLen

namespace Parts

variable {n : Nat}

/-- The buffer. -/
def buf (x : Parts n) : List UInt8 :=
  x.front ++ (x.src ++ (x.dst ++ (x.ports ++ (x.field ++ (x.payload ++ x.rest)))))

/-- Another checksum. -/
def withField (x : Parts n) (field : List UInt8) (h : field.length = 2) : Parts n :=
  { x with field := field, length_field := h }

/-- Every buffer that is long enough has these parts. -/
theorem exists_buf {buf : List UInt8} (h : 88 + n ≤ buf.length) : ∃ x : Parts n, x.buf = buf := by
  refine ⟨⟨buf.take 48, (buf.drop 48).take 16, (buf.drop 64).take 16, (buf.drop 80).take 6,
    (buf.drop 86).take 2, (buf.drop 88).take n, buf.drop (88 + n), ?_, ?_, ?_, ?_, ?_, ?_⟩, ?_⟩
  all_goals try simp only [List.length_take, List.length_drop]; omega
  have hcut : ∀ a k, (buf.drop a).take k ++ buf.drop (a + k) = buf.drop a := by
    intro a k
    rw [← List.drop_drop]
    exact List.take_append_drop k (buf.drop a)
  unfold Parts.buf
  dsimp only
  rw [hcut 88 n, hcut 86 2, hcut 80 6, hcut 64 16, hcut 48 16]
  exact List.take_append_drop 48 buf

variable (x : Parts n)

theorem slice_src : slice x.buf 48 64 = x.src :=
  slice_eq x.front _ rfl x.length_front (by rw [x.length_src])

theorem slice_dst : slice x.buf 64 80 = x.dst := by
  refine slice_eq (x.front ++ x.src) (x.ports ++ (x.field ++ (x.payload ++ x.rest))) ?_ ?_ ?_
  · unfold buf
    simp only [List.append_assoc]
  · rw [List.length_append, x.length_front, x.length_src]
  · rw [x.length_dst]

theorem slice_udp : slice x.buf 80 (80 + (8 + n)) = x.ports ++ (x.field ++ x.payload) := by
  refine slice_eq (x.front ++ x.src ++ x.dst) x.rest ?_ ?_ ?_
  · unfold buf
    simp only [List.append_assoc]
  · rw [List.length_append, List.length_append, x.length_front, x.length_src, x.length_dst]
  · rw [List.length_append, List.length_append, x.length_ports, x.length_field, x.length_payload]
    omega

theorem csumField_eq : csumField x.buf = ofBE x.field := by
  unfold csumField
  rw [slice_eq (x.front ++ x.src ++ x.dst ++ x.ports) (x.payload ++ x.rest)]
  · unfold buf
    simp only [List.append_assoc]
  · simp only [List.length_append, x.length_front, x.length_src, x.length_dst, x.length_ports]
    rfl
  · rw [x.length_field]

theorem summed_eq : summed x.buf n
    = pseudoHeader x.src x.dst (8 + n) ++ (x.ports ++ (x.field ++ x.payload)) := by
  unfold summed
  rw [slice_src, slice_dst, slice_udp]

/-- The function writes the checksum of what is summed up. -/
theorem inplace_eq : udp6ChecksumInplace x.buf n
    = (x.withField (toBE 2 (checksum (summed x.buf n))) (length_toBE 2 _)).buf := by
  have hsummed : summed x.buf n = slice x.buf 48 (48 + 16) ++ slice x.buf 64 (64 + 16) ++
      toBE 4 (8 + n) ++ [0, 0, 0, 0x11] ++ slice x.buf 80 (80 + (8 + n)) := rfl
  unfold udp6ChecksumInplace
  dsimp only
  rw [← hsummed]
  have hset := setSlice_eq x.buf (x.front ++ x.src ++ x.dst ++ x.ports) x.field
    (x.payload ++ x.rest) (toBE 2 (checksum (summed x.buf n))) udpCsumOffset (udpCsumOffset + 2)
    (by unfold buf; simp only [List.append_assoc])
    (by simp only [List.length_append, x.length_front, x.length_src, x.length_dst, x.length_ports]
        rfl)
    (by rw [x.length_field])
  rw [hset]
  unfold withField buf
  simp only [List.append_assoc]

/-- The words of what is summed up: the checksum is one of them. -/
theorem wordSum_summed : wordSum (summed x.buf n)
    = wordSum (pseudoHeader x.src x.dst (8 + n) ++ x.ports) + ofBE x.field + wordSum x.payload := by
  have hhead : (pseudoHeader x.src x.dst (8 + n) ++ x.ports).length % 2 = 0 := by
    rw [List.length_append, length_pseudoHeader x.length_src x.length_dst, x.length_ports]
  have hfield : x.field.length % 2 = 0 := by rw [x.length_field]
  have hword : wordSum x.field = ofBE x.field := by
    obtain ⟨a, b, hab⟩ := List.length_eq_two.mp x.length_field
    rw [hab]
    show a.toNat * 256 + b.toNat + 0 = a.toNat * 256 ^ 1 + (b.toNat * 256 ^ 0 + 0)
    omega
  rw [summed_eq, ← List.append_assoc, wordSum_append hhead, wordSum_append hfield, hword]
  omega

/-- Outside of the field nothing depends on it. -/
theorem getElem_withField (field : List UInt8) (h : field.length = 2) {i : Nat}
    (hi : i ≠ 86 ∧ i ≠ 87) : (x.withField field h).buf[i]? = x.buf[i]? := by
  have hfront : (x.front ++ x.src ++ x.dst ++ x.ports).length = 86 := by
    simp only [List.length_append, x.length_front, x.length_src, x.length_dst, x.length_ports]
  have hbuf : ∀ y : Parts n, y.buf = (y.front ++ y.src ++ y.dst ++ y.ports) ++ (y.field ++
      (y.payload ++ y.rest)) := by
    intro y
    unfold buf
    simp only [List.append_assoc]
  rw [hbuf, hbuf x]
  have hout : i < (x.front ++ x.src ++ x.dst ++ x.ports).length ∨
      (x.front ++ x.src ++ x.dst ++ x.ports).length + field.length ≤ i := by
    rw [hfront, h]
    omega
  exact getElem_middle (h.trans x.length_field.symm) hout

theorem length_withField (field : List UInt8) (h : field.length = 2) :
    (x.withField field h).buf.length = x.buf.length := by
  unfold buf withField
  simp only [List.length_append, x.length_field, h]

end Parts

/-- What the checksum does to a buffer. -/
structure Checksummed (buf buf' : List UInt8) (payloadLen : Nat) : Prop where
  length : buf'.length = buf.length
  /-- Every byte outside of the field stays. -/
  others : ∀ i, i ≠ 86 ∧ i ≠ 87 → buf'[i]? = buf[i]?
  /-- Zero would mean that there is no checksum. -/
  nonzero : csumField buf' ≠ 0
  /-- The checksum is right exactly if the field was one of the two zeros before. -/
  verifies : onesSum (summed buf' payloadLen) = 0xFFFF ↔ csumField buf = 0 ∨ csumField buf = 0xFFFF

/-- On every buffer with room for the headers and the payload, whatever its bytes and whether the
    payload has an even length or not; a length that `struct.pack` does not take raises. -/
theorem udp6ChecksumInplace_iff (buf : List UInt8) (payloadLen : Nat)
    (hlen : 88 + payloadLen ≤ buf.length) (_hpack : 8 + payloadLen < 2 ^ 32) :
    Checksummed buf (udp6ChecksumInplace buf payloadLen) payloadLen := by
  obtain ⟨x, rfl⟩ := Parts.exists_buf hlen
  rw [x.inplace_eq]
  have hpos : 0 < wordSum (summed x.buf payloadLen) := by
    rw [x.summed_eq]
    exact wordSum_pseudo_pos x.length_src x.length_dst
  obtain ⟨hcpos, hclt, hmod⟩ := checksum_verifies hpos
  generalize checksum (summed x.buf payloadLen) = c at hcpos hclt hmod ⊢
  have hfield : csumField (x.withField (toBE 2 c) (length_toBE 2 c)).buf = c :=
    (Parts.csumField_eq _).trans (ofBE_toBE (by omega))
  have hpos' : 0 < wordSum (summed (x.withField (toBE 2 c) (length_toBE 2 c)).buf payloadLen) := by
    rw [Parts.summed_eq]
    exact wordSum_pseudo_pos x.length_src x.length_dst
  refine ⟨x.length_withField _ _, fun i hi => x.getElem_withField _ _ hi, by omega, ?_⟩
  -- the old field was summed up too, so what is left of the sum is the old field
  have hold := x.wordSum_summed
  have hnew := (x.withField (toBE 2 c) (length_toBE 2 c)).wordSum_summed
  have hlt : ofBE x.field < 256 ^ 2 := x.length_field ▸ ofBE_lt x.field
  have hc : ofBE (toBE 2 c) = c := ofBE_toBE (by omega)
  unfold Parts.withField at hnew
  dsimp only at hnew
  rw [hc] at hnew
  rw [onesSum_eq_iff hpos', x.csumField_eq]
  unfold Parts.withField
  omega

/-- A payload of one byte. -/
theorem udp6ChecksumInplace_iff_odd :
    Checksummed (List.replicate 88 0 ++ [7]) (udp6ChecksumInplace (List.replicate 88 0 ++ [7]) 1) 1 :=
  udp6ChecksumInplace_iff _ 1 (by decide) (by decide)

end Srv6Mrc
