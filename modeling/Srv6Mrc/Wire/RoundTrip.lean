/-
  The control messages round-trip, and no payload is two messages at once.

  Both directions meet at the field tuple: an encoder packs it, a decoder unpacks it, and `Lib.Wire`
  says that these are inverse.  What is left for this file is what a decoder does with the tuple —
  the tests on magic, version and length, written on the payload's own bytes by the three `_cons`
  equations — and what becomes of the fields that carry nothing.
-/
import Srv6Mrc.Lib.Outcome
import Srv6Mrc.Wire.Probe

namespace Srv6Mrc

open Wire

/-! ## The constructors accept what was decoded -/

/-- The fields of a probe make the probe. -/
@[simp] theorem Probe.new_toNat (p q : UInt8) (t s : UInt16) (d : UInt8) :
    Probe.new p.toNat q.toNat t.toNat s.toNat d.toNat = .ok ⟨p, q, t, s, d⟩ := by
  simp only [Probe.new, checkU8_toNat, checkU16_toNat]
  rfl

/-- The fields of a NACK make the NACK. -/
@[simp] theorem Nack.new_toNat (p q : UInt8) (t s d : UInt16) (seq : UInt64) :
    Nack.new p.toNat q.toNat t.toNat s.toNat d.toNat seq.toNat = .ok ⟨p, q, t, s, d, seq⟩ := by
  simp only [Nack.new, checkU8_toNat, checkU16_toNat, checkSeq_toNat]
  rfl

/-- The record that a record's fields stand for. -/
def recordOf (version : UInt8) : Fields lossRecFmt → PlaneLossRecord
  | (planeId, pathId, r16, seen, expected, maxGap, ()) =>
    ⟨planeId, pathId, seen, expected, maxGap,
      if version = lossReportVersionTrimmed then .ofNat r16.toNat else 0⟩

theorem decodeRecord_eq (version : UInt8) (fields : Fields lossRecFmt) :
    decodeRecord version fields = .ok (recordOf version fields) := by
  obtain ⟨p, q, r16, seen, expected, maxGap, ⟨⟩⟩ := fields
  have htrimmed : checkU32 (if version = lossReportVersionTrimmed then (r16.toNat : Int) else 0)
      "trimmed" = .ok (if version = lossReportVersionTrimmed then .ofNat r16.toNat else 0) := by
    have hlt : r16.toNat < 2 ^ 16 := r16.toNat_lt
    split
    · rw [checkU32, if_neg (by omega), Int.toNat_natCast]
    · rfl
  simp only [decodeRecord, PlaneLossRecord.new, checkU8_toNat, checkU32_toNat, htrimmed]
  rfl

/-- Any list of fields is a list of records. -/
theorem mapM_decodeRecord (version : UInt8) (recs : List (Fields lossRecFmt)) :
    recs.mapM (decodeRecord version) = .ok (recs.map (recordOf version)) :=
  Outcome.mapM_ok fun fields _ => decodeRecord_eq version fields

/-! ## What the decoders accept -/

/-- With bytes enough, magic and version decide whether it is a probe. -/
theorem decodeProbe_cons (magic version : UInt8) {bs : List UInt8} (h : 8 ≤ bs.length) :
    decodeProbe (magic :: version :: bs)
      = if magic ≠ magicProbe then .error (.probeMagic magicProbe magic)
        else if version ≠ probeVersion then .error (.probeVersion version)
        else
          let (p, q, t, s, d, _, ()) := unpack [.B, .B, .H, .H, .B, .B] bs
          .ok ⟨p, q, t, s, d⟩ := by
  have hlen : calcsize probeFmt ≤ (magic :: version :: bs).length := by
    show 10 ≤ bs.length + 1 + 1
    omega
  unfold decodeProbe
  rw [if_neg (Nat.not_lt.mpr hlen), unpack_take probeFmt hlen, unpack_byte, unpack_byte]
  obtain ⟨p, q, t, s, d, r, ⟨⟩⟩ := unpack [.B, .B, .H, .H, .B, .B] bs
  simp only [Probe.new_toNat]

/-- With bytes enough, magic and version decide whether it is a NACK. -/
theorem decodeNack_cons (magic version : UInt8) {bs : List UInt8} (h : 16 ≤ bs.length) :
    decodeNack (magic :: version :: bs)
      = if magic ≠ magicNack then .error (.nackMagic magicNack magic)
        else if version ≠ nackVersion then .error (.nackVersion version)
        else
          let (p, q, t, s, d, seq, ()) := unpack [.B, .B, .H, .H, .H, .Q] bs
          .ok ⟨p, q, t, s, d, seq⟩ := by
  have hlen : calcsize nackFmt ≤ (magic :: version :: bs).length := by
    show 18 ≤ bs.length + 1 + 1
    omega
  unfold decodeNack
  rw [if_neg (Nat.not_lt.mpr hlen), unpack_take nackFmt hlen, unpack_byte, unpack_byte]
  obtain ⟨p, q, t, s, d, seq, ⟨⟩⟩ := unpack [.B, .B, .H, .H, .H, .Q] bs
  simp only [Nack.new_toNat]

/-- The number of records a LOSS_REPORT's header announces. -/
def numRecords (payload : List UInt8) : Nat :=
  (payload.getD 4 0).toNat * 256 + (payload.getD 5 0).toNat

theorem toNat_unpack_H (fmt : List Code) (b₀ b₁ : UInt8) (bs : List UInt8) :
    UInt16.toNat (unpack (.H :: fmt) (b₀ :: b₁ :: bs)).1 = b₀.toNat * 256 + b₁.toNat := by
  have hlt : ofBE [b₀, b₁] < 256 ^ 2 := ofBE_lt [b₀, b₁]
  have hval : ofBE [b₀, b₁] = b₀.toNat * 256 + b₁.toNat := by
    show b₀.toNat * 256 ^ 1 + (b₁.toNat * 256 ^ 0 + 0) = _
    rw [pow_one, pow_zero, Nat.mul_one, Nat.add_zero]
  rw [← hval]
  exact Code.toNum_ofNum .H hlt

/-- The two bytes of the count are bytes 4 and 5 of the payload. -/
theorem toNat_count (magic version : UInt8) (bs : List UInt8) (h : 6 ≤ bs.length) :
    UInt16.toNat (unpack [.H, .H, .H] bs).2.1 = numRecords (magic :: version :: bs) := by
  match bs, h with
  | b₂ :: b₃ :: b₄ :: b₅ :: _ :: _ :: _, _ => exact toNat_unpack_H [.H] b₄ b₅ _

/-- With bytes enough, magic, version and the length decide whether it is a loss report. -/
theorem decodeLossReport_cons (magic version : UInt8) {bs : List UInt8} (h : 6 ≤ bs.length) :
    decodeLossReport (magic :: version :: bs)
      = if magic ≠ magicLossReport then .error (.lossMagic magicLossReport magic)
        else if version ≠ lossReportVersion ∧ version ≠ lossReportVersionTrimmed then
          .error (.lossVersion version)
        else
          let n := numRecords (magic :: version :: bs)
          if bs.length + 2 < 8 + n * 16 then .error (.lossTruncated (bs.length + 2) (8 + n * 16) n)
          else .ok ⟨(unpack [.H, .H, .H] bs).1,
            (unpackMany lossRecFmt n (bs.drop 6)).map (recordOf version)⟩ := by
  have hlen : calcsize lossHdrFmt ≤ (magic :: version :: bs).length := by
    show 8 ≤ bs.length + 1 + 1
    omega
  unfold decodeLossReport
  rw [if_neg (Nat.not_lt.mpr hlen), unpack_take lossHdrFmt hlen, unpack_byte, unpack_byte]
  dsimp only
  rw [← toNat_count magic version bs h, mapM_decodeRecord]
  obtain ⟨w, n, r, ⟨⟩⟩ := unpack [.H, .H, .H] bs
  show (if _ then _ else if _ then _ else if _ then _ else LossReport.new _ _) = _
  rw [LossReport.new, checkU16_toNat]
  rfl

/-- What the decoders have in common: two tests that may refuse, then the rest. -/
theorem guarded_ok {α : Type} {P Q : Prop} [Decidable P] [Decidable Q] {e₁ e₂ : WireError}
    {body : Except WireError α} :
    (∃ x, (if P then .error e₁ else if Q then .error e₂ else body) = .ok x)
      ↔ ¬ P ∧ ¬ Q ∧ ∃ x, body = .ok x := by
  by_cases hP : P
  · rw [if_pos hP]
    constructor
    · rintro ⟨x, hx⟩
      cases hx
    · exact fun h => absurd hP h.1
  · rw [if_neg hP]
    by_cases hQ : Q
    · rw [if_pos hQ]
      constructor
      · rintro ⟨x, hx⟩
        cases hx
      · exact fun h => absurd hQ h.2.1
    · rw [if_neg hQ]
      exact ⟨fun h => ⟨hP, hQ, h⟩, fun h => h.2.2⟩

/-- Two bytes are a magic and a version. -/
theorem exists_cons_cons (payload : List UInt8) (h : 2 ≤ payload.length) :
    ∃ magic version bs, payload = magic :: version :: bs := by
  rcases payload with _ | ⟨magic, _ | ⟨version, bs⟩⟩
  · exact absurd h (Nat.not_succ_le_zero 1)
  · exact absurd h (Nat.not_succ_le_self 1)
  · exact ⟨magic, version, bs, rfl⟩

/-- `decode_probe` accepts exactly the payloads of ten bytes or more with its magic and version. -/
theorem decodeProbe_accepts (payload : List UInt8) :
    (∃ p, decodeProbe payload = .ok p)
      ↔ payload[0]? = some 0xA5 ∧ payload[1]? = some 4 ∧ 10 ≤ payload.length := by
  by_cases hlen : payload.length < 10
  · have hshort : decodeProbe payload = .error (.probeTooShort payload.length 10) := if_pos hlen
    rw [hshort]
    constructor
    · rintro ⟨p, hp⟩
      cases hp
    · rintro ⟨-, -, hle⟩
      omega
  · obtain ⟨magic, version, bs, rfl⟩ := exists_cons_cons payload (by omega)
    have hbs : (magic :: version :: bs).length = bs.length + 2 := rfl
    rw [decodeProbe_cons magic version (by omega), guarded_ok, not_not, not_not]
    obtain ⟨p, q, t, s, d, r, ⟨⟩⟩ := unpack [.B, .B, .H, .H, .B, .B] bs
    constructor
    · rintro ⟨rfl, rfl, -⟩
      exact ⟨rfl, rfl, by omega⟩
    · rintro ⟨hmagic, hversion, -⟩
      exact ⟨Option.some.inj hmagic, Option.some.inj hversion, _, rfl⟩

/-- `decode_nack` accepts exactly the payloads of 18 bytes or more with its magic and version. -/
theorem decodeNack_accepts (payload : List UInt8) :
    (∃ x, decodeNack payload = .ok x)
      ↔ payload[0]? = some 0xA9 ∧ payload[1]? = some 1 ∧ 18 ≤ payload.length := by
  by_cases hlen : payload.length < 18
  · have hshort : decodeNack payload = .error (.nackTooShort payload.length 18) := if_pos hlen
    rw [hshort]
    constructor
    · rintro ⟨x, hx⟩
      cases hx
    · rintro ⟨-, -, hle⟩
      omega
  · obtain ⟨magic, version, bs, rfl⟩ := exists_cons_cons payload (by omega)
    have hbs : (magic :: version :: bs).length = bs.length + 2 := rfl
    rw [decodeNack_cons magic version (by omega), guarded_ok, not_not, not_not]
    obtain ⟨p, q, t, s, d, seq, ⟨⟩⟩ := unpack [.B, .B, .H, .H, .H, .Q] bs
    constructor
    · rintro ⟨rfl, rfl, -⟩
      exact ⟨rfl, rfl, by omega⟩
    · rintro ⟨hmagic, hversion, -⟩
      exact ⟨Option.some.inj hmagic, Option.some.inj hversion, _, rfl⟩

/-- `decode_loss_report` accepts exactly the payloads with its magic, one of its versions, and room
    for the records the header announces. -/
theorem decodeLossReport_accepts (payload : List UInt8) :
    (∃ r, decodeLossReport payload = .ok r)
      ↔ payload[0]? = some 0xA7 ∧ (payload[1]? = some 2 ∨ payload[1]? = some 3)
        ∧ 8 + 16 * numRecords payload ≤ payload.length := by
  by_cases hlen : payload.length < 8
  · have hshort : decodeLossReport payload = .error (.lossTooShort payload.length 8) :=
      if_pos hlen
    rw [hshort]
    constructor
    · rintro ⟨r, hr⟩
      cases hr
    · rintro ⟨-, -, hle⟩
      omega
  · obtain ⟨magic, version, bs, rfl⟩ := exists_cons_cons payload (by omega)
    have hbs : (magic :: version :: bs).length = bs.length + 2 := rfl
    rw [decodeLossReport_cons magic version (by omega), guarded_ok, not_not, not_and_or, not_not,
      not_not]
    dsimp only
    constructor
    · rintro ⟨rfl, hversion, r, hr⟩
      refine ⟨rfl, hversion.imp (congrArg some) (congrArg some), ?_⟩
      split at hr
      · cases hr
      · omega
    · rintro ⟨hmagic, hversion, hle⟩
      refine ⟨Option.some.inj hmagic, hversion.imp Option.some.inj Option.some.inj, ?_⟩
      rw [if_neg (by omega)]
      exact ⟨_, rfl⟩

/-- A decoder that refuses raises `ProbeDecodeError`; no check of a constructor ever fires. -/
theorem decode_error (payload : List UInt8) (err : WireError) :
    (decodeProbe payload = .error err → err.isProbeDecodeError = true) ∧
    (decodeLossReport payload = .error err → err.isProbeDecodeError = true) ∧
    (decodeNack payload = .error err → err.isProbeDecodeError = true) := by
  refine ⟨fun h => ?_, fun h => ?_, fun h => ?_⟩
  · by_cases hlen : payload.length < 10
    · have hshort : decodeProbe payload = .error (.probeTooShort payload.length 10) := if_pos hlen
      rw [← Except.error.inj (hshort.symm.trans h)]
      rfl
    · obtain ⟨magic, version, bs, rfl⟩ := exists_cons_cons payload (by omega)
      have hbs : (magic :: version :: bs).length = bs.length + 2 := rfl
      rw [decodeProbe_cons magic version (by omega)] at h
      split at h
      · rw [← Except.error.inj h]; rfl
      · split at h
        · rw [← Except.error.inj h]; rfl
        · cases h
  · by_cases hlen : payload.length < 8
    · have hshort : decodeLossReport payload = .error (.lossTooShort payload.length 8) :=
        if_pos hlen
      rw [← Except.error.inj (hshort.symm.trans h)]
      rfl
    · obtain ⟨magic, version, bs, rfl⟩ := exists_cons_cons payload (by omega)
      have hbs : (magic :: version :: bs).length = bs.length + 2 := rfl
      rw [decodeLossReport_cons magic version (by omega)] at h
      split at h
      · rw [← Except.error.inj h]; rfl
      · split at h
        · rw [← Except.error.inj h]; rfl
        · dsimp only at h
          split at h
          · rw [← Except.error.inj h]; rfl
          · cases h
  · by_cases hlen : payload.length < 18
    · have hshort : decodeNack payload = .error (.nackTooShort payload.length 18) := if_pos hlen
      rw [← Except.error.inj (hshort.symm.trans h)]
      rfl
    · obtain ⟨magic, version, bs, rfl⟩ := exists_cons_cons payload (by omega)
      have hbs : (magic :: version :: bs).length = bs.length + 2 := rfl
      rw [decodeNack_cons magic version (by omega)] at h
      split at h
      · rw [← Except.error.inj h]; rfl
      · split at h
        · rw [← Except.error.inj h]; rfl
        · cases h

/-! ## Encode, then decode -/

/-- The payload of a probe. -/
def probeBytes (p : Probe) : List UInt8 :=
  pack probeFmt (magicProbe, probeVersion, p.planeId, p.pathId, p.tenantId, p.srcId, p.dstId, 0, ())

/-- The fields of a probe can be encoded. -/
theorem encodeProbe_eq (p : Probe) :
    encodeProbe p.planeId.toNat p.pathId.toNat p.tenantId.toNat p.srcId.toNat p.dstId.toNat
      = .ok (probeBytes p) := by
  simp only [encodeProbe, checkU8_toNat, checkU16_toNat]
  rfl

theorem decode_probeBytes (p : Probe) : decodeProbe (probeBytes p) = .ok p := by
  have hlen : (probeBytes p).length = 10 := length_pack ..
  unfold decodeProbe
  rw [if_neg (by rw [hlen]; decide), unpack_take probeFmt (by rw [hlen]; decide)]
  have hback : unpack probeFmt (probeBytes p) = _ := unpack_pack_self ..
  rw [hback]
  show Probe.new _ _ _ _ _ = _
  rw [Probe.new_toNat]

theorem decode_encodeNack (x : Nack) : decodeNack (encodeNack x) = .ok x := by
  have hlen : (encodeNack x).length = 18 := length_pack ..
  unfold decodeNack
  rw [if_neg (by rw [hlen]; decide), unpack_take nackFmt (by rw [hlen]; decide)]
  have hback : unpack nackFmt (encodeNack x) = _ := unpack_pack_self ..
  rw [hback]
  show Nack.new _ _ _ _ _ _ = _
  rw [Nack.new_toNat]

/-- Some record has trimmed arrivals, so the report goes out as version 3. -/
def trims (planes : List PlaneLossRecord) : Bool := planes.any fun rec => rec.trimmed ≠ 0

/-- The version a report is encoded in. -/
def versionOf (planes : List PlaneLossRecord) : UInt8 :=
  if trims planes then lossReportVersionTrimmed else lossReportVersion

/-- The payload of a report that is not too long. -/
def reportBytes (windowId : UInt16) (planes : List PlaneLossRecord) : List UInt8 :=
  pack lossHdrFmt (magicLossReport, versionOf planes, windowId, .ofNat planes.length, 0, ())
    ++ (planes.map (recordFields (trims planes))).flatMap (pack lossRecFmt)

/-- A report can be encoded unless it has too many records. -/
theorem encodeLossReport_eq (windowId : UInt16) (planes : List PlaneLossRecord) :
    encodeLossReport windowId.toNat planes
      = if 0xFFFF < planes.length then .error (.tooManyRecords planes.length)
        else .ok (reportBytes windowId planes) := by
  unfold encodeLossReport reportBytes
  rw [checkU16_toNat, List.flatMap_map]
  split
  · rfl
  · rfl

/-- A record as it is after the wire: the trimmed count saturates at 65535. -/
def PlaneLossRecord.saturate (rec : PlaneLossRecord) : PlaneLossRecord :=
  { rec with trimmed := .ofNat (min rec.trimmed.toNat 0xFFFF) }

/-- A record comes back with its counts capped. -/
theorem recordOf_recordFields (b : Bool) (rec : PlaneLossRecord)
    (h : b = false → rec.trimmed = 0) :
    recordOf (if b then lossReportVersionTrimmed else lossReportVersion) (recordFields b rec)
      = rec.saturate := by
  cases b with
  | false =>
    have h0 : rec.trimmed = 0 := h rfl
    unfold PlaneLossRecord.saturate
    rw [h0]
    rfl
  | true =>
    have hlt : min rec.trimmed.toNat 0xFFFF < 2 ^ 16 := by omega
    have hback : (UInt16.ofNat (min rec.trimmed.toNat 0xFFFF)).toNat
        = min rec.trimmed.toNat 0xFFFF := UInt16.toNat_ofNat_of_lt' hlt
    show PlaneLossRecord.mk _ _ _ _ _ (UInt32.ofNat (UInt16.ofNat _).toNat) = _
    rw [hback]
    rfl

/-- Without trimmed packets no record has any. -/
theorem trimmed_of_not_trims {planes : List PlaneLossRecord} (h : trims planes = false)
    {rec : PlaneLossRecord} (hrec : rec ∈ planes) : rec.trimmed = 0 := by
  have hnot := List.any_eq_false.mp h rec hrec
  simpa using hnot

/-- A report comes back with its counts capped. -/
theorem decode_reportBytes (windowId : UInt16) {planes : List PlaneLossRecord}
    (hlen : planes.length ≤ 0xFFFF) :
    decodeLossReport (reportBytes windowId planes)
      = .ok ⟨windowId, planes.map PlaneLossRecord.saturate⟩ := by
  have hlt : planes.length < 2 ^ 16 := Nat.lt_succ_of_le hlen
  have hcount : (UInt16.ofNat planes.length).toNat = planes.length :=
    UInt16.toNat_ofNat_of_lt' hlt
  have hhdr : (pack lossHdrFmt (magicLossReport, versionOf planes, windowId,
      .ofNat planes.length, 0, ())).length = 8 := length_pack ..
  have hrecs : ((planes.map (recordFields (trims planes))).flatMap (pack lossRecFmt)).length
      = planes.length * 16 := by
    rw [length_flatMap_pack, List.length_map]
    rfl
  have htotal : (reportBytes windowId planes).length = 8 + planes.length * 16 := by
    rw [reportBytes, List.length_append, hhdr, hrecs]
  have hread : unpack lossHdrFmt (reportBytes windowId planes)
      = (magicLossReport, versionOf planes, windowId, .ofNat planes.length, 0, ()) :=
    unpack_pack ..
  have hmany : unpackMany lossRecFmt planes.length ((reportBytes windowId planes).drop 8)
      = planes.map (recordFields (trims planes)) := by
    rw [reportBytes, List.drop_left' hhdr]
    have hall := unpackMany_flatMap lossRecFmt (planes.map (recordFields (trims planes))) []
    rwa [List.append_nil, List.length_map] at hall
  -- the version says whether the reserved field is a count
  have hback : (planes.map (recordFields (trims planes))).map (recordOf (versionOf planes))
      = planes.map PlaneLossRecord.saturate := by
    rw [List.map_map]
    refine List.map_congr_left fun rec hrec => ?_
    exact recordOf_recordFields _ rec fun h => trimmed_of_not_trims h hrec
  have hversion : ¬ (versionOf planes ≠ lossReportVersion
      ∧ versionOf planes ≠ lossReportVersionTrimmed) := by
    unfold versionOf
    rintro ⟨h2, h3⟩
    split at h2
    · rename_i ht
      exact h3 (if_pos ht)
    · exact h2 rfl
  have hlong : calcsize lossHdrFmt ≤ (reportBytes windowId planes).length := by
    show 8 ≤ _
    omega
  unfold decodeLossReport
  rw [if_neg (Nat.not_lt.mpr hlong), unpack_take lossHdrFmt hlong, hread]
  dsimp only
  rw [if_neg (not_not.mpr rfl), if_neg hversion, hcount, mapM_decodeRecord]
  rw [if_neg (by rw [htotal]; exact Nat.lt_irrefl _)]
  show LossReport.new _ ((unpackMany lossRecFmt planes.length
    ((reportBytes windowId planes).drop 8)).map _) = _
  rw [hmany, hback, LossReport.new, checkU16_toNat]
  rfl

/-! ## Decode, then encode -/

/-- What is read as a probe is written again, its last byte apart. -/
theorem encode_decodeProbe {payload : List UInt8} {p : Probe} (h : decodeProbe payload = .ok p) :
    probeBytes p = payload.take 9 ++ [0] := by
  obtain ⟨hmagic, hversion, hlen⟩ := (decodeProbe_accepts payload).mp ⟨p, h⟩
  have hread := pack_unpack probeFmt hlen
  have hnine : payload.take 9 = (payload.take (calcsize probeFmt)).take 9 := by
    rw [List.take_take]
    rfl
  obtain ⟨magic, version, bs, rfl⟩ := exists_cons_cons payload (by omega)
  obtain rfl : magic = magicProbe := Option.some.inj hmagic
  obtain rfl : version = probeVersion := Option.some.inj hversion
  rw [decodeProbe_cons _ _ (Nat.le_of_add_le_add_right (b := 2) hlen), if_neg (not_not.mpr rfl),
    if_neg (not_not.mpr rfl)] at h
  rw [unpack_byte, unpack_byte] at hread
  rw [hnine, ← hread]
  generalize unpack [.B, .B, .H, .H, .B, .B] bs = fields at h
  obtain ⟨x, q, t, s, d, r, ⟨⟩⟩ := fields
  obtain rfl := Except.ok.inj h
  rfl

/-- What is read as a NACK is written again. -/
theorem encode_decodeNack {payload : List UInt8} {x : Nack} (h : decodeNack payload = .ok x) :
    encodeNack x = payload.take 18 := by
  obtain ⟨hmagic, hversion, hlen⟩ := (decodeNack_accepts payload).mp ⟨x, h⟩
  have hread := pack_unpack nackFmt hlen
  obtain ⟨magic, version, bs, rfl⟩ := exists_cons_cons payload (by omega)
  obtain rfl : magic = magicNack := Option.some.inj hmagic
  obtain rfl : version = nackVersion := Option.some.inj hversion
  rw [decodeNack_cons _ _ (Nat.le_of_add_le_add_right (b := 2) hlen), if_neg (not_not.mpr rfl),
    if_neg (not_not.mpr rfl)] at h
  rw [unpack_byte, unpack_byte] at hread
  show _ = List.take (calcsize nackFmt) _
  rw [← hread]
  generalize unpack [.B, .B, .H, .H, .H, .Q] bs = fields at h
  obtain ⟨p, q, t, s, d, seq, ⟨⟩⟩ := fields
  obtain rfl := Except.ok.inj h
  rfl

/-- A record as it was read packs to the record's own bytes if the trimmed counts go out again, and
    else to these with the two bytes of the reserved field zeroed. -/
theorem recordFields_recordOf (version : UInt8) (fields : Fields lossRecFmt) :
    (version = lossReportVersionTrimmed → recordFields true (recordOf version fields) = fields) ∧
    pack lossRecFmt (recordFields false (recordOf version fields))
      = (pack lossRecFmt fields).take 2 ++ [0, 0] ++ (pack lossRecFmt fields).drop 4 := by
  obtain ⟨p, q, r16, seen, expected, maxGap, ⟨⟩⟩ := fields
  constructor
  · rintro rfl
    have hlt : r16.toNat < 2 ^ 16 := r16.toNat_lt
    have hword : (UInt32.ofNat r16.toNat).toNat = r16.toNat :=
      UInt32.toNat_ofNat_of_lt' (hlt.trans (by decide))
    have hfield : UInt16.ofNat (min (UInt32.ofNat r16.toNat).toNat 0xFFFF) = r16 := by
      rw [hword, Nat.min_eq_left (by omega), UInt16.ofNat_toNat]
    show (p, q, UInt16.ofNat (min (UInt32.ofNat r16.toNat).toNat 0xFFFF), seen, expected, maxGap,
      ()) = _
    rw [hfield]
  · have hzero : pack lossRecFmt (recordFields false (recordOf version (p, q, r16, seen, expected,
        maxGap, ()))) = pack lossRecFmt (p, q, 0, seen, expected, maxGap, ()) := rfl
    rw [hzero]
    rfl

/-- The bytes of the `i`-th record of a LOSS_REPORT. -/
def recordBytes (payload : List UInt8) (i : Nat) : List UInt8 := (payload.drop (8 + i * 16)).take 16

/-- What is read as a report has as many records as it says, and is written again. -/
theorem encode_decodeLossReport {payload : List UInt8} {r : LossReport}
    (h : decodeLossReport payload = .ok r) :
    r.planes.length = numRecords payload ∧
    (trims r.planes = true → payload[1]? = some 3 ∧
      reportBytes r.windowId r.planes
        = payload.take 6 ++ [0, 0] ++ (payload.drop 8).take (numRecords payload * 16)) ∧
    (trims r.planes = false →
      reportBytes r.windowId r.planes
        = [0xA7, 2] ++ (payload.take 6).drop 2 ++ [0, 0]
          ++ (List.range (numRecords payload)).flatMap fun i =>
            (recordBytes payload i).take 2 ++ [0, 0] ++ (recordBytes payload i).drop 4) := by
  obtain ⟨hmagic, hversion, hlen⟩ := (decodeLossReport_accepts payload).mp ⟨r, h⟩
  obtain ⟨magic, version, bs, rfl⟩ := exists_cons_cons payload (by omega)
  obtain rfl : magic = magicLossReport := Option.some.inj hmagic
  have hbs : (magicLossReport :: version :: bs).length = bs.length + 2 := rfl
  have hcount := toNat_count magicLossReport version bs (by omega)
  have hread : calcsize lossHdrFmt ≤ (magicLossReport :: version :: bs).length := by
    show 8 ≤ _
    omega
  have hhdr := pack_unpack lossHdrFmt hread
  rw [unpack_byte, unpack_byte] at hhdr
  rw [decodeLossReport_cons _ _ (by omega), if_neg (not_not.mpr rfl)] at h
  generalize numRecords (magicLossReport :: version :: bs) = n at hlen hcount h ⊢
  have hv : ¬ (version ≠ lossReportVersion ∧ version ≠ lossReportVersionTrimmed) := by
    rintro ⟨h2, h3⟩
    rcases hversion with hv | hv
    · exact h2 (Option.some.inj hv)
    · exact h3 (Option.some.inj hv)
  rw [if_neg hv] at h
  dsimp only at h
  rw [if_neg (by omega)] at h
  obtain rfl := Except.ok.inj h
  have hroom : n * calcsize lossRecFmt ≤ (bs.drop 6).length := by
    show n * 16 ≤ _
    rw [List.length_drop]
    omega
  -- the header goes out with its own window id and count
  have hheader : ∀ version', pack lossHdrFmt (magicLossReport, version', (unpack [.H, .H, .H] bs).1,
      .ofNat ((unpackMany lossRecFmt n (bs.drop 6)).map (recordOf version)).length, 0, ())
      = [magicLossReport, version'] ++ ((magicLossReport :: version :: bs).take 6).drop 2
        ++ [0, 0] := by
    intro version'
    have hsix : (magicLossReport :: version :: bs).take 6
        = ((magicLossReport :: version :: bs).take (calcsize lossHdrFmt)).take 6 := by
      rw [List.take_take]
      rfl
    rw [hsix, ← hhdr, List.length_map, length_unpackMany, ← hcount, UInt16.ofNat_toNat]
    obtain ⟨w, count, r, ⟨⟩⟩ := unpack [.H, .H, .H] bs
    rw [pack_byte, pack_byte, pack_byte, pack_byte]
    rfl
  refine ⟨by rw [List.length_map, length_unpackMany], fun htrims => ?_, fun htrims => ?_⟩
  · -- a trimmed count can only come from version 3, which carries it back
    have h3 : version = lossReportVersionTrimmed := by
      obtain ⟨rec, hrec, hne⟩ := List.any_eq_true.mp htrims
      obtain ⟨⟨p, q, r16, seen, expected, maxGap, ⟨⟩⟩, -, rfl⟩ := List.mem_map.mp hrec
      by_contra hnot
      rw [recordOf, if_neg hnot] at hne
      exact of_decide_eq_true hne rfl
    refine ⟨congrArg some h3, ?_⟩
    have hsame : ((unpackMany lossRecFmt n (bs.drop 6)).map (recordOf version)).map
        (recordFields true) = unpackMany lossRecFmt n (bs.drop 6) := by
      rw [List.map_map]
      refine (List.map_congr_left fun fields _ => ?_).trans (List.map_id _)
      exact (recordFields_recordOf version fields).1 h3
    unfold reportBytes
    rw [versionOf, htrims, if_pos rfl, hheader, hsame, flatMap_unpackMany lossRecFmt n hroom, h3]
    rfl
  · have hedit : (((unpackMany lossRecFmt n (bs.drop 6)).map (recordOf version)).map
        (recordFields false)).flatMap (pack lossRecFmt)
        = ((unpackMany lossRecFmt n (bs.drop 6)).map (pack lossRecFmt)).flatMap
          fun c => c.take 2 ++ [0, 0] ++ c.drop 4 := by
      rw [List.map_map, List.flatMap_map, List.flatMap_map]
      refine List.flatMap_congr fun fields _ => ?_
      exact (recordFields_recordOf version fields).2
    unfold reportBytes
    rw [versionOf, htrims, if_neg Bool.false_ne_true, hheader, hedit,
      map_unpackMany lossRecFmt n hroom, List.flatMap_map]
    refine congrArg _ (List.flatMap_congr fun i _ => ?_)
    have hrec : ((bs.drop 6).drop (i * calcsize lossRecFmt)).take (calcsize lossRecFmt)
        = recordBytes (magicLossReport :: version :: bs) i := by
      show _ = ((magicLossReport :: version :: bs).drop (8 + i * 16)).take 16
      rw [← List.drop_drop]
      rfl
    rw [hrec]

/-! ## The formats -/

/-- The number of records has two bytes. -/
theorem numRecords_le (payload : List UInt8) : numRecords payload ≤ 0xFFFF := by
  have h4 : (payload.getD 4 0).toNat < 2 ^ 8 := (payload.getD 4 0).toNat_lt
  have h5 : (payload.getD 5 0).toNat < 2 ^ 8 := (payload.getD 5 0).toNat_lt
  unfold numRecords
  omega

/-- The first byte says which of the three messages a payload can be. -/
theorem decode_exclusive (payload : List UInt8) :
    ((∃ p, decodeProbe payload = .ok p) → payload[0]? = some 0xA5) ∧
    ((∃ r, decodeLossReport payload = .ok r) → payload[0]? = some 0xA7) ∧
    ((∃ x, decodeNack payload = .ok x) → payload[0]? = some 0xA9) :=
  ⟨fun h => ((decodeProbe_accepts payload).mp h).1,
    fun h => ((decodeLossReport_accepts payload).mp h).1,
    fun h => ((decodeNack_accepts payload).mp h).1⟩

/-- Something is returned, or there is an error of the kind. -/
theorem ok_or_error {α : Type} {o : Except WireError α} {P : WireError → Prop}
    (h : ∀ err, o = .error err → P err) : (∃ a, o = .ok a) ∨ ∃ err, o = .error err ∧ P err := by
  cases o with
  | ok a => exact Or.inl ⟨a, rfl⟩
  | error err => exact Or.inr ⟨err, rfl, h err rfl⟩

/-- The control wire formats.  Every message round-trips, the trimmed counts up to saturation; a
    decoder returns exactly on the payloads with its magic, an accepted version and enough bytes,
    and raises `ProbeDecodeError` on all others; no payload is accepted twice; and what was decoded
    encodes to the payload's meaningful prefix with the reserved fields zeroed, a version 3 report
    without trimmed counts as version 2. -/
theorem wire_formats :
    (∀ p : Probe, ∃ b,
      encodeProbe p.planeId.toNat p.pathId.toNat p.tenantId.toNat p.srcId.toNat p.dstId.toNat = .ok b
        ∧ decodeProbe b = .ok p) ∧
    (∀ x : Nack, decodeNack (encodeNack x) = .ok x) ∧
    (∀ (windowId : UInt16) (recs : List PlaneLossRecord), recs.length ≤ 65535 →
      ∃ b, encodeLossReport windowId.toNat recs = .ok b ∧ decodeLossReport b = .ok ⟨windowId,
        recs.map fun rec => { rec with trimmed := .ofNat (min rec.trimmed.toNat 65535) }⟩) ∧
    ∀ payload : List UInt8,
      (((∃ p, decodeProbe payload = .ok p)
          ∨ ∃ err, decodeProbe payload = .error err ∧ err.isProbeDecodeError = true) ∧
        ((∃ r, decodeLossReport payload = .ok r)
          ∨ ∃ err, decodeLossReport payload = .error err ∧ err.isProbeDecodeError = true) ∧
        ((∃ x, decodeNack payload = .ok x)
          ∨ ∃ err, decodeNack payload = .error err ∧ err.isProbeDecodeError = true)) ∧
      (((∃ p, decodeProbe payload = .ok p)
          ↔ payload[0]? = some 0xA5 ∧ payload[1]? = some 4 ∧ 10 ≤ payload.length) ∧
        ((∃ r, decodeLossReport payload = .ok r)
          ↔ payload[0]? = some 0xA7 ∧ (payload[1]? = some 2 ∨ payload[1]? = some 3)
            ∧ 8 + 16 * numRecords payload ≤ payload.length) ∧
        ((∃ x, decodeNack payload = .ok x)
          ↔ payload[0]? = some 0xA9 ∧ payload[1]? = some 1 ∧ 18 ≤ payload.length)) ∧
      (¬ ((∃ p, decodeProbe payload = .ok p) ∧ ∃ r, decodeLossReport payload = .ok r) ∧
        ¬ ((∃ p, decodeProbe payload = .ok p) ∧ ∃ x, decodeNack payload = .ok x) ∧
        ¬ ((∃ r, decodeLossReport payload = .ok r) ∧ ∃ x, decodeNack payload = .ok x)) ∧
      ((∀ p, decodeProbe payload = .ok p →
          encodeProbe p.planeId.toNat p.pathId.toNat p.tenantId.toNat p.srcId.toNat p.dstId.toNat
            = .ok (payload.take 9 ++ [0])) ∧
        (∀ x, decodeNack payload = .ok x → encodeNack x = payload.take 18) ∧
        (∀ r, decodeLossReport payload = .ok r → r.planes.length = numRecords payload ∧
          ((∃ rec ∈ r.planes, rec.trimmed ≠ 0) → payload[1]? = some 3 ∧
            encodeLossReport r.windowId.toNat r.planes
              = .ok (payload.take 6 ++ [0, 0] ++ (payload.drop 8).take (numRecords payload * 16))) ∧
          ((∀ rec ∈ r.planes, rec.trimmed = 0) →
            encodeLossReport r.windowId.toNat r.planes
              = .ok ([0xA7, 2] ++ (payload.take 6).drop 2 ++ [0, 0]
                ++ (List.range (numRecords payload)).flatMap fun i =>
                  (recordBytes payload i).take 2 ++ [0, 0] ++ (recordBytes payload i).drop 4)))) := by
  refine ⟨fun p => ⟨probeBytes p, encodeProbe_eq p, decode_probeBytes p⟩, decode_encodeNack,
    fun windowId recs hlen => ⟨reportBytes windowId recs, ?_, decode_reportBytes windowId hlen⟩,
    fun payload => ⟨⟨?_, ?_, ?_⟩, ⟨decodeProbe_accepts payload, decodeLossReport_accepts payload,
      decodeNack_accepts payload⟩, ⟨?_, ?_, ?_⟩, ?_, fun x => encode_decodeNack, ?_⟩⟩
  · rw [encodeLossReport_eq, if_neg (Nat.not_lt.mpr hlen)]
  · exact ok_or_error fun err => (decode_error payload err).1
  · exact ok_or_error fun err => (decode_error payload err).2.1
  · exact ok_or_error fun err => (decode_error payload err).2.2
  · -- the first byte tells the formats apart
    rintro ⟨hp, hr⟩
    have hbyte := ((decode_exclusive payload).1 hp).symm.trans ((decode_exclusive payload).2.1 hr)
    exact absurd hbyte (by decide)
  · rintro ⟨hp, hx⟩
    have hbyte := ((decode_exclusive payload).1 hp).symm.trans ((decode_exclusive payload).2.2 hx)
    exact absurd hbyte (by decide)
  · rintro ⟨hr, hx⟩
    have hbyte := ((decode_exclusive payload).2.1 hr).symm.trans ((decode_exclusive payload).2.2 hx)
    exact absurd hbyte (by decide)
  · intro p hp
    rw [encodeProbe_eq, encode_decodeProbe hp]
  · intro r hr
    -- the version is 3 exactly when something was trimmed
    obtain ⟨hcount, hwith, hwithout⟩ := encode_decodeLossReport hr
    have hencode : encodeLossReport r.windowId.toNat r.planes
        = .ok (reportBytes r.windowId r.planes) := by
      rw [encodeLossReport_eq, if_neg]
      rw [hcount]
      exact Nat.not_lt.mpr (numRecords_le payload)
    refine ⟨hcount, ?_, ?_⟩
    · rintro ⟨rec, hrec, hne⟩
      obtain ⟨h3, hbytes⟩ :=
        hwith (List.any_eq_true.mpr ⟨rec, hrec, decide_eq_true hne⟩)
      exact ⟨h3, by rw [hencode, hbytes]⟩
    · intro hnone
      have hfalse : trims r.planes = false :=
        List.any_eq_false.mpr fun rec hrec h => of_decide_eq_true h (hnone rec hrec)
      rw [hencode, hwithout hfalse]

/-- A report with trims on the wire: 16-bit count, version 3. -/
example : (encodeLossReport 7 [⟨1, 2, 10, 12, 3, 70000⟩]).toOption
    = some [0xA7, 3, 0, 7, 0, 1, 0, 0, 1, 2, 0xFF, 0xFF, 0, 0, 0, 10, 0, 0, 0, 12, 0, 0, 0, 3] := by
  decide

end Srv6Mrc
