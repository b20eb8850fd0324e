/-
  `srv6_mrc/mrc/probe.py`: the three control messages, their encoders and their decoders.

  Every dataclass checks its fields when it is built, and a decoder builds one from what it read.
  So a decoder could in principle raise the `ValueError` of such a check as well as its own
  `ProbeDecodeError`; the constructors `Probe.new`, `PlaneLossRecord.new`, `LossReport.new` and
  `Nack.new` keep that possibility in the model, and that it never happens is a theorem.
-/
import Srv6Mrc.Lib.Wire
import Srv6Mrc.Loss.Window

namespace Srv6Mrc

open Wire

/-! ## Magics, versions, formats -/

def probeVersion : UInt8 := 4
def lossReportVersion : UInt8 := 2
def lossReportVersionTrimmed : UInt8 := 3
def nackVersion : UInt8 := 1

def magicProbe : UInt8 := 0xA5
def magicLossReport : UInt8 := 0xA7
def magicNack : UInt8 := 0xA9

/-- `"!BBBBHHBB"`: magic, version, plane, path, tenant, src, dst, reserved. -/
abbrev probeFmt : List Code := [.B, .B, .B, .B, .H, .H, .B, .B]

/-- `"!BBHHH"`: magic, version, window, number of records, reserved. -/
abbrev lossHdrFmt : List Code := [.B, .B, .H, .H, .H]

/-- `"!BBHIII"`: plane, path, trimmed (reserved in version 2), seen, expected, max gap. -/
abbrev lossRecFmt : List Code := [.B, .B, .H, .I, .I, .I]

/-- `"!BBBBHHHQ"`: magic, version, plane, path, tenant, src, dst, seq. -/
abbrev nackFmt : List Code := [.B, .B, .B, .B, .H, .H, .H, .Q]

/-! ## Exceptions -/

/-- The exceptions of the module, with the values their messages are formatted from. -/
inductive WireError where
  /-- `ValueError(f"{name} must be uint8, got {v!r}")` -/
  | notUint8 (name : String) (v : Int)
  /-- `ValueError(f"{name} must be uint16, got {v!r}")` -/
  | notUint16 (name : String) (v : Int)
  /-- `ValueError(f"{name} must be uint32, got {v!r}")` -/
  | notUint32 (name : String) (v : Int)
  /-- `ValueError(f"seq must be uint64, got {self.seq!r}")` -/
  | seqNotUint64 (v : Int)
  /-- `ValueError(f"too many records: {len(planes)} > 65535")` -/
  | tooManyRecords (length : Nat)
  /-- `ProbeDecodeError(f"probe payload too short: {len(payload)} < {_PROBE_SIZE}")` -/
  | probeTooShort (length size : Nat)
  /-- `ProbeDecodeError(f"expected probe magic 0x{_MAGIC_PROBE:02x}, got 0x{magic:02x}")` -/
  | probeMagic (expected magic : UInt8)
  /-- `ProbeDecodeError(f"unsupported probe protocol version {version}")` -/
  | probeVersion (version : UInt8)
  /-- `ProbeDecodeError(f"loss_report payload too short: {len(payload)} < {_LOSS_HDR_SIZE}")` -/
  | lossTooShort (length size : Nat)
  /-- `ProbeDecodeError(f"expected LOSS_REPORT magic 0x..., got 0x{magic:02x}")` -/
  | lossMagic (expected magic : UInt8)
  /-- `ProbeDecodeError(f"unsupported loss-report protocol version {version}")` -/
  | lossVersion (version : UInt8)
  /-- `ProbeDecodeError(f"loss_report truncated: got {len(payload)}B, "
      f"expected {expected_len}B for {num_records} records")` -/
  | lossTruncated (length expectedLen numRecords : Nat)
  /-- `ProbeDecodeError(f"nack payload too short: {len(payload)} < {_NACK_SIZE}")` -/
  | nackTooShort (length size : Nat)
  /-- `ProbeDecodeError(f"expected NACK magic 0x{_MAGIC_NACK:02x}, got 0x{magic:02x}")` -/
  | nackMagic (expected magic : UInt8)
  /-- `ProbeDecodeError(f"unsupported NACK protocol version {version}")` -/
  | nackVersion (version : UInt8)
  deriving DecidableEq, Repr

/-- `isinstance(err, ProbeDecodeError)` -/
def WireError.isProbeDecodeError : WireError → Bool
  | notUint8 .. | notUint16 .. | notUint32 .. | seqNotUint64 .. | tooManyRecords .. => false
  | probeTooShort .. | probeMagic .. | probeVersion .. | lossTooShort .. | lossMagic ..
  | lossVersion .. | lossTruncated .. | nackTooShort .. | nackMagic .. | nackVersion .. => true

/-! ## Range checks -/

/-- `_check_u8` -/
def checkU8 (v : Int) (name : String) : Except WireError UInt8 :=
  if v < 0 ∨ 0xFF < v then .error (.notUint8 name v) else .ok (.ofNat v.toNat)

/-- `_check_u16` -/
def checkU16 (v : Int) (name : String) : Except WireError UInt16 :=
  if v < 0 ∨ 0xFFFF < v then .error (.notUint16 name v) else .ok (.ofNat v.toNat)

/-- `_check_u32` -/
def checkU32 (v : Int) (name : String) : Except WireError UInt32 :=
  if v < 0 ∨ 0xFFFFFFFF < v then .error (.notUint32 name v) else .ok (.ofNat v.toNat)

/-- The check of a NACK's `seq`. -/
def checkSeq (v : Int) : Except WireError UInt64 :=
  if v < 0 ∨ 0xFFFFFFFFFFFFFFFF < v then .error (.seqNotUint64 v) else .ok (.ofNat v.toNat)

@[simp] theorem checkU8_toNat (v : UInt8) (name : String) :
    checkU8 (v.toNat : Int) name = .ok v := by
  have h : v.toNat < 2 ^ 8 := v.toNat_lt
  rw [checkU8, if_neg (by omega), Int.toNat_natCast, UInt8.ofNat_toNat]

@[simp] theorem checkU16_toNat (v : UInt16) (name : String) :
    checkU16 (v.toNat : Int) name = .ok v := by
  have h : v.toNat < 2 ^ 16 := v.toNat_lt
  rw [checkU16, if_neg (by omega), Int.toNat_natCast, UInt16.ofNat_toNat]

@[simp] theorem checkU32_toNat (v : UInt32) (name : String) :
    checkU32 (v.toNat : Int) name = .ok v := by
  have h : v.toNat < 2 ^ 32 := v.toNat_lt
  rw [checkU32, if_neg (by omega), Int.toNat_natCast, UInt32.ofNat_toNat]

@[simp] theorem checkSeq_toNat (v : UInt64) : checkSeq (v.toNat : Int) = .ok v := by
  have h : v.toNat < 2 ^ 64 := v.toNat_lt
  rw [checkSeq, if_neg (by omega), Int.toNat_natCast, UInt64.ofNat_toNat]

/-! ## Messages -/

/-- A decoded PROBE packet. -/
structure Probe where
  planeId : UInt8
  pathId : UInt8
  tenantId : UInt16
  srcId : UInt16
  dstId : UInt8
  deriving DecidableEq, Repr

/-- `Probe.__post_init__` -/
def Probe.new (planeId pathId tenantId srcId dstId : Int) : Except WireError Probe := do
  let planeId ← checkU8 planeId "plane_id"
  let pathId ← checkU8 pathId "path_id"
  let tenantId ← checkU16 tenantId "tenant_id"
  let srcId ← checkU16 srcId "src_id"
  let dstId ← checkU8 dstId "dst_id"
  return ⟨planeId, pathId, tenantId, srcId, dstId⟩

/-- `PlaneLossRecord.__post_init__` -/
def PlaneLossRecord.new (planeId pathId seen expected maxGap : Int) (trimmed : Int := 0) :
    Except WireError PlaneLossRecord := do
  let planeId ← checkU8 planeId "plane_id"
  let pathId ← checkU8 pathId "path_id"
  let seen ← checkU32 seen "seen"
  let expected ← checkU32 expected "expected"
  let maxGap ← checkU32 maxGap "max_gap"
  let trimmed ← checkU32 trimmed "trimmed"
  return ⟨planeId, pathId, seen, expected, maxGap, trimmed⟩

/-- `LossReport.__post_init__` -/
def LossReport.new (windowId : Int) (planes : List PlaneLossRecord) :
    Except WireError LossReport := do
  let windowId ← checkU16 windowId "window_id"
  return ⟨windowId, planes⟩

/-- A decoded NACK: `seq` arrived trimmed on the EV and should be sent again. -/
structure Nack where
  planeId : UInt8
  pathId : UInt8
  tenantId : UInt16
  srcId : UInt16
  dstId : UInt16
  seq : UInt64
  deriving DecidableEq, Repr

/-- `Nack.__post_init__` -/
def Nack.new (planeId pathId tenantId srcId dstId seq : Int) : Except WireError Nack := do
  let planeId ← checkU8 planeId "plane_id"
  let pathId ← checkU8 pathId "path_id"
  let tenantId ← checkU16 tenantId "tenant_id"
  let srcId ← checkU16 srcId "src_id"
  let dstId ← checkU16 dstId "dst_id"
  let seq ← checkSeq seq
  return ⟨planeId, pathId, tenantId, srcId, dstId, seq⟩

/-! ## Encoders -/

/-- `encode_probe` -/
def encodeProbe (planeId pathId tenantId srcId dstId : Int) : Except WireError (List UInt8) := do
  let planeId ← checkU8 planeId "plane_id"
  let pathId ← checkU8 pathId "path_id"
  let tenantId ← checkU16 tenantId "tenant_id"
  let srcId ← checkU16 srcId "src_id"
  let dstId ← checkU8 dstId "dst_id"
  return pack probeFmt
    (magicProbe, probeVersion, planeId, pathId, tenantId, srcId, dstId, 0, ())

/-- The reserved u16 of a record: it carries the trimmed count when any record has one. -/
def trimmedField (trims : Bool) (rec : PlaneLossRecord) : UInt16 :=
  if trims then .ofNat (min rec.trimmed.toNat 0xFFFF) else 0

/-- The fields of one record on the wire. -/
def recordFields (trims : Bool) (rec : PlaneLossRecord) : Fields lossRecFmt :=
  (rec.planeId, rec.pathId, trimmedField trims rec, rec.seen, rec.expected, rec.maxGap, ())

/-- `encode_loss_report` -/
def encodeLossReport (windowId : Int) (planes : List PlaneLossRecord) :
    Except WireError (List UInt8) := do
  let windowId ← checkU16 windowId "window_id"
  if 0xFFFF < planes.length then throw (.tooManyRecords planes.length)
  let trims := planes.any fun rec => rec.trimmed ≠ 0
  let version := if trims then lossReportVersionTrimmed else lossReportVersion
  return pack lossHdrFmt (magicLossReport, version, windowId, .ofNat planes.length, 0, ())
    ++ planes.flatMap fun rec => pack lossRecFmt (recordFields trims rec)

/-- `encode_nack` -/
def encodeNack (nack : Nack) : List UInt8 :=
  pack nackFmt (magicNack, nackVersion, nack.planeId, nack.pathId, nack.tenantId, nack.srcId,
    nack.dstId, nack.seq, ())

/-! ## Decoders -/

/-- `decode_probe` -/
def decodeProbe (payload : List UInt8) : Except WireError Probe :=
  if payload.length < calcsize probeFmt then
    .error (.probeTooShort payload.length (calcsize probeFmt))
  else
    let (magic, version, planeId, pathId, tenantId, srcId, dstId, _rsv, ()) :=
      unpack probeFmt (payload.take (calcsize probeFmt))
    if magic ≠ magicProbe then .error (.probeMagic magicProbe magic)
    else if version ≠ probeVersion then .error (.probeVersion version)
    else Probe.new planeId.toNat pathId.toNat tenantId.toNat srcId.toNat dstId.toNat

/-- The record built from the fields of one record on the wire. -/
def decodeRecord (version : UInt8) : Fields lossRecFmt → Except WireError PlaneLossRecord
  | (planeId, pathId, r16, seen, expected, maxGap, ()) =>
    PlaneLossRecord.new planeId.toNat pathId.toNat seen.toNat expected.toNat maxGap.toNat
      (if version = lossReportVersionTrimmed then r16.toNat else 0)

/-- `decode_loss_report` -/
def decodeLossReport (payload : List UInt8) : Except WireError LossReport :=
  if payload.length < calcsize lossHdrFmt then
    .error (.lossTooShort payload.length (calcsize lossHdrFmt))
  else
    let (magic, version, windowId, numRecords, _rsv, ()) :=
      unpack lossHdrFmt (payload.take (calcsize lossHdrFmt))
    if magic ≠ magicLossReport then .error (.lossMagic magicLossReport magic)
    else if version ≠ lossReportVersion ∧ version ≠ lossReportVersionTrimmed then
      .error (.lossVersion version)
    else
      let expectedLen := calcsize lossHdrFmt + numRecords.toNat * calcsize lossRecFmt
      if payload.length < expectedLen then
        .error (.lossTruncated payload.length expectedLen numRecords.toNat)
      else do
        let planes ←
          (unpackMany lossRecFmt numRecords.toNat (payload.drop (calcsize lossHdrFmt))).mapM
            (decodeRecord version)
        LossReport.new windowId.toNat planes

/-- `decode_nack` -/
def decodeNack (payload : List UInt8) : Except WireError Nack :=
  if payload.length < calcsize nackFmt then
    .error (.nackTooShort payload.length (calcsize nackFmt))
  else
    let (magic, version, planeId, pathId, tenantId, srcId, dstId, seq, ()) :=
      unpack nackFmt (payload.take (calcsize nackFmt))
    if magic ≠ magicNack then .error (.nackMagic magicNack magic)
    else if version ≠ nackVersion then .error (.nackVersion version)
    else Nack.new planeId.toNat pathId.toNat tenantId.toNat srcId.toNat dstId.toNat seq.toNat

end Srv6Mrc
