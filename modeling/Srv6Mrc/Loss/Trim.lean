/-
  Congestion trims are not path loss.

  A trimmed arrival goes from a counter of the receiver into a record, from the record into a
  16-bit field that only version 3 of the wire format has, and out of it again into the fusion.
  `transmit` is that way.  `Carried` is what every step of it keeps of one EV: what arrived, full or
  trimmed, is what the report says arrived, and an EV that is not in the report had no arrival.
-/
import Srv6Mrc.Wire.RoundTrip
import Srv6Mrc.Loss.Conservation
import Srv6Mrc.Loss.Calls

namespace Srv6Mrc

/-! ## From the counters to the sender -/

namespace LossWindowTable

variable {W : LossWindowTable} {K : Type} [DecidableEq K]

variable (W) in
/-- A flow's window on its way to the sender: `snapshot_and_reset` and `encode_loss_report` at the
    receiver, `decode_loss_report` at the other end. -/
def transmit (flowKey : K) (s : W.Flows K) : Except WireError LossReport := do
  let taken ← (W.snapshotAndReset flowKey s).2
  let payload ← encodeLossReport taken.windowId.toNat taken.planes
  decodeLossReport payload

/-- The report says of the EV that `n` packets arrived, or says nothing and none did. -/
structure Carried (report : LossReport) (e : W.EV) (n : Nat) : Prop where
  record : ∀ rec ∈ report.planes, rec.ev = ((e.1 : Nat), (e.2 : Nat)) → rec.arrived = n
  absent : ((e.1 : Nat), (e.2 : Nat)) ∉ report.reported → n = 0

theorem toNat_checkU8 {v : Nat} {name : String} {x : UInt8} (h : checkU8 v name = .ok x) :
    x.toNat = v := by
  unfold checkU8 at h
  split at h
  · cases h
  · rw [← Except.ok.inj h, Int.toNat_natCast]
    exact UInt8.toNat_ofNat_of_lt' (by show v < 256; omega)

theorem toNat_checkU32 {v : Nat} {name : String} {x : UInt32} (h : checkU32 v name = .ok x) :
    x.toNat = v := by
  unfold checkU32 at h
  split at h
  · cases h
  · rw [← Except.ok.inj h, Int.toNat_natCast]
    exact UInt32.toNat_ofNat_of_lt' (by show v < 4294967296; omega)

/-- The record of a cell, when there is one: the EV, and both counts capped at u32. -/
theorem evRecord_ok {e : W.EV} {c : EvCounters} {rec : PlaneLossRecord}
    (h : W.evRecord e c = .ok rec) :
    rec.ev = ((e.1 : Nat), (e.2 : Nat)) ∧ rec.seen.toNat = min c.seen 0xFFFFFFFF ∧
      rec.trimmed.toNat = min c.trimmed 0xFFFFFFFF := by
  unfold evRecord PlaneLossRecord.new at h
  obtain ⟨planeId, hp, h⟩ := Outcome.bind_ok.mp h
  obtain ⟨pathId, hq, h⟩ := Outcome.bind_ok.mp h
  obtain ⟨seen, hs, h⟩ := Outcome.bind_ok.mp h
  obtain ⟨expected, -, h⟩ := Outcome.bind_ok.mp h
  obtain ⟨maxGap, -, h⟩ := Outcome.bind_ok.mp h
  obtain ⟨trimmed, ht, h⟩ := Outcome.bind_ok.mp h
  cases h
  exact ⟨Prod.ext (toNat_checkU8 hp) (toNat_checkU8 hq), toNat_checkU32 hs, toNat_checkU32 ht⟩

/-- A snapshot that returned has one record for each active cell, and no other. -/
theorem snapshot_ok {k : K} {s : W.Flows K} {taken : LossReport}
    (h : (W.snapshotAndReset k s).2 = .ok taken) :
    (∀ rec ∈ taken.planes, ∃ e, ((s.window k).evs e).active = true ∧
      W.evRecord e ((s.window k).evs e) = .ok rec) ∧
    ∀ e, ((s.window k).evs e).active = true →
      ∃ rec ∈ taken.planes, W.evRecord e ((s.window k).evs e) = .ok rec := by
  unfold snapshotAndReset at h
  dsimp only at h
  split at h
  · cases h
  · rename_i records hrecords
    unfold LossReport.new at h
    obtain ⟨windowId, -, h⟩ := Outcome.bind_ok.mp h
    cases h
    obtain ⟨hmade, hmakes⟩ := Outcome.mem_mapM hrecords
    constructor
    · intro rec hrec
      obtain ⟨e, he, hok⟩ := hmade rec hrec
      exact ⟨e, (List.mem_filter.mp he).2, hok⟩
    · intro e he
      exact hmakes e (List.mem_filter.mpr ⟨mem_cells e, he⟩)

/-- The wire takes a report that is not too long, and saturates its trimmed counts. -/
theorem transmit_ok {k : K} {s : W.Flows K} {report : LossReport}
    (h : W.transmit k s = .ok report) :
    ∃ taken, (W.snapshotAndReset k s).2 = .ok taken ∧
      report.planes = taken.planes.map PlaneLossRecord.saturate := by
  unfold transmit at h
  obtain ⟨taken, htaken, h⟩ := Outcome.bind_ok.mp h
  obtain ⟨payload, hpayload, h⟩ := Outcome.bind_ok.mp h
  rw [encodeLossReport_eq] at hpayload
  split at hpayload
  · cases hpayload
  · rename_i hlen
    rw [← Except.ok.inj hpayload, decode_reportBytes _ (Nat.not_lt.mp hlen)] at h
    cases h
    exact ⟨taken, htaken, rfl⟩

theorem arrived_saturate (rec : PlaneLossRecord) :
    rec.saturate.arrived = rec.seen.toNat + min rec.trimmed.toNat 0xFFFF := by
  show rec.seen.toNat + (UInt32.ofNat (min rec.trimmed.toNat 0xFFFF)).toNat = _
  rw [UInt32.toNat_ofNat_of_lt' (by show min _ _ < 4294967296; omega)]

/-- What arrived on an EV is what the sender is told, up to the caps of the two fields. -/
theorem carried_transmit {k : K} {s : W.Flows K} {report : LossReport}
    (h : W.transmit k s = .ok report) {e : W.EV} {seqs : List Int} {trimmed : Nat}
    (hc : Counts ((s.window k).evs e) seqs trimmed) :
    Carried report e (min seqs.length 0xFFFFFFFF + min trimmed 0xFFFF) := by
  obtain ⟨taken, htaken, hplanes⟩ := transmit_ok h
  obtain ⟨hmade, hmakes⟩ := snapshot_ok htaken
  constructor
  · intro rec hrec hev
    rw [hplanes] at hrec
    obtain ⟨rec', hrec', rfl⟩ := List.mem_map.mp hrec
    obtain ⟨e', -, hok⟩ := hmade rec' hrec'
    obtain ⟨hev', hseen, htrim⟩ := evRecord_ok hok
    -- the record's EV says which cell it was made of
    obtain ⟨hp, hq⟩ := Prod.mk.inj (hev'.symm.trans hev)
    obtain rfl : e' = e := Prod.ext (Fin.ext hp) (Fin.ext hq)
    rw [arrived_saturate, hseen, htrim, hc.seen, hc.trim]
    omega
  · intro hout
    have hidle : ¬ ((s.window k).evs e).active = true := by
      intro hactive
      obtain ⟨rec, hrec, hok⟩ := hmakes e hactive
      refine hout ?_
      rw [LossReport.reported, hplanes, List.map_map]
      exact List.mem_map.mpr ⟨rec, hrec, (evRecord_ok hok).1⟩
    rw [hc.active, not_or, not_not, not_not] at hidle
    rw [hidle.1, hidle.2]
    rfl

/-- The cells of a flow whose window starts empty, after calls that do not close it. -/
theorem counts_window {k : K} {l : W.Log K} (hnew : (l.flows.window k).evs = fun _ => {})
    {ops : List (Op K)} (hopen : .snapshot k ∉ ops) (e : W.EV) :
    Counts (((ops.foldl W.opStep l).flows.window k).evs e) (fulls k e ops) (trims k e ops) := by
  induction ops using List.reverseRecOn generalizing e with
  | nil =>
    show Counts ((l.flows.window k).evs e) [] 0
    rw [hnew]
    exact counts_empty
  | append_singleton ops op ih =>
    rw [List.mem_append, not_or, List.mem_singleton] at hopen
    rw [List.foldl_append]
    exact counts_step (ih hopen.1) (Ne.symm hopen.2) e

/-- On a grid whose indices fit a byte, and whose EVs fit a report, a window always goes through. -/
theorem transmit_returns (hp : W.numPlanes ≤ 256) (hq : W.numPaths ≤ 256)
    (hlen : W.cells.length ≤ 0xFFFF) {s : W.Flows K} {ops : List (Op K)} (h : Tracked s ops)
    (k : K) : ∃ report, W.transmit k s = .ok report := by
  let records := (W.cells.filter fun e => ((s.window k).evs e).active).map fun e =>
    recordOf e ((s.window k).evs e)
  have hsnap : (W.snapshotAndReset k s).2 = .ok ⟨.ofNat (s.window k).nextWindowId, records⟩ := by
    rw [snapshotAndReset_eq hp hq h]
  have hshort : records.length ≤ 0xFFFF := by
    rw [List.length_map]
    exact (List.length_filter_le _ W.cells).trans hlen
  have hencoded : encodeLossReport (UInt16.ofNat (s.window k).nextWindowId).toNat records
      = .ok (reportBytes (.ofNat (s.window k).nextWindowId) records) := by
    rw [encodeLossReport_eq, if_neg (Nat.not_lt.mpr hshort)]
  refine ⟨⟨.ofNat (s.window k).nextWindowId, records.map PlaneLossRecord.saturate⟩, ?_⟩
  unfold transmit
  exact Outcome.bind_ok.mpr ⟨_, hsnap,
    Outcome.bind_ok.mpr ⟨_, hencoded, decode_reportBytes _ hshort⟩⟩

end LossWindowTable

/-! ## From the sender's report to the table -/

namespace EVStateTable

variable {T : EVStateTable}

/-- A call a report makes for an EV: one of its records, or its absence. -/
theorem fusionCalls_cases {cb : Option (TransitionCb T)} {tenant : String}
    {paired : Option SentWindow} {report : LossReport} {s : Store T} {c : Call}
    (h : c ∈ T.fusionCalls cb tenant paired report s) :
    ∃ w, paired = some w ∧
      ((∃ rec ∈ report.planes, 0 < w.sentOn rec.ev.1 rec.ev.2 ∧
        c = .lossWindow tenant rec.ev.1 rec.ev.2 rec.arrived (w.sentOn rec.ev.1 rec.ev.2)) ∨
      ∃ e : T.EV, ((e.1 : Nat), (e.2 : Nat)) ∉ report.reported ∧ 0 < w.sentOn e.1 e.2 ∧
        c = .lossWindow tenant e.1 e.2 0 (w.sentOn e.1 e.2)) := by
  cases paired with
  | none => exact absurd h List.not_mem_nil
  | some w =>
    refine ⟨w, rfl, ?_⟩
    rcases List.mem_append.mp h with h | h
    · obtain ⟨rec, hrec, hcall⟩ := List.mem_filterMap.mp h
      unfold reportedCall at hcall
      split at hcall
      · rename_i hfed
        exact Or.inl ⟨rec, hrec, hfed.2.2.2, (Option.some.inj hcall).symm⟩
      · cases hcall
    · have habsent : ∀ (es : List T.EV) (s : Store T), c ∈ T.absentCalls cb tenant w report s es →
          ∃ e : T.EV, ((e.1 : Nat), (e.2 : Nat)) ∉ report.reported ∧ 0 < w.sentOn e.1 e.2 ∧
            c = .lossWindow tenant e.1 e.2 0 (w.sentOn e.1 e.2) := by
        intro es
        induction es with
        | nil => exact fun s hc => absurd hc List.not_mem_nil
        | cons e es ih =>
          intro s hc
          rw [absentCalls] at hc
          split at hc
          · rename_i hlost
            rcases List.mem_cons.mp hc with rfl | hc
            · exact ⟨e, hlost.2.1, Nat.lt_of_lt_of_le Nat.zero_lt_two hlost.1, rfl⟩
            · exact ih _ hc
          · exact ih s hc
      unfold lostCalls at h
      dsimp only at h
      split at h
      · exact Or.inr (habsent _ _ h)
      · exact absurd h List.not_mem_nil

/-- As much seen as expected is no loss. -/
theorem lossRatio_full {seen expected : Nat} (h : expected ≤ seen) :
    lossRatio seen expected = 0 := by
  have hmin : min (seen : Int) expected = expected := by omega
  rw [lossRatio, hmin, sub_self]
  simp

open LossWindowTable

section Trims

variable {W : LossWindowTable} {cb : Option (TransitionCb T)} {tenant : String} {e : W.EV} {n : Nat}
  {report : LossReport} {paired : Option SentWindow}

/-- Every call for an EV of which everything sent arrived is one without loss. -/
theorem lossless_calls (h : Carried report e n)
    (hsent : ∀ w, paired = some w → w.sentOn e.1 e.2 ≤ n) {s : Store T} {seen expected : Int}
    (hc : Call.lossWindow tenant e.1 e.2 seen expected ∈ T.fusionCalls cb tenant paired report s) :
    lossRatio seen expected = 0 := by
  obtain ⟨w, hw, ⟨rec, hrec, -, heq⟩ | ⟨e', hout, hpos, heq⟩⟩ := fusionCalls_cases hc
  · obtain ⟨-, hp, hq, rfl, rfl⟩ := Call.lossWindow.inj heq
    have hev : rec.ev = ((e.1 : Nat), (e.2 : Nat)) :=
      Prod.ext (Nat.cast_injective hp.symm) (Nat.cast_injective hq.symm)
    rw [h.record rec hrec hev, hev]
    exact lossRatio_full (hsent w hw)
  · -- an EV that is not in the report had no arrival, so nothing was sent on it
    obtain ⟨-, hp, hq, rfl, rfl⟩ := Call.lossWindow.inj heq
    rw [← Nat.cast_injective hp, ← Nat.cast_injective hq] at hout hpos
    have hle := hsent w hw
    rw [h.absent hout] at hle
    omega

/-- What the calls of a report are for one EV of the table, if they are without loss. -/
theorem signal_lossless {s : Store T}
    (h : ∀ seen expected, Call.lossWindow tenant e.1 e.2 seen expected
      ∈ T.fusionCalls cb tenant paired report s → lossRatio seen expected = 0)
    {tenant' : String} {e' : T.EV} (hp : (e'.1 : Nat) = e.1) (hq : (e'.2 : Nat) = e.2) {c : Call}
    (hc : c ∈ T.fusionCalls cb tenant paired report s) :
    T.signal tenant' e' c = .quiet ∨ T.signal tenant' e' c = .loss 0 := by
  have hform : ∃ plane path seen expected, c = .lossWindow tenant plane path seen expected := by
    obtain ⟨w, -, ⟨rec, -, -, rfl⟩ | ⟨e'', -, -, rfl⟩⟩ := fusionCalls_cases hc
    · exact ⟨_, _, _, _, rfl⟩
    · exact ⟨_, _, _, _, rfl⟩
  obtain ⟨plane, path, seen, expected, rfl⟩ := hform
  rw [signal]
  split
  · rename_i hN
    obtain ⟨⟨-, -, rfl, rfl⟩, -, -⟩ := hN
    rw [hp, hq] at hc
    rw [h seen expected hc]
    exact Or.inr rfl
  · exact Or.inl rfl

end Trims

/-- Congestion trims never read as path loss: if all that was sent on an EV arrived, full or
    trimmed, then whatever happened on the others, every call the window's report makes for the EV
    has loss ratio zero, and with a threshold that is not negative its streak does not grow and it
    is not demoted. -/
theorem trims_never_loss {K : Type} [DecidableEq K] (T : EVStateTable) (W : LossWindowTable)
    (cb : Option (TransitionCb T)) (tenant : String) (k : K) (l : W.Log K)
    (hnew : (l.flows.window k).evs = fun _ => {}) (ops : List (LossWindowTable.Op K))
    (hopen : .snapshot k ∉ ops) (e : W.EV) (htrim : LossWindowTable.trims k e ops ≤ 65535)
    (hfull : (fulls k e ops).length < 2 ^ 32)
    (sentRing : SentWindowRing T.numPlanes T.numPaths) (receivedAtNs maxWindowSkewNs : Int)
    (hsent : ∀ w, sentRing.findClosest receivedAtNs maxWindowSkewNs = some w →
      w.sentOn e.1 e.2 ≤ (fulls k e ops).length + LossWindowTable.trims k e ops)
    (report : LossReport) (hreport : W.transmit k (ops.foldl W.opStep l).flows = .ok report)
    (f : Fused T) :
    let calls := T.fusionCalls cb tenant (sentRing.findClosest receivedAtNs maxWindowSkewNs) report
      f.table
    let o := T.applyLossReport cb tenant report sentRing receivedAtNs maxWindowSkewNs
      minSentForAbsentLoss f
    (if tenant ∈ T.tenants then Fused.Leaves o (T.makeCalls cb calls f.table)
      else o.state.table = f.table) ∧
    (∀ seen expected, Call.lossWindow tenant e.1 e.2 seen expected ∈ calls →
      lossRatio seen expected = 0) ∧
    (0 ≤ T.cfg.lossThreshold → ∀ tenant' (e' : T.EV), (e'.1 : Nat) = e.1 → (e'.2 : Nat) = e.2 →
      (o.state.table.evs tenant' e').consecutiveLossDemoteWindows
        ≤ (f.table.evs tenant' e').consecutiveLossDemoteWindows ∧
      ((f.table.evs tenant' e').state ≠ .assumedBad →
        (o.state.table.evs tenant' e').state ≠ .assumedBad)) := by
  intro calls o
  have hcarried := carried_transmit hreport (counts_window hnew hopen e)
  have hn : min (fulls k e ops).length 0xFFFFFFFF + min (LossWindowTable.trims k e ops) 0xFFFF
      = (fulls k e ops).length + LossWindowTable.trims k e ops := by omega
  rw [hn] at hcarried
  have hzero : ∀ seen expected, Call.lossWindow tenant e.1 e.2 seen expected ∈ calls →
      lossRatio seen expected = 0 := fun seen expected hc => lossless_calls hcarried hsent hc
  by_cases hmem : tenant ∈ T.tenants
  · -- a tenant of the table: its calls carry no loss
    have hleaves : Fused.Leaves o (T.makeCalls cb calls f.table) :=
      applyLossReport_calls cb hmem report sentRing receivedAtNs maxWindowSkewNs f
    refine ⟨by rwa [if_pos hmem], hzero, fun hthr tenant' e' hp hq => ?_⟩
    obtain ⟨made, hpre, hmade⟩ := makeCalls_prefix cb calls f.table
    have hsig : ∀ c ∈ made, T.signal tenant' e' c = .quiet ∨ T.signal tenant' e' c = .loss 0 :=
      fun c hc => signal_lossless hzero hp hq (hpre.subset hc)
    rw [hleaves.1, hmade]
    constructor
    · -- the streak is not longer for them
      have hle := runFrom_streak_le cb made f.table tenant' e'
      have hnone : made.countP (T.lossAbove tenant' e') = 0 := by
        refine List.countP_eq_zero.mpr fun c hc => ?_
        rcases hsig c hc with hquiet | hloss
        · rw [lossAbove_of_quiet hquiet]
          exact Bool.false_ne_true
        · rw [lossAbove, hloss]
          simpa using hthr
      omega
    · -- and no loss window demotes
      refine runFrom_spared cb fun c hc => ?_
      rcases hsig c hc with hquiet | hloss
      · exact Or.inl hquiet
      · exact Or.inr ⟨0, hthr, hloss⟩
  · -- a tenant that the table does not know
    have hkeep : o.state.table = f.table :=
      report_unknown cb hmem report sentRing receivedAtNs maxWindowSkewNs f
    refine ⟨by rwa [if_neg hmem], hzero, fun _ tenant' e' _ _ => ?_⟩
    rw [hkeep]
    exact ⟨Nat.le_refl _, fun h => h⟩

/-- A window of one flow: half of (0, 0) arrived, all of (0, 1) but trimmed, nothing of (0, 2). -/
def congested : List (LossWindowTable.Op String) :=
  [.record "a" 0 0 1, .recordTrimmed "a" 0 1, .recordTrimmed "a" 0 1]

theorem trims_never_loss_congested :
    let T := threePaths {} (by decide)
    let W : LossWindowTable := ⟨1, 3, by decide, by decide⟩
    let report : LossReport := ⟨0, [⟨0, 0, 1, 1, 0, 0⟩, ⟨0, 1, 0, 0, 0, 2⟩]⟩
    W.transmit "a" (W.run congested).flows = .ok report ∧
    ((T.applyLossReport none "green" report (oneWindow [2, 2, 2] rfl) 5 0 minSentForAbsentLoss
      ⟨T.fresh, {}⟩).state.table.evs "green" (onPath 1)).consecutiveLossDemoteWindows ≤ 0 := by
  intro T W report
  have hreport : W.transmit "a" (W.run congested).flows = .ok report := by decide
  have hpaired : (oneWindow [2, 2, 2] rfl).findClosest 5 0 = some ⟨0, 10, [[2, 2, 2]], 0⟩ := by
    decide
  obtain ⟨-, -, hkept⟩ := trims_never_loss T W none "green" "a" ⟨fun _ => none, []⟩ rfl congested
    (by decide) (0, 1) (by decide) (by decide) (oneWindow [2, 2, 2] rfl) 5 0
    (by
      intro w hw
      rw [← Option.some.inj (hpaired.symm.trans hw)]
      decide)
    report hreport ⟨T.fresh, {}⟩
  have hstreak := (hkept (by decide +kernel) "green" (onPath 1) rfl rfl).1
  rw [fresh_evs] at hstreak
  exact ⟨hreport, hstreak⟩

/-- A window in which `n` packets arrive, one after the other, on one EV. -/
theorem flood (n : Nat) :
    let W : LossWindowTable := ⟨1, 3, by decide, by decide⟩
    let ops : List (LossWindowTable.Op String) := List.replicate n (.record "a" 0 0 0)
    fulls "a" ((0, 0) : W.EV) ops = List.replicate n 0 ∧
    LossWindowTable.trims "a" ((0, 0) : W.EV) ops = 0 ∧
    ∃ report, W.transmit "a" (W.run ops).flows = .ok report ∧
      Carried report ((0, 0) : W.EV) (min n 0xFFFFFFFF) := by
  intro W ops
  have hfull : fulls "a" ((0, 0) : W.EV) ops = List.replicate n 0 :=
    List.filterMap_replicate_of_some rfl
  have htrim : LossWindowTable.trims "a" ((0, 0) : W.EV) ops = 0 := by
    refine List.countP_eq_zero.mpr fun op hop => ?_
    rw [List.eq_of_mem_replicate hop]
    exact Bool.false_ne_true
  obtain ⟨report, hreport⟩ := transmit_returns (W := W) (by decide) (by decide) (by decide)
    (tracked_run (by decide) (by decide) ops) "a"
  refine ⟨hfull, htrim, report, hreport, ?_⟩
  have hopen : .snapshot "a" ∉ ops := fun hin => by cases List.eq_of_mem_replicate hin
  have hcell := counts_window (W := W) (l := ⟨fun _ => none, []⟩) rfl hopen (0, 0)
  have hcarried := carried_transmit hreport hcell
  rwa [hfull, htrim, List.length_replicate, Nat.zero_min, Nat.add_zero] at hcarried

/-- Two exceptions: 2^32 full arrivals are reported as 2^32 - 1, so that one packet
    of as many sent is missing; and under a negative threshold a window without loss is a lossy
    one, and three of them demote. -/
theorem trims_exceptions :
    (let T := threePaths {} (by decide)
     let W : LossWindowTable := ⟨1, 3, by decide, by decide⟩
     let ops : List (LossWindowTable.Op String) := List.replicate (2 ^ 32) (.record "a" 0 0 0)
     (fulls "a" ((0, 0) : W.EV) ops).length = 2 ^ 32 ∧
     ∃ report, W.transmit "a" (W.run ops).flows = .ok report ∧
       ∃ seen expected, Call.lossWindow "green" 0 0 seen expected ∈ T.fusionCalls none "green"
         ((oneWindow [2 ^ 32, 0, 0] rfl).findClosest 5 0) report T.fresh ∧
         lossRatio seen expected ≠ 0) ∧
    (let T := threePaths { lossThreshold := -1, lossDemoteConsecutive := 1 } (by decide)
     let W : LossWindowTable := ⟨1, 3, by decide, by decide⟩
     ∃ report, W.transmit "a" (W.run congested).flows = .ok report ∧
       ((T.applyLossReport none "green" report (oneWindow [2, 2, 2] rfl) 5 0 minSentForAbsentLoss
         ⟨T.fresh, {}⟩).state.table.evs "green" (onPath 1)).state = .assumedBad) := by
  constructor
  · intro T W ops
    obtain ⟨hfull, -, report, hreport, hcarried⟩ := flood (2 ^ 32)
    refine ⟨by rw [hfull, List.length_replicate], report, hreport, ?_⟩
    -- the EV is in the report, as something arrived on it
    have hin : ((0 : Nat), (0 : Nat)) ∈ report.reported := by
      by_contra hout
      exact absurd (hcarried.absent hout) (by decide)
    obtain ⟨rec, hrec, hev⟩ := List.mem_map.mp hin
    have harrived : rec.arrived = 0xFFFFFFFF := hcarried.record rec hrec hev
    obtain ⟨hplane, hpath⟩ := Prod.mk.inj hev
    have hpaired : (oneWindow [2 ^ 32, 0, 0] rfl).findClosest 5 0
        = some ⟨0, 10, [[2 ^ 32, 0, 0]], 0⟩ := by decide
    refine ⟨0xFFFFFFFF, 2 ^ 32, ?_, by unfold lossRatio; norm_num⟩
    rw [hpaired]
    refine List.mem_append_left _ (List.mem_filterMap.mpr ⟨rec, hrec, ?_⟩)
    have hdata : rec.noData = false := by
      by_contra hno
      rw [Bool.not_eq_false, PlaneLossRecord.noData, decide_eq_true_eq] at hno
      rw [PlaneLossRecord.arrived, hno.1, hno.2.2] at harrived
      exact absurd harrived (by decide)
    unfold reportedCall
    rw [harrived, hplane, hpath, if_pos ⟨by decide, by decide, hdata, by decide⟩]
    rfl
  · intro T W
    exact ⟨⟨0, [⟨0, 0, 1, 1, 0, 0⟩, ⟨0, 1, 0, 0, 0, 2⟩]⟩, by decide +kernel, by decide +kernel⟩

end EVStateTable
end Srv6Mrc
