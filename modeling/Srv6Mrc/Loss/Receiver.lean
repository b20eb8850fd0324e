/-
  `srv6_mrc/mrc/loss_window.py`: the receiver's per-flow, per-EV arrival counters.

  As with `EVStateTable` the object is split: `LossWindowTable` is what `__init__` fixes and checked,
  `Flows W K` is the dictionary the methods mutate.  Keys are any type with decidable equality; the
  source only hashes them.

  `min_seq`, `max_seq` and `last_seq` start at the sentinel -1, and `snapshot_and_reset` builds its
  records through `PlaneLossRecord`, whose field checks can raise with the window id already taken
  and the counters not yet reset.
-/
import Mathlib.Data.List.DropRight
import Srv6Mrc.Lib.Outcome
import Srv6Mrc.Wire.Probe

namespace Srv6Mrc

/-- Per-EV counters for one in-flight window of one flow (`_EvCounters`). -/
structure EvCounters where
  seen : Nat := 0
  /-- -1: no packet seen yet. -/
  minSeq : Int := -1
  maxSeq : Int := -1
  maxGap : Int := 0
  lastSeq : Int := -1
  /-- Header-only arrivals. -/
  trimmed : Nat := 0
  deriving DecidableEq, Repr

namespace EvCounters

/-- The body of `record`: one full arrival. -/
def arrive (c : EvCounters) (seq : Int) : EvCounters where
  seen := c.seen + 1
  minSeq := if c.minSeq < 0 ∨ seq < c.minSeq then seq else c.minSeq
  maxSeq := if c.maxSeq < seq then seq else c.maxSeq
  maxGap :=
    -- a step back is reordering, not a gap
    if 0 ≤ c.lastSeq ∧ c.maxGap < seq - c.lastSeq then seq - c.lastSeq else c.maxGap
  lastSeq := seq
  trimmed := c.trimmed

/-- The body of `record_trimmed`. -/
def trim (c : EvCounters) : EvCounters := { c with trimmed := c.trimmed + 1 }

/-- `counters.seen == 0 and counters.trimmed == 0` fails. -/
def active (c : EvCounters) : Bool := ¬ (c.seen = 0 ∧ c.trimmed = 0)

/-- `expected_local`, before the cap. -/
def expectedLocal (c : EvCounters) : Int :=
  if c.minSeq < 0 then 0 else c.maxSeq - c.minSeq + 1

end EvCounters

/-- The exceptions of `LossWindowTable`'s own checks. -/
inductive ReceiverError where
  /-- The range checks it shares with the sender's tables. -/
  | range (err : PyError)
  /-- `ValueError(f"seq must be uint32, got {seq}")` -/
  | seqNotUint32 (seq : Int)
  deriving DecidableEq, Repr

/-- What `LossWindowTable.__init__` fixes. -/
structure LossWindowTable where
  numPlanes : Nat
  numPaths : Nat
  numPlanes_pos : 0 < numPlanes
  numPaths_pos : 0 < numPaths

namespace LossWindowTable

/-- `LossWindowTable.__init__` -/
def new (numPlanes numPaths : Int) : Except ReceiverError LossWindowTable :=
  if h₁ : numPlanes ≤ 0 then .error (.range (.ringPlanesNotPositive numPlanes))
  else if h₂ : numPaths ≤ 0 then .error (.range (.ringPathsNotPositive numPaths))
  else .ok {
    numPlanes := numPlanes.toNat
    numPaths := numPaths.toNat
    numPlanes_pos := by omega
    numPaths_pos := by omega }

variable (W : LossWindowTable)

/-- An EV of the receiver's grid. -/
abbrev EV : Type := Fin W.numPlanes × Fin W.numPaths

/-- The grid in the order of the nested loops of `snapshot_and_reset`. -/
def cells : List W.EV :=
  (List.finRange W.numPlanes).flatMap fun p => (List.finRange W.numPaths).map fun q => (p, q)

/-- One flow's currently accumulating window; the defaults are a window just `reset`. -/
structure FlowWindow where
  nextWindowId : Nat := 0
  evs : W.EV → EvCounters := fun _ => {}

/-- The dictionary `_flows`. -/
abbrev Flows (K : Type) : Type := K → Option W.FlowWindow

variable {W} {K : Type} [DecidableEq K]

/-- `_flows.get(flow_key)`, or the window a first touch creates. -/
def Flows.window (s : W.Flows K) (flowKey : K) : W.FlowWindow := (s flowKey).getD {}

/-- Replace the counters of one EV. -/
def Flows.setEv (s : W.Flows K) (flowKey : K) (e : W.EV) (c : EvCounters) : W.Flows K :=
  let flow := s.window flowKey
  Function.update s flowKey (some { flow with evs := Function.update flow.evs e c })

variable (W)

/-- The checks on `plane` and `path` that `record` and `record_trimmed` start with. -/
def checkEv (plane path : Int) : Except ReceiverError W.EV :=
  if hp : 0 ≤ plane ∧ plane < W.numPlanes then
    if hq : 0 ≤ path ∧ path < W.numPaths then
      .ok (⟨plane.toNat, by omega⟩, ⟨path.toNat, by omega⟩)
    else .error (.range (.pathOutOfRange path W.numPaths))
  else .error (.range (.planeOutOfRange plane W.numPlanes))

/-- `record` -/
def record (flowKey : K) (plane path seq : Int) (s : W.Flows K) :
    Outcome ReceiverError (W.Flows K) :=
  match W.checkEv plane path with
  | .error err => .raise err s
  | .ok e =>
    if seq < 0 ∨ 0xFFFFFFFF < seq then .raise (.seqNotUint32 seq) s
    else .ok (s.setEv flowKey e (((s.window flowKey).evs e).arrive seq))

/-- `record_trimmed` -/
def recordTrimmed (flowKey : K) (plane path : Int) (s : W.Flows K) :
    Outcome ReceiverError (W.Flows K) :=
  match W.checkEv plane path with
  | .error err => .raise err s
  | .ok e => .ok (s.setEv flowKey e ((s.window flowKey).evs e).trim)

/-- The record of one active EV: every count is capped at u32. -/
def evRecord (e : W.EV) (c : EvCounters) : Except WireError PlaneLossRecord :=
  PlaneLossRecord.new e.1 e.2 (min c.seen 0xFFFFFFFF : Nat) (min c.expectedLocal 0xFFFFFFFF)
    (min c.maxGap 0xFFFFFFFF) (min c.trimmed 0xFFFFFFFF : Nat)

/-- `snapshot_and_reset` -/
def snapshotAndReset (flowKey : K) (s : W.Flows K) : W.Flows K × Except WireError LossReport :=
  let flow := s.window flowKey
  let windowId := flow.nextWindowId
  let taken := { flow with nextWindowId := (windowId + 1) % 0x10000 }
  match (W.cells.filter fun e => (flow.evs e).active).mapM fun e => W.evRecord e (flow.evs e) with
  | .error err => (Function.update s flowKey (some taken), .error err)
  | .ok records =>
    (Function.update s flowKey (some { taken with evs := fun _ => {} }),
      LossReport.new windowId records)

/-! ## Runs -/

/-- One call on the table. -/
inductive Op (K : Type) where
  | record (flowKey : K) (plane path seq : Int)
  | recordTrimmed (flowKey : K) (plane path : Int)
  | snapshot (flowKey : K)
  deriving DecidableEq, Repr

variable (K) in
/-- The dictionary, and what the snapshots returned so far, in their order. -/
structure Log where
  flows : W.Flows K
  reports : List (K × Except WireError LossReport)

/-- One call, whatever it raises. -/
def opStep (l : W.Log K) : Op K → W.Log K
  | .record flowKey plane path seq =>
    { l with flows := (W.record flowKey plane path seq l.flows).state }
  | .recordTrimmed flowKey plane path =>
    { l with flows := (W.recordTrimmed flowKey plane path l.flows).state }
  | .snapshot flowKey =>
    let (flows, report) := W.snapshotAndReset flowKey l.flows
    ⟨flows, l.reports ++ [(flowKey, report)]⟩

/-- A run of calls on a fresh table. -/
def run (ops : List (Op K)) : W.Log K := ops.foldl W.opStep ⟨fun _ => none, []⟩

end LossWindowTable
end Srv6Mrc
