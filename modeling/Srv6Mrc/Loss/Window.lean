/-
  `srv6_mrc/mrc/loss_compute.py` and `probe.py`: the sender's emit windows, the ring that keeps the
  recent ones, and the loss report a receiver sends.

  A report is paired with the window whose midpoint is closest to its arrival.  `SentWindowRing` is
  the ring of one grid: `push` is the only way in and checks the window's shape, so every window it
  holds has a count for each EV of the grid.
-/
import Mathlib.Algebra.Order.Group.Unbundled.Int
import Mathlib.Data.Int.Order.Basic
import Mathlib.Data.List.FinRange
import Mathlib.Algebra.Order.BigOperators.Group.List
import Mathlib.Algebra.Order.Group.Nat
import Srv6Mrc.Lib.Closest
import Srv6Mrc.Lib.SlidingWindow
import Srv6Mrc.EvState.Config

namespace Srv6Mrc

/-- One closed emit-window snapshot: wall-clock bounds and packets sent per EV. -/
structure SentWindow where
  startNs : Int
  endNs : Int
  sent : List (List Nat)
  windowId : Nat := 0
  deriving DecidableEq, Repr

namespace SentWindow

/-- `midpoint_ns` -/
def midpointNs (w : SentWindow) : Int := (w.startNs + w.endNs) / 2

/-- `sent[plane][path]`, zero outside of the window's bounds. -/
def sentOn (w : SentWindow) (plane path : Nat) : Nat :=
  match w.sent[plane]? with
  | none => 0
  | some row => row[path]?.getD 0

/-- `sum(sum(row) for row in paired.sent)` -/
def totalSent (w : SentWindow) : Nat := (w.sent.map List.sum).sum

/-- `enumerate(paired.sent)` with `enumerate(row)` inside: plane, path and count. -/
def cells (w : SentWindow) : List (Nat × Nat × Nat) :=
  w.sent.zipIdx.flatMap fun (row, plane) => row.zipIdx.map fun (n, path) => (plane, path, n)

/-- The window has a count for each EV of the grid. -/
def Shaped (numPlanes numPaths : Nat) (w : SentWindow) : Prop :=
  w.sent.length = numPlanes ∧ ∀ row ∈ w.sent, row.length = numPaths

end SentWindow

/-- Bounded ring of the recent emit windows of a grid. -/
structure SentWindowRing (numPlanes numPaths : Nat) where
  capacity : Nat
  windows : List SentWindow
  capacity_pos : 0 < capacity
  bounded : windows.length ≤ capacity
  shaped : ∀ w ∈ windows, w.Shaped numPlanes numPaths

namespace SentWindowRing

/-- `SentWindowRing.__init__` -/
def new (numPlanes numPaths capacity : Int) :
    Except PyError (SentWindowRing numPlanes.toNat numPaths.toNat) :=
  if numPlanes ≤ 0 then .error (.ringPlanesNotPositive numPlanes)
  else if numPaths ≤ 0 then .error (.ringPathsNotPositive numPaths)
  else if h : capacity ≤ 0 then .error (.capacityNotPositive capacity)
  else .ok {
    capacity := capacity.toNat
    windows := []
    capacity_pos := by omega
    bounded := Nat.zero_le _
    shaped := fun w hw => absurd hw List.not_mem_nil }

variable {numPlanes numPaths : Nat}

/-- `push` -/
def push (ring : SentWindowRing numPlanes numPaths) (window : SentWindow) :
    Except PyError (SentWindowRing numPlanes numPaths) :=
  if hlen : window.sent.length = numPlanes then
    match hrow : window.sent.find? fun row => row.length ≠ numPaths with
    | some row => .error (.rowLength row.length numPaths)
    | none => .ok { ring with
        windows := appendMax ring.capacity ring.windows window
        bounded := length_appendMax_le ..
        shaped := by
          intro w hw
          rcases mem_appendMax hw with h | rfl
          · exact ring.shaped w h
          · refine ⟨hlen, fun row hr => ?_⟩
            simpa using List.find?_eq_none.mp hrow row hr }
  else .error (.sentLength window.sent.length numPlanes)

/-- How far a window's midpoint is from the target. -/
def skew (targetNs : Int) (w : SentWindow) : Int := |w.midpointNs - targetNs|

/-- `find_closest`: a strictly smaller skew than the best so far wins. -/
def findClosest (ring : SentWindowRing numPlanes numPaths) (targetNs maxSkewNs : Int) :
    Option SentWindow :=
  Closest.scan (skew targetNs) (maxSkewNs + 1) ring.windows

theorem findClosest_none {ring : SentWindowRing numPlanes numPaths} {targetNs maxSkewNs : Int} :
    ring.findClosest targetNs maxSkewNs = none
      ↔ ∀ w ∈ ring.windows, maxSkewNs < |w.midpointNs - targetNs| :=
  Closest.scan_none

/-- The paired window is within the skew bound, and none in the ring is closer. -/
theorem findClosest_some {ring : SentWindowRing numPlanes numPaths} {targetNs maxSkewNs : Int}
    {w : SentWindow} (h : ring.findClosest targetNs maxSkewNs = some w) :
    w ∈ ring.windows ∧ |w.midpointNs - targetNs| ≤ maxSkewNs
      ∧ ∀ w' ∈ ring.windows, |w.midpointNs - targetNs| ≤ |w'.midpointNs - targetNs| := by
  obtain ⟨hmem, hlt, hmin⟩ := Closest.scan_some h
  exact ⟨hmem, Int.lt_add_one_iff.mp hlt, hmin⟩

theorem findClosest_shaped {ring : SentWindowRing numPlanes numPaths} {targetNs maxSkewNs : Int}
    {w : SentWindow} (h : ring.findClosest targetNs maxSkewNs = some w) :
    w.Shaped numPlanes numPaths :=
  ring.shaped w (findClosest_some h).1

end SentWindowRing

/-- One per-EV entry of a LOSS_REPORT: the fields are uint8 and uint32. -/
structure PlaneLossRecord where
  planeId : UInt8
  pathId : UInt8
  seen : UInt32
  expected : UInt32
  maxGap : UInt32 := 0
  trimmed : UInt32 := 0
  deriving DecidableEq, Repr

namespace PlaneLossRecord

/-- The EV the record is about. -/
def ev (rec : PlaneLossRecord) : Nat × Nat := (rec.planeId.toNat, rec.pathId.toNat)

/-- `rec.seen + rec.trimmed`: a trimmed packet arrived. -/
def arrived (rec : PlaneLossRecord) : Nat := rec.seen.toNat + rec.trimmed.toNat

/-- `rec.seen == 0 and rec.expected == 0 and rec.trimmed == 0` -/
def noData (rec : PlaneLossRecord) : Bool :=
  rec.seen = 0 ∧ rec.expected = 0 ∧ rec.trimmed = 0

end PlaneLossRecord

/-- A decoded LOSS_REPORT packet. -/
structure LossReport where
  windowId : UInt16 := 0
  planes : List PlaneLossRecord
  deriving DecidableEq, Repr

namespace LossReport

/-- `sum(rec.seen + rec.trimmed for rec in report.planes)` -/
def totalSeen (report : LossReport) : Nat := (report.planes.map PlaneLossRecord.arrived).sum

/-- `{(rec.plane_id, rec.path_id) for rec in report.planes}` -/
def reported (report : LossReport) : List (Nat × Nat) := report.planes.map PlaneLossRecord.ev

end LossReport

/-! ## Windows and grids -/

namespace SentWindow

variable {numPlanes numPaths : Nat} {w : SentWindow}

/-- A window only counts packets on EVs of its grid. -/
theorem Shaped.in_range (h : w.Shaped numPlanes numPaths) {plane path : Nat}
    (hpos : 0 < w.sentOn plane path) : plane < numPlanes ∧ path < numPaths := by
  unfold sentOn at hpos
  split at hpos
  · omega
  · rename_i row hrow
    obtain ⟨hlt, heq⟩ := List.getElem?_eq_some_iff.mp hrow
    constructor
    · rw [← h.1]; exact hlt
    · rw [← h.2 row (heq ▸ List.getElem_mem hlt)]
      by_contra hge
      rw [List.getElem?_eq_none (not_lt.mp hge)] at hpos
      exact absurd hpos (by simp)

/-- What was sent on one EV was sent. -/
theorem sentOn_le_totalSent (w : SentWindow) (plane path : Nat) :
    w.sentOn plane path ≤ w.totalSent := by
  unfold sentOn totalSent
  split
  · exact Nat.zero_le _
  · rename_i row hrow
    have hsum : row.sum ≤ (w.sent.map List.sum).sum :=
      List.single_le_sum (fun _ _ => Nat.zero_le _) _
        (List.mem_map.mpr ⟨row, List.mem_of_getElem? hrow, rfl⟩)
    cases hn : row[path]? with
    | none => exact Nat.zero_le _
    | some n =>
      have hle : n ≤ row.sum :=
        List.single_le_sum (fun _ _ => Nat.zero_le _) _ (List.mem_of_getElem? hn)
      exact hle.trans hsum

/-- The cells of a window are the cells of its grid, row by row. -/
theorem Shaped.cells_eq (h : w.Shaped numPlanes numPaths) :
    w.cells = (List.finRange numPlanes).flatMap fun plane : Fin numPlanes =>
      (List.finRange numPaths).map fun path : Fin numPaths =>
        ((plane : Nat), (path : Nat), w.sentOn plane path) := by
  obtain ⟨hlen, hrows⟩ := h
  have hrow : ∀ (row : List Nat) (plane : Nat), w.sent[plane]? = some row →
      (row.zipIdx.map fun (n, path) => (plane, path, n))
        = (List.finRange numPaths).map fun path : Fin numPaths =>
          (plane, (path : Nat), w.sentOn plane path) := by
    intro row plane hget
    have hmem : row ∈ w.sent := List.mem_of_getElem? hget
    refine List.ext_getElem (by simp [hrows row hmem]) fun i h₁ h₂ => ?_
    have hi : i < row.length := by simpa using h₁
    simp [sentOn, hget, hi]
  unfold cells
  rw [List.flatMap_def, List.flatMap_def]
  refine congrArg List.flatten (List.ext_getElem (by simp [hlen]) fun i h₁ h₂ => ?_)
  have hi : i < w.sent.length := by simpa using h₁
  have hget : w.sent[i]? = some w.sent[i] := List.getElem?_eq_getElem hi
  simpa using hrow _ i hget

/-- Every cell is an EV with its count. -/
theorem Shaped.sent_of_mem_cells (h : w.Shaped numPlanes numPaths) {plane path sent : Nat}
    (hmem : (plane, path, sent) ∈ w.cells) : sent = w.sentOn plane path := by
  rw [h.cells_eq] at hmem
  simp only [List.mem_flatMap, List.mem_map, List.mem_finRange, true_and, Prod.mk.injEq] at hmem
  obtain ⟨p, q, rfl, rfl, rfl⟩ := hmem
  rfl

end SentWindow

end Srv6Mrc
