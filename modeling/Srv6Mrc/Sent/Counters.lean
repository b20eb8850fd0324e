/-
  `srv6_mrc/mrc/sent_counters.py`: the data sender's cumulative counters, the file they go through,
  and the reader that takes the difference to its previous read; and `agent.py`: `_rotate_window`,
  which folds that difference into a `SentWindow`.

  The file is what `json.load` makes of it, or the exception that opening and loading it raised.
-/
import Srv6Mrc.Lib.Json
import Srv6Mrc.Lib.Outcome
import Srv6Mrc.Loss.Window

namespace Srv6Mrc

open Py

/-! ## The writer -/

/-- The counters of `SentCounterWriter`: `_sent`, zero at the start. -/
structure SentCounterWriter (numPlanes numPaths : Nat) where
  sent : Fin numPlanes → Fin numPaths → Nat := fun _ _ => 0
  publishErrors : Nat := 0

/-- What `publish` writes. -/
structure SentPayload where
  writtenNs : Int
  sent : List (List Nat)

/-- A list of counts in a document. -/
def jsonRow {F : Type} (row : List Nat) : Json F := .arr (row.map fun n : Nat => .int n)

/-- The payload after `json.dump` and `json.load`. -/
def SentPayload.json {F : Type} (p : SentPayload) : Json F :=
  .obj [("written_ns", .int p.writtenNs), ("sent", .arr (p.sent.map jsonRow))]

namespace SentCounterWriter

variable {numPlanes numPaths : Nat}

/-- `record` -/
def record (plane path : Int) (w : SentCounterWriter numPlanes numPaths) :
    SentCounterWriter numPlanes numPaths :=
  if h : (0 ≤ plane ∧ plane < numPlanes) ∧ 0 ≤ path ∧ path < numPaths then
    let p : Fin numPlanes := ⟨plane.toNat, by omega⟩
    let q : Fin numPaths := ⟨path.toNat, by omega⟩
    { w with sent := Function.update w.sent p (Function.update (w.sent p) q (w.sent p q + 1)) }
  else w

/-- `list(row)` for one row of `_sent`. -/
def row (w : SentCounterWriter numPlanes numPaths) (p : Fin numPlanes) : List Nat :=
  (List.finRange numPaths).map (w.sent p)

/-- `[list(row) for row in self._sent]` -/
def rows (w : SentCounterWriter numPlanes numPaths) : List (List Nat) :=
  (List.finRange numPlanes).map w.row

end SentCounterWriter

/-! ## The reader -/

/-- One cell of a list of rows. -/
def cell {α : Type} (rows : List (List α)) (plane path : Nat) : Option α :=
  (rows[plane]?).bind fun row => row[path]?

/-- A grid of counts as the reader returns it. -/
abbrev Grid : Type := List (List Int)

/-- `SentCounterReader` -/
structure SentCounterReader (numPlanes numPaths : Nat) where
  last : Option Grid := none
  readErrors : Nat := 0

namespace SentCounterReader

variable {numPlanes numPaths : Nat} {F : Type} [Builtins F]

/-- `not isinstance(row, list) or len(row) != self.num_paths` -/
def misfit (numPaths : Nat) : Json F → Bool
  | .arr items => items.length ≠ numPaths
  | _ => true

/-- The items of a row that fits. -/
def items : Json F → List (Json F)
  | .arr items => items
  | _ => []

/-- The rows of `sent`, if it is a grid of the right shape. -/
def shaped (numPlanes numPaths : Nat) (payload : Json F) : Option (List (List (Json F))) :=
  match payload with
  | .obj fields =>
    match Json.field "sent" fields with
    | some (.arr rows) =>
      if rows.length ≠ numPlanes ∨ rows.any (misfit numPaths) then none else some (rows.map items)
    | _ => none
  | _ => none

/-- The counts of a loaded file: none if it is misshaped, and `int(v)` may raise. -/
def counts (numPlanes numPaths : Nat) (payload : Json F) : Except Exc (Option Grid) :=
  match shaped numPlanes numPaths payload with
  | none => .ok none
  | some sent => (sent.mapM fun row : List (Json F) => row.mapM Json.toInt).map some

/-- `_read`, from what opening and loading the file gave. -/
def read (r : SentCounterReader numPlanes numPaths) (loaded : Except Exc (Json F)) :
    SentCounterReader numPlanes numPaths × Except Exc (Option Grid) :=
  match loaded with
  | .error err =>
    if err.caught [.fileNotFoundError] then (r, .ok none)
    else if err.caught [.osError, .valueError] then
      ({ r with readErrors := r.readErrors + 1 }, .ok none)
    else (r, .error err)
  | .ok payload =>
    match counts numPlanes numPaths payload with
    | .ok none => ({ r with readErrors := r.readErrors + 1 }, .ok none)
    | other => (r, other)

/-- `c - l if c >= l else c` -/
def cellDelta (c l : Int) : Int := if l ≤ c then c - l else c

/-- The difference of two grids, cell by cell. -/
def gridDelta (current last : Grid) : Grid := List.zipWith (List.zipWith cellDelta) current last

/-- What has been sent since the last grid, or since the start. -/
def deltaFrom (current : Grid) : Option Grid → Grid
  | none => current
  | some last => gridDelta current last

/-- `read_delta` -/
def readDelta (r : SentCounterReader numPlanes numPaths) (loaded : Except Exc (Json F)) :
    SentCounterReader numPlanes numPaths × Except Exc (Option Grid) :=
  match r.read loaded with
  | (r, .error err) => (r, .error err)
  | (r, .ok none) => (r, .ok none)
  | (r, .ok (some current)) =>
    ({ r with last := some current }, .ok (some (deltaFrom current r.last)))

end SentCounterReader

/-! ## The daemon's window -/

/-- The part of `SenderMrcAgent` that `_rotate_window` works on. -/
structure SenderMrcAgent (numPlanes numPaths : Nat) where
  currentWindowSent : Fin numPlanes → Fin numPaths → Int := fun _ _ => 0
  currentWindowStartNs : Int
  currentWindowId : Nat := 0
  sentRing : SentWindowRing numPlanes numPaths

namespace SenderMrcAgent

variable {numPlanes numPaths : Nat}

/-- The difference to fold in: none if the source raised, or gave none. -/
def sourceDelta : Except Exc (Option Grid) → Grid
  | .ok (some delta) => delta
  | _ => []

/-- The counts of the window being closed, with the difference folded in. -/
def windowCounts (agent : SenderMrcAgent numPlanes numPaths) (source : Except Exc (Option Grid)) :
    Fin numPlanes → Fin numPaths → Int :=
  fun p q => agent.currentWindowSent p q + (cell (sourceDelta source) p q).getD 0

/-- The window being closed. -/
def takenWindow (agent : SenderMrcAgent numPlanes numPaths) (source : Except Exc (Option Grid))
    (nowNs : Int) : SentWindow where
  startNs := agent.currentWindowStartNs
  endNs := nowNs
  sent := (List.finRange numPlanes).map fun p => (List.finRange numPaths).map fun q =>
    (agent.windowCounts source p q).toNat
  windowId := agent.currentWindowId

/-- The agent with its next window begun. -/
def nextWindow (agent : SenderMrcAgent numPlanes numPaths) (nowNs : Int) :
    SenderMrcAgent numPlanes numPaths :=
  { agent with
    currentWindowSent := fun _ _ => 0
    currentWindowStartNs := nowNs
    currentWindowId := (agent.currentWindowId + 1) % 0x10000 }

/-- `_rotate_window`, from what `sent_source` gave or raised: the agent, and the window it pushed. -/
def rotateWindow (agent : SenderMrcAgent numPlanes numPaths) (source : Except Exc (Option Grid))
    (nowNs : Int) : Outcome PyError (SenderMrcAgent numPlanes numPaths) × Option SentWindow :=
  let window := agent.takenWindow source nowNs
  let next := agent.nextWindow nowNs
  if ∃ p q, agent.windowCounts source p q ≠ 0 then
    match agent.sentRing.push window with
    | .ok ring => (.ok { next with sentRing := ring }, some window)
    | .error err => (.raise err next, none)
  else (.ok next, none)

end SenderMrcAgent

/-! ## Cells -/

section Cells

variable {α β γ : Type}

theorem cell_map (f : α → β) (rows : List (List α)) (p q : Nat) :
    cell (rows.map fun row => row.map f) p q = (cell rows p q).map f := by
  unfold cell
  rw [List.getElem?_map]
  cases rows[p]? with
  | none => rfl
  | some row => exact List.getElem?_map

theorem cell_zipWith (f : α → β → γ) (as : List (List α)) (bs : List (List β)) (p q : Nat) :
    cell (List.zipWith (List.zipWith f) as bs) p q
      = Option.map₂ f (cell as p q) (cell bs p q) := by
  unfold cell
  rw [List.getElem?_zipWith]
  cases as[p]? with
  | none => rfl
  | some a =>
    cases bs[p]? with
    | none => cases h : a[q]? <;> simp [h]
    | some b =>
      show (List.zipWith f a b)[q]? = Option.map₂ f a[q]? b[q]?
      rw [List.getElem?_zipWith]
      cases a[q]? with
      | none => rfl
      | some x => cases b[q]? <;> rfl

/-- The cells of a grid written out row by row. -/
theorem cell_finRange {P Q : Nat} (f : Fin P → Fin Q → α) (p : Fin P) (q : Fin Q) :
    cell ((List.finRange P).map fun p => (List.finRange Q).map fun q => f p q) p q
      = some (f p q) := by
  unfold cell
  simp

theorem cell_of_shape {P Q : Nat} {rows : List (List α)} (hlen : rows.length = P)
    (hrows : ∀ row ∈ rows, row.length = Q) (p : Fin P) (q : Fin Q) :
    ∃ x, cell rows p q = some x := by
  have hp : (p : Nat) < rows.length := hlen ▸ p.isLt
  have hq : (q : Nat) < rows[(p : Nat)].length := hrows _ (List.getElem_mem hp) ▸ q.isLt
  refine ⟨rows[(p : Nat)][(q : Nat)], ?_⟩
  unfold cell
  rw [List.getElem?_eq_getElem hp]
  exact List.getElem?_eq_getElem hq

end Cells

/-- What a window says of an EV is a cell of its grid. -/
theorem SentWindow.sentOn_eq (w : SentWindow) (plane path : Nat) :
    w.sentOn plane path = (cell w.sent plane path).getD 0 := by
  unfold sentOn cell
  cases w.sent[plane]? with
  | none => rfl
  | some row => rfl

end Srv6Mrc
