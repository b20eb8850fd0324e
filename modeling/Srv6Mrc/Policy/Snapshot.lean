/-
  `srv6_mrc/policy.py`: `MrcSnapshot`, the policy of a data sender.

  `MrcSnapshot` is what `__init__` fixes, `Store` what the methods change.  A refresh is in two
  halves, `stat` and the rest, because another process can replace the file between them; what
  opening and loading the file gives is an argument, and so is the `id` of a new grid, which can be
  that of a grid that is gone.
-/
import Srv6Mrc.Policy.Document

namespace Srv6Mrc

open Py

/-- What `os.stat` finds. -/
inductive Stat where
  /-- `FileNotFoundError` -/
  | missing
  /-- Any other `OSError`. -/
  | unreadable
  | found (mtime : ℚ)
  deriving DecidableEq

namespace MrcSnapshot

/-- The mutable attributes. -/
structure Store (F : Type) where
  wgrid : List (List F)
  /-- `id(self._wgrid)` -/
  wgridId : Nat
  lastMtime : ℚ
  spineSubsets : SpineSubsets
  cdfCache : List ((Nat × List Nat) × List F)
  refreshAttempts : Nat
  refreshLoaded : Nat
  refreshErrors : Nat
  refreshMissing : Nat

variable {F : Type} [Floats F] (M : MrcSnapshot)

/-- `_uniform_wgrid` -/
def uniformWgrid (F : Type) [Floats F] (M : MrcSnapshot) : List (List F) :=
  let nTotal := M.nPlanes * M.nSpines
  let w : F :=
    if 0 < nTotal then Floats.div Floats.one (Floats.ofRat nTotal) else Floats.zero
  List.replicate M.nPlanes (List.replicate M.nSpines w)

/-- `__init__`, up to its first refresh. -/
def start (F : Type) [Floats F] (M : MrcSnapshot) (wgridId : Nat) : Store F where
  wgrid := M.uniformWgrid F
  wgridId := wgridId
  lastMtime := 0
  spineSubsets := []
  cdfCache := []
  refreshAttempts := 0
  refreshLoaded := 0
  refreshErrors := 0
  refreshMissing := 0

/-! ## Pick -/

/-- The CDF of the grid over some spines, from the cache or built and cached; none if all weights
    are zero. -/
def cdfFor (st : Store F) (spines : List Nat) :
    Except PolicyError (Option (List F)) × Store F :=
  match cached st.cdfCache (st.wgridId, spines) with
  | some cdf => (.ok (some cdf), st)
  | none =>
    match flatWeights st.wgrid M.nPlanes spines with
    | .error err => (.error err, st)
    | .ok flat =>
      if Floats.lt Floats.zero (Floats.sum flat) then
        let cdf := buildCdf flat
        (.ok (some cdf), { st with cdfCache := ((st.wgridId, spines), cdf) :: st.cdfCache })
      else (.ok none, st)

/-- `pick_ev` from the CDF on. -/
def drawFrom (spines : List Nat) (seq : Int) (flow : FlowKey) (cdf : Option (List F)) :
    Except PolicyError (Nat × Nat) :=
  let evIdx :=
    match cdf with
    | none => fallback M.nPlanes spines seq
    | some cdf => .ok (weightedPick seq flow cdf)
  evIdx.bind (decodeEv spines)

/-- `pick_ev` -/
def pickEv (st : Store F) (seq : Int) (flow : FlowKey) :
    Except PolicyError (Nat × Nat) × Store F :=
  match spinesForFlow M.nSpines M.pathsPerPlane st.spineSubsets flow with
  | (.error err, subsets) => (.error err, { st with spineSubsets := subsets })
  | (.ok spines, subsets) =>
    let (cdf, st) := M.cdfFor { st with spineSubsets := subsets } spines
    (cdf.bind (M.drawFrom spines seq flow), st)

/-! ## Refresh -/

/-- The exceptions that `_refresh_once` takes for a transient error. -/
def transient : List Exc := [.osError, .jsonDecodeError, .keyError, .valueError, .typeError]

/-- `_refresh_once` up to `os.stat`: the modification time, if the file is to be read. -/
def statted (st : Store F) : Stat → Store F × Option ℚ
  | .missing => ({ st with
      refreshAttempts := st.refreshAttempts + 1
      refreshMissing := st.refreshMissing + 1 }, none)
  | .unreadable => ({ st with
      refreshAttempts := st.refreshAttempts + 1
      refreshErrors := st.refreshErrors + 1 }, none)
  | .found mtime =>
    ({ st with refreshAttempts := st.refreshAttempts + 1 },
      if mtime ≤ st.lastMtime then none else some mtime)

variable [Builtins F]

/-- `_refresh_once` from `open` on: whether it loaded, or what it raised. -/
def finish (st : Store F) (mtime : ℚ) (loaded : Except Exc (Json F)) (newId : Nat) :
    Except Exc Bool × Store F :=
  match loaded.bind M.wgridFromSnapshot with
  | .error err =>
    if err.caught transient then
      (.ok false, { st with refreshErrors := st.refreshErrors + 1 })
    else (.error err, st)
  | .ok wgrid =>
    (.ok true, { st with
      wgrid := wgrid
      wgridId := newId
      lastMtime := mtime
      refreshLoaded := st.refreshLoaded + 1
      cdfCache := [] })

/-- `_refresh_once` -/
def refreshOnce (st : Store F) (stat : Stat) (loaded : Except Exc (Json F)) (newId : Nat) :
    Except Exc Bool × Store F :=
  match statted st stat with
  | (st, none) => (.ok false, st)
  | (st, some mtime) => M.finish st mtime loaded newId

end MrcSnapshot

end Srv6Mrc
