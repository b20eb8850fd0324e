/-
  `srv6_mrc/topo.py` and `topology.py`: the hashes of a flow, and the spines it may use.

  A flow sprays over `paths_per_plane` of the spines.  Which ones is drawn by a partial Fisher-Yates
  shuffle, with SplitMix64 over the FNV-1a hash of the flow's two addresses, the smaller first.  The
  two modules have the same functions, one with the module's number of spines and one with the
  topology's; here the number is an argument.
-/
import Mathlib.Data.List.Nodup
import Mathlib.Data.List.Perm.Basic
import Srv6Mrc.EvState.Config

namespace Srv6Mrc

/-! ## Errors -/

/-- The exceptions of the spray policies. -/
inductive PolicyError where
  /-- `ValueError(f"paths_per_plane must be 1..{n_spines}, got {paths_per_plane}")` -/
  | pathsPerPlane (numSpines : Nat) (pathsPerPlane : Int)
  /-- `ValueError(f"refresh_interval_ms must be > 0, got {refresh_interval_ms}")` -/
  | refreshInterval (refreshIntervalMs : Int)
  /-- `ValueError(f"tenant {self.tenant!r} not configured in EVStateTable (known: ...)")` -/
  | tenantNotConfigured (tenant : String) (known : List String)
  /-- `ValueError(f"EVStateTable.num_planes={...} but topology planes={n_planes}; ...")` -/
  | planesMismatch (tablePlanes planes : Nat)
  /-- `ValueError(f"EVStateTable.num_paths={...} but topology spines_per_plane={n_spines}; ...")` -/
  | pathsMismatch (tablePaths spines : Nat)
  /-- What a method of the table raised. -/
  | table (err : PyError)
  | indexError
  | zeroDivision
  deriving DecidableEq, Repr

/-- `xs[i]` -/
def index {α : Type} (xs : List α) (i : Nat) : Except PolicyError α :=
  match xs[i]? with
  | some x => .ok x
  | none => .error .indexError

/-! ## Hashes -/

/-- `_FNV_OFFSET` -/
def fnvOffset : Nat := 0xcbf29ce484222325

/-- `_FNV_PRIME` -/
def fnvPrime : Nat := 0x100000001b3

/-- `_SPLITMIX_GAMMA`, and `_GOLDEN_RATIO_64` of the draw. -/
def goldenGamma : Nat := 0x9E3779B97F4A7C15

/-- `s.encode()` -/
def encode (s : String) : List UInt8 := s.toList.flatMap String.utf8EncodeChar

/-- `_fnv1a` -/
def fnv1a (seed : List UInt8) : Nat :=
  seed.foldl (fun h b => ((h ^^^ b.toNat) * fnvPrime) % 2 ^ 64) fnvOffset

/-- One SplitMix64 output. -/
def splitMix (x : Nat) : Nat :=
  let x := ((x ^^^ (x >>> 30)) * 0xbf58476d1ce4e5b9) % 2 ^ 64
  let x := ((x ^^^ (x >>> 27)) * 0x94d049bb133111eb) % 2 ^ 64
  (x ^^^ (x >>> 31)) % 2 ^ 64

/-- `FlowKey` -/
structure FlowKey where
  srcAddr : String
  dstAddr : String
  srcPort : Int
  dstPort : Int
  deriving DecidableEq, Repr

/-- `FlowKey.hash5` -/
def FlowKey.hash5 (flow : FlowKey) : Nat :=
  fnv1a (encode (flow.srcAddr ++ "|" ++ flow.dstAddr ++ "|" ++ toString flow.srcPort ++ "|"
    ++ toString flow.dstPort ++ "|17"))

/-! ## The spines of a flow -/

/-- `pool.pop(j)` -/
def pop {α : Type} (pool : List α) (j : Nat) : Except PolicyError (α × List α) :=
  (index pool j).map fun x => (x, pool.eraseIdx j)

/-- The loop of `_select_spines_from_seed`: `n` more picks from the pool, `step` made so far. -/
def drawSpines (base numSpines : Nat) : Nat → Nat → List Nat → Except PolicyError (List Nat)
  | 0, _, _ => .ok []
  | n + 1, step, pool =>
    let x := splitMix ((base + step * goldenGamma) % 2 ^ 64)
    match pop pool (x % (numSpines - step)) with
    | .error err => .error err
    | .ok (spine, pool) => (drawSpines base numSpines n (step + 1) pool).map (spine :: ·)

/-- `_select_spines_from_seed` -/
def selectSpinesFromSeed (numSpines : Nat) (seed : String) (n : Nat) :
    Except PolicyError (List Nat) :=
  drawSpines (fnv1a (encode seed)) numSpines n 0 (List.range numSpines)

/-- `select_spines_for_addrs` -/
def selectSpinesForAddrs (numSpines : Nat) (srcAddr dstAddr : String) (n : Int) :
    Except PolicyError (List Nat) :=
  if 1 ≤ n ∧ n ≤ numSpines then
    let (lo, hi) := if srcAddr ≤ dstAddr then (srcAddr, dstAddr) else (dstAddr, srcAddr)
    selectSpinesFromSeed numSpines (lo ++ "|" ++ hi) n.toNat
  else .error (.pathsPerPlane numSpines n)

/-- Picks leave a pool of `numSpines - step`, so the index is in range, and what is popped is not in
    the pool any more. -/
theorem drawSpines_ok (base : Nat) {numSpines n step : Nat} {pool : List Nat}
    (hlen : pool.length = numSpines - step) (hroom : step + n ≤ numSpines) (hpool : pool.Nodup) :
    ∃ spines, drawSpines base numSpines n step pool = .ok spines ∧ spines.length = n ∧
      spines.Nodup ∧ ∀ spine ∈ spines, spine ∈ pool := by
  induction n generalizing step pool with
  | zero => exact ⟨[], rfl, rfl, List.nodup_nil, fun spine h => absurd h List.not_mem_nil⟩
  | succ n ih =>
    let j := splitMix ((base + step * goldenGamma) % 2 ^ 64) % (numSpines - step)
    have hj : j < pool.length := hlen ▸ Nat.mod_lt _ (by omega)
    have hpop : pop pool j = .ok (pool[j], pool.eraseIdx j) := by
      unfold pop index
      rw [List.getElem?_eq_getElem hj]
      rfl
    have hrest : (pool.eraseIdx j).length = numSpines - (step + 1) := by
      rw [List.length_eraseIdx_of_lt hj]
      omega
    obtain ⟨spines, hdraw, hn, hnodup, hmem⟩ := ih hrest (by omega) (hpool.eraseIdx j)
    refine ⟨pool[j] :: spines, ?_, by rw [List.length_cons, hn], ?_, ?_⟩
    · unfold drawSpines
      dsimp only
      rw [hpop]
      dsimp only
      rw [hdraw]
      rfl
    · refine List.nodup_cons.mpr ⟨fun hin => ?_, hnodup⟩
      obtain ⟨i, hi, hne, heq⟩ := List.mem_eraseIdx_iff_getElem.mp (hmem _ hin)
      exact hne (hpool.getElem_inj_iff.mp heq)
    · intro spine hspine
      rcases List.mem_cons.mp hspine with rfl | hspine
      · exact List.getElem_mem hj
      · exact List.mem_of_mem_eraseIdx (hmem spine hspine)

/-- `n` different spines of the `numSpines`. -/
theorem selectSpinesForAddrs_ok {numSpines : Nat} {n : Int} (h : 1 ≤ n ∧ n ≤ numSpines)
    (srcAddr dstAddr : String) :
    ∃ spines, selectSpinesForAddrs numSpines srcAddr dstAddr n = .ok spines ∧
      spines.length = n ∧ spines.Nodup ∧ ∀ spine ∈ spines, spine < numSpines := by
  unfold selectSpinesForAddrs selectSpinesFromSeed
  rw [if_pos h]
  have hpool : (List.range numSpines).length = numSpines - 0 := by
    rw [List.length_range, Nat.sub_zero]
  obtain ⟨spines, hdraw, hn, hnodup, hmem⟩ := drawSpines_ok (fnv1a (encode (_ ++ "|" ++ _)))
    (n := n.toNat) hpool (by omega) List.nodup_range
  exact ⟨spines, hdraw, by omega, hnodup, fun spine hs => List.mem_range.mp (hmem spine hs)⟩

/-- The spines of a flow, for a fan-out in range. -/
theorem spinesOfFlow_ok {numSpines n : Nat} (hpos : 1 ≤ n) (hle : n ≤ numSpines) (flow : FlowKey) :
    ∃ spines, selectSpinesForAddrs numSpines flow.srcAddr flow.dstAddr n = .ok spines ∧
      spines.length = n ∧ spines.Nodup ∧ ∀ spine ∈ spines, spine < numSpines := by
  have hrange : 1 ≤ (n : Int) ∧ (n : Int) ≤ numSpines := by omega
  obtain ⟨spines, hsel, hlen, hrest⟩ :=
    selectSpinesForAddrs_ok hrange flow.srcAddr flow.dstAddr
  exact ⟨spines, hsel, by exact_mod_cast hlen, hrest⟩

example : selectSpinesForAddrs 2 "2001:db8::1" "2001:db8::2" 1 = .ok [1] := by decide

end Srv6Mrc
