/-
  The min-active floor.

  `_try_demote_locked` counts the other usable EVs before it demotes, so at the moment of the
  decision the floor holds for what is left.  The two signal paths and the many turns of one tick
  all go through it one after another; the invariant is `minActive ≤ usable`, kept by every
  guarded write (`floor_writeInv`).
-/
import Srv6Mrc.EvState.Step

namespace Srv6Mrc.EVStateTable

variable {T : EVStateTable}

variable (T) in
/-- How many EVs of a tenant are not ASSUMED_BAD. -/
def usable (tenant : String) (s : Store T) : Nat :=
  T.cells.countP fun c => (s.evs tenant c).state ≠ .assumedBad

/-- As many EVs as planes and paths make. -/
theorem length_cells : T.cells.length = T.numPlanes * T.numPaths := by
  simp [cells, List.length_flatMap]

theorem one_le_minActive : 1 ≤ T.minActive := by
  unfold minActive EVStateConfig.resolveMinActive
  split <;> exact le_max_left _ _

/-- The floor is the whole grid at most. -/
theorem minActive_le_total : T.minActive ≤ (T.numPlanes * T.numPaths : Nat) := by
  have hP := T.numPlanes_pos
  have hQ := T.numPaths_pos
  have hpos : 1 ≤ T.numPlanes * T.numPaths := Nat.mul_pos hP hQ
  have hcast : ((T.numPlanes * T.numPaths : Nat) : Int) = T.numPlanes * T.numPaths := by
    push_cast; rfl
  unfold minActive EVStateConfig.resolveMinActive
  rw [← hcast]
  split
  · show max 1 (((T.numPlanes * T.numPaths : Nat) : Int) / 2) ≤ _
    omega
  · rename_i m hm
    show max 1 (min m ((T.numPlanes * T.numPaths : Nat) : Int)) ≤ _
    omega

/-- Demoting `e` leaves exactly the EVs the loop counted. -/
theorem usable_write_bad {tenant : String} {e : T.EV} {s : Store T} {r : EVRecord}
    (hr : r.state = .assumedBad) :
    T.usable tenant (s.write tenant e r) = T.usableAfter tenant e s := by
  unfold usable usableAfter
  refine List.countP_congr fun c _ => ?_
  by_cases hc : c = e
  · subst hc
    simp [hr]
  · simp [hc, Store.write_other s r (Or.inr hc)]

/-- A write that does not demote `e` only adds to the usable EVs. -/
theorem usable_le_write {tenant : String} {e : T.EV} {s : Store T} {r : EVRecord}
    (hr : r.state = .assumedBad → (s.evs tenant e).state = .assumedBad) :
    T.usable tenant s ≤ T.usable tenant (s.write tenant e r) := by
  refine List.countP_mono_left fun c _ hcs => ?_
  by_cases hc : c = e
  · subst hc
    simp only [ne_eq, decide_eq_true_eq, Store.write_same] at hcs ⊢
    exact fun hb => hcs (hr hb)
  · rwa [Store.write_other s r (Or.inr hc)]

/-- What is usable depends on the records only. -/
theorem usable_congr {tenant : String} {s s' : Store T} (h : s'.evs tenant = s.evs tenant) :
    T.usable tenant s' = T.usable tenant s := by
  unfold usable; rw [h]

/-- The floor, as an invariant of the whole table. -/
def Floor (s : Store T) : Prop := ∀ tenant, T.minActive ≤ T.usable tenant s

theorem floor_fresh : Floor T.fresh := by
  intro tenant
  have hall : T.usable tenant T.fresh = T.cells.length :=
    List.countP_eq_length.mpr fun c _ => by simp
  rw [hall, length_cells]
  exact minActive_le_total

theorem floor_writeInv (tenant : String) : WriteInv tenant (Floor (T := T)) where
  bump := fun s hs tenant' => hs tenant'
  write := by
    intro s e r hs hroom tenant'
    by_cases ht : tenant' = tenant
    · subst ht
      by_cases hdemote : r.state = .assumedBad ∧ (s.evs tenant' e).state ≠ .assumedBad
      · -- what is left is what the loop counted, and the guard was about that
        obtain ⟨hb, hne⟩ := hdemote
        rw [usable_write_bad hb]
        exact of_decide_eq_true (hroom hb hne)
      · have hkeep : r.state = .assumedBad → (s.evs tenant' e).state = .assumedBad := by
          intro hb
          by_contra hne
          exact hdemote ⟨hb, hne⟩
        have hle := usable_le_write hkeep
        have hfloor := hs tenant'
        omega
    · have hsame : (s.write tenant e r).evs tenant' = s.evs tenant' :=
        funext fun c => s.write_other r (Or.inl ht)
      rw [usable_congr hsame]
      exact hs tenant'

theorem floor_after (cb : Option (TransitionCb T)) (calls : List Call) :
    Floor (T.after cb calls) :=
  after_inv cb floor_fresh (fun s c hs => step_inv cb s c (floor_writeInv c.tenant) hs) calls

/-- At every point of every run — after any calls, and between any two turns of a tick — at least
    `min_active` EVs of every tenant are not ASSUMED_BAD. -/
theorem minActive_le_usable (T : EVStateTable) (cb : Option (TransitionCb T)) (calls : List Call)
    (tenant : String) :
    T.cfg.resolveMinActive T.numPlanes T.numPaths ≤ T.usable tenant (T.after cb calls) ∧
    ∀ ticked n, T.cfg.resolveMinActive T.numPlanes T.numPaths
      ≤ T.usable tenant (T.midTick cb calls ticked n) := by
  have hfloor := floor_after cb calls
  refine ⟨hfloor tenant, fun ticked n => ?_⟩
  have hbump : Floor ((T.after cb calls).bumpTick ticked) := fun t => hfloor t
  exact (floor_writeInv ticked).turns cb (T.cells.take n) hbump tenant

end Srv6Mrc.EVStateTable
