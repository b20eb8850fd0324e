/-
  Which window a loss report is paired with.

  The ring holds the newest windows that were accepted, in the order of their pushes, and
  `find_closest` takes the first of the closest (`findClosest_exact`).  The windows of an agent whose
  clock does not go back follow one another, and a report that arrives after all of them is paired
  with the newest, or with nothing (`pairs_newest`).

  The exception is a window shorter than two nanoseconds: its midpoint is rounded down to where the
  one before it may have its own.
-/
import Srv6Mrc.Sent.Windows

namespace Srv6Mrc

open Py

/-! ## The ring -/

namespace SentWindowRing

variable {P Q : Nat}

/-- The shape that `push` checks. -/
instance (w : SentWindow) : Decidable (w.Shaped P Q) :=
  inferInstanceAs (Decidable (w.sent.length = P ∧ ∀ row ∈ w.sent, row.length = Q))

/-- A push whose `ValueError` is survived. -/
def offer (ring : SentWindowRing P Q) (w : SentWindow) : SentWindowRing P Q :=
  match ring.push w with
  | .ok ring' => ring'
  | .error _ => ring

theorem push_capacity {ring ring' : SentWindowRing P Q} {w : SentWindow}
    (h : ring.push w = .ok ring') : ring'.capacity = ring.capacity := by
  unfold push at h
  split at h
  · split at h
    · cases h
    · obtain rfl := Except.ok.inj h
      rfl
  · cases h

/-- A misshaped window is not pushed. -/
theorem push_misshaped (ring : SentWindowRing P Q) {w : SentWindow} (h : ¬ w.Shaped P Q) :
    ∃ err, ring.push w = .error err := by
  cases hpush : ring.push w with
  | error err => exact ⟨err, rfl⟩
  | ok ring' =>
    unfold push at hpush
    split at hpush
    · rename_i hlen
      split at hpush
      · cases hpush
      · rename_i hrow
        refine absurd ⟨hlen, fun row hr => ?_⟩ h
        simpa using List.find?_eq_none.mp hrow row hr
    · cases hpush

theorem offer_cases (ring : SentWindowRing P Q) (w : SentWindow) :
    (ring.offer w).capacity = ring.capacity ∧
      (ring.offer w).windows
        = if w.Shaped P Q then appendMax ring.capacity ring.windows w else ring.windows := by
  unfold offer
  by_cases h : w.Shaped P Q
  · obtain ⟨ring', hpush, hwindows⟩ := ring.push_ok h
    rw [hpush, if_pos h]
    exact ⟨push_capacity hpush, hwindows⟩
  · obtain ⟨err, hpush⟩ := ring.push_misshaped h
    rw [hpush, if_neg h]
    exact ⟨rfl, rfl⟩

/-- The pushes that a ring accepts, into a deque of its capacity. -/
theorem foldl_offer (ring : SentWindowRing P Q) (ws : List SentWindow) :
    (ws.foldl offer ring).windows
      = (ring.windows ++ ws.filter fun w => w.Shaped P Q).rtake ring.capacity := by
  rw [← foldl_appendMax ring.bounded]
  induction ws generalizing ring with
  | nil => rfl
  | cons w ws ih =>
    obtain ⟨hcap, hwindows⟩ := ring.offer_cases w
    rw [List.foldl_cons, ih, hcap, hwindows]
    by_cases h : w.Shaped P Q
    · simp only [h, if_true, List.filter_cons, decide_true, List.foldl_cons]
    · simp only [h, if_false, List.filter_cons, decide_false, Bool.false_eq_true]

/-- The first of the closest windows, if they are close enough. -/
theorem findClosest_iff {ring : SentWindowRing P Q} {targetNs maxSkewNs : Int} {w : SentWindow} :
    ring.findClosest targetNs maxSkewNs = some w ↔ skew targetNs w ≤ maxSkewNs ∧
      ∃ before after, ring.windows = before ++ w :: after ∧
        (∀ w' ∈ before, skew targetNs w < skew targetNs w') ∧
        ∀ w' ∈ after, skew targetNs w ≤ skew targetNs w' := by
  unfold findClosest
  rw [Closest.scan_iff, Int.lt_add_one_iff]

/-- A ring after any pushes, and what it finds: misshaped windows leave no trace; of the others it
    holds the newest, as many as it has room for, in order; it finds nothing if and only if none of
    these is within the skew, else the first of the closest. -/
theorem findClosest_exact (ring : SentWindowRing P Q) (ws : List SentWindow)
    (targetNs maxSkewNs : Int) :
    let ring' := ws.foldl offer ring
    (∀ w, (∃ ring'', ring'.push w = .ok ring'') ↔ w.Shaped P Q) ∧
    ring'.windows = (ring.windows ++ ws.filter fun w => w.Shaped P Q).rtake ring.capacity ∧
    (ring'.findClosest targetNs maxSkewNs = none ↔
      ∀ w ∈ ring'.windows, maxSkewNs < skew targetNs w) ∧
    ∀ w, ring'.findClosest targetNs maxSkewNs = some w ↔ skew targetNs w ≤ maxSkewNs ∧
      ∃ before after, ring'.windows = before ++ w :: after ∧
        (∀ w' ∈ before, skew targetNs w < skew targetNs w') ∧
        ∀ w' ∈ after, skew targetNs w ≤ skew targetNs w' := by
  intro ring'
  refine ⟨fun w => ⟨?_, fun h => ?_⟩, foldl_offer ring ws, findClosest_none,
    fun w => findClosest_iff⟩
  · rintro ⟨ring'', hpush⟩
    by_contra h
    obtain ⟨err, herr⟩ := ring'.push_misshaped h
    rw [hpush] at herr
    cases herr
  · obtain ⟨ring'', hpush, -⟩ := ring'.push_ok h
    exact ⟨ring'', hpush⟩

/-! ## Windows in the order of time -/

/-- One after the other, and each from its start to its end. -/
structure InOrder (ws : List SentWindow) : Prop where
  within : ∀ w ∈ ws, w.startNs ≤ w.endNs
  follow : ws.Pairwise fun w w' => w.endNs ≤ w'.startNs

/-- The newest of them are in order too. -/
theorem InOrder.suffix {ws ws' : List SentWindow} (h : InOrder ws) (hsuffix : ws' <:+ ws) :
    InOrder ws' :=
  ⟨fun w hw => h.within w (hsuffix.subset hw), h.follow.sublist hsuffix.sublist⟩

theorem midpointNs_le_endNs {w : SentWindow} (h : w.startNs ≤ w.endNs) :
    w.startNs ≤ w.midpointNs ∧ w.midpointNs ≤ w.endNs := by
  unfold SentWindow.midpointNs
  omega

theorem startNs_lt_midpointNs {w : SentWindow} (h : w.startNs + 2 ≤ w.endNs) :
    w.startNs < w.midpointNs := by
  unfold SentWindow.midpointNs
  omega

/-- After the newest window, the distance to it is how long ago its midpoint was, and all others are
    as far away at least. -/
theorem InOrder.skew_le {ws : List SentWindow} {newest : SentWindow}
    (h : InOrder (ws ++ [newest])) {targetNs : Int} (htarget : newest.endNs ≤ targetNs) :
    skew targetNs newest = targetNs - newest.midpointNs ∧
    ∀ w ∈ ws ++ [newest], skew targetNs w = targetNs - w.midpointNs ∧
      w.midpointNs ≤ newest.midpointNs ∧
      (newest.startNs + 2 ≤ newest.endNs → w.midpointNs = newest.midpointNs → w = newest) := by
  have hnewest := h.within newest (List.mem_append_right _ (List.mem_singleton_self _))
  have hmid := midpointNs_le_endNs hnewest
  have hskew : ∀ w : SentWindow, w.midpointNs ≤ targetNs →
      skew targetNs w = targetNs - w.midpointNs := by
    intro w hw
    unfold skew
    rw [abs_of_nonpos (by omega)]
    omega
  refine ⟨hskew newest (hmid.2.trans htarget), fun w hw => ?_⟩
  rcases List.mem_append.mp hw with hold | hw
  · have hfollow := (List.pairwise_append.mp h.follow).2.2 w hold newest
      (List.mem_singleton_self _)
    have hw := midpointNs_le_endNs (h.within w (List.mem_append_left _ hold))
    have hle : w.midpointNs ≤ newest.midpointNs := hw.2.trans (hfollow.trans hmid.1)
    refine ⟨hskew w (hle.trans (hmid.2.trans htarget)), hle, fun hlong heq => ?_⟩
    have hlt := startNs_lt_midpointNs hlong
    omega
  · rw [List.mem_singleton.mp hw]
    exact ⟨hskew newest (hmid.2.trans htarget), le_rfl, fun _ _ => rfl⟩

/-- A report that comes after all windows is paired with the newest midpoint, or with none. -/
theorem findClosest_newest {ring : SentWindowRing P Q} {ws : List SentWindow} {newest : SentWindow}
    (hring : ring.windows = ws ++ [newest]) (h : InOrder ring.windows) {targetNs : Int}
    (htarget : newest.endNs ≤ targetNs) (maxSkewNs : Int) :
    (maxSkewNs < targetNs - newest.midpointNs → ring.findClosest targetNs maxSkewNs = none) ∧
    (targetNs - newest.midpointNs ≤ maxSkewNs →
      ∃ w, ring.findClosest targetNs maxSkewNs = some w ∧ w ∈ ring.windows ∧
        w.midpointNs = newest.midpointNs ∧ (newest.startNs + 2 ≤ newest.endNs → w = newest)) := by
  rw [hring] at h
  obtain ⟨hnewest, hall⟩ := h.skew_le htarget
  have hmem : newest ∈ ring.windows := by
    rw [hring]
    exact List.mem_append_right _ (List.mem_singleton_self _)
  constructor
  · intro hfar
    refine findClosest_none.mpr fun w hw => ?_
    rw [hring] at hw
    obtain ⟨hskew, hle, -⟩ := hall w hw
    change maxSkewNs < skew targetNs w
    omega
  · intro hnear
    cases hfind : ring.findClosest targetNs maxSkewNs with
    | none =>
      have hfar := findClosest_none.mp hfind newest hmem
      change maxSkewNs < skew targetNs newest at hfar
      omega
    | some w =>
      obtain ⟨hw, -, hmin⟩ := findClosest_some hfind
      have hclosest : skew targetNs w ≤ skew targetNs newest := hmin newest hmem
      have hw' := hw
      rw [hring] at hw'
      obtain ⟨hskew, hle, huniq⟩ := hall w hw'
      have heq : w.midpointNs = newest.midpointNs := by omega
      exact ⟨w, rfl, hw, heq, fun hlong => huniq hlong heq⟩

end SentWindowRing

/-! ## The windows of an agent -/

namespace Exchange

variable {F : Type} [Builtins F] {numPlanes numPaths : Nat}

/-- A rotation leaves the ring with its capacity. -/
theorem rotateWindow_capacity (agent : SenderMrcAgent numPlanes numPaths)
    (source : Except Exc (Option Grid)) (nowNs : Int) :
    (agent.rotateWindow source nowNs).1.state.sentRing.capacity = agent.sentRing.capacity := by
  unfold SenderMrcAgent.rotateWindow
  dsimp only
  split
  · split
    · rename_i ring hpush
      exact SentWindowRing.push_capacity hpush
    · rfl
  · rfl

/-- The ring holds the newest of the windows pushed. -/
theorem windows_run {ring : SentWindowRing numPlanes numPaths} (hring : ring.windows = [])
    (startNs : Int) (steps : List (SentStep F numPlanes numPaths)) :
    (run ring startNs steps).agent.sentRing.capacity = ring.capacity ∧
      (run ring startNs steps).agent.sentRing.windows
        = (run ring startNs steps).pushed.rtake ring.capacity := by
  induction steps using List.reverseRecOn with
  | nil => exact ⟨rfl, hring.trans (List.rtake_nil ring.capacity).symm⟩
  | append_singleton steps move ih =>
    rw [run_snoc]
    cases move with
    | send move => exact ih
    | rotate found nowNs =>
      obtain ⟨hcap, hwindows⟩ := ih
      rw [step_rotate]
      generalize ((run ring startNs steps).reader.readDelta
        (found.load (run ring startNs steps).sender.payload)).2 = source
      refine ⟨(rotateWindow_capacity ..).trans hcap, ?_⟩
      obtain ⟨-, -, -, hcases⟩ := (run ring startNs steps).agent.rotateWindow_cases source nowNs
      rcases hcases with ⟨-, hwindow, hpushed⟩ | ⟨-, hwindow, hsame⟩
      · dsimp only
        rw [hwindow, hpushed, hcap, hwindows, Option.toList_some]
        exact appendMax_rtake ..
      · dsimp only
        rw [hwindow, hsame, hwindows, Option.toList_none, List.append_nil]

/-- The windows pushed follow one another. -/
theorem pushed_inOrder {x : Exchange numPlanes numPaths} (h : Timed x) :
    SentWindowRing.InOrder x.pushed :=
  ⟨h.within, h.inOrder⟩

/-- In every interleaving of the sender loop, its publisher and the window thread, with a clock that
    does not go back: the windows pushed follow one another, the ring holds the newest of them, and a
    report that arrives at the end of the newest one or later is paired with nothing if that is too
    long ago; else with a window that has the midpoint of the newest, and with the newest itself if
    that lasted two nanoseconds. -/
theorem pairs_newest (ring : SentWindowRing numPlanes numPaths) (hring : ring.windows = [])
    (startNs : Int) (steps : List (SentStep F numPlanes numPaths))
    (hclock : (startNs :: times steps).Pairwise (· ≤ ·)) (nowNs maxSkewNs : Int) :
    let x := run ring startNs steps
    SentWindowRing.InOrder x.pushed ∧
    x.agent.sentRing.windows = x.pushed.rtake ring.capacity ∧
    (x.pushed = [] → x.agent.sentRing.findClosest nowNs maxSkewNs = none) ∧
    ∀ older newest, x.pushed = older ++ [newest] → newest.endNs ≤ nowNs →
      (maxSkewNs < nowNs - newest.midpointNs →
        x.agent.sentRing.findClosest nowNs maxSkewNs = none) ∧
      (nowNs - newest.midpointNs ≤ maxSkewNs →
        ∃ w, x.agent.sentRing.findClosest nowNs maxSkewNs = some w ∧ w ∈ x.pushed ∧
          w.midpointNs = newest.midpointNs ∧
          (newest.startNs + 2 ≤ newest.endNs → w = newest)) := by
  intro x
  have horder : SentWindowRing.InOrder x.pushed := pushed_inOrder (timed_run hclock)
  obtain ⟨-, hwindows⟩ := windows_run hring startNs steps
  change x.agent.sentRing.windows = x.pushed.rtake ring.capacity at hwindows
  have hsuffix : x.pushed.rtake ring.capacity <:+ x.pushed := List.drop_suffix ..
  refine ⟨horder, hwindows, fun hnil => ?_, fun older newest hpushed hnow => ?_⟩
  · refine SentWindowRing.findClosest_none.mpr fun w hw => ?_
    rw [hwindows, hnil, List.rtake_nil] at hw
    exact absurd hw List.not_mem_nil
  · obtain ⟨room, hroom⟩ := Nat.exists_eq_succ_of_ne_zero ring.capacity_pos.ne'
    have hlast : x.agent.sentRing.windows = older.rtake room ++ [newest] := by
      rw [hwindows, hpushed, hroom]
      exact List.rtake_concat_succ ..
    have hheld : SentWindowRing.InOrder x.agent.sentRing.windows := by
      rw [hwindows]
      exact horder.suffix hsuffix
    obtain ⟨hfar, hnear⟩ := SentWindowRing.findClosest_newest hlast hheld hnow maxSkewNs
    refine ⟨hfar, fun hle => ?_⟩
    obtain ⟨w, hfind, hw, hmid, hlong⟩ := hnear hle
    rw [hwindows] at hw
    exact ⟨w, hfind, hsuffix.subset hw, hmid, hlong⟩

/-- A report nine nanoseconds after the second of two windows. -/
theorem pairs_newest_fivePackets :
    ∃ w, (run emptyRing 0 fivePackets).agent.sentRing.findClosest 10 9 = some w ∧
      w.midpointNs = 3 := by
  obtain ⟨-, -, -, hpair⟩ := pairs_newest emptyRing rfl 0 fivePackets (by decide) 10 9
  obtain ⟨w, hfind, -, hmid, -⟩ := (hpair [⟨2, 3, [[0, 4]], 2⟩] ⟨3, 3, [[0, 1]], 3⟩ (by decide)
    (by decide)).2 (by decide)
  exact ⟨w, hfind, hmid⟩

end Exchange
end Srv6Mrc
