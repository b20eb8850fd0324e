/-
  From the data sender's counters to the daemon's windows.

  Three parties run at once: the sender loop counts, the publisher replaces the file, and the
  daemon's window thread reads the file, or fails to, and closes a window.  `Exchange` is the state
  of all three and `step` one move of one of them.

  The counts only travel forward, the last read behind the file and the file behind the counters
  (`Ordered`).  So no read goes backwards, a difference is a difference, and the windows add up to
  the last read (`Accounted`).
-/
import Srv6Mrc.Sent.File

namespace Srv6Mrc

open Py

/-- A move of one of the parties. -/
inductive SentStep (F : Type) [Builtins F] (numPlanes numPaths : Nat) where
  /-- Sender loop or publisher. -/
  | send (move : SenderStep)
  /-- Window thread: `_rotate_window`. -/
  | rotate (found : Found F numPlanes numPaths) (nowNs : Int)

/-- The three parties and the file between them. -/
structure Exchange (numPlanes numPaths : Nat) where
  sender : DataSender numPlanes numPaths
  reader : SentCounterReader numPlanes numPaths
  agent : SenderMrcAgent numPlanes numPaths
  /-- Ghost: all windows pushed so far, also those the ring has dropped since. -/
  pushed : List SentWindow
  /-- Ghost: the payload of the last successful read. -/
  lastRead : Option SentPayload
  /-- Ghost: what a `_rotate_window` raised. -/
  raised : Option PyError

namespace Exchange

variable {F : Type} [Builtins F] {numPlanes numPaths : Nat}

/-- Nothing counted, published or read; an agent that starts its first window at `startNs`. -/
def start (ring : SentWindowRing numPlanes numPaths) (startNs : Int) :
    Exchange numPlanes numPaths where
  sender := {}
  reader := {}
  agent := { currentWindowStartNs := startNs, sentRing := ring }
  pushed := []
  lastRead := none
  raised := none

/-- One move. -/
def step (x : Exchange numPlanes numPaths) :
    SentStep F numPlanes numPaths → Exchange numPlanes numPaths
  | .send move => { x with sender := x.sender.step move }
  | .rotate found nowNs =>
    let (reader, source) := x.reader.readDelta (found.load x.sender.payload)
    let (o, window) := x.agent.rotateWindow source nowNs
    { x with
      reader := reader
      agent := o.state
      pushed := x.pushed ++ window.toList
      lastRead := (found.taken x.sender.payload).or x.lastRead
      raised := x.raised.or o.raised }

/-- A run of moves, in any order. -/
def run (ring : SentWindowRing numPlanes numPaths) (startNs : Int)
    (steps : List (SentStep F numPlanes numPaths)) : Exchange numPlanes numPaths :=
  steps.foldl step (start ring startNs)

end Exchange

/-! ## One rotation -/

/-- The ring takes every window of its shape. -/
theorem SentWindowRing.push_ok {P Q : Nat} (ring : SentWindowRing P Q) {w : SentWindow}
    (h : w.Shaped P Q) :
    ∃ ring', ring.push w = .ok ring' ∧
      ring'.windows = appendMax ring.capacity ring.windows w := by
  have hrow : w.sent.find? (fun row => row.length ≠ Q) = none := by
    rw [List.find?_eq_none]
    intro row hrow
    simp [h.2 row hrow]
  unfold push
  rw [dif_pos h.1]
  split
  · rename_i row hsome
    rw [hrow] at hsome
    cases hsome
  · exact ⟨_, rfl, rfl⟩

namespace SenderMrcAgent

variable {P Q : Nat} (agent : SenderMrcAgent P Q) (source : Except Exc (Option Grid)) (nowNs : Int)

/-- A window has the shape of the grid. -/
theorem takenWindow_shaped : (agent.takenWindow source nowNs).Shaped P Q := by
  constructor
  · simp [takenWindow]
  · intro row hrow
    obtain ⟨p, -, rfl⟩ := List.mem_map.mp hrow
    simp

theorem takenWindow_sentOn (p : Fin P) (q : Fin Q) :
    (agent.takenWindow source nowNs).sentOn p q = (agent.windowCounts source p q).toNat := by
  have hcell : cell (agent.takenWindow source nowNs).sent p q
      = some (agent.windowCounts source p q).toNat := cell_finRange _ p q
  rw [SentWindow.sentOn_eq, hcell]
  rfl

/-- A rotation begins the next window, and pushes the one it closes unless all counts are zero. -/
theorem rotateWindow_cases :
    let o := agent.rotateWindow source nowNs
    o.1.raised = none ∧
    o.1.state.currentWindowSent = (fun _ _ => 0) ∧
    o.1.state.currentWindowStartNs = nowNs ∧
    ((∃ p q, agent.windowCounts source p q ≠ 0) ∧
        o.2 = some (agent.takenWindow source nowNs) ∧
        o.1.state.sentRing.windows = appendMax agent.sentRing.capacity agent.sentRing.windows
          (agent.takenWindow source nowNs) ∨
      (∀ p q, agent.windowCounts source p q = 0) ∧ o.2 = none ∧
        o.1.state.sentRing = agent.sentRing) := by
  intro o
  by_cases h : ∃ p q, agent.windowCounts source p q ≠ 0
  · obtain ⟨ring', hpush, hwindows⟩ := agent.sentRing.push_ok
      (agent.takenWindow_shaped source nowNs)
    have ho : o = (.ok { agent.nextWindow nowNs with sentRing := ring' },
        some (agent.takenWindow source nowNs)) := by
      show agent.rotateWindow source nowNs = _
      unfold rotateWindow
      dsimp only
      rw [if_pos h, hpush]
    rw [ho]
    exact ⟨rfl, rfl, rfl, Or.inl ⟨h, rfl, hwindows⟩⟩
  · have ho : o = (.ok (agent.nextWindow nowNs), none) := by
      show agent.rotateWindow source nowNs = _
      unfold rotateWindow
      dsimp only
      rw [if_neg h]
    rw [ho]
    push Not at h
    exact ⟨rfl, rfl, rfl, Or.inr ⟨h, rfl, rfl⟩⟩

end SenderMrcAgent

/-! ## What every move keeps -/

namespace Exchange

variable {F : Type} [Builtins F] {numPlanes numPaths : Nat}

/-- Counts only travel forward, from a sender that is never started again: what was read is not
    ahead of the file. -/
structure Ordered (x : Exchange numPlanes numPaths) : Prop where
  sender : x.sender.Ordered
  only : ∀ f, x.sender.file = some f → f.1 = x.sender.incarnation
  read : ∀ payload, x.lastRead = some payload → payload.Fits numPlanes numPaths
  read_le : ∀ (p : Fin numPlanes) (q : Fin numPaths),
    countOf x.lastRead p q ≤ countOf x.sender.payload p q

/-- What the daemon has done with what it read. -/
structure Accounted (x : Exchange numPlanes numPaths) : Prop where
  last : x.reader.last = x.lastRead.map SentCounterReader.gridOf
  empty : x.agent.currentWindowSent = fun _ _ => 0
  total : ∀ (p : Fin numPlanes) (q : Fin numPaths),
    (x.pushed.map fun w => w.sentOn p q).sum = countOf x.lastRead p q
  nonZero : ∀ w ∈ x.pushed, 0 < w.totalSent
  ring : x.agent.sentRing.windows <:+ x.pushed
  returned : x.raised = none

theorem ordered_start (ring : SentWindowRing numPlanes numPaths) (startNs : Int) :
    Ordered (start ring startNs) where
  sender := DataSender.ordered_start
  only := fun _ h => by cases h
  read := fun _ h => by cases h
  read_le := fun _ _ => Nat.le_refl _

theorem Ordered.fits {x : Exchange numPlanes numPaths} (h : Ordered x) {payload : SentPayload}
    (hp : x.sender.payload = some payload) : payload.Fits numPlanes numPaths := by
  obtain ⟨f, hf, rfl⟩ := Option.map_eq_some_iff.mp hp
  exact (h.sender.fits f hf).2

/-- The counts in the file only grow. -/
theorem payload_le_step {x : Exchange numPlanes numPaths} (h : Ordered x) (move : SenderStep)
    (p : Fin numPlanes) (q : Fin numPaths) :
    countOf x.sender.payload p q ≤ countOf (x.sender.step move).payload p q := by
  rcases DataSender.step_file h.sender move with heq | ⟨payload, hnew, heq⟩
  · unfold DataSender.payload
    rw [heq]
  · unfold DataSender.payload
    rw [heq]
    cases hf : x.sender.file with
    | none => exact Nat.zero_le _
    | some f => exact hnew.file_le f hf (h.only f hf) p q

/-- Every move keeps the order of the counts. -/
theorem ordered_step {x : Exchange numPlanes numPaths} (h : Ordered x)
    (move : SentStep F numPlanes numPaths) : Ordered (x.step move) := by
  cases move with
  | send move =>
    refine ⟨DataSender.ordered_step h.sender move, fun f hf => ?_, h.read, fun p q => ?_⟩
    · show f.1 = (x.sender.step move).incarnation
      rw [DataSender.step_incarnation]
      rcases DataSender.step_file h.sender move with heq | ⟨payload, -, heq⟩
      · exact h.only f (heq.symm.trans hf)
      · obtain rfl := Option.some.inj (heq.symm.trans hf)
        rfl
    · exact (h.read_le p q).trans (payload_le_step h move p q)
  | rotate found nowNs =>
    rcases x.reader.readDelta_cases (fun payload => h.fits) found with
      ⟨payload, hfile, htaken, -⟩ | ⟨htaken, -⟩
    · refine { h with read := ?_, read_le := ?_ }
      · intro payload' hp
        have hp : (found.taken x.sender.payload).or x.lastRead = some payload' := hp
        rw [htaken] at hp
        exact h.fits (hfile.trans hp)
      · intro p q
        show countOf ((found.taken x.sender.payload).or x.lastRead) p q
          ≤ countOf x.sender.payload p q
        rw [htaken, hfile]
        exact Nat.le_refl _
    · refine { h with read := ?_, read_le := ?_ }
      · intro payload' hp
        have hp : (found.taken x.sender.payload).or x.lastRead = some payload' := hp
        rw [htaken] at hp
        exact h.read payload' hp
      · intro p q
        show countOf ((found.taken x.sender.payload).or x.lastRead) p q ≤ _
        rw [htaken]
        exact h.read_le p q

/-- No read goes backwards. -/
theorem lastRead_le_taken {x : Exchange numPlanes numPaths} (h : Ordered x)
    (found : Found F numPlanes numPaths) (p : Fin numPlanes) (q : Fin numPaths) :
    countOf x.lastRead p q ≤ countOf ((found.taken x.sender.payload).or x.lastRead) p q := by
  cases found with
  | file =>
    show _ ≤ countOf (x.sender.payload.or x.lastRead) p q
    cases hp : x.sender.payload with
    | none => exact Nat.le_refl _
    | some payload =>
      have hle := h.read_le p q
      rw [hp] at hle
      exact hle
  | unreadable err => exact Nat.le_refl _
  | misshaped payload hmis => exact Nat.le_refl _

/-! ## What a rotation adds -/

/-- Counts that are all zero. -/
theorem totalSent_pos_of_sentOn {w : SentWindow} {p q : Nat} (h : 0 < w.sentOn p q) :
    0 < w.totalSent :=
  Nat.lt_of_lt_of_le h (w.sentOn_le_totalSent p q)

theorem accounted_start {ring : SentWindowRing numPlanes numPaths} (hring : ring.windows = [])
    (startNs : Int) : Accounted (start ring startNs) where
  last := rfl
  empty := rfl
  total := fun _ _ => rfl
  nonZero := fun w hw => absurd hw List.not_mem_nil
  ring := by
    show ring.windows <:+ []
    rw [hring]
  returned := rfl

/-- What a rotation does: it reads the file, and takes a window of the difference. -/
theorem step_rotate (x : Exchange numPlanes numPaths) (found : Found F numPlanes numPaths)
    (nowNs : Int) :
    x.step (.rotate found nowNs)
      = (let source := (x.reader.readDelta (found.load x.sender.payload)).2
         let o := x.agent.rotateWindow source nowNs
         { x with
           reader := (x.reader.readDelta (found.load x.sender.payload)).1
           agent := o.1.state
           pushed := x.pushed ++ o.2.toList
           lastRead := (found.taken x.sender.payload).or x.lastRead
           raised := x.raised.or o.1.raised }) := rfl

/-- A rotation closes a window of what has come since the last read. -/
theorem accounted_rotate {x : Exchange numPlanes numPaths} (ho : Ordered x) (h : Accounted x)
    (found : Found F numPlanes numPaths) (nowNs : Int) :
    Accounted (x.step (.rotate found nowNs)) := by
  have hread := x.reader.readDelta_cases (fun payload => ho.fits) found
  have hle : ∀ (p : Fin numPlanes) (q : Fin numPaths), countOf x.lastRead p q
      ≤ countOf ((found.taken x.sender.payload).or x.lastRead) p q := lastRead_le_taken ho found
  -- what the source gives is what the window counts
  have hdelta : ∀ (p : Fin numPlanes) (q : Fin numPaths),
      x.agent.windowCounts (x.reader.readDelta (found.load x.sender.payload)).2 p q
        = (countOf ((found.taken x.sender.payload).or x.lastRead) p q
            - countOf x.lastRead p q : Nat) := by
    intro p q
    have hle := hle p q
    unfold SenderMrcAgent.windowCounts
    rw [h.empty, Int.zero_add]
    rcases hread with ⟨payload, hfile, htaken, heq⟩ | ⟨htaken, -, hnone⟩
    · rw [htaken] at hle ⊢
      rw [heq, h.last]
      show (cell (SentCounterReader.deltaFrom _ _) p q).getD 0 = _
      rw [SentCounterReader.delta_cell (ho.fits hfile) ho.read, SentCounterReader.cellDelta,
        if_pos (by exact_mod_cast hle)]
      exact (Int.ofNat_sub hle).symm
    · have hempty : SenderMrcAgent.sourceDelta
          (x.reader.readDelta (found.load x.sender.payload)).2 = [] := by
        unfold SenderMrcAgent.sourceDelta
        split
        · rename_i delta heq
          exact absurd heq (hnone delta)
        · rfl
      rw [hempty, htaken, Option.none_or, Nat.sub_self]
      rfl
  have hlast : (x.reader.readDelta (found.load x.sender.payload)).1.last
      = ((found.taken x.sender.payload).or x.lastRead).map SentCounterReader.gridOf := by
    rcases hread with ⟨payload, -, htaken, heq⟩ | ⟨htaken, hkept, -⟩
    · rw [heq, htaken]
      rfl
    · rw [hkept, htaken]
      exact h.last
  obtain ⟨hret, hempty, -, hcases⟩ := x.agent.rotateWindow_cases
    (x.reader.readDelta (found.load x.sender.payload)).2 nowNs
  rw [step_rotate]
  generalize (x.reader.readDelta (found.load x.sender.payload)).2 = source at *
  have hraised : x.raised.or (x.agent.rotateWindow source nowNs).1.raised = none := by
    rw [h.returned, hret]
    rfl
  rcases hcases with ⟨⟨p₀, q₀, hne⟩, hwindow, hring⟩ | ⟨hzero, hwindow, hring⟩
  · dsimp only
    rw [hwindow, Option.toList_some]
    refine ⟨hlast, hempty, fun p q => ?_, fun w hw => ?_, ?_, hraised⟩
    · rw [List.map_append, List.sum_append, h.total, List.map_singleton,
        List.sum_singleton, SenderMrcAgent.takenWindow_sentOn, hdelta]
      show _ = countOf ((found.taken x.sender.payload).or x.lastRead) p q
      have := hle p q
      omega
    · rcases List.mem_append.mp hw with hw | hw
      · exact h.nonZero w hw
      · rw [List.mem_singleton.mp hw]
        refine totalSent_pos_of_sentOn (p := p₀) (q := q₀) ?_
        rw [SenderMrcAgent.takenWindow_sentOn]
        rw [hdelta] at hne ⊢
        omega
    · show SentWindowRing.windows _ <:+ _
      rw [hring, appendMax]
      refine (List.drop_suffix _ _).trans ?_
      obtain ⟨dropped, hdropped⟩ := h.ring
      exact ⟨dropped, by rw [← List.append_assoc, hdropped]⟩
  · dsimp only
    rw [hwindow, Option.toList_none, List.append_nil]
    refine ⟨hlast, hempty, fun p q => ?_, h.nonZero, ?_, hraised⟩
    · rw [h.total]
      show _ = countOf ((found.taken x.sender.payload).or x.lastRead) p q
      have hz := hzero p q
      rw [hdelta] at hz
      have := hle p q
      omega
    · show SentWindowRing.windows _ <:+ _
      rw [hring]
      exact h.ring

theorem accounted_step {x : Exchange numPlanes numPaths} (ho : Ordered x) (h : Accounted x)
    (move : SentStep F numPlanes numPaths) : Accounted (x.step move) := by
  cases move with
  | send move => exact { h with }
  | rotate found nowNs => exact accounted_rotate ho h found nowNs

/-! ## Times -/

/-- The windows pushed so far, one after the other up to the one that is open. -/
structure Timed (x : Exchange numPlanes numPaths) : Prop where
  ended : ∀ w ∈ x.pushed, w.endNs ≤ x.agent.currentWindowStartNs
  within : ∀ w ∈ x.pushed, w.startNs ≤ w.endNs
  inOrder : x.pushed.Pairwise fun w w' => w.endNs ≤ w'.startNs

/-- The times a run's rotations read off the clock. -/
def times (steps : List (SentStep F numPlanes numPaths)) : List Int :=
  steps.filterMap fun move => match move with
    | .rotate _ nowNs => some nowNs
    | _ => none

/-- A rotation at a later time keeps the windows in order. -/
theorem timed_rotate {x : Exchange numPlanes numPaths} (h : Timed x)
    (found : Found F numPlanes numPaths) {nowNs : Int}
    (hclock : x.agent.currentWindowStartNs ≤ nowNs) : Timed (x.step (.rotate found nowNs)) := by
  rw [step_rotate]
  generalize (x.reader.readDelta (found.load x.sender.payload)).2 = source
  obtain ⟨-, -, hstart, hcases⟩ := x.agent.rotateWindow_cases source nowNs
  have hold : ∀ w ∈ x.pushed, w.endNs ≤ nowNs := fun w hw => (h.ended w hw).trans hclock
  rcases hcases with ⟨-, hwindow, -⟩ | ⟨-, hwindow, -⟩
  · dsimp only
    rw [hwindow, Option.toList_some]
    refine ⟨fun w hw => ?_, fun w hw => ?_, ?_⟩
    · show w.endNs ≤ _
      rw [hstart]
      rcases List.mem_append.mp hw with hw | hw
      · exact hold w hw
      · rw [List.mem_singleton.mp hw]
        exact le_refl nowNs
    · rcases List.mem_append.mp hw with hw | hw
      · exact h.within w hw
      · rw [List.mem_singleton.mp hw]
        exact hclock
    · refine List.pairwise_append.mpr ⟨h.inOrder, List.pairwise_singleton _ _, ?_⟩
      intro w hw w' hw'
      rw [List.mem_singleton.mp hw']
      exact h.ended w hw
  · dsimp only
    rw [hwindow, Option.toList_none, List.append_nil]
    refine ⟨fun w hw => ?_, h.within, h.inOrder⟩
    show w.endNs ≤ _
    rw [hstart]
    exact hold w hw

/-! ## Runs -/

variable {ring : SentWindowRing numPlanes numPaths} {startNs : Int}
  {steps : List (SentStep F numPlanes numPaths)}

theorem run_snoc (move : SentStep F numPlanes numPaths) :
    run ring startNs (steps ++ [move]) = (run ring startNs steps).step move := by
  simp [run, List.foldl_append]

/-- So the counts are in order in every run. -/
theorem ordered_run : Ordered (run ring startNs steps) := by
  induction steps using List.reverseRecOn with
  | nil => exact ordered_start ring startNs
  | append_singleton steps move ih =>
    rw [run_snoc]
    exact ordered_step ih move

/-- And the accounts hold in every run. -/
theorem accounted_run (hring : ring.windows = []) : Accounted (run ring startNs steps) := by
  induction steps using List.reverseRecOn with
  | nil => exact accounted_start hring startNs
  | append_singleton steps move ih =>
    rw [run_snoc]
    exact accounted_step ordered_run ih move

/-- The open window starts at the start, or at a rotation. -/
theorem startNs_mem : (run ring startNs steps).agent.currentWindowStartNs
    ∈ startNs :: times steps := by
  induction steps using List.reverseRecOn with
  | nil => exact List.mem_cons_self ..
  | append_singleton steps move ih =>
    rw [run_snoc, times, List.filterMap_append, ← List.cons_append]
    cases move with
    | send move => exact List.mem_append_left _ ih
    | rotate found nowNs =>
      rw [step_rotate]
      refine List.mem_append_right _ ?_
      dsimp only
      rw [(SenderMrcAgent.rotateWindow_cases ..).2.2.1]
      exact List.mem_singleton_self nowNs

/-- With a clock that does not go back, the windows of a run are in order. -/
theorem timed_run (hclock : (startNs :: times steps).Pairwise (· ≤ ·)) :
    Timed (run ring startNs steps) := by
  induction steps using List.reverseRecOn with
  | nil =>
    exact ⟨fun w hw => absurd hw List.not_mem_nil, fun w hw => absurd hw List.not_mem_nil, .nil⟩
  | append_singleton steps move ih =>
    rw [times, List.filterMap_append, ← List.cons_append] at hclock
    obtain ⟨hbefore, -, hnow⟩ := List.pairwise_append.mp hclock
    rw [run_snoc]
    cases move with
    | send move => exact { ih hbefore with }
    | rotate found nowNs =>
      exact timed_rotate (ih hbefore) found
        (hnow _ startNs_mem nowNs (List.mem_singleton_self nowNs))

/-- The move records a packet on the EV. -/
def records (p : Fin numPlanes) (q : Fin numPaths) : SentStep F numPlanes numPaths → Bool
  | .send move => DataSender.records p q move
  | .rotate _ _ => false

/-- The counters count the packets recorded. -/
theorem sent_run (p : Fin numPlanes) (q : Fin numPaths) :
    (run ring startNs steps).sender.writer.sent p q = steps.countP (records p q) := by
  induction steps using List.reverseRecOn with
  | nil => rfl
  | append_singleton steps move ih =>
    rw [run_snoc, List.countP_append, List.countP_singleton, ← ih]
    cases move with
    | send move => exact DataSender.step_sent _ move p q
    | rotate found nowNs => rfl

/-- What the file says of an EV was recorded. -/
theorem payload_le_records (p : Fin numPlanes) (q : Fin numPaths) :
    countOf (run ring startNs steps).sender.payload p q ≤ steps.countP (records p q) := by
  have h : Ordered (run ring startNs steps) := ordered_run
  have hsent : (run ring startNs steps).sender.writer.sent p q = steps.countP (records p q) :=
    sent_run p q
  rw [← hsent]
  unfold DataSender.payload
  cases hf : (run ring startNs steps).sender.file with
  | none => exact Nat.zero_le _
  | some f => exact h.sender.file_le f hf (h.only f hf) p q

/-- The sent counts lose and duplicate nothing, in every interleaving of the sender loop, its
    publisher and the daemon's window thread, with reads that fail in any way: the windows pushed so
    far, those the ring has dropped included, add up on every EV to the counts last read; these are
    counts of packets recorded; every window has a packet; no rotation raises; and if the clock
    does not go back, the windows follow one another. -/
theorem sent_counts_conserved (ring : SentWindowRing numPlanes numPaths) (hring : ring.windows = [])
    (startNs : Int) (steps : List (SentStep F numPlanes numPaths)) :
    let x := run ring startNs steps
    (∀ (p : Fin numPlanes) (q : Fin numPaths),
      (x.pushed.map fun w => w.sentOn p q).sum = countOf x.lastRead p q ∧
      countOf x.lastRead p q ≤ countOf x.sender.payload p q ∧
      countOf x.sender.payload p q ≤ steps.countP (records p q)) ∧
    x.reader.last = x.lastRead.map SentCounterReader.gridOf ∧
    x.agent.sentRing.windows <:+ x.pushed ∧ x.raised = none ∧
    (∀ w ∈ x.pushed, 0 < w.totalSent) ∧
    ((startNs :: times steps).Pairwise (· ≤ ·) →
      (∀ w ∈ x.pushed, w.startNs ≤ w.endNs) ∧
      x.pushed.Pairwise fun w w' => w.endNs ≤ w'.startNs) := by
  intro x
  have ho : Ordered x := ordered_run
  have ha : Accounted x := accounted_run hring
  refine ⟨fun p q => ⟨ha.total p q, ho.read_le p q, payload_le_records p q⟩, ha.last, ha.ring,
    ha.returned, ha.nonZero, fun hclock => ?_⟩
  have ht : Timed x := timed_run hclock
  exact ⟨ht.within, ht.inOrder⟩

/-- Four packets, published and read between failures, then one more: two windows for one EV. -/
def fivePackets : List (SentStep Double 1 2) :=
  [.send (.record 0 1), .send (.record 0 1), .rotate .file 1, .send (.record 0 1), .send .publish,
    .send .copyRow, .send (.record 0 1), .send .fail, .send .publish, .send .copyRow,
    .send (.replace 7), .rotate (.unreadable .osError) 2, .rotate .file 3, .send (.record 0 1),
    .send .publish, .send .copyRow, .send (.replace 8), .rotate .file 3]

/-- An empty ring for one plane of two paths that holds one window. -/
def emptyRing : SentWindowRing 1 2 where
  capacity := 1
  windows := []
  capacity_pos := by omega
  bounded := by simp
  shaped := fun w hw => absurd hw List.not_mem_nil

/-- Five packets of one EV, in two windows. -/
theorem sent_counts_conserved_fivePackets :
    let x := run emptyRing 0 fivePackets
    (x.pushed.map fun w => w.sentOn 0 1) = [4, 1] ∧
    (x.pushed.map fun w => w.sentOn 0 1).sum = countOf x.lastRead 0 1 ∧
    x.pushed.Pairwise fun w w' => w.endNs ≤ w'.startNs := by
  intro x
  obtain ⟨htotal, -, -, -, -, htimes⟩ := sent_counts_conserved emptyRing rfl 0 fivePackets
  exact ⟨by decide, (htotal 0 1).1, (htimes (by decide)).2⟩

end Exchange

end Srv6Mrc
