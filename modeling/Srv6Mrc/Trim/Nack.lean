/-
  `srv6_mrc/trim.py` and the send loop of `runner.py`: NACKs and fast retransmits.

  The listener remembers the last sends and how often each was asked for again; the send loop takes
  the queued requests before each new packet, and after the last one it goes on taking for a while.
  `TrimmingSender` is the two of them and `step` one move of one: a NACK can come in at any point of
  the loop, also between a `take` and the `note_sent` of what was taken.

  What was asked for is accounted for in every run (`Accounted`).  That a packet is not handed out
  more often than `max_retransmits` holds as long as no request outlives the memory of its packet
  (`Bounded`): a retransmit of a packet that has been forgotten is remembered as a new one, with
  nothing counted against it.
-/
import Mathlib.Data.List.Induction
import Srv6Mrc.Lib.Dict

namespace Srv6Mrc

open Py

/-! ## The listener -/

/-- `RECENT_SENDS` -/
def recentSends : Nat := 4096

/-- The sender-side counters. -/
structure TrimStats where
  trimmed : Nat := 0
  dropped : Nat := 0
  nacksReceived : Nat := 0
  nacksIgnored : Nat := 0
  retransmits : Nat := 0

/-- A queued retransmit: the seq, and plane and path of the trimmed arrival. -/
structure NackRequest where
  seq : Int
  plane : Int
  path : Int
  deriving DecidableEq, Repr

/-- `NackListener`, without its socket and thread. -/
structure NackListener where
  maxRetransmits : Nat
  stats : TrimStats := {}
  /-- How often each recent seq was asked for. -/
  recent : Dict Int Nat := ∅
  queue : List NackRequest := []

namespace NackListener

/-- The recent sends with one more. -/
def remember (recent : Dict Int Nat) (seq : Int) : Dict Int Nat :=
  if seq ∈ recent.keys then recent
  else
    let recent := recent.set seq 0
    if recentSends < recent.length then recent.popFirst else recent

/-- `note_sent` -/
def noteSent (l : NackListener) (seq : Int) : NackListener :=
  { l with recent := remember l.recent seq }

/-- A NACK for a seq that is unknown or stale, or that was asked for often enough. -/
def ignore (l : NackListener) : NackListener :=
  { l with
    stats.nacksReceived := l.stats.nacksReceived + 1
    stats.nacksIgnored := l.stats.nacksIgnored + 1 }

/-- `on_nack` -/
def onNack (l : NackListener) (request : NackRequest) : NackListener :=
  match l.recent.get request.seq with
  | none => l.ignore
  | some count =>
    if l.maxRetransmits ≤ count then l.ignore
    else
      { l with
        stats.nacksReceived := l.stats.nacksReceived + 1
        recent := l.recent.set request.seq (count + 1)
        queue := l.queue ++ [request] }

/-- `take`, without its result: the queue as it was. -/
def take (l : NackListener) : NackListener := { l with queue := [] }

end NackListener

/-! ## The send loop -/

/-- What the trim oracle does to a packet. -/
inductive Hit where
  | miss
  | trim
  | drop
  deriving DecidableEq, Repr

/-- The counter of a hit goes up. -/
def TrimStats.hit (stats : TrimStats) : Hit → TrimStats
  | .miss => stats
  | .trim => { stats with trimmed := stats.trimmed + 1 }
  | .drop => { stats with dropped := stats.dropped + 1 }

/-- A hit of the oracle is no NACK received. -/
theorem TrimStats.hit_received (stats : TrimStats) (hit : Hit) :
    (stats.hit hit).nacksReceived = stats.nacksReceived := by
  cases hit <;> rfl

theorem TrimStats.hit_ignored (stats : TrimStats) (hit : Hit) :
    (stats.hit hit).nacksIgnored = stats.nacksIgnored := by
  cases hit <;> rfl

/-- Where the sender stands: at the head of its loop, of the main one or (`draining`) of the drain
    phase, in `retransmit_nacked` with some requests left, before the new packet, or at the end. -/
inductive SenderPc where
  | head (draining : Bool)
  | retransmitting (draining : Bool) (left : List NackRequest)
  | sending
  | done
  deriving DecidableEq, Repr

/-- The send loop and its listener. -/
structure TrimmingSender where
  listener : NackListener
  pc : SenderPc := .head false
  /-- The next new seq. -/
  seq : Int := 0
  sent : Nat := 0
  errors : Nat := 0
  /-- Ghost: the seqs of the successful emits. -/
  emitted : List Int := []
  /-- Ghost: what `take` handed out. -/
  handedOut : List NackRequest := []

/-- A move of the sender or of the listener's thread. -/
inductive TrimMove where
  /-- `on_nack` -/
  | nack (request : NackRequest)
  /-- The sender goes on; an emit meets the oracle, and a socket that may raise `OSError`. -/
  | go (hit : Hit) (fails : Bool)
  /-- A deadline, the stop event or an interrupt ends the loop; the drain phase may follow. -/
  | leave (drain : Bool)

namespace TrimmingSender

/-- `emit`, and whether it returned. -/
def emit (x : TrimmingSender) (seq : Int) (hit : Hit) (fails : Bool) : TrimmingSender × Bool :=
  let x := { x with listener.stats := x.listener.stats.hit hit }
  if hit ≠ .drop ∧ fails = true then ({ x with errors := x.errors + 1 }, false)
  else ({ x with listener := x.listener.noteSent seq, emitted := seq :: x.emitted }, true)

/-- One move. -/
def step (x : TrimmingSender) : TrimMove → TrimmingSender
  | .nack request => { x with listener := x.listener.onNack request }
  | .leave drain =>
    match x.pc with
    | .head true | .retransmitting true _ | .done => { x with pc := .done }
    | _ => { x with pc := if drain then .head true else .done }
  | .go hit fails =>
    match x.pc with
    | .head draining =>
      { x with
        listener := x.listener.take
        handedOut := x.handedOut ++ x.listener.queue
        pc := .retransmitting draining x.listener.queue }
    | .retransmitting draining [] => { x with pc := if draining then .head true else .sending }
    | .retransmitting draining (r :: left) =>
      let (x, ok) := x.emit r.seq hit fails
      { x with
        listener.stats.retransmits := x.listener.stats.retransmits + if ok then 1 else 0
        pc := .retransmitting draining left }
    | .sending =>
      let (x, ok) := x.emit x.seq hit fails
      { x with
        seq := x.seq + 1
        sent := x.sent + if ok then 1 else 0
        pc := .head false }
    | .done => x

/-- A run of moves, in any order. -/
def run (maxRetransmits : Nat) (moves : List TrimMove) : TrimmingSender :=
  moves.foldl step { listener := { maxRetransmits } }

/-- How often a seq was handed out or is queued. -/
def asked (x : TrimmingSender) (seq : Int) : Nat :=
  (x.handedOut ++ x.listener.queue).countP fun r => r.seq = seq

/-- How often a seq was handed out. -/
def retransmitsOf (x : TrimmingSender) (seq : Int) : Nat :=
  x.handedOut.countP fun r => r.seq = seq

/-! ## What a move can do -/

/-- The two states differ in counters and in where the sender stands. -/
structure Quiet (x y : TrimmingSender) : Prop where
  maxRetransmits : y.listener.maxRetransmits = x.listener.maxRetransmits
  received : y.listener.stats.nacksReceived = x.listener.stats.nacksReceived
  ignored : y.listener.stats.nacksIgnored = x.listener.stats.nacksIgnored
  recent : y.listener.recent = x.listener.recent
  queue : y.listener.queue = x.listener.queue
  emitted : y.emitted = x.emitted
  handedOut : y.handedOut = x.handedOut

/-- Two moves that ask for nothing are one. -/
theorem Quiet.trans {x y z : TrimmingSender} (h : Quiet x y) (h' : Quiet y z) : Quiet x z where
  maxRetransmits := h'.maxRetransmits.trans h.maxRetransmits
  received := h'.received.trans h.received
  ignored := h'.ignored.trans h.ignored
  recent := h'.recent.trans h.recent
  queue := h'.queue.trans h.queue
  emitted := h'.emitted.trans h.emitted
  handedOut := h'.handedOut.trans h.handedOut

theorem Quiet.asked {x y : TrimmingSender} (h : Quiet x y) (seq : Int) :
    y.asked seq = x.asked seq := by
  unfold TrimmingSender.asked
  rw [h.handedOut, h.queue]

/-- A seq after a successful emit. -/
def noted (x : TrimmingSender) (seq : Int) : TrimmingSender :=
  { x with listener := x.listener.noteSent seq, emitted := seq :: x.emitted }

/-- The requests after a `take`. -/
def taken (x : TrimmingSender) : TrimmingSender :=
  { x with listener := x.listener.take, handedOut := x.handedOut ++ x.listener.queue }

/-- An emit that raises leaves counters behind, and one that returns the seq. -/
theorem emit_cases (x : TrimmingSender) (seq : Int) (hit : Hit) (fails : Bool) :
    (x.emit seq hit fails).1.seq = x.seq ∧
    (hit ≠ .drop ∧ fails = true ∧ Quiet x (x.emit seq hit fails).1 ∨
      ¬ (hit ≠ .drop ∧ fails = true) ∧ Quiet (x.noted seq) (x.emit seq hit fails).1) := by
  unfold emit
  by_cases h : hit ≠ .drop ∧ fails = true
  · dsimp only
    rw [if_pos h]
    exact ⟨rfl, Or.inl ⟨h.1, h.2, rfl, x.listener.stats.hit_received hit,
      x.listener.stats.hit_ignored hit, rfl, rfl, rfl, rfl⟩⟩
  · dsimp only
    rw [if_neg h]
    exact ⟨rfl, Or.inr ⟨h, rfl, x.listener.stats.hit_received hit,
      x.listener.stats.hit_ignored hit, rfl, rfl, rfl, rfl⟩⟩

/-- The move retransmits a packet that the listener has forgotten. -/
def Forgets (x : TrimmingSender) : TrimMove → Prop
  | .go hit fails => ∃ draining r left, x.pc = .retransmitting draining (r :: left) ∧
      ¬ (hit ≠ .drop ∧ fails = true) ∧ r.seq ∉ x.listener.recent.keys
  | _ => False

/-- A move is a NACK, hands out the queue, notes a new packet or a retransmit, or changes neither
    the listener's memory nor its queue. -/
theorem step_cases (x : TrimmingSender) (m : TrimMove) :
    (∃ request, x.step m = { x with listener := x.listener.onNack request }) ∨
    (Quiet x.taken (x.step m) ∧ (x.step m).seq = x.seq) ∨
    (Quiet (x.noted x.seq) (x.step m) ∧ (x.step m).seq = x.seq + 1) ∨
    (∃ draining r left, x.pc = .retransmitting draining (r :: left) ∧
      (r.seq ∈ x.listener.recent.keys ∨ x.Forgets m) ∧
      Quiet (x.noted r.seq) (x.step m) ∧ (x.step m).seq = x.seq) ∨
    (Quiet x (x.step m) ∧ x.seq ≤ (x.step m).seq) := by
  have hquiet : ∀ pc, Quiet x { x with pc := pc } := fun pc => ⟨rfl, rfl, rfl, rfl, rfl, rfl, rfl⟩
  cases m with
  | nack request => exact Or.inl ⟨request, rfl⟩
  | leave drain =>
    refine Or.inr (Or.inr (Or.inr (Or.inr ?_)))
    unfold step
    dsimp only
    split
    · exact ⟨hquiet _, Int.le_refl _⟩
    · exact ⟨hquiet _, Int.le_refl _⟩
    · exact ⟨hquiet _, Int.le_refl _⟩
    · exact ⟨hquiet _, Int.le_refl _⟩
  | go hit fails =>
    refine Or.inr ?_
    cases hpc : x.pc with
    | head draining =>
      refine Or.inl ?_
      unfold step
      rw [hpc]
      exact ⟨⟨rfl, rfl, rfl, rfl, rfl, rfl, rfl⟩, rfl⟩
    | done =>
      refine Or.inr (Or.inr (Or.inr ?_))
      unfold step
      rw [hpc]
      exact ⟨⟨rfl, rfl, rfl, rfl, rfl, rfl, rfl⟩, Int.le_refl _⟩
    | sending =>
      -- a new packet is noted if its send goes
      obtain ⟨hseq, hemit⟩ := x.emit_cases x.seq hit fails
      have hstep : Quiet (x.emit x.seq hit fails).1 (x.step (.go hit fails)) ∧
          (x.step (.go hit fails)).seq = (x.emit x.seq hit fails).1.seq + 1 := by
        unfold step
        rw [hpc]
        exact ⟨⟨rfl, rfl, rfl, rfl, rfl, rfl, rfl⟩, rfl⟩
      rw [hseq] at hstep
      rcases hemit with ⟨-, -, hq⟩ | ⟨-, hq⟩
      · exact Or.inr (Or.inr (Or.inr ⟨hq.trans hstep.1, by omega⟩))
      · exact Or.inr (Or.inl ⟨hq.trans hstep.1, hstep.2⟩)
    | retransmitting draining left =>
      cases left with
      | nil =>
        refine Or.inr (Or.inr (Or.inr ?_))
        unfold step
        rw [hpc]
        exact ⟨⟨rfl, rfl, rfl, rfl, rfl, rfl, rfl⟩, Int.le_refl _⟩
      | cons r left =>
        -- a retransmit is noted too, with its own seq
        obtain ⟨hseq, hemit⟩ := x.emit_cases r.seq hit fails
        have hstep : Quiet (x.emit r.seq hit fails).1 (x.step (.go hit fails)) ∧
            (x.step (.go hit fails)).seq = (x.emit r.seq hit fails).1.seq := by
          unfold step
          rw [hpc]
          exact ⟨⟨rfl, rfl, rfl, rfl, rfl, rfl, rfl⟩, rfl⟩
        rw [hseq] at hstep
        rcases hemit with ⟨-, -, hq⟩ | ⟨hgoes, hq⟩
        · exact Or.inr (Or.inr (Or.inr ⟨hq.trans hstep.1, by omega⟩))
        · refine Or.inr (Or.inr (Or.inl ⟨draining, r, left, rfl, ?_, hq.trans hstep.1, hstep.2⟩))
          -- else the seq was forgotten since its NACK
          by_cases hrec : r.seq ∈ x.listener.recent.keys
          · exact Or.inl hrec
          · exact Or.inr ⟨draining, r, left, hpc, hgoes, hrec⟩

/-! ## Requests are accounted for -/

theorem run_append (maxRetransmits : Nat) (moves more : List TrimMove) :
    run maxRetransmits (moves ++ more) = more.foldl step (run maxRetransmits moves) :=
  List.foldl_append

theorem run_snoc (maxRetransmits : Nat) (moves : List TrimMove) (m : TrimMove) :
    run maxRetransmits (moves ++ [m]) = (run maxRetransmits moves).step m :=
  run_append maxRetransmits moves [m]

/-- Every NACK was ignored, or its request is queued or was handed out; and what is asked for or
    remembered was sent. -/
structure Accounted (x : TrimmingSender) : Prop where
  received : x.listener.stats.nacksReceived
    = x.listener.stats.nacksIgnored + x.handedOut.length + x.listener.queue.length
  remembered : ∀ seq ∈ x.listener.recent.keys, seq ∈ x.emitted
  asked : ∀ r ∈ x.handedOut ++ x.listener.queue, r.seq ∈ x.emitted

/-- The accounts are of what was asked for and sent only. -/
theorem Accounted.congr {x y : TrimmingSender} (hq : Quiet x y) (h : Accounted x) :
    Accounted y where
  received := by rw [hq.received, hq.ignored, hq.handedOut, hq.queue, h.received]
  remembered := by
    rw [hq.recent, hq.emitted]
    exact h.remembered
  asked := by
    rw [hq.handedOut, hq.queue, hq.emitted]
    exact h.asked

theorem Accounted.onNack {x : TrimmingSender} (h : Accounted x) (request : NackRequest) :
    Accounted { x with listener := x.listener.onNack request } := by
  have hrec := h.received
  unfold NackListener.onNack
  cases hget : x.listener.recent.get request.seq with
  | none => exact ⟨by dsimp only [NackListener.ignore]; omega, h.remembered, h.asked⟩
  | some count =>
    dsimp only
    split
    · exact ⟨by dsimp only [NackListener.ignore]; omega, h.remembered, h.asked⟩
    · have hkey : request.seq ∈ x.listener.recent.keys :=
        Dict.get_isSome.mp (Option.isSome_of_eq_some hget)
      refine ⟨?_, fun seq hseq => ?_, fun r hr => ?_⟩
      · dsimp only
        rw [List.length_append, List.length_singleton]
        omega
      · rcases Dict.mem_keys_set.mp hseq with rfl | hseq
        · exact h.remembered _ hkey
        · exact h.remembered _ hseq
      · dsimp only at hr
        rw [← List.append_assoc, List.mem_append, List.mem_singleton] at hr
        rcases hr with hr | rfl
        · exact h.asked r hr
        · exact h.remembered _ hkey

theorem Accounted.taken {x : TrimmingSender} (h : Accounted x) : Accounted x.taken where
  received := by
    have hrec := h.received
    show _ = _ + (x.handedOut ++ x.listener.queue).length + 0
    rw [List.length_append]
    show x.listener.stats.nacksReceived = x.listener.stats.nacksIgnored + _ + 0
    omega
  remembered := h.remembered
  asked := by
    show ∀ r ∈ (x.handedOut ++ x.listener.queue) ++ [], r.seq ∈ x.emitted
    rw [List.append_nil]
    exact h.asked

open NackListener in
/-- What is remembered after `note_sent` was remembered before, or is the seq that was noted, with
    nothing counted against it. -/
theorem get_remember {recent : Dict Int Nat} {seq k : Int} {n : Nat}
    (h : (remember recent seq).get k = some n) :
    recent.get k = some n ∨ k = seq ∧ n = 0 ∧ seq ∉ recent.keys := by
  unfold remember at h
  split at h
  · exact Or.inl h
  · rename_i hnew
    have hset : (recent.set seq 0).get k = some n := by
      dsimp only at h
      split at h
      · exact Dict.get_popFirst h
      · exact h
    by_cases hk : k = seq
    · subst hk
      rw [Dict.get_set_self] at hset
      exact Or.inr ⟨rfl, (Option.some.inj hset).symm, hnew⟩
    · rw [Dict.get_set_ne _ _ hk] at hset
      exact Or.inl hset

theorem Accounted.noted {x : TrimmingSender} (h : Accounted x) (seq : Int) :
    Accounted (x.noted seq) where
  received := h.received
  remembered := by
    intro k hk
    obtain ⟨n, hget⟩ := Option.isSome_iff_exists.mp (Dict.get_isSome.mpr hk)
    rcases get_remember hget with hget | ⟨rfl, -, -⟩
    · exact List.mem_cons_of_mem _
        (h.remembered k (Dict.get_isSome.mp (Option.isSome_of_eq_some hget)))
    · exact List.mem_cons_self ..
  asked := fun r hr => List.mem_cons_of_mem _ (h.asked r hr)

theorem Accounted.step {x : TrimmingSender} (h : Accounted x) (m : TrimMove) :
    Accounted (x.step m) := by
  rcases x.step_cases m with ⟨request, heq⟩ | ⟨hq, -⟩ | ⟨hq, -⟩ | ⟨-, r, -, -, -, hq, -⟩ | ⟨hq, -⟩
  · rw [heq]
    exact h.onNack request
  · exact h.taken.congr hq
  · exact (h.noted _).congr hq
  · exact (h.noted _).congr hq
  · exact h.congr hq

theorem accounted_run (maxRetransmits : Nat) (moves : List TrimMove) :
    Accounted (run maxRetransmits moves) := by
  induction moves using List.reverseRecOn with
  | nil => exact ⟨rfl, fun seq h => absurd h List.not_mem_nil, fun r h => absurd h List.not_mem_nil⟩
  | append_singleton moves m ih =>
    rw [run_snoc]
    exact ih.step m

/-! ## The bound -/

/-- No seq is asked for more often than allowed, a remembered one as often as is counted for it, and
    what was sent is older than the next new seq. -/
structure Bounded (x : TrimmingSender) : Prop where
  asked_le : ∀ seq, x.asked seq ≤ x.listener.maxRetransmits
  asked_eq : ∀ seq n, x.listener.recent.get seq = some n → x.asked seq = n
  older : ∀ seq ∈ x.emitted, seq < x.seq

/-- The bound is on what was asked for only. -/
theorem Bounded.congr {x y : TrimmingSender} (hq : Quiet x y) (hseq : x.seq ≤ y.seq)
    (h : Bounded x) : Bounded y where
  asked_le := by
    intro seq
    rw [hq.asked, hq.maxRetransmits]
    exact h.asked_le seq
  asked_eq := by
    intro seq n hget
    rw [hq.asked]
    rw [hq.recent] at hget
    exact h.asked_eq seq n hget
  older := by
    rw [hq.emitted]
    exact fun seq hs => Int.lt_of_lt_of_le (h.older seq hs) hseq

/-- A NACK is counted for its seq, up to the bound. -/
theorem Bounded.onNack {x : TrimmingSender} (h : Bounded x) (request : NackRequest) :
    Bounded { x with listener := x.listener.onNack request } := by
  unfold NackListener.onNack
  cases hget : x.listener.recent.get request.seq with
  | none => exact ⟨h.asked_le, h.asked_eq, h.older⟩
  | some count =>
    dsimp only
    split
    · exact ⟨h.asked_le, h.asked_eq, h.older⟩
    · rename_i hlt
      have hcount := h.asked_eq _ _ hget
      have hasked : ∀ seq, ({ x with
          listener := { x.listener with
            stats := { x.listener.stats with
              nacksReceived := x.listener.stats.nacksReceived + 1 }
            recent := x.listener.recent.set request.seq (count + 1)
            queue := x.listener.queue ++ [request] } } : TrimmingSender).asked seq
          = x.asked seq + if request.seq = seq then 1 else 0 := by
        intro seq
        unfold asked
        rw [← List.append_assoc, List.countP_append, List.countP_singleton]
        simp only [decide_eq_true_eq]
      refine ⟨fun seq => ?_, fun seq n hseq => ?_, h.older⟩
      · rw [hasked]
        have hle := h.asked_le seq
        split
        · rename_i heq
          subst heq
          dsimp only
          omega
        · exact hle
      · rw [hasked]
        by_cases heq : seq = request.seq
        · subst heq
          rw [Dict.get_set_self] at hseq
          rw [if_pos rfl, hcount]
          exact Option.some.inj hseq
        · rw [Dict.get_set_ne _ _ heq] at hseq
          rw [if_neg (Ne.symm heq)]
          exact h.asked_eq seq n hseq

theorem asked_taken (x : TrimmingSender) (seq : Int) : x.taken.asked seq = x.asked seq := by
  show List.countP _ ((x.handedOut ++ x.listener.queue) ++ []) = _
  rw [List.append_nil]
  rfl

theorem Bounded.taken {x : TrimmingSender} (h : Bounded x) : Bounded x.taken where
  asked_le := by
    intro seq
    rw [asked_taken]
    exact h.asked_le seq
  asked_eq := by
    intro seq n hget
    rw [asked_taken]
    exact h.asked_eq seq n hget
  older := h.older

/-- A seq that nothing was asked of can be noted as new. -/
theorem Bounded.noted {x : TrimmingSender} (h : Bounded x) {s : Int}
    (hs : s ∈ x.listener.recent.keys ∨ x.asked s = 0) {seq : Int} {n : Nat}
    (hget : (x.noted s).listener.recent.get seq = some n) : x.asked seq = n := by
  rcases get_remember hget with hget | ⟨rfl, rfl, hnew⟩
  · exact h.asked_eq seq n hget
  · exact hs.resolve_left hnew

/-- Nothing was asked for of a seq that was not sent. -/
theorem asked_eq_zero {x : TrimmingSender} (h : Accounted x) {seq : Int} (hseq : seq ∉ x.emitted) :
    x.asked seq = 0 := by
  refine List.countP_eq_zero.mpr fun r hr heq => hseq ?_
  rw [← of_decide_eq_true heq]
  exact h.asked r hr

/-- A move that forgets no seq in use keeps the bound. -/
theorem Bounded.step {x : TrimmingSender} (ha : Accounted x) (h : Bounded x) {m : TrimMove}
    (hm : ¬ x.Forgets m) : Bounded (x.step m) := by
  rcases x.step_cases m with ⟨request, heq⟩ | ⟨hq, hseq⟩ | ⟨hq, hseq⟩ |
    ⟨-, r, -, -, hrec, hq, hseq⟩ | ⟨hq, hseq⟩
  · rw [heq]
    exact h.onNack request
  · exact h.taken.congr hq (Int.le_of_eq hseq.symm)
  · -- the new seq was not sent before, so nothing was asked of it
    have hnew : x.asked x.seq = 0 := asked_eq_zero ha fun hin => Int.lt_irrefl _ (h.older _ hin)
    refine ⟨fun seq => ?_, fun seq n hget => ?_, fun seq hin => ?_⟩
    · rw [hq.asked, hq.maxRetransmits]
      exact h.asked_le seq
    · rw [hq.asked]
      rw [hq.recent] at hget
      exact h.noted (Or.inr hnew) hget
    · rw [hq.emitted] at hin
      rcases List.mem_cons.mp hin with rfl | hin
      · omega
      · have := h.older seq hin
        omega
  · have hkey := hrec.resolve_right hm
    refine Bounded.congr hq (Int.le_of_eq hseq.symm)
      ⟨h.asked_le, fun seq n hget => h.noted (Or.inl hkey) hget, fun seq hin => ?_⟩
    rcases List.mem_cons.mp hin with rfl | hin
    · exact h.older _ (ha.remembered _ hkey)
    · exact h.older seq hin
  · exact h.congr hq hseq

/-- No packet is retransmitted that the listener has forgotten. -/
def NeverForgets (maxRetransmits : Nat) (moves : List TrimMove) : Prop :=
  ∀ before m, before ++ [m] <+: moves → ¬ (run maxRetransmits before).Forgets m

/-- In a run that never forgets one, the bound holds. -/
theorem bounded_run {maxRetransmits : Nat} {moves : List TrimMove}
    (h : NeverForgets maxRetransmits moves) : Bounded (run maxRetransmits moves) := by
  induction moves using List.reverseRecOn with
  | nil =>
    exact ⟨fun seq => Nat.zero_le _, fun seq n hget => (by cases hget),
      fun seq hin => absurd hin List.not_mem_nil⟩
  | append_singleton moves m ih =>
    rw [run_snoc]
    refine Bounded.step (accounted_run _ _) (ih fun before m' hp => h before m' ?_)
      (h moves m (List.prefix_refl _))
    exact hp.trans (List.prefix_append ..)

/-! ## Once a packet was forgotten -/

/-- What is left to retransmit was handed out. -/
theorem left_handedOut (maxRetransmits : Nat) (moves : List TrimMove) {draining : Bool}
    {left : List NackRequest} (h : (run maxRetransmits moves).pc = .retransmitting draining left) :
    ∀ r ∈ left, r ∈ (run maxRetransmits moves).handedOut := by
  induction moves using List.reverseRecOn generalizing draining left with
  | nil => cases h
  | append_singleton moves m ih =>
    rw [run_snoc] at h ⊢
    set x := run maxRetransmits moves
    cases m with
    | nack request => exact ih h
    | leave drain =>
      unfold step at h
      dsimp only at h
      split at h
      · cases h
      · cases h
      · cases h
      · cases drain with
        | true => cases h
        | false => cases h
    | go hit fails =>
      unfold step at h ⊢
      cases hpc : x.pc with
      | head d =>
        -- the queue is what is handed out
        rw [hpc] at h
        cases h
        exact fun r hr => List.mem_append_right _ hr
      | done =>
        rw [hpc] at h
        cases hpc.symm.trans h
      | sending =>
        rw [hpc] at h
        cases h
      | retransmitting d rest =>
        rw [hpc] at h
        cases rest with
        | nil =>
          cases d with
          | true => cases h
          | false => cases h
        | cons r' rest =>
          cases h
          -- a retransmit hands nothing out
          have hsame : (x.emit r'.seq hit fails).1.handedOut = x.handedOut := by
            rcases (x.emit_cases r'.seq hit fails).2 with ⟨-, -, hq⟩ | ⟨-, hq⟩
            · exact hq.handedOut
            · exact hq.handedOut
          intro r hr
          show r ∈ (x.emit r'.seq hit fails).1.handedOut
          rw [hsame]
          exact ih hpc r (List.mem_cons_of_mem _ hr)

open NackListener in
/-- A seq that was not remembered is, once it was noted, with nothing counted against it. -/
theorem get_remember_self {recent : Dict Int Nat} {seq : Int} (h : seq ∉ recent.keys) :
    (remember recent seq).get seq = some 0 := by
  have hentries : (recent.set seq 0).entries = recent.entries ++ [(seq, 0)] :=
    Dict.put_of_not_mem 0 h
  unfold remember
  rw [if_neg h]
  dsimp only
  split
  · rename_i hlen
    -- what is dropped is older than the seq
    have hne : recent.entries ≠ [] := by
      intro hnil
      rw [Dict.length, Dict.keys, List.length_map, hentries, hnil] at hlen
      exact absurd hlen (by simp [recentSends])
    refine Dict.find_of_mem (recent.set seq 0).popFirst.nodup ?_
    show (seq, 0) ∈ (recent.set seq 0).entries.tail
    rw [hentries, List.tail_append_of_ne_nil hne]
    exact List.mem_append_right _ (List.mem_singleton_self _)
  · exact Dict.get_set_self ..

/-- A NACK of a remembered packet that was not asked for too often. -/
theorem onNack_queues {l : NackListener} {r : NackRequest} {n : Nat}
    (h : l.recent.get r.seq = some n) (hlt : n < l.maxRetransmits) :
    l.onNack r = { l with
      stats.nacksReceived := l.stats.nacksReceived + 1
      recent := l.recent.set r.seq (n + 1)
      queue := l.queue ++ [r] } := by
  unfold NackListener.onNack
  rw [h]
  exact if_neg (Nat.not_le.mpr hlt)

/-- NACKs of a remembered packet are queued until as many were counted as are allowed. -/
theorem nacks_queued (x : TrimmingSender) (r : NackRequest) (k : Nat) {n : Nat}
    (h : x.listener.recent.get r.seq = some n) (hle : n + k ≤ x.listener.maxRetransmits) :
    let y := (List.replicate k (TrimMove.nack r)).foldl step x
    y.pc = x.pc ∧ y.handedOut = x.handedOut ∧
      y.listener.queue = x.listener.queue ++ List.replicate k r := by
  induction k generalizing x n with
  | zero => exact ⟨rfl, rfl, (List.append_nil _).symm⟩
  | succ k ih =>
    rw [List.replicate_succ, List.foldl_cons]
    have hstep : x.step (.nack r) = { x with listener := { x.listener with
        stats.nacksReceived := x.listener.stats.nacksReceived + 1
        recent := x.listener.recent.set r.seq (n + 1)
        queue := x.listener.queue ++ [r] } } :=
      congrArg (fun l => ({ x with listener := l } : TrimmingSender)) (onNack_queues h (by omega))
    obtain ⟨hpc, hout, hqueue⟩ := ih (x.step (.nack r)) (n := n + 1)
      (by rw [hstep]; exact Dict.get_set_self ..) (by rw [hstep]; dsimp only; omega)
    rw [hstep] at hpc hout hqueue ⊢
    refine ⟨hpc, hout, hqueue.trans ?_⟩
    rw [List.replicate_succ]
    exact List.append_assoc ..

/-- With a socket that fails, what is left to retransmit is given up, and the next `take` hands out
    the queue. -/
theorem gives_up (x : TrimmingSender) {draining : Bool} {left : List NackRequest}
    (h : x.pc = .retransmitting draining left) :
    ((List.replicate (left.length + 3) (TrimMove.go .miss true)).foldl step x).handedOut
      = x.handedOut ++ x.listener.queue := by
  induction left generalizing x with
  | nil =>
    cases draining with
    | true =>
      show (((x.step (.go .miss true)).step (.go .miss true)).step (.go .miss true)).handedOut = _
      have hone : x.step (.go .miss true) = { x with pc := .head true } := by
        unfold step
        rw [h]
        rfl
      rw [hone]
      show (step { x with
        listener := x.listener.take
        handedOut := x.handedOut ++ x.listener.queue
        pc := .retransmitting true x.listener.queue } (.go .miss true)).handedOut = _
      cases x.listener.queue with
      | nil => rfl
      | cons r rs => rfl
    | false =>
      show (((x.step (.go .miss true)).step (.go .miss true)).step (.go .miss true)).handedOut = _
      have hone : x.step (.go .miss true) = { x with pc := .sending } := by
        unfold step
        rw [h]
        rfl
      rw [hone]
      rfl
  | cons r left ih =>
    rw [List.length_cons, Nat.add_right_comm, List.replicate_succ, List.foldl_cons]
    have hone : x.step (.go .miss true) = { x with
        errors := x.errors + 1
        pc := .retransmitting draining left } := by
      unfold step
      rw [h]
      rfl
    rw [hone]
    exact ih _ rfl

/-- The move lets no packet out. -/
def Silent : TrimMove → Prop
  | .go hit fails => hit ≠ .drop ∧ fails = true
  | _ => True

/-- A move that sends nothing new forgets nothing. -/
theorem Silent.not_forgets {m : TrimMove} (h : Silent m) (x : TrimmingSender) : ¬ x.Forgets m := by
  cases m with
  | nack request => exact id
  | leave drain => exact id
  | go hit fails =>
    rintro ⟨-, -, -, -, hgoes, -⟩
    exact hgoes h

/-- The NACKs and the moves after which a forgotten packet was handed out too often. -/
def reask (maxRetransmits left : Nat) (r : NackRequest) : List TrimMove :=
  List.replicate maxRetransmits (.nack r) ++ List.replicate (left + 3) (.go .miss true)

theorem silent_reask {maxRetransmits left : Nat} {r : NackRequest} :
    ∀ m ∈ reask maxRetransmits left r, Silent m := by
  intro m hm
  rcases List.mem_append.mp hm with hm | hm
  · rw [List.eq_of_mem_replicate hm]
    trivial
  · rw [List.eq_of_mem_replicate hm]
    exact ⟨by decide, rfl⟩

/-- A move of a run that was continued is one of the run, or one that came after it. -/
theorem concat_prefix_append {q before more : List TrimMove} {m : TrimMove}
    (h : q ++ [m] <+: before ++ more) : q ++ [m] <+: before ∨ m ∈ more := by
  obtain ⟨rest, heq⟩ := h
  rcases List.append_eq_append_iff.mp heq with ⟨as, hbefore, -⟩ | ⟨bs, hq, hmore⟩
  · exact Or.inl ⟨as, hbefore.symm⟩
  · cases bs using List.reverseRecOn with
    | nil => exact Or.inl ⟨[], by rw [List.append_nil, hq, List.append_nil]⟩
    | append_singleton bs b =>
      rw [← List.append_assoc] at hq
      obtain rfl : m = b := List.singleton_inj.mp (List.append_inj' hq rfl).2
      exact Or.inr (by rw [hmore]; simp)

/-- The bound does not change in a run. -/
theorem maxRetransmits_run (maxRetransmits : Nat) (moves : List TrimMove) :
    (run maxRetransmits moves).listener.maxRetransmits = maxRetransmits := by
  induction moves using List.reverseRecOn with
  | nil => rfl
  | append_singleton moves m ih =>
    rw [run_snoc]
    rcases (run maxRetransmits moves).step_cases m with ⟨request, heq⟩ | ⟨hq, -⟩ | ⟨hq, -⟩ |
      ⟨-, r, -, -, -, hq, -⟩ | ⟨hq, -⟩
    · rw [heq]
      show ((run maxRetransmits moves).listener.onNack request).maxRetransmits = _
      unfold NackListener.onNack
      split
      · exact ih
      · split
        · exact ih
        · exact ih
    · exact hq.maxRetransmits.trans ih
    · exact hq.maxRetransmits.trans ih
    · exact hq.maxRetransmits.trans ih
    · exact hq.maxRetransmits.trans ih

/-- A packet that was forgotten and is retransmitted can be asked for as often as is allowed once
    more. -/
theorem retransmitsOf_reask {maxRetransmits : Nat} {before : List TrimMove} {hit : Hit}
    {fails draining : Bool} {r : NackRequest} {left : List NackRequest}
    (hpc : (run maxRetransmits before).pc = .retransmitting draining (r :: left))
    (hgoes : ¬ (hit ≠ .drop ∧ fails = true))
    (hnew : r.seq ∉ (run maxRetransmits before).listener.recent.keys) :
    maxRetransmits < (run maxRetransmits
      (before ++ [.go hit fails] ++ reask maxRetransmits left.length r)).retransmitsOf r.seq := by
  have hout := left_handedOut maxRetransmits before hpc r (List.mem_cons_self ..)
  have hmax := maxRetransmits_run maxRetransmits (before ++ [.go hit fails])
  rw [run_snoc] at hmax
  rw [run_append, run_snoc]
  generalize run maxRetransmits before = x at *
  -- the retransmit is remembered as a new packet
  obtain ⟨hq, hpc'⟩ : Quiet (x.noted r.seq) (x.step (.go hit fails)) ∧
      (x.step (.go hit fails)).pc = .retransmitting draining left := by
    rcases (x.emit_cases r.seq hit fails).2 with ⟨hne, hf, -⟩ | ⟨-, hq⟩
    · exact absurd ⟨hne, hf⟩ hgoes
    · unfold step
      rw [hpc]
      exact ⟨hq.trans ⟨rfl, rfl, rfl, rfl, rfl, rfl, rfl⟩, rfl⟩
  have hget : (x.step (.go hit fails)).listener.recent.get r.seq = some 0 := by
    rw [hq.recent]
    exact get_remember_self hnew
  have hout' : (x.step (.go hit fails)).handedOut = x.handedOut := hq.handedOut
  generalize x.step (.go hit fails) = y at *
  -- so as many NACKs as are allowed are queued, and the next `take` hands them out
  obtain ⟨hpcz, houtz, hqueuez⟩ := y.nacks_queued r maxRetransmits hget (by omega)
  unfold reask
  rw [List.foldl_append]
  unfold retransmitsOf
  rw [gives_up _ (hpcz.trans hpc'), houtz, hqueuez, hout', List.countP_append, List.countP_append]
  have hone : 0 < x.handedOut.countP fun r' => r'.seq = r.seq :=
    List.countP_pos_iff.mpr ⟨r, hout, decide_eq_true rfl⟩
  have hall : (List.replicate maxRetransmits r).countP (fun r' => r'.seq = r.seq)
      = maxRetransmits := by
    rw [List.countP_eq_length.mpr, List.length_replicate]
    intro r' hr'
    rw [List.eq_of_mem_replicate hr']
    exact decide_eq_true rfl
  omega

/-- No packet is handed out more often than allowed, at any point of the run or of what can follow
    without another packet going out, if and only if the run never retransmits a packet that the
    listener has forgotten.  Only sent packets are handed out, and every NACK is accounted for, in
    every run. -/
theorem retransmits_bounded_iff (maxRetransmits : Nat) (moves : List TrimMove) :
    ((∀ before, before <+: moves → ∀ more, (∀ m ∈ more, Silent m) →
        ∀ seq, (run maxRetransmits (before ++ more)).retransmitsOf seq ≤ maxRetransmits) ↔
      NeverForgets maxRetransmits moves) ∧
    (∀ r ∈ (run maxRetransmits moves).handedOut, r.seq ∈ (run maxRetransmits moves).emitted) ∧
    (run maxRetransmits moves).listener.stats.nacksReceived
      = (run maxRetransmits moves).listener.stats.nacksIgnored
        + (run maxRetransmits moves).handedOut.length
        + (run maxRetransmits moves).listener.queue.length := by
  have hacc := accounted_run maxRetransmits moves
  refine ⟨⟨fun h before m hp hforgets => ?_, fun h before hp more hmore seq => ?_⟩,
    fun r hr => hacc.asked r (List.mem_append_left _ hr), hacc.received⟩
  · cases m with
    | nack request => exact hforgets
    | leave drain => exact hforgets
    | go hit fails =>
      obtain ⟨draining, r, left, hpc, hgoes, hnew⟩ := hforgets
      have hlt := retransmitsOf_reask hpc hgoes hnew
      have hle := h (before ++ [.go hit fails]) hp (reask maxRetransmits left.length r)
        silent_reask r.seq
      omega
  · have hnever : NeverForgets maxRetransmits (before ++ more) := by
      intro q m hq
      rcases concat_prefix_append hq with hin | hin
      · exact h q m (hin.trans hp)
      · exact (hmore m hin).not_forgets _
    have hle := (bounded_run hnever).asked_le seq
    rw [maxRetransmits_run] at hle
    unfold asked at hle
    rw [List.countP_append] at hle
    exact Nat.le_trans (Nat.le_add_right ..) hle

/-! ## A packet that is forgotten -/

open NackListener in
/-- As long as there is room, a new seq goes to the end. -/
theorem keys_remember {recent : Dict Int Nat} {seq : Int} (h : seq ∉ recent.keys)
    (hlen : recent.length < recentSends) : (remember recent seq).keys = recent.keys ++ [seq] := by
  have hkeys := Dict.keys_set_of_not_mem 0 h
  unfold remember
  rw [if_neg h]
  dsimp only
  rw [if_neg, hkeys]
  rw [Dict.length, hkeys, List.length_append]
  exact Nat.not_lt.mpr hlen

open NackListener in
/-- And with no room, the oldest seq is forgotten. -/
theorem keys_remember_full {recent : Dict Int Nat} {seq : Int} (h : seq ∉ recent.keys)
    (hlen : recent.length = recentSends) :
    (remember recent seq).keys = (recent.keys ++ [seq]).tail := by
  have hkeys := Dict.keys_set_of_not_mem 0 h
  unfold remember
  rw [if_neg h]
  dsimp only
  rw [if_pos, Dict.keys_popFirst, hkeys]
  rw [Dict.length, hkeys, List.length_append, ← hlen]
  exact Nat.lt_succ_self _

/-- A turn of the main loop with nothing queued: `take`, nothing to retransmit, a new packet. -/
def newPacket : List TrimMove := List.replicate 3 (.go .miss false)

/-- `take`, nothing to retransmit. -/
theorem step_step_head (x : TrimmingSender) (hpc : x.pc = .head false)
    (hqueue : x.listener.queue = []) :
    (x.step (.go .miss false)).step (.go .miss false)
      = { x with
          listener := x.listener.take
          handedOut := x.handedOut ++ x.listener.queue
          pc := .sending } := by
  have hone : x.step (.go .miss false) = { x with
      listener := x.listener.take
      handedOut := x.handedOut ++ x.listener.queue
      pc := .retransmitting false x.listener.queue } := by
    unfold step
    rw [hpc]
  rw [hone, hqueue]
  rfl

/-- The first packets are all remembered. -/
theorem run_newPackets (maxRetransmits : Nat) {n : Nat} (h : n ≤ recentSends) :
    let x := run maxRetransmits (List.replicate n newPacket).flatten
    x.pc = .head false ∧ x.listener.queue = [] ∧ x.seq = n ∧
      x.listener.recent.keys = (List.range n).map Int.ofNat ∧
      ∀ seq k, x.listener.recent.get seq = some k → k = 0 := by
  induction n with
  | zero => exact ⟨rfl, rfl, rfl, rfl, fun seq k hget => (by cases hget)⟩
  | succ n ih =>
    obtain ⟨hpc, hqueue, hseq, hkeys, hzero⟩ := ih (Nat.le_of_succ_le h)
    rw [List.replicate_succ', List.flatten_append, List.flatten_singleton]
    dsimp only
    rw [run_append]
    generalize run maxRetransmits (List.replicate n newPacket).flatten = x at *
    have hy : newPacket.foldl step x
        = ((x.step (.go .miss false)).step (.go .miss false)).step (.go .miss false) := rfl
    rw [hy, step_step_head x hpc hqueue]
    refine ⟨rfl, rfl, congrArg (· + 1) hseq, ?_, fun seq k hget => ?_⟩
    · show (NackListener.remember x.listener.recent x.seq).keys = _
      rw [keys_remember, hkeys, hseq, List.range_succ, List.map_append]
      · rfl
      · rw [hkeys, hseq]
        intro hin
        obtain ⟨i, hi, heq⟩ := List.mem_map.mp hin
        have := List.mem_range.mp hi
        have := Int.ofNat.inj heq
        omega
      · rw [Dict.length, hkeys, List.length_map, List.length_range]
        exact h
    · rcases get_remember hget with hget | ⟨-, hk, -⟩
      · exact hzero seq k hget
      · exact hk

/-- A request for the first packet. -/
def firstPacket : NackRequest := ⟨0, 0, 0⟩

/-- As many packets as are remembered; then a NACK for the first one comes in just before the next
    new packet makes the listener forget it, and it is handed out. -/
def forgetting : List TrimMove :=
  (List.replicate recentSends newPacket).flatten ++
    [.go .miss false, .go .miss false, .nack firstPacket, .go .miss false, .go .miss false]

/-- With the memory full, the new packet makes the listener forget the oldest one, whose request is
    handed out next. -/
theorem foldl_forgetting {x : TrimmingSender} (hpc : x.pc = .head false)
    (hqueue : x.listener.queue = []) (hmax : 0 < x.listener.maxRetransmits) {seqs : List Int}
    (hkeys : x.listener.recent.keys = firstPacket.seq :: seqs) (hnew : x.seq ∉ firstPacket.seq :: seqs)
    (hfull : (firstPacket.seq :: seqs).length = recentSends)
    (hget : x.listener.recent.get firstPacket.seq = some 0) :
    let y := List.foldl step x
      [.go .miss false, .go .miss false, .nack firstPacket, .go .miss false, .go .miss false]
    y.pc = .retransmitting false [firstPacket] ∧ y.listener.recent.keys = seqs ++ [x.seq] := by
  intro y
  have hy : y = ((((x.step (.go .miss false)).step (.go .miss false)).step
    (.nack firstPacket)).step (.go .miss false)).step (.go .miss false) := rfl
  have hnack := onNack_queues (l := x.listener.take) (r := firstPacket) hget hmax
  have hset : (x.listener.recent.set firstPacket.seq 1).keys = firstPacket.seq :: seqs := by
    rw [Dict.keys_set_of_mem 1 (by rw [hkeys]; exact List.mem_cons_self ..), hkeys]
  rw [step_step_head x hpc hqueue] at hy
  change y = (step { x with
    listener := x.listener.take.onNack firstPacket
    handedOut := x.handedOut ++ x.listener.queue
    pc := .sending } (.go .miss false)).step (.go .miss false) at hy
  rw [hnack] at hy
  rw [hy]
  refine ⟨rfl, ?_⟩
  show (NackListener.remember (x.listener.recent.set firstPacket.seq 1) x.seq).keys = _
  rw [keys_remember_full (by rw [hset]; exact hnew) (by rw [Dict.length, hset]; exact hfull), hset]
  rfl

/-- After this run the listener has forgotten a packet that it is about to send again. -/
theorem run_forgetting : (run 3 forgetting).pc = .retransmitting false [firstPacket] ∧
    firstPacket.seq ∉ (run 3 forgetting).listener.recent.keys := by
  obtain ⟨hpc, hqueue, hseq, hkeys, hzero⟩ := run_newPackets 3 (Nat.le_refl recentSends)
  have hmax := maxRetransmits_run 3 (List.replicate recentSends newPacket).flatten
  unfold forgetting
  rw [run_append]
  generalize run 3 (List.replicate recentSends newPacket).flatten = x at *
  obtain ⟨n, hn⟩ : ∃ n, recentSends = n + 1 := ⟨4095, rfl⟩
  rw [hn, List.range_succ_eq_map] at hkeys
  have hfirst : (0 : Int) ∈ x.listener.recent.keys := by
    rw [hkeys]
    exact List.mem_cons_self ..
  obtain ⟨k, hget⟩ := Option.isSome_iff_exists.mp (Dict.get_isSome.mpr hfirst)
  obtain rfl := hzero 0 k hget
  have hlt : ∀ seq ∈ (List.map Nat.succ (List.range n)).map Int.ofNat, 0 < seq ∧ seq < x.seq := by
    intro seq hin
    obtain ⟨i, hi, rfl⟩ := List.mem_map.mp hin
    obtain ⟨j, hj, rfl⟩ := List.mem_map.mp hi
    have := List.mem_range.mp hj
    rw [hseq, hn]
    constructor
    · exact Int.natCast_pos.mpr (Nat.succ_pos j)
    · exact Int.ofNat_lt.mpr (by omega)
  obtain ⟨hpc', hkeys'⟩ := foldl_forgetting hpc hqueue (by omega) hkeys (by
      rw [List.mem_cons, not_or]
      refine ⟨fun h => ?_, fun h => Int.lt_irrefl _ (hlt _ h).2⟩
      rw [hseq, hn] at h
      cases h) (by rw [List.length_cons, List.length_map, List.length_map, List.length_range, hn]) hget
  refine ⟨hpc', ?_⟩
  rw [hkeys', List.mem_append, List.mem_singleton, not_or]
  refine ⟨fun h => Int.lt_irrefl _ (hlt _ h).1, fun h => ?_⟩
  rw [hseq, hn] at h
  cases h

/-- The retransmit makes the first packet new again: it is handed out four times, with three
    allowed. -/
theorem handed_out_four_times :
    3 < (run 3 (forgetting ++ [.go .miss false] ++ reask 3 0 firstPacket)).retransmitsOf 0 :=
  @retransmitsOf_reask 3 forgetting .miss false false firstPacket [] run_forgetting.1 (by decide)
    run_forgetting.2

end TrimmingSender
end Srv6Mrc
