/-
  `runner.py`: `run_sender`, with its counters.

  `Sender` is the loop with everything it counts: what was sent, on which plane and EV, what failed,
  and the calls of `progress_cb`.  The policy, the trim oracle, the sockets and the listener's thread
  are outside of it: a move of the loop takes the policy's answers, whether the oracle hits and
  whether the socket raises, and NACKs come in between.  There are two ways to send, one through the
  oracle and one without it, as the source has them.

  With trimming on, what the loop does to the listener is what `TrimmingSender` does to it
  (`simulates_run`): what holds of the listener in every run of the one holds in every run of the other.
-/
import Srv6Mrc.Lib.Tally
import Srv6Mrc.Policy.Retransmit

namespace Srv6Mrc

open Py

/-! ## The loop -/

/-- `TrimSpec.mode` -/
inductive TrimMode where
  | trim
  | drop
  deriving DecidableEq, Repr

/-- What `run_sender` is given, as far as it counts. -/
structure SendSetup where
  numPlanes : Nat
  numSpines : Nat
  /-- `hasattr(policy, "pick_ev")` -/
  evAware : Bool
  /-- `spine_for(flow.src_id, flow.dst_id)` -/
  spine : Nat
  /-- `trim`, the mode and the limit of its spec. -/
  trim : Option (TrimMode × Nat)

/-- One send of the loop, and how it ended. -/
structure Send where
  seq : Int
  ev : Nat × Nat
  /-- Not a retransmit. -/
  fresh : Bool
  failed : Bool
  deriving DecidableEq, Repr

/-- The state of the loop. -/
structure Sender where
  /-- The listener, with the counters of `result.trim`; without trimming there is none. -/
  listener : NackListener
  pc : SenderPc := .head false
  seq : Int := 0
  sent : Nat := 0
  errors : Nat := 0
  perPlaneSent : Dict Nat Nat := ∅
  perEvSent : Dict (Nat × Nat) Nat := ∅
  /-- The calls of `progress_cb`. -/
  progress : List (Int × Nat × Nat) := []
  /-- An exception that ends `run_sender` without a result. -/
  raised : Bool := false
  /-- Ghost: every send, in order. -/
  log : List Send := []

/-- A move of the sender or of the listener's thread. -/
inductive SendMove where
  /-- `on_nack` -/
  | nack (request : NackRequest)
  /-- The loop goes on.  The policy's answers to the calls of the move, whether the oracle hits and
      whether the socket raises `OSError`. -/
  | go (answers : Nat → Nat × Nat) (hits fails : Bool)
  /-- A deadline, the stop event or an interrupt ends the loop; the drain phase may follow.  An
      interrupt comes between two moves, never within one. -/
  | leave (drain : Bool)

namespace SendSetup

variable (S : SendSetup)

/-- The EV of an answer: a policy without EVs picks planes, and the spine is the fixed one. -/
def evOf (answer : Nat × Nat) : Nat × Nat := if S.evAware then answer else (answer.1, S.spine)

/-- The answers, one after the other, as a policy. -/
def picks (answers : Nat → Nat × Nat) (k : Nat) (_seq : Int) : Except Empty (Nat × Nat) × Nat :=
  (.ok (S.evOf (answers k)), k + 1)

/-- `pick_other_ev` -/
def otherEv (answers : Nat → Nat × Nat) (r : NackRequest) : Nat × Nat :=
  match (pickOtherEv (S.picks answers) 0 r.seq (r.plane, r.path)).1 with
  | .ok ev => ev

/-- There is such a plane, and such a spine. -/
def Fits (ev : Nat × Nat) : Prop := ev.1 < S.numPlanes ∧ (S.evAware → ev.2 < S.numSpines)

instance (ev : Nat × Nat) : Decidable (S.Fits ev) := by
  unfold Fits; exact inferInstance

/-- What the oracle does to a packet that it hits. -/
def hitOf (hits : Bool) : Hit :=
  match S.trim, hits with
  | some (.trim, _), true => .trim
  | some (.drop, _), true => .drop
  | _, _ => .miss

end SendSetup

namespace Sender

variable (S : SendSetup)

/-- The counters and the call after a packet. -/
def counted (x : Sender) (seq : Int) (ev : Nat × Nat) : Sender :=
  { x with
    perPlaneSent := x.perPlaneSent.bump ev.1
    perEvSent := if S.evAware then x.perEvSent.bump ev else x.perEvSent
    progress := x.progress ++ [(seq, ev)] }

/-- `emit`, and whether it returned. -/
def emit (x : Sender) (seq : Int) (ev : Nat × Nat) (fresh : Bool) (hit : Hit) (fails : Bool) :
    Sender × Bool :=
  let x := { x with listener.stats := x.listener.stats.hit hit }
  if hit ≠ .drop ∧ fails = true then
    ({ x with errors := x.errors + 1, log := x.log ++ [⟨seq, ev, fresh, true⟩] }, false)
  else
    let x := x.counted S seq ev
    ({ x with
      listener := x.listener.noteSent seq
      log := x.log ++ [⟨seq, ev, fresh, false⟩] }, true)

/-- A packet of the loop without an oracle. -/
def sendPlain (x : Sender) (ev : Nat × Nat) (fails : Bool) : Sender :=
  if fails then
    { x with errors := x.errors + 1, log := x.log ++ [⟨x.seq, ev, true, true⟩] }
  else
    let x := x.counted S x.seq ev
    { x with sent := x.sent + 1, log := x.log ++ [⟨x.seq, ev, true, false⟩] }

/-- `RuntimeError`, or what `usid_outer_dst` raises: no such plane, or no such spine. -/
def raise (x : Sender) : Sender := { x with pc := .done, raised := true }

/-- One move. -/
def step (x : Sender) : SendMove → Sender
  | .nack request => { x with listener := x.listener.onNack request }
  | .leave drain =>
    match x.pc with
    | .head true | .retransmitting true _ | .done => { x with pc := .done }
    | _ => { x with pc := if S.trim.isSome && drain then .head true else .done }
  | .go answers hits fails =>
    match x.pc with
    | .head draining =>
      if S.trim.isSome then
        { x with
          listener := x.listener.take
          pc := .retransmitting draining x.listener.queue }
      else { x with pc := .sending }
    | .retransmitting draining [] => { x with pc := if draining then .head true else .sending }
    | .retransmitting draining (r :: left) =>
      let ev := S.otherEv answers r
      if S.Fits ev then
        let (x, ok) := x.emit S r.seq ev false (S.hitOf hits) fails
        { x with
          listener.stats.retransmits := x.listener.stats.retransmits + if ok then 1 else 0
          pc := .retransmitting draining left }
      else x.raise
    | .sending =>
      let ev := S.evOf (answers 0)
      if S.Fits ev then
        if S.trim.isSome then
          let (x, ok) := x.emit S x.seq ev true (S.hitOf hits) fails
          { x with
            seq := x.seq + 1
            sent := x.sent + if ok then 1 else 0
            pc := .head false }
        else { x.sendPlain S ev fails with seq := x.seq + 1, pc := .head false }
      else x.raise
    | .done => x

/-- The start: a listener, if there is one, with the limit of the spec. -/
def start : Sender := { listener := { maxRetransmits := (S.trim.map Prod.snd).getD 0 } }

/-- A run of moves, in any order. -/
def run (moves : List SendMove) : Sender := moves.foldl (step S) (start S)

theorem run_snoc (moves : List SendMove) (m : SendMove) :
    run S (moves ++ [m]) = (run S moves).step S m := by
  unfold run
  rw [List.foldl_append]
  rfl

end Sender
end Srv6Mrc
