/-
  `run_sender` with trimming refines `TrimmingSender`.

  The loop with all its counters does to its listener what the smaller `TrimmingSender` does, move by
  move (`simulates_step`), so what holds of the listener in every run of the one holds in every run of
  the other.  The retransmits of the loop answer NACKs in the order these came in, each at most one and
  none for a packet that had not been counted, and as long as no more packets were sent than the
  listener remembers, no packet is retransmitted more often than the spec allows
  (`retransmits_answer`).
-/
import Srv6Mrc.Send.Balance

namespace Srv6Mrc

open Py

/-! ## A short run forgets nothing -/

namespace TrimmingSender

/-- Everything that was sent is older than the next new seq, and remembered while there is room. -/
structure Remembers (x : TrimmingSender) : Prop where
  nonneg : 0 ≤ x.seq
  range : ∀ seq ∈ x.emitted, 0 ≤ seq ∧ seq < x.seq
  all : x.seq ≤ recentSends → ∀ seq ∈ x.emitted, seq ∈ x.listener.recent.keys

/-- A quiet move keeps what is remembered. -/
theorem Remembers.congr {x y : TrimmingSender} (hq : Quiet x y) (hseq : x.seq ≤ y.seq)
    (h : Remembers x) : Remembers y where
  nonneg := Int.le_trans h.nonneg hseq
  range := by
    rw [hq.emitted]
    exact fun seq hs => ⟨(h.range seq hs).1, Int.lt_of_lt_of_le (h.range seq hs).2 hseq⟩
  all hroom := by
    rw [hq.emitted, hq.recent]
    exact h.all (Int.le_trans hseq hroom)

/-- What is remembered is no more than what was sent. -/
theorem Remembers.length_le {x : TrimmingSender} (ha : Accounted x) (h : Remembers x) :
    (x.listener.recent.length : Int) ≤ x.seq := by
  have hsub : x.listener.recent.keys ⊆ (List.range x.seq.toNat).map Int.ofNat := by
    intro seq hseq
    obtain ⟨hlow, hhigh⟩ := h.range seq (ha.remembered seq hseq)
    exact List.mem_map.mpr ⟨seq.toNat, List.mem_range.mpr (by omega), Int.toNat_of_nonneg hlow⟩
  have hle : x.listener.recent.length ≤ _ :=
    (List.subperm_of_subset x.listener.recent.nodup hsub).length_le
  rw [List.length_map _, List.length_range] at hle
  have hnonneg := h.nonneg
  omega

/-- A new packet. -/
theorem Remembers.fresh {x y : TrimmingSender} (ha : Accounted x) (h : Remembers x)
    (hq : Quiet (x.noted x.seq) y) (hseq : y.seq = x.seq + 1) : Remembers y where
  nonneg := by
    have := h.nonneg
    omega
  range := by
    rw [hq.emitted, hseq]
    intro seq hs
    rcases List.mem_cons.mp hs with rfl | hs
    · exact ⟨h.nonneg, by omega⟩
    · have := h.range seq hs
      omega
  all hroom := by
    rw [hq.emitted, hq.recent]
    have hnew : x.seq ∉ x.listener.recent.keys := fun hin =>
      Int.lt_irrefl _ (h.range _ (ha.remembered _ hin)).2
    have hlen := h.length_le ha
    have hkeys : (NackListener.remember x.listener.recent x.seq).keys
        = x.listener.recent.keys ++ [x.seq] := keys_remember hnew (by omega)
    intro seq hs
    show seq ∈ (NackListener.remember x.listener.recent x.seq).keys
    rw [hkeys]
    rcases List.mem_cons.mp hs with rfl | hs
    · exact List.mem_append_right _ (List.mem_singleton_self _)
    · exact List.mem_append_left _ (h.all (by omega) seq hs)

/-- A packet that was sent before. -/
theorem Remembers.again {x y : TrimmingSender} (h : Remembers x) {s : Int} (hs : s ∈ x.emitted)
    (hq : Quiet (x.noted s) y) (hseq : y.seq = x.seq) : Remembers y where
  nonneg := by rw [hseq]; exact h.nonneg
  range := by
    rw [hq.emitted, hseq]
    intro seq hin
    rcases List.mem_cons.mp hin with rfl | hin
    · exact h.range _ hs
    · exact h.range seq hin
  all hroom := by
    rw [hseq] at hroom
    rw [hq.emitted, hq.recent]
    have hsame : NackListener.remember x.listener.recent s = x.listener.recent :=
      if_pos (h.all hroom s hs)
    intro seq hin
    show seq ∈ (NackListener.remember x.listener.recent s).keys
    rw [hsame]
    rcases List.mem_cons.mp hin with rfl | hin
    · exact h.all hroom _ hs
    · exact h.all hroom seq hin

/-- In every run the last packets are remembered. -/
theorem remembers_run (maxRetransmits : Nat) (moves : List TrimMove) :
    Remembers (run maxRetransmits moves) := by
  induction moves using List.reverseRecOn with
  | nil => exact ⟨Int.le_refl 0, List.forall_mem_nil _, fun _ => List.forall_mem_nil _⟩
  | append_singleton moves m ih =>
    have ha := accounted_run maxRetransmits moves
    rw [run_snoc]
    rcases step_cases (run maxRetransmits moves) m with ⟨request, heq⟩ | ⟨hq, hseq⟩ | ⟨hq, hseq⟩ |
      ⟨draining, r, left, hpc, -, hq, hseq⟩ | ⟨hq, hseq⟩
    · rw [heq]
      refine ⟨ih.nonneg, ih.range, fun hroom seq hs => ?_⟩
      have hkey := ih.all hroom seq hs
      show seq ∈ (NackListener.onNack _ request).recent.keys
      unfold NackListener.onNack
      split
      · exact hkey
      · split
        · exact hkey
        · exact Dict.mem_keys_set.mpr (Or.inr hkey)
    · exact Remembers.congr hq (Int.le_of_eq hseq.symm) ⟨ih.nonneg, ih.range, ih.all⟩
    · exact ih.fresh ha hq hseq
    · have hin := left_handedOut maxRetransmits moves hpc r List.mem_cons_self
      exact ih.again (ha.asked r (List.mem_append_left _ hin)) hq hseq
    · exact ih.congr hq hseq

theorem seq_le_step (x : TrimmingSender) (m : TrimMove) : x.seq ≤ (x.step m).seq := by
  rcases x.step_cases m with ⟨request, heq⟩ | ⟨-, hseq⟩ | ⟨-, hseq⟩ | ⟨-, -, -, -, -, -, hseq⟩ |
    ⟨-, hseq⟩
  · rw [heq]
  · omega
  · omega
  · omega
  · exact hseq

theorem seq_le_run (maxRetransmits : Nat) (moves more : List TrimMove) :
    (run maxRetransmits moves).seq ≤ (run maxRetransmits (moves ++ more)).seq := by
  induction more using List.reverseRecOn with
  | nil => rw [List.append_nil]
  | append_singleton more m ih =>
    rw [← List.append_assoc, run_snoc]
    exact Int.le_trans ih (seq_le_step _ m)

/-- With no more packets than are remembered, none is forgotten. -/
theorem neverForgets_of_short {maxRetransmits : Nat} {moves : List TrimMove}
    (h : (run maxRetransmits moves).seq ≤ recentSends) : NeverForgets maxRetransmits moves := by
  rintro before m ⟨more, rfl⟩ hforgets
  have hshort : (run maxRetransmits before).seq ≤ recentSends := by
    rw [List.append_assoc] at h
    exact Int.le_trans (seq_le_run maxRetransmits before _) h
  cases m with
  | nack | leave => exact hforgets
  | go hit fails =>
    obtain ⟨draining, r, left, hpc, -, hnew⟩ := hforgets
    have hin := left_handedOut maxRetransmits before hpc r List.mem_cons_self
    have hsent := (accounted_run maxRetransmits before).asked r (List.mem_append_left _ hin)
    exact hnew ((remembers_run maxRetransmits before).all hshort _ hsent)

end TrimmingSender

/-! ## The simulation -/

namespace Sender

variable (S : SendSetup)

/-- What the smaller sender does when the loop makes a move: an exception ends it. -/
def moveOf (x : Sender) : SendMove → TrimMove
  | .nack request => .nack request
  | .leave drain => .leave drain
  | .go answers hits fails =>
    match x.pc with
    | .sending => if S.Fits (S.evOf (answers 0)) then .go (S.hitOf hits) fails else .leave false
    | .retransmitting _ (r :: _) =>
      if S.Fits (S.otherEv answers r) then .go (S.hitOf hits) fails else .leave false
    | _ => .go (S.hitOf hits) fails

/-- The seqs that are still to retransmit. -/
def leftSeqs : SenderPc → List Int
  | .retransmitting _ left => left.map NackRequest.seq
  | _ => []

/-- The seqs of the retransmits in a log. -/
def retriedSeqs (log : List Send) : List Int := (log.filter (!·.fresh)).map Send.seq

/-- The two have the same listener, stand at the same place and have sent the same packets; what was
    retransmitted, or is about to be, was handed out. -/
structure Simulates (x : Sender) (y : TrimmingSender) : Prop where
  listener : x.listener = y.listener
  pc : x.pc = y.pc
  seq : x.seq = y.seq
  sent : x.sent = y.sent
  errors : x.errors = y.errors
  emitted : y.emitted = (x.progress.map Prod.fst).reverse
  retried : (retriedSeqs x.log ++ leftSeqs x.pc).Sublist (y.handedOut.map NackRequest.seq)

variable {S}

/-- One packet more is a retransmit, or not. -/
theorem retried_snoc (log : List Send) (s : Send) :
    retriedSeqs (log ++ [s]) = retriedSeqs log ++ if s.fresh then [] else [s.seq] := by
  unfold retriedSeqs
  rw [List.filter_append, List.map_append]
  cases hs : s.fresh <;> simp [hs]

/-- An emit of both. -/
theorem Simulates.emit {x : Sender} {y : TrimmingSender} (h : Simulates x y) (seq : Int)
    (ev : Nat × Nat) (fresh : Bool) (hit : Hit) (fails : Bool) :
    let a := x.emit S seq ev fresh hit fails
    let b := y.emit seq hit fails
    a.2 = b.2 ∧ a.1.listener = b.1.listener ∧ a.1.seq = b.1.seq ∧ a.1.sent = b.1.sent ∧
      a.1.errors = b.1.errors ∧ b.1.emitted = (a.1.progress.map Prod.fst).reverse ∧
      retriedSeqs a.1.log = retriedSeqs x.log ++ (if fresh then [] else [seq]) ∧
      b.1.handedOut = y.handedOut := by
  unfold Sender.emit TrimmingSender.emit
  dsimp only
  by_cases hfails : hit ≠ .drop ∧ fails = true
  · rw [if_pos hfails, if_pos hfails]
    exact ⟨rfl, by rw [h.listener], h.seq, h.sent, congrArg (· + 1) h.errors, h.emitted,
      retried_snoc _ _, rfl⟩
  · rw [if_neg hfails, if_neg hfails]
    refine ⟨rfl, ?_, h.seq, h.sent, h.errors, ?_, retried_snoc _ _, rfl⟩
    · dsimp only
      rw [← h.listener]
      rfl
    · show seq :: y.emitted = ((x.progress ++ [(seq, ev)]).map Prod.fst).reverse
      rw [h.emitted, List.map_append, List.reverse_append]
      rfl

/-- Where the sender stands is no part of it, if nothing is left to retransmit. -/
theorem Simulates.leave {x : Sender} {y : TrimmingSender} (h : Simulates x y) (pc : SenderPc)
    (hpc : leftSeqs pc = []) : Simulates { x with pc := pc } { y with pc := pc } :=
  ⟨h.listener, rfl, h.seq, h.sent, h.errors, h.emitted, by
    show (retriedSeqs x.log ++ leftSeqs pc).Sublist _
    rw [hpc, List.append_nil]
    exact (List.sublist_append_left _ _).trans h.retried⟩

/-- An exception. -/
theorem Simulates.raised {x : Sender} {y : TrimmingSender} (h : Simulates x y) :
    Simulates x.raise { y with pc := .done } := by
  obtain ⟨hlistener, -, hseq, hsent, herrors, hemitted, hretried⟩ := h.leave .done rfl
  exact ⟨hlistener, rfl, hseq, hsent, herrors, hemitted, hretried⟩

/-- The loop is left, or the drain begins. -/
theorem Simulates.leaves (htrim : S.trim.isSome) {x : Sender} {y : TrimmingSender}
    (h : Simulates x y) (drain : Bool) :
    Simulates (x.step S (.leave drain)) (y.step (.leave drain)) := by
  have hdrain : leftSeqs (if drain then .head true else .done) = [] := by cases drain <;> rfl
  unfold Sender.step TrimmingSender.step
  dsimp only
  rw [← h.pc, htrim, Bool.true_and]
  cases x.pc with
  | head draining =>
    cases draining with
    | true => exact h.leave .done rfl
    | false => exact h.leave _ hdrain
  | retransmitting draining left =>
    cases draining with
    | true => exact h.leave .done rfl
    | false => exact h.leave _ hdrain
  | sending => exact h.leave _ hdrain
  | done => exact h.leave .done rfl

/-- At the head of the loop nothing is left to retransmit, and the queue is handed out. -/
theorem Simulates.takes (htrim : S.trim.isSome) {x : Sender} {y : TrimmingSender}
    (h : Simulates x y) {draining : Bool} (hpc : x.pc = .head draining) (answers : Nat → Nat × Nat)
    (hits fails : Bool) :
    Simulates (x.step S (.go answers hits fails)) (y.step (.go (S.hitOf hits) fails)) := by
  have hlog : (retriedSeqs x.log).Sublist (y.handedOut.map NackRequest.seq) :=
    (List.sublist_append_left _ _).trans h.retried
  unfold Sender.step TrimmingSender.step
  dsimp only
  rw [← h.pc, hpc]
  dsimp only
  rw [if_pos htrim, ← h.listener]
  refine ⟨rfl, rfl, h.seq, h.sent, h.errors, h.emitted, ?_⟩
  show (retriedSeqs x.log ++ x.listener.queue.map NackRequest.seq).Sublist
    ((y.handedOut ++ x.listener.queue).map NackRequest.seq)
  rw [List.map_append]
  exact hlog.append (List.Sublist.refl _)

/-- A new packet goes out on an EV that there is. -/
theorem Simulates.sends (htrim : S.trim.isSome) {x : Sender} {y : TrimmingSender}
    (h : Simulates x y) (hpc : x.pc = .sending) {answers : Nat → Nat × Nat}
    (hfits : S.Fits (S.evOf (answers 0))) (hits fails : Bool) :
    Simulates (x.step S (.go answers hits fails)) (y.step (.go (S.hitOf hits) fails)) := by
  have hretried := h.retried
  obtain ⟨hok, hlistener, hseq, hsent, herrors, hemitted, hlog, hout⟩ :=
    h.emit x.seq (S.evOf (answers 0)) true (S.hitOf hits) fails
  rw [hpc] at hretried
  unfold Sender.step TrimmingSender.step
  dsimp only
  rw [← h.pc, hpc]
  dsimp only
  rw [if_pos hfits, if_pos htrim, ← h.seq]
  refine ⟨hlistener, rfl, congrArg (· + 1) hseq, ?_, herrors, hemitted, ?_⟩
  · dsimp only
    rw [hok, hsent]
  · dsimp only
    rw [hlog, hout, if_pos rfl, List.append_nil]
    exact hretried

/-- A retransmit goes out on an EV that there is: its seq goes from what is left to what was sent
    again. -/
theorem Simulates.retransmits {x : Sender} {y : TrimmingSender} (h : Simulates x y)
    {draining : Bool} {r : NackRequest} {left : List NackRequest}
    (hpc : x.pc = .retransmitting draining (r :: left)) {answers : Nat → Nat × Nat}
    (hfits : S.Fits (S.otherEv answers r)) (hits fails : Bool) :
    Simulates (x.step S (.go answers hits fails)) (y.step (.go (S.hitOf hits) fails)) := by
  have hretried := h.retried
  obtain ⟨hok, hlistener, hseq, hsent, herrors, hemitted, hlog, hout⟩ :=
    h.emit r.seq (S.otherEv answers r) false (S.hitOf hits) fails
  rw [hpc] at hretried
  unfold Sender.step TrimmingSender.step
  dsimp only
  rw [← h.pc, hpc]
  dsimp only
  rw [if_pos hfits]
  refine ⟨?_, rfl, hseq, hsent, herrors, hemitted, ?_⟩
  · dsimp only
    rw [hok, hlistener]
  · dsimp only
    rw [hlog, hout, if_neg Bool.false_ne_true, List.append_assoc]
    exact hretried

/-- Every move of the sender is one of the listener's. -/
theorem simulates_step (htrim : S.trim.isSome) {x : Sender} {y : TrimmingSender}
    (h : Simulates x y) (m : SendMove) : Simulates (x.step S m) (y.step (moveOf S x m)) := by
  have hpcs := h.pc
  cases m with
  | nack request =>
    exact ⟨congrArg (·.onNack request) h.listener, h.pc, h.seq, h.sent, h.errors, h.emitted,
      h.retried⟩
  | leave drain => exact h.leaves htrim drain
  | go answers hits fails =>
    cases hpc : x.pc with
    | head draining =>
      -- both take what is queued
      have hmove : moveOf S x (.go answers hits fails) = .go (S.hitOf hits) fails := by
        unfold moveOf
        rw [hpc]
      rw [hmove]
      exact h.takes htrim hpc answers hits fails
    | done =>
      rw [hpc] at hpcs
      unfold moveOf Sender.step TrimmingSender.step
      dsimp only
      rw [hpc, ← hpcs]
      exact h
    | sending =>
      by_cases hfits : S.Fits (S.evOf (answers 0))
      · have hmove : moveOf S x (.go answers hits fails) = .go (S.hitOf hits) fails := by
          unfold moveOf
          rw [hpc]
          exact if_pos hfits
        rw [hmove]
        exact h.sends htrim hpc hfits hits fails
      · -- an EV that does not fit raises
        rw [hpc] at hpcs
        unfold moveOf Sender.step
        dsimp only
        rw [hpc]
        dsimp only
        rw [if_neg hfits, if_neg hfits]
        unfold TrimmingSender.step
        dsimp only
        rw [← hpcs]
        exact h.raised
    | retransmitting draining left =>
      cases left with
      | nil =>
        rw [hpc] at hpcs
        unfold moveOf Sender.step TrimmingSender.step
        dsimp only
        rw [hpc, ← hpcs]
        exact h.leave (if draining then .head true else .sending) (by cases draining <;> rfl)
      | cons r left =>
        by_cases hfits : S.Fits (S.otherEv answers r)
        · have hmove : moveOf S x (.go answers hits fails) = .go (S.hitOf hits) fails := by
            unfold moveOf
            rw [hpc]
            exact if_pos hfits
          rw [hmove]
          exact h.retransmits hpc hfits hits fails
        · -- so it does on a retransmit
          rw [hpc] at hpcs
          unfold moveOf Sender.step
          dsimp only
          rw [hpc]
          dsimp only
          rw [if_neg hfits, if_neg hfits]
          unfold TrimmingSender.step
          dsimp only
          rw [← hpcs]
          cases draining <;> exact h.raised

/-- A run of the loop is a run of the smaller sender. -/
theorem simulates_run (S : SendSetup) {mode : TrimMode} {limit : Nat}
    (htrim : S.trim = some (mode, limit)) (moves : List SendMove) :
    ∃ moves', Simulates (run S moves) (TrimmingSender.run limit moves') := by
  have hsome : S.trim.isSome := by rw [htrim]; rfl
  induction moves using List.reverseRecOn with
  | nil =>
    refine ⟨[], ?_⟩
    show Simulates (start S) _
    unfold start
    rw [htrim]
    exact ⟨rfl, rfl, rfl, rfl, rfl, rfl, List.Sublist.refl _⟩
  | append_singleton moves m ih =>
    obtain ⟨moves', h⟩ := ih
    refine ⟨moves' ++ [moveOf S (run S moves) m], ?_⟩
    rw [run_snoc, TrimmingSender.run_snoc]
    exact simulates_step hsome h m

/-! ## What is retransmitted -/

/-- A retransmit has the seq of the first request that is left. -/
theorem step_log (x : Sender) (m : SendMove) :
    (x.step S m).log = x.log ∨
      ∃ s, (x.step S m).log = x.log ++ [s] ∧ (s.fresh = false → s.seq ∈ leftSeqs x.pc) := by
  have hemit : ∀ (seq : Int) (ev : Nat × Nat) (fresh : Bool) (hit : Hit) (fails : Bool),
      ∃ failed, (x.emit S seq ev fresh hit fails).1.log = x.log ++ [⟨seq, ev, fresh, failed⟩] := by
    intro seq ev fresh hit fails
    rcases x.emit_cases seq ev fresh hit fails with ⟨-, heq⟩ | ⟨-, heq⟩
    · exact ⟨true, by rw [heq]⟩
    · exact ⟨false, by rw [heq]⟩
  unfold step
  cases m with
  | nack request => exact Or.inl rfl
  | leave drain =>
    dsimp only
    split <;> exact Or.inl rfl
  | go answers hits fails =>
    dsimp only
    cases x.pc with
    | head draining =>
      dsimp only
      split <;> exact Or.inl rfl
    | done => exact Or.inl rfl
    | sending =>
      dsimp only
      split
      · split
        · obtain ⟨failed, hlog⟩ := hemit x.seq (S.evOf (answers 0)) true (S.hitOf hits) fails
          exact Or.inr ⟨_, hlog, fun hfresh => absurd hfresh.symm Bool.false_ne_true⟩
        · refine Or.inr ⟨⟨x.seq, S.evOf (answers 0), true, fails⟩, ?_,
            fun hfresh => absurd hfresh.symm Bool.false_ne_true⟩
          unfold sendPlain
          cases fails <;> rfl
      · exact Or.inl rfl
    | retransmitting draining left =>
      cases left with
      | nil => exact Or.inl rfl
      | cons r left =>
        dsimp only
        split
        · obtain ⟨failed, hlog⟩ := hemit r.seq (S.otherEv answers r) false (S.hitOf hits) fails
          exact Or.inr ⟨_, hlog, fun _ => List.mem_cons_self⟩
        · exact Or.inl rfl

/-- Every retransmit of a log comes after a send of that seq that was counted. -/
def Answered (log : List Send) : Prop :=
  ∀ before s later, log = before ++ s :: later → s.fresh = false →
    ∃ t ∈ before, t.failed = false ∧ t.seq = s.seq

/-- One packet more, a new one or one that was counted. -/
theorem Answered.snoc {log : List Send} {s : Send} (h : Answered log)
    (hs : s.fresh = false → ∃ t ∈ log, t.failed = false ∧ t.seq = s.seq) :
    Answered (log ++ [s]) := by
  intro before s' later heq hfresh
  rcases List.eq_nil_or_concat later with rfl | ⟨later, last, rfl⟩
  · obtain ⟨rfl, hlast⟩ := List.append_inj' heq rfl
    obtain rfl := (List.cons.inj hlast).1
    exact hs hfresh
  · rw [List.concat_eq_append, ← List.cons_append, ← List.append_assoc] at heq
    exact h before s' later (List.append_inj' heq rfl).1 hfresh

/-- In every run a retransmit is of a packet that was counted. -/
theorem answered_run {mode : TrimMode} {limit : Nat} (htrim : S.trim = some (mode, limit))
    (moves : List SendMove) : Answered (run S moves).log := by
  induction moves using List.reverseRecOn with
  | nil => exact fun before s later heq => absurd heq (List.append_ne_nil_of_right_ne_nil _ (by simp)).symm
  | append_singleton moves m ih =>
    rw [run_snoc]
    rcases step_log (run S moves) m with hlog | ⟨s, hlog, hleft⟩
    · rw [hlog]
      exact ih
    · rw [hlog]
      refine ih.snoc fun hfresh => ?_
      -- the request was handed out, and the listener asks for nothing that was not counted
      obtain ⟨moves', hsim⟩ := simulates_run S htrim moves
      have hout := hsim.retried.subset (List.mem_append_right _ (hleft hfresh))
      obtain ⟨r, hr, hseq⟩ := List.mem_map.mp hout
      have hsent := (TrimmingSender.accounted_run limit moves').asked r (List.mem_append_left _ hr)
      rw [hsim.emitted, List.mem_reverse, (balanced_run moves).progress, List.map_map] at hsent
      obtain ⟨t, ht, htseq⟩ := List.mem_map.mp hsent
      obtain ⟨hin, hok⟩ := List.mem_filter.mp ht
      exact ⟨t, hin, by simpa using hok, Eq.trans htseq hseq⟩

/-! ## One NACK, one retransmit -/

/-- The requests that are taken and not yet acted on. -/
def leftRequests : SenderPc → List NackRequest
  | .retransmitting _ left => left
  | _ => []

/-- The requests that are still to act on, in order. -/
def pending (x : Sender) : List NackRequest := leftRequests x.pc ++ x.listener.queue

/-- The seq was counted as sent. -/
def Counted (x : Sender) (seq : Int) : Prop := seq ∈ x.progress.map Prod.fst

instance (x : Sender) (seq : Int) : Decidable (x.Counted seq) := by
  unfold Counted; exact inferInstance

/-- The NACK of a move, if its seq had been counted when it came in. -/
def heardAt (x : Sender) : SendMove → List NackRequest
  | .nack request => if x.Counted request.seq then [request] else []
  | _ => []

/-- The NACKs of moves from a state on whose seqs had been counted when they came in. -/
def heardFrom (S : SendSetup) : Sender → List SendMove → List NackRequest
  | _, [] => []
  | x, m :: moves => x.heardAt m ++ heardFrom S (x.step S m) moves

/-- What a run hears, and then what its last move does. -/
theorem heardFrom_snoc (x : Sender) (moves : List SendMove) (m : SendMove) :
    heardFrom S x (moves ++ [m])
      = heardFrom S x moves ++ (moves.foldl (step S) x).heardAt m := by
  induction moves generalizing x with
  | nil => exact List.append_nil _
  | cons m' moves ih =>
    rw [List.cons_append, heardFrom, heardFrom, ih, List.append_assoc]
    rfl

/-- A send leaves what is queued, and is a retransmit if it is not a new packet. -/
theorem emit_retried (x : Sender) (seq : Int) (ev : Nat × Nat) (fresh : Bool) (hit : Hit)
    (fails : Bool) : (x.emit S seq ev fresh hit fails).1.listener.queue = x.listener.queue ∧
      retriedSeqs (x.emit S seq ev fresh hit fails).1.log
        = retriedSeqs x.log ++ if fresh then [] else [seq] := by
  rcases x.emit_cases seq ev fresh hit fails with ⟨-, heq⟩ | ⟨-, heq⟩ <;> rw [heq] <;>
    exact ⟨rfl, retried_snoc _ _⟩

/-- What is queued is pending. -/
theorem queue_sublist_pending (x : Sender) : x.listener.queue.Sublist x.pending :=
  List.sublist_append_right _ _

/-- Leaving the loop forgets what was taken and not sent again. -/
theorem leave_pending (x : Sender) (drain : Bool) :
    retriedSeqs (x.step S (.leave drain)).log = retriedSeqs x.log ∧
      (x.step S (.leave drain)).pending.Sublist x.pending := by
  unfold step
  dsimp only
  split
  · exact ⟨rfl, x.queue_sublist_pending⟩
  · exact ⟨rfl, x.queue_sublist_pending⟩
  · exact ⟨rfl, x.queue_sublist_pending⟩
  · refine ⟨rfl, ?_⟩
    split_ifs <;> exact x.queue_sublist_pending

/-- A new packet asks for nothing. -/
theorem sending_pending (x : Sender) (hpc : x.pc = .sending) (answers : Nat → Nat × Nat)
    (hits fails : Bool) :
    retriedSeqs (x.step S (.go answers hits fails)).log = retriedSeqs x.log ∧
      (x.step S (.go answers hits fails)).pending.Sublist x.pending := by
  unfold step
  dsimp only
  rw [hpc]
  dsimp only
  by_cases hfits : S.Fits (S.evOf (answers 0))
  · rw [if_pos hfits]
    by_cases htrim : S.trim.isSome
    · obtain ⟨hq, hlog⟩ := x.emit_retried (S := S) x.seq (S.evOf (answers 0)) true (S.hitOf hits) fails
      rw [if_pos htrim]
      refine ⟨hlog.trans (List.append_nil _), ?_⟩
      unfold pending
      dsimp only
      rw [hq]
      exact x.queue_sublist_pending
    · rw [if_neg htrim]
      unfold sendPlain
      cases fails with
      | true => exact ⟨(retried_snoc _ _).trans (List.append_nil _), x.queue_sublist_pending⟩
      | false => exact ⟨(retried_snoc _ _).trans (List.append_nil _), x.queue_sublist_pending⟩
  · rw [if_neg hfits]
    exact ⟨rfl, x.queue_sublist_pending⟩

/-- The loop acts on the first pending request, and retransmits its seq; else it at most drops some
    of them. -/
theorem step_pending (x : Sender) (m : SendMove) (hm : ∀ request, m ≠ .nack request) :
    (retriedSeqs (x.step S m).log = retriedSeqs x.log ∧ (x.step S m).pending.Sublist x.pending) ∨
      ∃ r rest, x.pending = r :: rest ∧ (x.step S m).pending = rest ∧
        retriedSeqs (x.step S m).log = retriedSeqs x.log ++ [r.seq] := by
  cases m with
  | nack request => exact absurd rfl (hm request)
  | leave drain => exact Or.inl (x.leave_pending drain)
  | go answers hits fails =>
    cases hpc : x.pc with
    | head draining =>
      refine Or.inl ?_
      unfold step
      dsimp only
      rw [hpc]
      dsimp only
      split_ifs
      · -- what was queued is taken
        refine ⟨rfl, ?_⟩
        unfold pending
        rw [hpc]
        show (x.listener.queue ++ []).Sublist ([] ++ x.listener.queue)
        rw [List.append_nil]
        exact List.Sublist.refl _
      · exact ⟨rfl, x.queue_sublist_pending⟩
    | done =>
      refine Or.inl ?_
      unfold step
      dsimp only
      rw [hpc]
      exact ⟨rfl, List.Sublist.refl _⟩
    | sending => exact Or.inl (x.sending_pending hpc answers hits fails)
    | retransmitting draining left =>
      cases left with
      | nil =>
        refine Or.inl ?_
        unfold step
        dsimp only
        rw [hpc]
        dsimp only
        refine ⟨rfl, ?_⟩
        split_ifs <;> exact x.queue_sublist_pending
      | cons r left =>
        unfold step
        dsimp only
        rw [hpc]
        dsimp only
        by_cases hfits : S.Fits (S.otherEv answers r)
        · obtain ⟨hq, hlog⟩ := x.emit_retried (S := S) r.seq (S.otherEv answers r) false (S.hitOf hits)
            fails
          rw [if_pos hfits]
          refine Or.inr ⟨r, left ++ x.listener.queue, ?_, ?_, hlog⟩
          · unfold pending
            rw [hpc]
            rfl
          · unfold pending
            dsimp only
            rw [hq]
            rfl
        · rw [if_neg hfits]
          exact Or.inl ⟨rfl, x.queue_sublist_pending⟩

/-- A NACK for a seq that was not counted asks for nothing. -/
theorem onNack_uncounted {mode : TrimMode} {limit : Nat} (htrim : S.trim = some (mode, limit))
    (moves : List SendMove) {request : NackRequest} (h : ¬ (run S moves).Counted request.seq) :
    ((run S moves).listener.onNack request).queue = (run S moves).listener.queue := by
  obtain ⟨moves', hsim⟩ := simulates_run S htrim moves
  have hunknown : request.seq ∉ (run S moves).listener.recent.keys := by
    intro hin
    rw [hsim.listener] at hin
    have hsent := (TrimmingSender.accounted_run limit moves').remembered _ hin
    rw [hsim.emitted, List.mem_reverse] at hsent
    exact h hsent
  unfold NackListener.onNack
  rw [Option.not_isSome_iff_eq_none.mp fun hsome => hunknown (Dict.get_isSome.mp hsome)]
  rfl

/-- What was retransmitted and what is pending are NACKs that were heard, in order. -/
theorem answers_heard {mode : TrimMode} {limit : Nat} (htrim : S.trim = some (mode, limit))
    (moves : List SendMove) :
    ∃ answered : List NackRequest, answered.map NackRequest.seq = retriedSeqs (run S moves).log ∧
      (answered ++ (run S moves).pending).Sublist (heardFrom S (start S) moves) := by
  induction moves using List.reverseRecOn with
  | nil => exact ⟨[], rfl, List.Sublist.refl _⟩
  | append_singleton moves m ih =>
    obtain ⟨answered, hlog, hsub⟩ := ih
    rw [run_snoc, heardFrom_snoc]
    change ∃ answered : List NackRequest, _ ∧
      (answered ++ _).Sublist (heardFrom S (start S) moves ++ (run S moves).heardAt m)
    by_cases hm : ∃ request, m = .nack request
    · obtain ⟨request, rfl⟩ := hm
      refine ⟨answered, hlog, ?_⟩
      by_cases hcounted : (run S moves).Counted request.seq
      · -- a heard NACK is queued at the end, or ignored
        have hqueue : ((run S moves).listener.onNack request).queue.Sublist
            ((run S moves).listener.queue ++ [request]) := by
          unfold NackListener.onNack
          split
          · exact List.sublist_append_left _ _
          · split
            · exact List.sublist_append_left _ _
            · exact List.Sublist.refl _
        have hheard : (run S moves).heardAt (.nack request) = [request] := if_pos hcounted
        rw [hheard]
        refine List.Sublist.trans ?_ (hsub.append (List.Sublist.refl [request]))
        rw [List.append_assoc]
        refine (List.Sublist.refl answered).append ?_
        show (leftRequests _ ++ _).Sublist ((leftRequests _ ++ _) ++ [request])
        rw [List.append_assoc]
        exact (List.Sublist.refl _).append hqueue
      · have hheard : (run S moves).heardAt (.nack request) = [] := if_neg hcounted
        have hsame : ((run S moves).step S (.nack request)).pending = (run S moves).pending := by
          unfold pending step
          dsimp only
          rw [onNack_uncounted htrim moves hcounted]
        rw [hheard, List.append_nil, hsame]
        exact hsub
    · rw [not_exists] at hm
      have hheard : (run S moves).heardAt m = [] := by
        cases m with
        | nack request => exact absurd rfl (hm request)
        | go | leave => rfl
      rw [hheard, List.append_nil]
      rcases step_pending (S := S) (run S moves) m hm with ⟨hsame, hless⟩ | ⟨r, rest, hfirst, hrest, hnew⟩
      · exact ⟨answered, hlog.trans hsame.symm,
          ((List.Sublist.refl answered).append hless).trans hsub⟩
      · refine ⟨answered ++ [r], ?_, ?_⟩
        · rw [List.map_append, hlog, hnew]
          rfl
        · rw [hrest, List.append_assoc]
          rw [hfirst] at hsub
          exact hsub

/-- What the retransmits of a sender answer. -/
structure Answers (S : SendSetup) (limit : Nat) (moves : List SendMove) (x : Sender) : Prop where
  /-- The retransmits, and after them what is taken or queued, are NACKs of the run, in order and
      each once, whose seq had been counted when they came in. -/
  heard : ∃ answered : List NackRequest, answered.map NackRequest.seq = retriedSeqs x.log ∧
    (answered ++ x.pending).Sublist (heardFrom S (start S) moves)
  /-- A NACK for a seq that was not counted asks for nothing. -/
  uncounted : ∀ request : NackRequest, ¬ x.Counted request.seq →
    (x.step S (.nack request)).pending = x.pending
  /-- The packet was counted before. -/
  answered : Answered x.log
  /-- A NACK that was not ignored, each another one. -/
  nacks : x.listener.stats.nacksIgnored + x.log.countP (!·.fresh) + x.listener.queue.length
    ≤ x.listener.stats.nacksReceived
  /-- No seq too often, as long as the listener has room for all of them. -/
  bounded : x.seq ≤ recentSends →
    ∀ seq, x.log.countP (fun s => !s.fresh && decide (s.seq = seq)) ≤ limit

/-- In every run with trimming on, whatever is NACKed and whatever the sockets raise. -/
theorem retransmits_answer (S : SendSetup) (mode : TrimMode) (limit : Nat) (moves : List SendMove) :
    let S := { S with trim := some (mode, limit) }
    Answers S limit moves (run S moves) := by
  intro S
  obtain ⟨moves', hsim⟩ := simulates_run S rfl moves
  have hheard := answers_heard (S := S) rfl moves
  have huncounted : ∀ request : NackRequest, ¬ (run S moves).Counted request.seq →
      ((run S moves).step S (.nack request)).pending = (run S moves).pending := by
    intro request hnot
    unfold pending step
    dsimp only
    rw [onNack_uncounted rfl moves hnot]
  set x := run S moves
  set y := TrimmingSender.run limit moves' with hy
  have haccounted : y.Accounted := TrimmingSender.accounted_run limit moves'
  have hretried : (retriedSeqs x.log).Sublist (y.handedOut.map NackRequest.seq) :=
    (List.sublist_append_left _ _).trans hsim.retried
  refine ⟨hheard, huncounted, answered_run rfl moves, ?_, fun hshort seq => ?_⟩
  · have hlen := hretried.length_le
    rw [retriedSeqs, List.length_map, List.length_map, ← List.countP_eq_length_filter] at hlen
    have hreceived := haccounted.received
    rw [hsim.listener]
    omega
  · have hbounded := TrimmingSender.bounded_run (TrimmingSender.neverForgets_of_short
      (Int.le_trans (Int.le_of_eq hsim.seq.symm) hshort))
    have hasked : y.retransmitsOf seq ≤ y.asked seq := by
      unfold TrimmingSender.retransmitsOf TrimmingSender.asked
      rw [List.countP_append]
      exact Nat.le_add_right _ _
    calc x.log.countP (fun s => !s.fresh && decide (s.seq = seq))
        = (retriedSeqs x.log).countP (fun n => decide (n = seq)) := by
          unfold retriedSeqs
          rw [List.countP_map, List.countP_filter]
          exact List.countP_congr fun s _ => by simp [and_comm]
      _ ≤ (y.handedOut.map NackRequest.seq).countP (fun n => decide (n = seq)) := hretried.countP_le
      _ = y.retransmitsOf seq := List.countP_map
      _ ≤ y.listener.maxRetransmits := Nat.le_trans hasked (hbounded.asked_le seq)
      _ = limit := TrimmingSender.maxRetransmits_run limit moves'

end Sender
end Srv6Mrc
