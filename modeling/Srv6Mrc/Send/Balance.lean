/-
  The accounts of `run_sender` balance.

  A move records one send or none (`step_cases`), and everything that is counted follows what was
  recorded (`Balanced`), whatever the policy picks, the oracle hits and the sockets raise: the counters
  of planes and EVs, the calls of `progress_cb`, and the seqs, which are used one after the other.  The
  counters that MRC divides by are those of the EVs (`sent_recorded`).

  With trimming on, the loop does to its listener what `TrimmingSender` does (`simulates_run`), and
  its retransmits are among the requests that were handed out.
-/
import Srv6Mrc.Send.Sender
import Srv6Mrc.Sent.Counters

namespace Srv6Mrc

open Py

namespace Sender

variable {S : SendSetup}

/-! ## What a move records -/

/-- The counters, the calls and the log stay. -/
structure Still (x y : Sender) : Prop where
  seq : y.seq = x.seq
  sent : y.sent = x.sent
  errors : y.errors = x.errors
  retransmits : y.listener.stats.retransmits = x.listener.stats.retransmits
  perPlaneSent : y.perPlaneSent = x.perPlaneSent
  perEvSent : y.perEvSent = x.perEvSent
  progress : y.progress = x.progress
  log : y.log = x.log

/-- There is one send more. -/
structure Recorded (S : SendSetup) (x y : Sender) (s : Send) : Prop where
  seq : y.seq = x.seq + if s.fresh then 1 else 0
  own : s.fresh → s.seq = x.seq
  fits : S.Fits s.ev
  sent : y.sent = x.sent + if s.fresh && !s.failed then 1 else 0
  retransmits : y.listener.stats.retransmits
    = x.listener.stats.retransmits + if !s.fresh && !s.failed then 1 else 0
  errors : y.errors = x.errors + if s.failed then 1 else 0
  perPlaneSent : y.perPlaneSent = if s.failed then x.perPlaneSent else x.perPlaneSent.bump s.ev.1
  perEvSent : S.evAware → y.perEvSent = if s.failed then x.perEvSent else x.perEvSent.bump s.ev
  progress : y.progress = x.progress ++ if s.failed then [] else [(s.seq, s.ev)]
  log : y.log = x.log ++ [s]

theorem hit_retransmits (stats : TrimStats) (hit : Hit) :
    (stats.hit hit).retransmits = stats.retransmits := by
  cases hit <;> rfl

/-- An emit raises or returns, and leaves the counters of the loop to the loop. -/
theorem emit_cases (x : Sender) (seq : Int) (ev : Nat × Nat) (fresh : Bool) (hit : Hit)
    (fails : Bool) :
    (x.emit S seq ev fresh hit fails).2 = false ∧
      (x.emit S seq ev fresh hit fails).1 = { x with
        listener.stats := x.listener.stats.hit hit
        errors := x.errors + 1
        log := x.log ++ [⟨seq, ev, fresh, true⟩] } ∨
    (x.emit S seq ev fresh hit fails).2 = true ∧
      (x.emit S seq ev fresh hit fails).1 =
        { x.counted S seq ev with
          listener := NackListener.noteSent { x.listener with stats := x.listener.stats.hit hit } seq
          log := x.log ++ [⟨seq, ev, fresh, false⟩] } := by
  unfold emit
  dsimp only
  by_cases h : hit ≠ .drop ∧ fails = true
  · rw [if_pos h]
    exact Or.inl ⟨rfl, rfl⟩
  · rw [if_neg h]
    exact Or.inr ⟨rfl, rfl⟩

/-- The first send of a packet. -/
theorem fresh_recorded (x : Sender) {ev : Nat × Nat} (hfits : S.Fits ev) (hit : Hit) (fails : Bool) :
    ∃ s, Recorded S x
      (let (y, ok) := x.emit S x.seq ev true hit fails
       { y with seq := y.seq + 1, sent := y.sent + if ok then 1 else 0, pc := .head false }) s := by
  rcases x.emit_cases x.seq ev true hit fails with ⟨hok, hx⟩ | ⟨hok, hx⟩
  · refine ⟨⟨x.seq, ev, true, true⟩, ?_⟩
    dsimp only
    rw [hok, hx]
    exact ⟨rfl, fun _ => rfl, hfits, rfl, hit_retransmits _ _, rfl, rfl, fun _ => rfl,
      (List.append_nil _).symm, rfl⟩
  · refine ⟨⟨x.seq, ev, true, false⟩, ?_⟩
    dsimp only
    rw [hok, hx]
    exact ⟨rfl, fun _ => rfl, hfits, rfl, hit_retransmits _ _, rfl, rfl, fun hev => if_pos hev, rfl, rfl⟩

/-- A retransmit. -/
theorem retransmit_recorded (x : Sender) (seq : Int) {ev : Nat × Nat} (hfits : S.Fits ev) (hit : Hit)
    (fails : Bool) (pc : SenderPc) :
    ∃ s, Recorded S x
      (let (y, ok) := x.emit S seq ev false hit fails
       { y with
         listener.stats.retransmits := y.listener.stats.retransmits + if ok then 1 else 0
         pc := pc }) s := by
  rcases x.emit_cases seq ev false hit fails with ⟨hok, hx⟩ | ⟨hok, hx⟩
  · refine ⟨⟨seq, ev, false, true⟩, ?_⟩
    dsimp only
    rw [hok, hx]
    exact ⟨(Int.add_zero _).symm, fun h => absurd h Bool.false_ne_true, hfits, rfl,
      hit_retransmits _ _, rfl, rfl, fun _ => rfl, (List.append_nil _).symm, rfl⟩
  · refine ⟨⟨seq, ev, false, false⟩, ?_⟩
    dsimp only
    rw [hok, hx]
    exact ⟨(Int.add_zero _).symm, fun h => absurd h Bool.false_ne_true, hfits, rfl,
      congrArg (· + 1) (hit_retransmits _ _), rfl, rfl, fun hev => if_pos hev, rfl, rfl⟩

/-- A packet without an oracle. -/
theorem plain_recorded (x : Sender) {ev : Nat × Nat} (hfits : S.Fits ev) (fails : Bool) :
    ∃ s, Recorded S x { x.sendPlain S ev fails with seq := x.seq + 1, pc := .head false } s := by
  refine ⟨⟨x.seq, ev, true, fails⟩, ?_⟩
  unfold sendPlain
  cases fails with
  | true =>
    exact ⟨rfl, fun _ => rfl, hfits, rfl, rfl, rfl, rfl, fun _ => rfl, (List.append_nil _).symm, rfl⟩
  | false => exact ⟨rfl, fun _ => rfl, hfits, rfl, rfl, rfl, rfl, fun hev => if_pos hev, rfl, rfl⟩

theorem onNack_retransmits (l : NackListener) (request : NackRequest) :
    (l.onNack request).stats.retransmits = l.stats.retransmits := by
  unfold NackListener.onNack
  split
  · rfl
  · split <;> rfl

/-- A move records one send, or none. -/
theorem step_cases (x : Sender) (m : SendMove) :
    Still x (x.step S m) ∨ ∃ s, Recorded S x (x.step S m) s := by
  have hstill : ∀ pc, Still x { x with pc := pc } := fun pc => ⟨rfl, rfl, rfl, rfl, rfl, rfl, rfl, rfl⟩
  have hraise : Still x x.raise := ⟨rfl, rfl, rfl, rfl, rfl, rfl, rfl, rfl⟩
  unfold step
  cases m with
  | nack request =>
    exact Or.inl ⟨rfl, rfl, rfl, onNack_retransmits _ _, rfl, rfl, rfl, rfl⟩
  | leave drain =>
    dsimp only
    split <;> exact Or.inl (hstill _)
  | go answers hits fails =>
    dsimp only
    split
    · split
      · exact Or.inl ⟨rfl, rfl, rfl, rfl, rfl, rfl, rfl, rfl⟩
      · exact Or.inl (hstill _)
    · exact Or.inl (hstill _)
    · split
      · rename_i hfits
        exact Or.inr (x.retransmit_recorded _ hfits _ _ _)
      · exact Or.inl hraise
    · split
      · rename_i hfits
        split
        · exact Or.inr (x.fresh_recorded hfits _ _)
        · exact Or.inr (x.plain_recorded hfits fails)
      · exact Or.inl hraise
    · exact Or.inl (hstill _)

/-! ## The accounts -/

/-- Everything that is counted, from the log. -/
structure Balanced (S : SendSetup) (x : Sender) : Prop where
  progress : x.progress = (x.log.filter (!·.failed)).map fun s => (s.seq, s.ev)
  planes : Dict.Tallies x.perPlaneSent (x.progress.map fun call => call.2.1)
  evs : S.evAware → Dict.Tallies x.perEvSent (x.progress.map Prod.snd)
  sent : x.sent = x.log.countP fun s => s.fresh && !s.failed
  retransmits : x.listener.stats.retransmits = x.log.countP fun s => !s.fresh && !s.failed
  errors : x.errors = x.log.countP Send.failed
  seqs : ∃ n : Nat, x.seq = n ∧ (x.log.filter Send.fresh).map Send.seq = (List.range n).map Int.ofNat
  fits : ∀ s ∈ x.log, S.Fits s.ev

theorem balanced_start : Balanced S (start S) where
  progress := rfl
  planes := Dict.tallies_empty
  evs _ := Dict.tallies_empty
  sent := rfl
  retransmits := rfl
  errors := rfl
  seqs := ⟨0, rfl, rfl⟩
  fits := List.forall_mem_nil _

theorem Balanced.still {x y : Sender} (h : Balanced S x) (hy : Still x y) : Balanced S y where
  progress := by rw [hy.progress, hy.log, h.progress]
  planes := by
    rw [hy.perPlaneSent, hy.progress]
    exact h.planes
  evs hev := by
    rw [hy.perEvSent, hy.progress]
    exact h.evs hev
  sent := by rw [hy.sent, hy.log, h.sent]
  retransmits := by rw [hy.retransmits, hy.log, h.retransmits]
  errors := by rw [hy.errors, hy.log, h.errors]
  seqs := by
    rw [hy.seq, hy.log]
    exact h.seqs
  fits := by
    rw [hy.log]
    exact h.fits

theorem Balanced.recorded {x y : Sender} {s : Send} (h : Balanced S x) (hy : Recorded S x y s) :
    Balanced S y where
  progress := by
    rw [hy.progress, hy.log, h.progress, List.filter_append, List.map_append]
    congr 1
    cases hf : s.failed with
    | true => simp [hf]
    | false => simp [hf]
  planes := by
    rw [hy.perPlaneSent, hy.progress, List.map_append]
    cases s.failed with
    | true =>
      rw [if_pos rfl, if_pos rfl, List.map_nil, List.append_nil]
      exact h.planes
    | false => exact h.planes.bump s.ev.1
  evs hev := by
    rw [hy.perEvSent hev, hy.progress, List.map_append]
    cases s.failed with
    | true =>
      rw [if_pos rfl, if_pos rfl, List.map_nil, List.append_nil]
      exact h.evs hev
    | false => exact (h.evs hev).bump s.ev
  sent := by rw [hy.sent, hy.log, h.sent, List.countP_append, List.countP_singleton]
  retransmits := by
    rw [hy.retransmits, hy.log, h.retransmits, List.countP_append, List.countP_singleton]
  errors := by rw [hy.errors, hy.log, h.errors, List.countP_append, List.countP_singleton]
  seqs := by
    obtain ⟨n, hseq, hn⟩ := h.seqs
    rw [hy.seq, hy.log, List.filter_append, List.map_append, hn]
    cases hs : s.fresh with
    | true =>
      refine ⟨n + 1, by rw [hseq]; rfl, ?_⟩
      rw [List.filter_cons_of_pos hs, List.filter_nil, List.map_singleton, hy.own hs, hseq,
        List.range_succ, List.map_append]
      rfl
    | false =>
      refine ⟨n, by rw [hseq]; exact Int.add_zero _, ?_⟩
      rw [List.filter_cons_of_neg (by rw [hs]; exact Bool.false_ne_true), List.filter_nil,
        List.map_nil, List.append_nil]
  fits := by
    rw [hy.log]
    exact List.forall_mem_append.mpr ⟨h.fits, List.forall_mem_singleton.mpr hy.fits⟩

theorem balanced_run (moves : List SendMove) : Balanced S (run S moves) := by
  induction moves using List.reverseRecOn with
  | nil => exact balanced_start
  | append_singleton moves m ih =>
    rw [run_snoc]
    rcases (run S moves).step_cases m with hstill | ⟨s, hs⟩
    · exact ih.still hstill
    · exact ih.recorded hs

/-- What is counted by `SentCounterWriter.record`, called with the EVs of a list. -/
theorem sent_recorded {numPlanes numPaths : Nat} (evs : List (Nat × Nat))
    (w : SentCounterWriter numPlanes numPaths) (p : Fin numPlanes) (q : Fin numPaths) :
    (evs.foldl (fun w ev => w.record ev.1 ev.2) w).sent p q
      = w.sent p q + evs.countP fun ev => ev = ((p : Nat), (q : Nat)) := by
  induction evs generalizing w with
  | nil => rfl
  | cons ev evs ih =>
    rw [List.foldl_cons, ih, List.countP_cons, Nat.add_comm (List.countP _ evs), ← Nat.add_assoc]
    congr 1
    obtain ⟨plane, path⟩ := ev
    unfold SentCounterWriter.record
    split
    · rename_i hrange
      by_cases hp : p = ⟨plane, by omega⟩
      · by_cases hq : q = ⟨path, by omega⟩
        · subst hp hq
          simp
        · have hne : ¬ path = (q : Nat) := fun heq => hq (Fin.ext heq.symm)
          subst hp
          simp [hq, hne]
      · have hne : ¬ plane = (p : Nat) := fun heq => hp (Fin.ext heq.symm)
        simp [hp, hne]
    · rename_i hrange
      rw [if_neg]
      · rfl
      · rintro heq
        obtain ⟨rfl, rfl⟩ := Prod.mk.inj (of_decide_eq_true heq)
        have hp := p.isLt
        have hq := q.isLt
        omega

/-- The accounts of a sender.  A packet is counted if it was sent, or dropped by the oracle. -/
structure Accounts (S : SendSetup) (x : Sender) : Prop where
  /-- The planes add up to the new packets and the retransmits. -/
  planes : x.perPlaneSent.total = x.sent + x.listener.stats.retransmits
  /-- The EVs of a plane add up to the plane. -/
  evs : S.evAware → ∀ p, x.perEvSent.totalOf (fun ev => ev.1 = p) = x.perPlaneSent.tally p
  /-- One call for each packet that is counted, with its seq, plane and spine, in order. -/
  calls : x.progress = (x.log.filter (!·.failed)).map fun s => (s.seq, s.ev)
  ofPlane : ∀ p, x.perPlaneSent.tally p = x.progress.countP fun call => call.2.1 = p
  fits : ∀ call ∈ x.progress, S.Fits call.2
  /-- New packets have the seqs from zero on, and each of them was counted or failed. -/
  seqs : ∃ n : Nat, x.seq = n ∧ (x.log.filter Send.fresh).map Send.seq = (List.range n).map Int.ofNat ∧
    x.sent + x.log.countP (fun s => s.fresh && s.failed) = n
  errors : x.errors = x.log.countP Send.failed
  /-- What MRC divides by: the counters that are fed by the calls are those of the EVs. -/
  denominators : S.evAware → ∀ (numPlanes numPaths : Nat) (p : Fin numPlanes) (q : Fin numPaths),
    (x.progress.foldl (fun w call => w.record call.2.1 call.2.2)
      ({} : SentCounterWriter numPlanes numPaths)).sent p q = x.perEvSent.tally ((p : Nat), (q : Nat))

/-- What is counted is of one kind or of the other. -/
theorem countP_split (q p : Send → Bool) (log : List Send) :
    log.countP (fun s => !p s && q s) + log.countP (fun s => p s && q s) = log.countP q := by
  induction log with
  | nil => rfl
  | cons s log ih =>
    simp only [List.countP_cons]
    cases p s <;> cases q s <;> simp <;> omega

theorem Balanced.accounts {x : Sender} (h : Balanced S x) : Accounts S x where
  planes := by
    rw [h.planes.total, List.length_map, h.progress, List.length_map, ← List.countP_eq_length_filter,
      h.sent, h.retransmits, Nat.add_comm]
    exact (countP_split (!·.failed) Send.fresh x.log).symm
  evs hev p := by
    have hplanes := h.planes
    have hmap : (x.progress.map fun call => call.2.1) = (x.progress.map Prod.snd).map Prod.fst := by
      rw [List.map_map]
      rfl
    rw [hmap] at hplanes
    exact hplanes.fst (h.evs hev) p
  calls := h.progress
  ofPlane p := by
    rw [h.planes.tally_eq, List.countP_map]
    rfl
  fits := by
    rw [h.progress]
    intro call hcall
    obtain ⟨s, hs, rfl⟩ := List.mem_map.mp hcall
    exact h.fits s (List.mem_filter.mp hs).1
  seqs := by
    obtain ⟨n, hseq, hn⟩ := h.seqs
    refine ⟨n, hseq, hn, ?_⟩
    have hlen : (x.log.filter Send.fresh).length = n := by
      rw [← List.length_map (f := Send.seq), hn, List.length_map, List.length_range]
    have hsplit := countP_split Send.fresh Send.failed x.log
    simp only [Bool.and_comm (Send.failed _), Bool.and_comm (!Send.failed _)] at hsplit
    rw [← hlen, ← List.countP_eq_length_filter, h.sent]
    exact hsplit
  errors := h.errors
  denominators hev numPlanes numPaths p q := by
    have hfold : ∀ w : SentCounterWriter numPlanes numPaths,
        x.progress.foldl (fun w call => w.record call.2.1 call.2.2) w
          = (x.progress.map Prod.snd).foldl (fun w ev => w.record ev.1 ev.2) w := by
      intro w
      rw [List.foldl_map]
    rw [hfold, sent_recorded, (h.evs hev).tally_eq]
    exact Nat.zero_add _

/-- In every run, whatever the policy answers, the oracle hits, the sockets raise and the listener
    hears, the accounts balance. -/
theorem accounts_balance (S : SendSetup) (moves : List SendMove) : Accounts S (run S moves) :=
  (balanced_run moves).accounts

end Sender
end Srv6Mrc
