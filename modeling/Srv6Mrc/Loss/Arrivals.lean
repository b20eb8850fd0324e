/-
  What a receiver's counters count.

  The specification never looks at a counter: the arrivals of a flow on an EV are read off the run
  itself (`fulls`, `trims`), and the window a snapshot closes is the part of the run since the
  flow's previous snapshot (`pending`).  `Counts` ties a counter cell, sentinels and all, to a list
  of arrivals; one call keeps it (`counts_step`), a snapshot starts it over with the empty list.
-/
import Srv6Mrc.Loss.Receiver

namespace Srv6Mrc

/-! ## A counter cell counts a list of arrivals -/

/-- `max_seq - min_seq + 1`, zero if there are none. -/
def span (seqs : List Int) : Int :=
  match seqs.min?, seqs.max? with
  | some lo, some hi => hi - lo + 1
  | _, _ => 0

/-- The steps between consecutive arrivals. -/
def increases : List Int → List Int
  | a :: b :: rest => (b - a) :: increases (b :: rest)
  | _ => []

/-- The largest step up between consecutive arrivals, zero if there is none. -/
def largestIncrease (seqs : List Int) : Int := (increases seqs).foldl max 0

/-- The cell holds what these full arrivals and this many trimmed ones leave in it. -/
structure Counts (c : EvCounters) (seqs : List Int) (trimmed : Nat) : Prop where
  seen : c.seen = seqs.length
  low : c.minSeq = seqs.min?.getD (-1)
  high : c.maxSeq = seqs.max?.getD (-1)
  gap : c.maxGap = largestIncrease seqs
  last : c.lastSeq = seqs.getLast?.getD (-1)
  trim : c.trimmed = trimmed

/-- Fresh counters have counted nothing. -/
theorem counts_empty : Counts {} [] 0 := ⟨rfl, rfl, rfl, rfl, rfl, rfl⟩

/-- One arrival more is at most one increase more. -/
theorem increases_concat (seqs : List Int) (seq : Int) :
    increases (seqs ++ [seq]) = increases seqs ++ (seqs.getLast?.map (seq - ·)).toList := by
  induction seqs with
  | nil => rfl
  | cons a rest ih =>
    cases rest with
    | nil => rfl
    | cons b rest =>
      show (b - a) :: increases (b :: rest ++ [seq]) = (b - a) :: increases (b :: rest) ++ _
      rw [ih, List.cons_append, List.getLast?_cons_cons]

/-- The largest increase after one arrival more. -/
theorem largestIncrease_concat (seqs : List Int) (seq : Int) :
    largestIncrease (seqs ++ [seq])
      = match seqs.getLast? with
        | none => largestIncrease seqs
        | some last => max (largestIncrease seqs) (seq - last) := by
  unfold largestIncrease
  rw [increases_concat, List.foldl_append]
  cases seqs.getLast? with
  | none => rfl
  | some last => rfl

theorem min?_concat (seqs : List Int) (seq : Int) :
    (seqs ++ [seq]).min? = some (match seqs.min? with | none => seq | some lo => min lo seq) := by
  cases seqs with
  | nil => rfl
  | cons a rest =>
    show some ((rest ++ [seq]).foldl min a) = some (min (rest.foldl min a) seq)
    rw [List.foldl_append]
    rfl

/-- The greatest after one arrival more. -/
theorem max?_concat (seqs : List Int) (seq : Int) :
    (seqs ++ [seq]).max? = some (match seqs.max? with | none => seq | some hi => max hi seq) := by
  cases seqs with
  | nil => rfl
  | cons a rest =>
    show some ((rest ++ [seq]).foldl max a) = some (max (rest.foldl max a) seq)
    rw [List.foldl_append]
    rfl

/-- The largest increase is zero at least. -/
theorem largestIncrease_nonneg (seqs : List Int) : 0 ≤ largestIncrease seqs := by
  have hfold : ∀ (l : List Int) (m : Int), 0 ≤ m → 0 ≤ l.foldl max m := by
    intro l
    induction l with
    | nil => exact fun m hm => hm
    | cons d l ih => exact fun m hm => ih (max m d) (le_trans hm (le_max_left m d))
  exact hfold _ 0 (le_refl 0)

/-- No increase is above the greatest number. -/
theorem increases_le {seqs : List Int} {top : Int} (hpos : ∀ s ∈ seqs, 0 ≤ s)
    (htop : ∀ s ∈ seqs, s ≤ top) : ∀ d ∈ increases seqs, d ≤ top := by
  induction seqs with
  | nil => exact fun d hd => absurd hd List.not_mem_nil
  | cons a rest ih =>
    cases rest with
    | nil => exact fun d hd => absurd hd List.not_mem_nil
    | cons b rest =>
      intro d hd
      rcases List.mem_cons.mp hd with rfl | hd
      · have ha := hpos a (by simp)
        have hb := htop b (by simp)
        omega
      · exact ih (fun s hs => hpos s (List.mem_cons_of_mem a hs))
          (fun s hs => htop s (List.mem_cons_of_mem a hs)) d hd

/-- Sequence numbers that fit a field have gaps that do. -/
theorem largestIncrease_le {seqs : List Int} {top : Int} (h0 : 0 ≤ top) (hpos : ∀ s ∈ seqs, 0 ≤ s)
    (htop : ∀ s ∈ seqs, s ≤ top) : largestIncrease seqs ≤ top := by
  have hfold : ∀ (l : List Int) (m : Int), m ≤ top → (∀ d ∈ l, d ≤ top) → l.foldl max m ≤ top := by
    intro l
    induction l with
    | nil => exact fun m hm _ => hm
    | cons d l ih =>
      intro m hm hl
      refine ih (max m d) ?_ fun d' hd' => hl d' (List.mem_cons_of_mem d hd')
      have hd := hl d (List.mem_cons_self ..)
      omega
  exact hfold _ 0 h0 (increases_le hpos htop)

theorem span_nonneg (seqs : List Int) : 0 ≤ span seqs := by
  unfold span
  cases seqs with
  | nil => exact le_refl 0
  | cons a rest =>
    have hmin : (a :: rest).min? = some (rest.foldl min a) := rfl
    have hmax : (a :: rest).max? = some (rest.foldl max a) := rfl
    have hlo : rest.foldl min a ≤ a :=
      (List.min?_eq_some_iff.mp hmin).2 a (List.mem_cons_self ..)
    have hhi : a ≤ rest.foldl max a :=
      (List.max?_eq_some_iff.mp hmax).2 a (List.mem_cons_self ..)
    rw [hmin, hmax]
    show 0 ≤ rest.foldl max a - rest.foldl min a + 1
    omega

/-- One more full arrival. -/
theorem Counts.arrive {c : EvCounters} {seqs : List Int} {trimmed : Nat}
    (h : Counts c seqs trimmed) (hpos : ∀ s ∈ seqs, 0 ≤ s) {seq : Int} (hseq : 0 ≤ seq) :
    Counts (c.arrive seq) (seqs ++ [seq]) trimmed := by
  obtain ⟨hseen, hlow, hhigh, hgap, hlast, htrim⟩ := h
  refine ⟨?_, ?_, ?_, ?_, ?_, htrim⟩
  · show c.seen + 1 = _
    rw [hseen, List.length_append]
    rfl
  · show (if c.minSeq < 0 ∨ seq < c.minSeq then seq else c.minSeq) = _
    rw [min?_concat, hlow]
    cases hmin : seqs.min? with
    | none => rfl
    | some lo =>
      have hlo : 0 ≤ lo := hpos lo (List.min?_mem hmin)
      show (if lo < 0 ∨ seq < lo then seq else lo) = min lo seq
      split <;> omega
  · show (if c.maxSeq < seq then seq else c.maxSeq) = _
    rw [max?_concat, hhigh]
    cases hmax : seqs.max? with
    | none =>
      show (if (-1 : Int) < seq then seq else -1) = seq
      exact if_pos (by omega)
    | some hi =>
      show (if hi < seq then seq else hi) = max hi seq
      split <;> omega
  · show (if 0 ≤ c.lastSeq ∧ c.maxGap < seq - c.lastSeq then seq - c.lastSeq else c.maxGap) = _
    rw [largestIncrease_concat, hlast, hgap]
    cases hl : seqs.getLast? with
    | none => exact if_neg (by rintro ⟨h, -⟩; exact absurd h (by decide))
    | some last =>
      have hnonneg : 0 ≤ last := hpos last (List.mem_of_getLast? hl)
      show (if 0 ≤ last ∧ largestIncrease seqs < seq - last then seq - last
        else largestIncrease seqs) = max (largestIncrease seqs) (seq - last)
      split <;> omega
  · show seq = _
    rw [List.getLast?_concat]
    rfl

/-- One more trimmed arrival. -/
theorem Counts.addTrim {c : EvCounters} {seqs : List Int} {trimmed : Nat}
    (h : Counts c seqs trimmed) : Counts c.trim seqs (trimmed + 1) :=
  ⟨h.seen, h.low, h.high, h.gap, h.last, congrArg (· + 1) h.trim⟩

/-- Counters are active once something has arrived. -/
theorem Counts.active {c : EvCounters} {seqs : List Int} {trimmed : Nat}
    (h : Counts c seqs trimmed) : c.active = true ↔ seqs ≠ [] ∨ trimmed ≠ 0 := by
  unfold EvCounters.active
  rw [h.seen, h.trim, decide_eq_true_eq, not_and_or, List.length_eq_zero_iff]

/-- What is expected is the span of what arrived. -/
theorem Counts.expectedLocal {c : EvCounters} {seqs : List Int} {trimmed : Nat}
    (h : Counts c seqs trimmed) (hpos : ∀ s ∈ seqs, 0 ≤ s) : c.expectedLocal = span seqs := by
  unfold EvCounters.expectedLocal span
  rw [h.low, h.high]
  cases seqs with
  | nil => rfl
  | cons a rest =>
    have hmin : (a :: rest).min? = some (rest.foldl min a) := rfl
    have hmax : (a :: rest).max? = some (rest.foldl max a) := rfl
    have hlo : 0 ≤ rest.foldl min a := hpos _ (List.min?_mem hmin)
    rw [hmin, hmax]
    exact if_neg (Int.not_lt.mpr hlo)

namespace LossWindowTable

variable {W : LossWindowTable} {K : Type} [DecidableEq K]

/-! ## What a run says about a flow -/

/-- The sequence number of an accepted full arrival of flow `k` on `e`. -/
def full (k : K) (e : W.EV) : Op K → Option Int
  | .record k' plane path seq =>
    if k' = k ∧ plane = (e.1 : Nat) ∧ path = (e.2 : Nat) ∧ 0 ≤ seq ∧ seq ≤ 0xFFFFFFFF then some seq
    else none
  | _ => none

/-- An accepted trimmed arrival of flow `k` on `e`. -/
def isTrim (k : K) (e : W.EV) : Op K → Bool
  | .recordTrimmed k' plane path => k' = k ∧ plane = (e.1 : Nat) ∧ path = (e.2 : Nat)
  | _ => false

/-- The full arrivals of flow `k` on `e`, in order. -/
def fulls (k : K) (e : W.EV) (ops : List (Op K)) : List Int := ops.filterMap (full k e)

/-- How many trimmed arrivals of flow `k` there were on `e`. -/
def trims (k : K) (e : W.EV) (ops : List (Op K)) : Nat := ops.countP (isTrim k e)

/-- The part of a run since the flow's last snapshot. -/
def pending (k : K) (ops : List (Op K)) : List (Op K) := ops.rtakeWhile fun op => op ≠ .snapshot k

variable (W) in
/-- The call passes its range checks. -/
def Accepts : Op K → Prop
  | .record _ plane path seq => (0 ≤ plane ∧ plane < W.numPlanes) ∧ (0 ≤ path ∧ path < W.numPaths)
      ∧ 0 ≤ seq ∧ seq ≤ 0xFFFFFFFF
  | .recordTrimmed _ plane path => (0 ≤ plane ∧ plane < W.numPlanes) ∧ 0 ≤ path ∧ path < W.numPaths
  | .snapshot _ => True

/-- After a snapshot nothing is pending. -/
theorem pending_snapshot (k : K) (ops : List (Op K)) : pending k (ops ++ [.snapshot k]) = [] :=
  List.rtakeWhile_concat_neg _ _ _ (by simp)

theorem pending_concat {k : K} (ops : List (Op K)) {op : Op K} (h : op ≠ .snapshot k) :
    pending k (ops ++ [op]) = pending k ops ++ [op] :=
  List.rtakeWhile_concat_pos _ _ _ (decide_eq_true h)

/-- The numbers that are recorded are not negative. -/
theorem fulls_nonneg (k : K) (e : W.EV) (ops : List (Op K)) : ∀ seq ∈ fulls k e ops, 0 ≤ seq := by
  intro seq hmem
  obtain ⟨op, -, hop⟩ := List.mem_filterMap.mp hmem
  unfold full at hop
  split at hop
  · split at hop
    · rename_i h
      rw [← Option.some.inj hop]
      exact h.2.2.2.1
    · cases hop
  · cases hop

/-- The full packets of one operation more. -/
theorem fulls_concat (k : K) (e : W.EV) (ops : List (Op K)) (op : Op K) :
    fulls k e (ops ++ [op]) = fulls k e ops ++ (full k e op).toList := by
  unfold fulls
  rw [List.filterMap_append]
  cases h : full k e op with
  | none => simp [h]
  | some seq => simp [h]

/-- The trimmed packets of one operation more. -/
theorem trims_concat (k : K) (e : W.EV) (ops : List (Op K)) (op : Op K) :
    trims k e (ops ++ [op]) = trims k e ops + if isTrim k e op then 1 else 0 := by
  unfold trims
  rw [List.countP_append, List.countP_singleton]

/-! ## The grid -/

theorem mem_cells (e : W.EV) : e ∈ W.cells := by
  unfold cells
  rw [List.mem_flatMap]
  exact ⟨e.1, List.mem_finRange _, List.mem_map.mpr ⟨e.2, List.mem_finRange _, rfl⟩⟩

theorem nodup_cells : W.cells.Nodup := by
  have hprod : W.cells = (List.finRange W.numPlanes) ×ˢ (List.finRange W.numPaths) := rfl
  rw [hprod]
  exact (List.nodup_finRange _).product (List.nodup_finRange _)

/-! ## One call -/

/-- The range checks of `record` and `record_trimmed`. -/
theorem checkEv_eq (plane path : Int) :
    (∃ e : W.EV, plane = (e.1 : Nat) ∧ path = (e.2 : Nat) ∧ W.checkEv plane path = .ok e) ∨
    ¬ ((0 ≤ plane ∧ plane < W.numPlanes) ∧ 0 ≤ path ∧ path < W.numPaths)
      ∧ ∃ err, W.checkEv plane path = .error err := by
  unfold checkEv
  split
  · rename_i hp
    split
    · rename_i hq
      refine Or.inl ⟨_, ?_, ?_, rfl⟩
      · show plane = ((plane.toNat : Nat) : Int)
        omega
      · show path = ((path.toNat : Nat) : Int)
        omega
    · rename_i hq
      exact Or.inr ⟨fun h => hq h.2, _, rfl⟩
  · rename_i hp
    exact Or.inr ⟨fun h => hp h.1, _, rfl⟩

/-- `record` either adds the arrival to its cell or raises and changes nothing. -/
theorem record_cases (k : K) (plane path seq : Int) (s : W.Flows K) :
    (∃ e : W.EV, plane = (e.1 : Nat) ∧ path = (e.2 : Nat) ∧ 0 ≤ seq ∧ seq ≤ 0xFFFFFFFF ∧
      W.record k plane path seq s = .ok (s.setEv k e (((s.window k).evs e).arrive seq))) ∨
    ¬ W.Accepts (.record k plane path seq)
      ∧ ∃ err, W.record k plane path seq s = .raise err s := by
  unfold record
  rcases checkEv_eq (W := W) plane path with ⟨e, hp, hq, hok⟩ | ⟨hno, err, herr⟩
  · rw [hok]
    dsimp only
    split
    · rename_i hseq
      refine Or.inr ⟨?_, _, rfl⟩
      rintro ⟨-, -, h0, h1⟩
      omega
    · rename_i hseq
      exact Or.inl ⟨e, hp, hq, by omega, by omega, rfl⟩
  · rw [herr]
    exact Or.inr ⟨fun h => hno ⟨h.1, h.2.1⟩, err, rfl⟩

/-- So does `record_trimmed`. -/
theorem recordTrimmed_cases (k : K) (plane path : Int) (s : W.Flows K) :
    (∃ e : W.EV, plane = (e.1 : Nat) ∧ path = (e.2 : Nat) ∧
      W.recordTrimmed k plane path s = .ok (s.setEv k e ((s.window k).evs e).trim)) ∨
    ¬ W.Accepts (.recordTrimmed k plane path)
      ∧ ∃ err, W.recordTrimmed k plane path s = .raise err s := by
  unfold recordTrimmed
  rcases checkEv_eq (W := W) plane path with ⟨e, hp, hq, hok⟩ | ⟨hno, err, herr⟩
  · rw [hok]
    exact Or.inl ⟨e, hp, hq, rfl⟩
  · rw [herr]
    exact Or.inr ⟨hno, err, rfl⟩

/-- Counting leaves the id of the window. -/
theorem setEv_nextWindowId (s : W.Flows K) (k : K) (e : W.EV) (c : EvCounters) (k' : K) :
    ((s.setEv k e c).window k').nextWindowId = (s.window k').nextWindowId := by
  by_cases h : k' = k
  · subst h
    simp [Flows.setEv, Flows.window]
  · simp [Flows.setEv, Flows.window, Function.update_of_ne h]

theorem setEv_evs_self (s : W.Flows K) (k : K) (e : W.EV) (c : EvCounters) :
    ((s.setEv k e c).window k).evs e = c := by
  simp [Flows.setEv, Flows.window]

theorem setEv_evs_other (s : W.Flows K) {k k' : K} {e e' : W.EV} (c : EvCounters)
    (h : ¬ (k = k' ∧ e' = e)) : ((s.setEv k e c).window k').evs e' = (s.window k').evs e' := by
  by_cases hk : k' = k
  · subst hk
    have he : e' ≠ e := fun he => h ⟨rfl, he⟩
    simp [Flows.setEv, Flows.window, Function.update_of_ne he]
  · simp [Flows.setEv, Flows.window, Function.update_of_ne hk]

/-! ## What every call keeps -/

/-- A record is a full packet of its flow and EV. -/
theorem full_record (k k' : K) (e e' : W.EV) {seq : Int} (h0 : 0 ≤ seq) (h1 : seq ≤ 0xFFFFFFFF) :
    full k' e' (.record k (e.1 : Nat) (e.2 : Nat) seq) = if k = k' ∧ e' = e then some seq else none := by
  show (if _ then _ else _) = _
  refine if_congr ?_ rfl rfl
  constructor
  · rintro ⟨rfl, hp, hq, -⟩
    exact ⟨rfl, Prod.ext (Fin.ext (by omega)) (Fin.ext (by omega))⟩
  · rintro ⟨rfl, rfl⟩
    exact ⟨rfl, rfl, rfl, h0, h1⟩

/-- A trimmed record is a trimmed packet of its flow and EV. -/
theorem isTrim_recordTrimmed (k k' : K) (e e' : W.EV) :
    isTrim k' e' (.recordTrimmed k (e.1 : Nat) (e.2 : Nat)) = decide (k = k' ∧ e' = e) := by
  refine decide_eq_decide.mpr ?_
  constructor
  · rintro ⟨rfl, hp, hq⟩
    exact ⟨rfl, Prod.ext (Fin.ext (by omega)) (Fin.ext (by omega))⟩
  · rintro ⟨rfl, rfl⟩
    exact ⟨rfl, rfl, rfl⟩

/-- A rejected call is no arrival. -/
theorem full_rejected {op : Op K} (h : ¬ W.Accepts op) (k : K) (e : W.EV) : full k e op = none := by
  have hp := e.1.isLt
  have hq := e.2.isLt
  cases op with
  | record k' plane path seq =>
    refine if_neg ?_
    rintro ⟨-, rfl, rfl, h0, h1⟩
    exact h ⟨⟨by omega, by omega⟩, ⟨by omega, by omega⟩, h0, h1⟩
  | recordTrimmed k' plane path => rfl
  | snapshot k' => rfl

theorem isTrim_rejected {op : Op K} (h : ¬ W.Accepts op) (k : K) (e : W.EV) :
    isTrim k e op = false := by
  have hp := e.1.isLt
  have hq := e.2.isLt
  cases op with
  | record k' plane path seq => rfl
  | recordTrimmed k' plane path =>
    refine decide_eq_false ?_
    rintro ⟨-, rfl, rfl⟩
    exact h ⟨⟨by omega, by omega⟩, by omega, by omega⟩
  | snapshot k' => rfl

/-- A snapshot of one flow leaves the others. -/
theorem snapshot_window_other (s : W.Flows K) {k k' : K} (h : k' ≠ k) :
    (W.snapshotAndReset k s).1.window k' = s.window k' := by
  unfold snapshotAndReset
  dsimp only
  split
  · simp [Flows.window, Function.update_of_ne h]
  · simp [Flows.window, Function.update_of_ne h]

/-- One call, seen by the cells of a flow it does not snapshot: an arrival of the flow is counted
    in its cell, anything else in none. -/
theorem counts_step {l : W.Log K} {k : K} {ops : List (Op K)}
    (h : ∀ e, Counts ((l.flows.window k).evs e) (fulls k e ops) (trims k e ops)) {op : Op K}
    (hop : op ≠ .snapshot k) (e : W.EV) :
    Counts (((W.opStep l op).flows.window k).evs e) (fulls k e (ops ++ [op]))
      (trims k e (ops ++ [op])) := by
  have hcell := h e
  -- a rejected call is no arrival, and leaves the cells as they were
  have hrejected : ¬ W.Accepts op → Counts ((l.flows.window k).evs e)
      (fulls k e (ops ++ [op])) (trims k e (ops ++ [op])) := by
    intro hrej
    rw [fulls_concat, trims_concat, full_rejected hrej, isTrim_rejected hrej, Option.toList_none,
      List.append_nil]
    exact hcell
  cases op with
  | record k' plane path seq =>
    show Counts (((W.record k' plane path seq l.flows).state.window k).evs e) _ _
    rcases record_cases (W := W) k' plane path seq l.flows with
      ⟨e', rfl, rfl, h0, h1, hok⟩ | ⟨hrej, err, herr⟩
    · rw [hok, Outcome.state_ok, fulls_concat, trims_concat, full_record k' k e' e h0 h1]
      show Counts _ _ (trims k e ops + 0)
      by_cases hcase : k' = k ∧ e = e'
      · obtain ⟨rfl, rfl⟩ := hcase
        rw [if_pos ⟨rfl, rfl⟩, setEv_evs_self]
        exact hcell.arrive (fulls_nonneg _ _ _) h0
      · rw [if_neg hcase, setEv_evs_other _ _ hcase, Option.toList_none, List.append_nil]
        exact hcell
    · rw [herr, Outcome.state_raise]
      exact hrejected hrej
  | recordTrimmed k' plane path =>
    show Counts (((W.recordTrimmed k' plane path l.flows).state.window k).evs e) _ _
    rcases recordTrimmed_cases (W := W) k' plane path l.flows with
      ⟨e', rfl, rfl, hok⟩ | ⟨hrej, err, herr⟩
    · rw [hok, Outcome.state_ok, fulls_concat, trims_concat, isTrim_recordTrimmed]
      show Counts _ (fulls k e ops ++ []) _
      rw [List.append_nil]
      by_cases hcase : k' = k ∧ e = e'
      · obtain ⟨rfl, rfl⟩ := hcase
        rw [if_pos (decide_eq_true ⟨rfl, rfl⟩), setEv_evs_self]
        exact hcell.addTrim
      · rw [if_neg (by simpa using hcase), setEv_evs_other _ _ hcase]
        exact hcell
    · rw [herr, Outcome.state_raise]
      exact hrejected hrej
  | snapshot k' =>
    have hk : k ≠ k' := by
      rintro rfl
      exact hop rfl
    show Counts (((W.snapshotAndReset k' l.flows).1.window k).evs e) (fulls k e (ops ++ [_]))
      (trims k e (ops ++ [_]))
    rw [snapshot_window_other _ hk, fulls_concat, trims_concat]
    show Counts _ (fulls k e ops ++ []) (trims k e ops + 0)
    rw [List.append_nil]
    exact hcell

end LossWindowTable
end Srv6Mrc
