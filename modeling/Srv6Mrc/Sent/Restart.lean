/-
  A data sender that is started again.

  Each incarnation of the sender counts from zero and replaces the same file; the daemon reads it now
  and then.  The reader takes a count that went backwards for a restart, cell by cell, and then the
  new count is the difference.  A new incarnation that has caught up on an EV before it is first
  read goes unseen there, and the reader returns too little.

  `Relay` keeps the successful reads with their incarnations.  For each EV these are the readings of
  a counter that restarts, and what the reader gets and should get of them is `Lib/Cumulative.lean`.
-/
import Srv6Mrc.Lib.Cumulative
import Srv6Mrc.Sent.File

namespace Srv6Mrc

open Py

/-- A move of the data sender, of what starts it, or of the reader. -/
inductive RelayStep (F : Type) [Builtins F] (numPlanes numPaths : Nat) where
  | send (move : SenderStep)
  | restart
  /-- `read_delta` -/
  | read (found : Found F numPlanes numPaths)

/-- A successful read: the incarnation that wrote the file, what was in it, and what `read_delta`
    returned. -/
structure Reading where
  incarnation : Nat
  payload : SentPayload
  delta : Grid

/-- The data senders, one after the other, and the reader of their file. -/
structure Relay (numPlanes numPaths : Nat) where
  sender : DataSender numPlanes numPaths := {}
  reader : SentCounterReader numPlanes numPaths := {}
  /-- Ghost: the successful reads so far. -/
  reads : List Reading := []

/-- The count of an EV that a read found. -/
def Reading.count (r : Reading) (p q : Nat) : Nat := countOf (some r.payload) p q

/-- What a read returned for an EV. -/
def Reading.sent (r : Reading) (p q : Nat) : Int := (cell r.delta p q).getD 0

namespace Relay

variable {F : Type} [Builtins F] {numPlanes numPaths : Nat}

/-- What a read of the file adds to the successful ones. -/
def reading (file : Option (Nat × SentPayload)) (returned : Except Exc (Option Grid)) :
    List Reading :=
  match file, returned with
  | some f, .ok (some delta) => [⟨f.1, f.2, delta⟩]
  | _, _ => []

/-- One move. -/
def step (x : Relay numPlanes numPaths) : RelayStep F numPlanes numPaths → Relay numPlanes numPaths
  | .send move => { x with sender := x.sender.step move }
  | .restart => { x with sender := x.sender.restart }
  | .read found =>
    let (reader, returned) := x.reader.readDelta (found.load x.sender.payload)
    { x with reader := reader, reads := x.reads ++ reading x.sender.file returned }

/-- A run of moves, in any order. -/
def run (steps : List (RelayStep F numPlanes numPaths)) : Relay numPlanes numPaths :=
  steps.foldl step {}

/-- What the reads found of an EV: which incarnation's counter, and its value. -/
def readings (x : Relay numPlanes numPaths) (p q : Nat) : List (Nat × Nat) :=
  x.reads.map fun r => (r.incarnation, r.count p q)

/-! ## What every move keeps -/

/-- Two reads, one after the other: the counts of one incarnation only grow, and the second returns
    the difference. -/
structure Next (numPlanes numPaths : Nat) (r r' : Reading) : Prop where
  le : r.incarnation ≤ r'.incarnation
  count_le : r.incarnation = r'.incarnation →
    ∀ (p : Fin numPlanes) (q : Fin numPaths), r.count p q ≤ r'.count p q
  sent : ∀ (p : Fin numPlanes) (q : Fin numPaths),
    r'.sent p q = SentCounterReader.cellDelta (r'.count p q) (r.count p q)

/-- The reader remembers the last read, and this is not ahead of the file. -/
structure Linked (x : Relay numPlanes numPaths) : Prop where
  sender : x.sender.Ordered
  fits : ∀ r ∈ x.reads, r.payload.Fits numPlanes numPaths
  last : x.reader.last = (x.reads.getLast?.map Reading.payload).map SentCounterReader.gridOf
  first : ∀ r, x.reads.head? = some r →
    ∀ (p : Fin numPlanes) (q : Fin numPaths), r.sent p q = r.count p q
  chain : x.reads.IsChain (Next numPlanes numPaths)
  latest : ∀ r, x.reads.getLast? = some r → ∃ f, x.sender.file = some f ∧ r.incarnation ≤ f.1 ∧
    (r.incarnation = f.1 →
      ∀ (p : Fin numPlanes) (q : Fin numPaths), r.count p q ≤ countOf (some f.2) p q)

theorem linked_start : Linked ({} : Relay numPlanes numPaths) where
  sender := DataSender.ordered_start
  fits := fun r hr => absurd hr List.not_mem_nil
  last := rfl
  first := fun _ h => by cases h
  chain := .nil
  latest := fun _ h => by cases h

/-- A move of the sender keeps the order of what is read. -/
theorem linked_send {x : Relay numPlanes numPaths} (h : Linked x) (move : SenderStep) :
    Linked { x with sender := x.sender.step move } := by
  refine { h with sender := DataSender.ordered_step h.sender move, latest := fun r hr => ?_ }
  obtain ⟨f, hf, hle, hcount⟩ := h.latest r hr
  rcases DataSender.step_file h.sender move with heq | ⟨payload, hnew, heq⟩
  · exact ⟨f, heq.trans hf, hle, hcount⟩
  · have hcurrent : f.1 ≤ x.sender.incarnation := (h.sender.fits f hf).1
    refine ⟨_, heq, hle.trans hcurrent, fun hsame p q => ?_⟩
    have hsame : r.incarnation = x.sender.incarnation := hsame
    have hfile : f.1 = x.sender.incarnation := by omega
    exact (hcount (by omega) p q).trans (hnew.file_le f hf hfile p q)

/-- What one read adds. -/
theorem read_cases {x : Relay numPlanes numPaths} (h : Linked x)
    (found : Found F numPlanes numPaths) :
    (x.step (.read found)).reads = x.reads ∧
      (x.step (.read found)).reader.last = x.reader.last ∨
    ∃ f, x.sender.file = some f ∧
      (x.step (.read found)).reads = x.reads ++
        [⟨f.1, f.2, SentCounterReader.deltaFrom (SentCounterReader.gridOf f.2) x.reader.last⟩] ∧
      (x.step (.read found)).reader.last = some (SentCounterReader.gridOf f.2) := by
  have hfits : ∀ payload, x.sender.payload = some payload → payload.Fits numPlanes numPaths := by
    intro payload hp
    obtain ⟨f, hf, rfl⟩ := Option.map_eq_some_iff.mp hp
    exact (h.sender.fits f hf).2
  have hstep : x.step (.read found) = { x with
      reader := (x.reader.readDelta (found.load x.sender.payload)).1
      reads := x.reads
        ++ reading x.sender.file (x.reader.readDelta (found.load x.sender.payload)).2 } := rfl
  rw [hstep]
  rcases x.reader.readDelta_cases hfits found with ⟨payload, hp, -, heq⟩ | ⟨-, hlast, hnone⟩
  · obtain ⟨f, hf, rfl⟩ := Option.map_eq_some_iff.mp hp
    refine Or.inr ⟨f, hf, ?_, ?_⟩
    · rw [heq, hf]
      rfl
    · rw [heq]
  · refine Or.inl ⟨?_, hlast⟩
    have hempty : reading x.sender.file (x.reader.readDelta (found.load x.sender.payload)).2
        = [] := by
      unfold reading
      split
      · rename_i heq
        exact absurd heq (hnone _)
      · rfl
    dsimp only
    rw [hempty, List.append_nil]

theorem linked_read {x : Relay numPlanes numPaths} (h : Linked x)
    (found : Found F numPlanes numPaths) : Linked (x.step (.read found)) := by
  rcases read_cases h found with ⟨hreads, hlast⟩ | ⟨f, hf, hreads, hlast⟩
  · -- nothing was read
    exact {
      sender := h.sender
      fits := by rw [hreads]; exact h.fits
      last := by rw [hlast, hreads]; exact h.last
      first := by rw [hreads]; exact h.first
      chain := by rw [hreads]; exact h.chain
      latest := by rw [hreads]; exact h.latest }
  · -- the file was read, and the counts are differences to the last reading
    have hfits := (h.sender.fits f hf).2
    have hsent : ∀ (p : Fin numPlanes) (q : Fin numPaths),
        (cell (SentCounterReader.deltaFrom (SentCounterReader.gridOf f.2) x.reader.last) p q).getD 0
          = SentCounterReader.cellDelta (countOf (some f.2) p q)
              (countOf (x.reads.getLast?.map Reading.payload) p q) := by
      intro p q
      rw [h.last]
      refine SentCounterReader.delta_cell hfits (fun l hl => ?_) p q
      obtain ⟨r, hr, rfl⟩ := Option.map_eq_some_iff.mp hl
      exact h.fits r (List.mem_of_getLast? hr)
    refine ⟨h.sender, ?_, ?_, ?_, ?_, ?_⟩
    · intro r hr
      rw [hreads] at hr
      rcases List.mem_append.mp hr with hr | hr
      · exact h.fits r hr
      · rw [List.mem_singleton.mp hr]
        exact hfits
    · rw [hlast, hreads, List.getLast?_concat]
      rfl
    · intro r hr p q
      rw [hreads, List.head?_append] at hr
      cases hhead : x.reads.head? with
      | some r' =>
        rw [hhead] at hr
        obtain rfl := Option.some.inj hr
        exact h.first r' hhead p q
      | none =>
        rw [hhead] at hr
        obtain rfl := Option.some.inj hr
        -- the first reading has nothing before it
        have hnil : x.reads = [] := List.head?_eq_none_iff.mp hhead
        refine (hsent p q).trans ?_
        rw [hnil]
        exact if_pos (Int.natCast_nonneg _) |>.trans (Int.sub_zero _)
    · rw [hreads]
      refine h.chain.append (.singleton _) fun r hr r' hr' => ?_
      obtain rfl := Option.some.inj hr'
      obtain ⟨f', hf', hle, hcount⟩ := h.latest r hr
      obtain rfl := Option.some.inj (hf.symm.trans hf')
      refine ⟨hle, hcount, fun p q => (hsent p q).trans ?_⟩
      rw [Option.mem_def.mp hr]
      rfl
    · intro r hr
      rw [hreads, List.getLast?_concat] at hr
      obtain rfl := Option.some.inj hr
      exact ⟨f, hf, Nat.le_refl _, fun _ p q => Nat.le_refl _⟩

theorem linked_step {x : Relay numPlanes numPaths} (h : Linked x)
    (move : RelayStep F numPlanes numPaths) : Linked (x.step move) := by
  cases move with
  | send move => exact linked_send h move
  | restart => exact { h with sender := DataSender.ordered_restart h.sender }
  | read found => exact linked_read h found

theorem linked_run (steps : List (RelayStep F numPlanes numPaths)) : Linked (run steps) := by
  induction steps using List.reverseRecOn with
  | nil => exact linked_start
  | append_singleton steps move ih =>
    have hsnoc : run (steps ++ [move]) = (run steps).step move := by
      simp [run, List.foldl_append]
    rw [hsnoc]
    exact linked_step ih move

/-! ## The reads of one EV as the readings of one counter -/

/-- The difference of a cell is that of a counter. -/
theorem cellDelta_eq (current last : Nat) :
    SentCounterReader.cellDelta current last = Cumulative.delta current last := by
  unfold SentCounterReader.cellDelta Cumulative.delta
  by_cases h : last ≤ current
  · rw [if_pos h, if_pos (by exact_mod_cast h), Int.ofNat_sub h]
  · rw [if_neg h, if_neg (by exact_mod_cast h)]

/-- What is read on an EV is the differences of its readings. -/
theorem sum_sent_some {r : Reading} {rs : List Reading} (p : Fin numPlanes) (q : Fin numPaths)
    (h : (r :: rs).IsChain (Next numPlanes numPaths)) :
    (rs.map fun r => r.sent p q).sum
      = ((Cumulative.deltas (some (r.count p q))
          (rs.map fun r => (r.incarnation, r.count p q))).sum : Int) := by
  induction rs generalizing r with
  | nil => rfl
  | cons r' rs ih =>
    obtain ⟨hnext, hrest⟩ := List.isChain_cons_cons.mp h
    rw [List.map_cons, List.sum_cons, ih hrest, hnext.sent, cellDelta_eq, List.map_cons,
      Cumulative.deltas, List.sum_cons, Nat.cast_add]

/-- What the reads returned for an EV is what the reader gets out of the readings. -/
theorem sum_sent {x : Relay numPlanes numPaths} (h : Linked x) (p : Fin numPlanes)
    (q : Fin numPaths) :
    (x.reads.map fun r => r.sent p q).sum
      = ((Cumulative.deltas none (x.readings p q)).sum : Int) := by
  unfold readings
  have hfirst := h.first
  have hchain := h.chain
  cases hreads : x.reads with
  | nil => rfl
  | cons r rs =>
    rw [hreads] at hfirst hchain
    rw [List.map_cons, List.sum_cons, sum_sent_some p q hchain, hfirst r rfl, List.map_cons,
      Cumulative.deltas, List.sum_cons, Nat.cast_add]

/-- No read is of an incarnation yet to come. -/
theorem reads_incarnation {x : Relay numPlanes numPaths} (h : Linked x) :
    ∀ r ∈ x.reads, r.incarnation < x.sender.incarnation + 1 := by
  intro r hr
  have hlast : r.incarnation ≤ (x.reads.getLast (List.ne_nil_of_mem hr)).incarnation := by
    have hpair : x.reads.Pairwise fun r r' => r.incarnation ≤ r'.incarnation :=
      (h.chain.imp fun r r' hn => hn.le).pairwise
    exact hpair.rel_getLast hr
  obtain ⟨f, hf, hle, -⟩ := h.latest _ (List.getLast?_eq_some_getLast (List.ne_nil_of_mem hr))
  have := (h.sender.fits f hf).1
  omega

theorem readings_follow {x : Relay numPlanes numPaths} (h : Linked x) (p : Fin numPlanes)
    (q : Fin numPaths) : (x.readings p q).IsChain Cumulative.Follows := by
  unfold readings
  rw [List.isChain_map]
  exact h.chain.imp fun r r' hn => ⟨hn.le, fun hsame => hn.count_le hsame p q⟩

/-- A chain for every EV. -/
theorem isChain_forall {α ι : Type} {R : ι → α → α → Prop} {l : List α} :
    (l.IsChain fun a b => ∀ i, R i a b) ↔ ∀ i, l.IsChain (R i) := by
  simp only [List.isChain_iff_forall_rel_of_append_cons_cons]
  exact ⟨fun h i _ _ _ _ heq => h heq i, fun h _ _ _ _ heq i => h i heq⟩

/-- A restart shows on every EV: the new count is below the last one read, or that was zero. -/
def Shows (numPlanes numPaths : Nat) (r r' : Reading) : Prop :=
  r.incarnation ≠ r'.incarnation →
    ∀ (p : Fin numPlanes) (q : Fin numPaths), r'.count p q < r.count p q ∨ r.count p q = 0

theorem shows_iff (x : Relay numPlanes numPaths) :
    x.reads.IsChain (Shows numPlanes numPaths) ↔
      ∀ (p : Fin numPlanes) (q : Fin numPaths), (x.readings p q).IsChain Cumulative.Shows := by
  have hshows : ∀ r r', Shows numPlanes numPaths r r' ↔
      ∀ pq : Fin numPlanes × Fin numPaths, Cumulative.Shows
        (r.incarnation, r.count pq.1 pq.2) (r'.incarnation, r'.count pq.1 pq.2) :=
    fun r r' => ⟨fun h pq hne => h hne pq.1 pq.2, fun h hne p q => h (p, q) hne⟩
  have hsame : x.reads.IsChain (Shows numPlanes numPaths) ↔
      x.reads.IsChain fun r r' => ∀ pq : Fin numPlanes × Fin numPaths, Cumulative.Shows
        (r.incarnation, r.count pq.1 pq.2) (r'.incarnation, r'.count pq.1 pq.2) :=
    ⟨fun h => h.imp fun r r' => (hshows r r').mp, fun h => h.imp fun r r' => (hshows r r').mpr⟩
  rw [hsame, isChain_forall, Prod.forall]
  refine forall_congr' fun p => forall_congr' fun q => ?_
  unfold readings
  rw [List.isChain_map]

/-- Where every restart shows, no difference is below what the new incarnation has sent. -/
theorem count_le_sent {r r' : Reading} (hn : Next numPlanes numPaths r r')
    (hs : Shows numPlanes numPaths r r') (hne : r.incarnation ≠ r'.incarnation)
    (p : Fin numPlanes) (q : Fin numPaths) : (r'.count p q : Int) ≤ r'.sent p q := by
  rw [hn.sent p q, SentCounterReader.cellDelta]
  rcases hs hne p q with hlt | hzero
  · rw [if_neg (by omega)]
  · rw [hzero, if_pos (by omega)]
    omega

/-- In every run of sender incarnations and reads: the differences returned add up, on every EV, to
    the last counts read of each incarnation, and no read that is the first of its incarnation
    returns less than it found, exactly if every restart between two reads shows on every EV. -/
theorem restarts_counted_iff (steps : List (RelayStep F numPlanes numPaths)) :
    let x := run steps
    ((∀ (p : Fin numPlanes) (q : Fin numPaths),
        (x.reads.map fun r => r.sent p q).sum
          = Cumulative.owed (x.sender.incarnation + 1) (x.readings p q)) ∧
      x.reads.IsChain fun r r' => r.incarnation ≠ r'.incarnation →
        ∀ (p : Fin numPlanes) (q : Fin numPaths), (r'.count p q : Int) ≤ r'.sent p q) ↔
    x.reads.IsChain (Shows numPlanes numPaths) := by
  intro x
  have h : Linked x := linked_run steps
  have hsum : ∀ (p : Fin numPlanes) (q : Fin numPaths),
      (x.reads.map fun r => r.sent p q).sum
        = (Cumulative.owed (x.sender.incarnation + 1) (x.readings p q) : Int) ↔
      (x.readings p q).IsChain Cumulative.Shows := by
    intro p q
    rw [sum_sent h, ← Cumulative.deltas_eq_owed_iff (readings_follow h p q)]
    · exact Int.ofNat_inj
    · intro c hc
      obtain ⟨r, hr, rfl⟩ := List.mem_map.mp hc
      exact reads_incarnation h r hr
  constructor
  · rintro ⟨htotal, -⟩
    rw [shows_iff]
    exact fun p q => (hsum p q).mp (htotal p q)
  · intro hs
    refine ⟨fun p q => (hsum p q).mpr ((shows_iff x).mp hs p q), ?_⟩
    rw [List.isChain_iff_forall_rel_of_append_cons_cons]
    intro r r' before after heq
    exact count_le_sent (List.isChain_iff_forall_rel_of_append_cons_cons.mp h.chain heq)
      (List.isChain_iff_forall_rel_of_append_cons_cons.mp hs heq)

/-- Three packets, published and read; a restart, and five packets before the next read. -/
def caughtUp : List (RelayStep Double 1 1) :=
  List.replicate 3 (RelayStep.send (.record 0 0))
    ++ [RelayStep.send .publish, .send .copyRow, .send (.replace 1), .read .file, .restart]
    ++ List.replicate 5 (RelayStep.send (.record 0 0))
    ++ [RelayStep.send .publish, .send .copyRow, .send (.replace 2), .read .file]

/-- The second read returns two packets of the five. -/
theorem caught_up_lost :
    let x := run caughtUp
    x.reads.map (fun r => (r.incarnation, r.count 0 0, r.sent 0 0)) = [(0, 3, 3), (1, 5, 2)] ∧
    (x.reads.map fun r => r.sent 0 0).sum
      ≠ Cumulative.owed (x.sender.incarnation + 1) (x.readings 0 0) ∧
    ¬ x.reads.IsChain fun r r' => r.incarnation ≠ r'.incarnation →
        ∀ p q : Fin 1, (r'.count p q : Int) ≤ r'.sent p q := by
  decide

end Relay

end Srv6Mrc
