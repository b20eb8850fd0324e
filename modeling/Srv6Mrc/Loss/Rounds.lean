/-
  When the receiver reports every window it closes.

  What a round should report is read off the calls since the previous round.  The agent's table
  counts exactly these (`Tracking`), so a round resets what it should report; it hands it to the
  transport if it knows an EV back to the sender, which only a full arrival tells it.
-/
import Srv6Mrc.Loss.Agent
import Srv6Mrc.Loss.Conservation
import Srv6Mrc.Wire.RoundTrip

namespace Srv6Mrc.ReceiverMrcAgent

open LossWindowTable

variable {W : LossWindowTable} {send : Transport} {myId : Int}

/-! ## What a round should report -/

/-- The calls since the previous round. -/
def sinceRound (events : List Event) : List Event := events.rtakeWhile (· ≠ .round)

/-- A full arrival of the flow on the EV. -/
def isFull (k : FlowId) (e : W.EV) : Event → Bool
  | .data k' plane path _ => k' = k ∧ plane = (e.1 : Nat) ∧ path = (e.2 : Nat)
  | _ => false

/-- A trimmed arrival of the flow on the EV. -/
def isTrimmed (k : FlowId) (e : W.EV) : Event → Bool
  | .trimmed k' plane path _ => k' = k ∧ plane = (e.1 : Nat) ∧ path = (e.2 : Nat)
  | _ => false

def fullCount (k : FlowId) (e : W.EV) (events : List Event) : Nat := events.countP (isFull k e)

def trimCount (k : FlowId) (e : W.EV) (events : List Event) : Nat := events.countP (isTrimmed k e)

variable (W) in
/-- The flow had an arrival. -/
def Arrived (k : FlowId) (events : List Event) : Prop :=
  ∃ e : W.EV, 0 < fullCount k e events + trimCount k e events

variable (W) in
/-- The payload is a report of exactly these arrivals: a record for each EV that had some. -/
def Carries (payload : List UInt8) (k : FlowId) (events : List Event) : Prop :=
  ∃ report, decodeLossReport payload = .ok report ∧
    report.planes.map (fun rec => (rec.ev, rec.seen.toNat, rec.trimmed.toNat)) =
      (W.cells.filter fun e => 0 < fullCount k e events + trimCount k e events).map fun e =>
        (((e.1 : Nat), (e.2 : Nat)), fullCount k e events, trimCount k e events)

/-- An arrival, full or trimmed, of the flow's sender on this EV. -/
def UsedBySender (k : FlowId) (plane path : Int) : Event → Prop
  | .data k' plane' path' _ | .trimmed k' plane' path' _ =>
    k'.tenantId = k.tenantId ∧ k'.srcId = k.srcId ∧ plane' = plane ∧ path' = path
  | .round => False

variable (W) in
/-- The message is the flow's report: to its sender, on an EV that the sender used. -/
def Reported (before : List Event) (k : FlowId) (msg : Message) : Prop :=
  ∃ (e : W.EV) (payload : List UInt8), msg = .lossReport (e.1 : Nat) (e.2 : Nat) k.srcId payload ∧
    Carries W payload k (sinceRound before) ∧
    ∃ event ∈ before, UsedBySender k (e.1 : Nat) (e.2 : Nat) event

variable (W send myId) in
/-- A round hands over one report for each flow that had an arrival since the previous one, and nothing
    else. -/
def RoundSound (before : List Event) : Prop :=
  ∃ ks msgs, (after W send myId (before ++ [.round])).handed = (after W send myId before).handed ++ msgs ∧
    ks.Nodup ∧ (∀ k, k ∈ ks ↔ Arrived W k (sinceRound before)) ∧
    List.Forall₂ (Reported W before) ks msgs

/-- A full arrival on the grid, from the sender of the flow, that the table takes. -/
def Heard (W : LossWindowTable) (before : List Event) (tenantId srcId : Int) : Prop :=
  ∃ (k : FlowId) (e : W.EV) (seq : Int), .data k (e.1 : Nat) (e.2 : Nat) seq ∈ before ∧
    k.tenantId = tenantId ∧ k.srcId = srcId ∧ 0 ≤ seq ∧ seq ≤ 0xFFFFFFFF

variable (W) in
/-- The condition of a round: each sender it should report to was heard in full, sequence numbers are
    32-bit, and counts fit their fields. -/
structure RoundOk (before : List Event) : Prop where
  heard : ∀ k, Arrived W k (sinceRound before) → Heard W before k.tenantId k.srcId
  seqs : ∀ k (e : W.EV) seq, .data k (e.1 : Nat) (e.2 : Nat) seq ∈ sinceRound before →
    0 ≤ seq ∧ seq ≤ 0xFFFFFFFF
  fulls : ∀ k (e : W.EV), fullCount k e (sinceRound before) < 2 ^ 32
  trims : ∀ k (e : W.EV), trimCount k e (sinceRound before) < 2 ^ 16

/-! ## The agent's calls as calls on its table -/

/-- The call on the table. -/
def toOp : Event → Option (Op FlowId)
  | .data k plane path seq => some (.record k plane path seq)
  | .trimmed k plane path _ => some (.recordTrimmed k plane path)
  | .round => none

/-- The full packets of an EV, counted. -/
theorem length_fulls {k : FlowId} {e : W.EV} {events : List Event}
    (h : ∀ seq, .data k (e.1 : Nat) (e.2 : Nat) seq ∈ events → 0 ≤ seq ∧ seq ≤ 0xFFFFFFFF) :
    (fulls k e (events.filterMap toOp)).length = fullCount k e events := by
  induction events with
  | nil => rfl
  | cons event events ih =>
    have hrest := ih fun seq hseq => h seq (List.mem_cons_of_mem _ hseq)
    unfold fullCount at hrest ⊢
    rw [List.countP_cons]
    cases event with
    | round => exact hrest
    | trimmed k' plane path seq => exact hrest
    | data k' plane path seq =>
      show (fulls k e (.record k' plane path seq :: events.filterMap toOp)).length = _
      unfold fulls at hrest ⊢
      by_cases hhere : k' = k ∧ plane = (e.1 : Nat) ∧ path = (e.2 : Nat)
      · obtain ⟨rfl, rfl, rfl⟩ := hhere
        have hseq := h seq List.mem_cons_self
        have hhit : full k' e (.record k' (e.1 : Nat) (e.2 : Nat) seq) = some seq :=
          if_pos ⟨rfl, rfl, rfl, hseq.1, hseq.2⟩
        rw [List.filterMap_cons_some hhit, List.length_cons, hrest, isFull, if_pos (by simp)]
      · have hmiss : full k e (.record k' plane path seq) = none :=
          if_neg fun hfull => hhere ⟨hfull.1, hfull.2.1, hfull.2.2.1⟩
        rw [List.filterMap_cons_none hmiss, hrest, isFull, if_neg (by simpa using hhere)]
        rfl

/-- The trimmed packets of an EV, counted. -/
theorem trims_eq {k : FlowId} {e : W.EV} {events : List Event} :
    LossWindowTable.trims k e (events.filterMap toOp) = trimCount k e events := by
  induction events with
  | nil => rfl
  | cons event events ih =>
    unfold trimCount LossWindowTable.trims at ih ⊢
    rw [List.countP_cons, ← ih]
    cases event with
    | round => rfl
    | data k' plane path seq => exact List.countP_cons_of_neg (by simp [isTrim])
    | trimmed k' plane path seq => exact List.countP_cons

/-! ## The loop of a round -/

/-- Each flow that is in the table is in the order, once. -/
def Keyed (a : ReceiverMrcAgent W) : Prop :=
  a.knownFlows.Nodup ∧ ∀ k, (a.lossTable k).isSome → k ∈ a.knownFlows

/-- Counting on a flow that is known keeps the flows known. -/
theorem Keyed.setTable {a : ReceiverMrcAgent W} (h : Keyed a) {k : FlowId} {flows : W.Flows FlowId}
    (hother : ∀ k', k' ≠ k → flows k' = a.lossTable k') : Keyed (a.setTable k flows) := by
  unfold Keyed ReceiverMrcAgent.setTable
  dsimp only
  split_ifs with hnew
  · refine ⟨List.nodup_append.mpr ⟨h.1, List.nodup_singleton k, ?_⟩, fun k' hk' => ?_⟩
    · intro k' hk' k'' hk''
      rw [List.mem_singleton.mp hk'']
      rintro rfl
      exact hnew.2 hk'
    · by_cases hk : k' = k
      · exact List.mem_append_right _ (List.mem_singleton.mpr hk)
      · exact List.mem_append_left _ (h.2 k' (hother k' hk ▸ hk'))
  · refine ⟨h.1, fun k' hk' => ?_⟩
    by_cases hk : k' = k
    · subst hk
      exact by_contra fun hnot => hnew ⟨hk', hnot⟩
    · exact h.2 k' (hother k' hk ▸ hk')

section Loop

variable (F : FlowId → W.EV → List Int) (R : FlowId → W.EV → Nat)

/-- The flow's window has something to report. -/
def busy (k : FlowId) : Bool := W.cells.any fun e => F k e ≠ [] ∨ R k e ≠ 0

/-- The message is the report of this window, on the EV of the cache. -/
def ReportOf (senders : Int × Int → Option SenderAddr) (k : FlowId) (msg : Message) : Prop :=
  ∃ (addr : SenderAddr) (windowId : UInt16) (evs : W.EV → EvCounters),
    senders (k.tenantId, k.srcId) = some addr ∧ (∀ e, Counts (evs e) (F k e) (R k e)) ∧
    msg = .lossReport addr.lastPlane addr.lastPath addr.srcId
      (reportBytes windowId ((W.cells.filter fun e => (evs e).active).map fun e =>
        LossWindowTable.recordOf e (evs e)))

variable {F R}

/-- A flow is busy if something came for it. -/
theorem busy_iff {k : FlowId} : busy F R k ↔ ∃ e, F k e ≠ [] ∨ R k e ≠ 0 := by
  rw [busy, List.any_eq_true]
  constructor
  · rintro ⟨e, -, he⟩
    exact ⟨e, of_decide_eq_true he⟩
  · rintro ⟨e, he⟩
    exact ⟨e, mem_cells e, decide_eq_true he⟩

/-- The turn of a flow: its window starts over, and is reported if there is something in it. -/
theorem emitFlow_eq (hp : W.numPlanes ≤ 256) (hq : W.numPaths ≤ 256) (hlen : W.cells.length ≤ 0xFFFF)
    (hsend : ∀ handed plane path dst payload,
      send handed (.lossReport plane path dst payload) ≠ some .other)
    {a : ReceiverMrcAgent W} {k : FlowId} (hid : (a.lossTable.window k).nextWindowId < 0x10000)
    (hc : ∀ e, Counts ((a.lossTable.window k).evs e) (F k e) (R k e))
    (hpos : ∀ e, ∀ x ∈ F k e, 0 ≤ x)
    (hsender : busy F R k → ∃ addr, a.senders (k.tenantId, k.srcId) = some addr) :
    ∃ (window : W.FlowWindow) (msgs : List Message),
      emitFlow send k a = .ok { a.setTable k (Function.update a.lossTable k (some window)) with
        handed := a.handed ++ msgs } ∧
      window.nextWindowId < 0x10000 ∧ window.evs = (fun _ => {}) ∧
      List.Forall₂ (ReportOf F R a.senders) ([k].filter (busy F R)) msgs := by
  have hactive : (W.cells.filter fun e => ((a.lossTable.window k).evs e).active) = [] ↔
      ¬ busy F R k := by
    rw [List.filter_eq_nil_iff, busy_iff, not_exists]
    exact ⟨fun h e he => h e (mem_cells e) ((hc e).active.mpr he), fun h e _ he => h e ((hc e).active.mp he)⟩
  refine ⟨{ nextWindowId := ((a.lossTable.window k).nextWindowId + 1) % 0x10000 }, ?_⟩
  unfold emitFlow
  rw [snapshotAndReset_counts hp hq hid hc hpos]
  dsimp only
  by_cases hbusy : busy F R k
  · obtain ⟨addr, haddr⟩ := hsender hbusy
    have hne : ¬ (W.cells.filter fun e => ((a.lossTable.window k).evs e).active).map (fun e =>
        LossWindowTable.recordOf e ((a.lossTable.window k).evs e)) = [] := by
      rw [List.map_eq_nil_iff, hactive, not_not]
      exact hbusy
    have hshort : ¬ 0xFFFF < ((W.cells.filter fun e => ((a.lossTable.window k).evs e).active).map
        fun e => LossWindowTable.recordOf e ((a.lossTable.window k).evs e)).length := by
      rw [List.length_map]
      exact Nat.not_lt.mpr ((List.length_filter_le _ W.cells).trans hlen)
    rw [if_neg hne]
    have hsame : (a.setTable k (Function.update a.lossTable k (some { nextWindowId :=
        ((a.lossTable.window k).nextWindowId + 1) % 0x10000 }))).senders = a.senders := rfl
    rw [hsame, haddr]
    dsimp only
    rw [encodeLossReport_eq, if_neg hshort]
    dsimp only
    rw [if_neg (hsend _ _ _ _ _), List.filter_cons_of_pos hbusy]
    exact ⟨_, rfl, Nat.mod_lt _ (by decide), rfl, .cons ⟨addr, _, _, haddr, hc, rfl⟩ .nil⟩
  · rw [if_pos (by rw [hactive.mpr hbusy]; rfl), List.filter_cons_of_neg hbusy]
    refine ⟨[], ?_, Nat.mod_lt _ (by decide), rfl, .nil⟩
    rw [List.append_nil]
    rfl

/-- The round closes the window of each flow, and reports those with something in them, in order. -/
theorem emit_loop (hp : W.numPlanes ≤ 256) (hq : W.numPaths ≤ 256) (hlen : W.cells.length ≤ 0xFFFF)
    (hsend : ∀ handed plane path dst payload,
      send handed (.lossReport plane path dst payload) ≠ some .other)
    (hpos : ∀ k e, ∀ x ∈ F k e, 0 ≤ x) (ks : List FlowId) (hnodup : ks.Nodup)
    (a : ReceiverMrcAgent W) (hkeyed : Keyed a)
    (hid : ∀ k, (a.lossTable.window k).nextWindowId < 0x10000)
    (hc : ∀ k ∈ ks, ∀ e, Counts ((a.lossTable.window k).evs e) (F k e) (R k e))
    (hsender : ∀ k ∈ ks, busy F R k → ∃ addr, a.senders (k.tenantId, k.srcId) = some addr) :
    ∃ a' msgs, Outcome.forEach (emitFlow send) ks a = .ok a' ∧ a'.senders = a.senders ∧ Keyed a' ∧
      (∀ k, (a'.lossTable.window k).nextWindowId < 0x10000) ∧
      (∀ k ∉ ks, a'.lossTable k = a.lossTable k) ∧
      (∀ k ∈ ks, (a'.lossTable.window k).evs = fun _ => {}) ∧
      a'.handed = a.handed ++ msgs ∧
      List.Forall₂ (ReportOf F R a.senders) (ks.filter (busy F R)) msgs := by
  induction ks generalizing a with
  | nil =>
    exact ⟨a, [], rfl, rfl, hkeyed, hid, fun k _ => rfl, fun k hk => absurd hk List.not_mem_nil,
      (List.append_nil _).symm, .nil⟩
  | cons k ks ih =>
    obtain ⟨hnotin, hnodup⟩ := List.nodup_cons.mp hnodup
    obtain ⟨window, msgs, hturn, hwid, hevs, hmsgs⟩ := emitFlow_eq hp hq hlen hsend (hid k)
      (hc k List.mem_cons_self) (hpos k) (hsender k List.mem_cons_self)
    -- the agent after the turn
    let b : ReceiverMrcAgent W :=
      { a.setTable k (Function.update a.lossTable k (some window)) with handed := a.handed ++ msgs }
    have hwindow : ∀ k', k' ≠ k → b.lossTable k' = a.lossTable k' := fun k' hk' =>
      Function.update_of_ne hk' _ _
    have hself : b.lossTable.window k = window := by
      show (Function.update a.lossTable k (some window) k).getD {} = window
      rw [Function.update_self]
      rfl
    have hother : ∀ k', k' ≠ k → b.lossTable.window k' = a.lossTable.window k' := by
      intro k' hk'
      show (b.lossTable k').getD {} = (a.lossTable k').getD {}
      rw [hwindow k' hk']
    have hne : ∀ k' ∈ ks, k' ≠ k := by
      rintro k' hk' rfl
      exact hnotin hk'
    obtain ⟨a', msgs', hrest, hsenders, hkeyed', hid', hsame, hreset, hhanded, hreports⟩ := ih hnodup b
      (hkeyed.setTable hwindow)
      (fun k' => by
        by_cases hk' : k' = k
        · rw [hk', hself]
          exact hwid
        · rw [hother k' hk']
          exact hid k')
      (fun k' hk' => by
        rw [hother k' (hne k' hk')]
        exact hc k' (List.mem_cons_of_mem _ hk'))
      (fun k' hk' => hsender k' (List.mem_cons_of_mem _ hk'))
    refine ⟨a', msgs ++ msgs', ?_, hsenders, hkeyed', hid', fun k' hk' => ?_, fun k' hk' => ?_, ?_, ?_⟩
    · rw [Outcome.forEach_cons, hturn, Outcome.andThen_none rfl]
      exact hrest
    · rw [List.mem_cons, not_or] at hk'
      exact (hsame k' hk'.2).trans (hwindow k' hk'.1)
    · rcases List.mem_cons.mp hk' with rfl | hk'
      · have hstays : a'.lossTable.window k' = b.lossTable.window k' :=
          congrArg (·.getD {}) (hsame k' hnotin)
        rw [hstays, hself]
        exact hevs
      · exact hreset k' hk'
    · rw [hhanded]
      exact List.append_assoc _ _ _
    · rw [← List.singleton_append, List.filter_append]
      exact List.rel_append hmsgs hreports

end Loop

/-! ## What the agent keeps -/

/-- The table counts what came in since the previous round, and the cache knows the senders. -/
structure Tracking (before : List Event) (a : ReceiverMrcAgent W) : Prop where
  counts : ∀ k e, Counts ((a.lossTable.window k).evs e) (fulls k e ((sinceRound before).filterMap toOp))
    (LossWindowTable.trims k e ((sinceRound before).filterMap toOp))
  ids : ∀ k, (a.lossTable.window k).nextWindowId < 0x10000
  keyed : Keyed a
  cached : ∀ tid sid addr, a.senders (tid, sid) = some addr → addr.srcId = sid ∧
    ∃ (k : FlowId) (e : W.EV) (seq : Int), .data k (e.1 : Nat) (e.2 : Nat) seq ∈ before ∧
      k.tenantId = tid ∧ k.srcId = sid ∧ addr.lastPlane = (e.1 : Nat) ∧ addr.lastPath = (e.2 : Nat)
  heard : ∀ tid sid, Heard W before tid sid → ∃ addr, a.senders (tid, sid) = some addr

theorem tracking_nil : Tracking [] ({} : ReceiverMrcAgent W) where
  counts _ _ := counts_empty
  ids _ := by
    show 0 < 0x10000
    decide
  keyed := ⟨List.nodup_nil, fun k hk => absurd hk Bool.false_ne_true⟩
  cached _ _ _ h := absurd h (Option.some_ne_none _).symm
  heard _ _ := fun ⟨_, _, _, hmem, _⟩ => absurd hmem List.not_mem_nil

/-- An event that is no round is one since the last. -/
theorem sinceRound_concat {before : List Event} {event : Event} (h : event ≠ .round) :
    sinceRound (before ++ [event]) = sinceRound before ++ [event] :=
  List.rtakeWhile_concat_pos _ _ _ (decide_eq_true h)

theorem sinceRound_round {before : List Event} : sinceRound (before ++ [.round]) = [] :=
  List.rtakeWhile_concat_neg _ _ _ (by simp)

/-- An arrival, seen by the table: it is counted, or it is refused and changes nothing. -/
theorem Tracking.table {before : List Event} {a : ReceiverMrcAgent W} (h : Tracking before a)
    (event : Event) (op : Op FlowId) (hround : event ≠ .round) (hop : toOp event = some op)
    (hsnap : ∀ k, op ≠ .snapshot k) :
    let flows := (W.opStep ⟨a.lossTable, []⟩ op).flows
    (∀ k e, Counts ((flows.window k).evs e)
      (fulls k e ((sinceRound (before ++ [event])).filterMap toOp))
      (LossWindowTable.trims k e ((sinceRound (before ++ [event])).filterMap toOp))) := by
  intro flows k e
  rw [sinceRound_concat hround, List.filterMap_append, List.filterMap_cons_some hop,
    List.filterMap_nil]
  exact counts_step (l := ⟨a.lossTable, []⟩) (h.counts k) (hsnap k) e

theorem Heard.mono {before : List Event} {event : Event} {tid sid : Int}
    (h : Heard W before tid sid) : Heard W (before ++ [event]) tid sid := by
  obtain ⟨k, e, seq, hmem, hrest⟩ := h
  exact ⟨k, e, seq, List.mem_append_left _ hmem, hrest⟩

/-- Which flows are known depends on the tables only. -/
theorem Keyed.congr {a b : ReceiverMrcAgent W} (h : Keyed a) (htable : b.lossTable = a.lossTable)
    (hknown : b.knownFlows = a.knownFlows) : Keyed b := by
  unfold Keyed
  rw [htable, hknown]
  exact h

/-- A full packet is counted, or raises. -/
theorem tracking_data {before : List Event} {a : ReceiverMrcAgent W} (h : Tracking before a)
    (k : FlowId) (plane path seq : Int) :
    Tracking (before ++ [.data k plane path seq]) (a.recordData k plane path seq).state := by
  have hcounts := h.table (.data k plane path seq) (.record k plane path seq)
    (fun heq => by cases heq) rfl (fun k' heq => by cases heq)
  have hold : ∀ tid sid addr, a.senders (tid, sid) = some addr → addr.srcId = sid ∧
      ∃ (k' : FlowId) (e : W.EV) (seq' : Int),
        .data k' (e.1 : Nat) (e.2 : Nat) seq' ∈ before ++ [.data k plane path seq] ∧
          k'.tenantId = tid ∧ k'.srcId = sid ∧ addr.lastPlane = (e.1 : Nat) ∧
            addr.lastPath = (e.2 : Nat) := by
    intro tid sid addr haddr
    obtain ⟨hsrc, k', e, seq', hmem, hrest⟩ := h.cached tid sid addr haddr
    exact ⟨hsrc, k', e, seq', List.mem_append_left _ hmem, hrest⟩
  rcases record_cases (W := W) k plane path seq a.lossTable with
    ⟨e, rfl, rfl, h0, h1, hok⟩ | ⟨hrefused, err, herr⟩
  · -- counted, and the sender is remembered by it
    have hstate : (a.recordData k (e.1 : Nat) (e.2 : Nat) seq).state =
        { a.setTable k (a.lossTable.setEv k e (((a.lossTable.window k).evs e).arrive seq)) with
          senders := Function.update a.senders (k.tenantId, k.srcId)
            (some ⟨k.srcId, (e.1 : Nat), (e.2 : Nat)⟩) } := by
      unfold recordData
      rw [hok]
      rfl
    rw [hstate]
    have hflows : (W.opStep ⟨a.lossTable, []⟩ (.record k (e.1 : Nat) (e.2 : Nat) seq)).flows =
        a.lossTable.setEv k e (((a.lossTable.window k).evs e).arrive seq) := by
      show (W.record k (e.1 : Nat) (e.2 : Nat) seq a.lossTable).state = _
      rw [hok]
      rfl
    rw [hflows] at hcounts
    refine ⟨hcounts, fun k' => ?_, ?_, fun tid sid addr haddr => ?_, fun tid sid hheard => ?_⟩
    · exact (setEv_nextWindowId _ _ _ _ k').symm ▸ h.ids k'
    · exact (h.keyed.setTable fun k' hk' => Function.update_of_ne hk' _ _).congr rfl rfl
    · dsimp only at haddr
      by_cases hsender : (tid, sid) = (k.tenantId, k.srcId)
      · obtain ⟨rfl, rfl⟩ := Prod.mk.inj hsender
        rw [Function.update_self] at haddr
        rw [← Option.some.inj haddr]
        exact ⟨rfl, k, e, seq, List.mem_append_right _ List.mem_cons_self, rfl, rfl, rfl, rfl⟩
      · rw [Function.update_of_ne hsender] at haddr
        exact hold tid sid addr haddr
    · dsimp only
      by_cases hsender : (tid, sid) = (k.tenantId, k.srcId)
      · rw [hsender, Function.update_self]
        exact ⟨_, rfl⟩
      · rw [Function.update_of_ne hsender]
        obtain ⟨k', e', seq', hmem, htid, hsid, hseq⟩ := hheard
        rcases List.mem_append.mp hmem with hbefore | hnew
        · exact h.heard tid sid ⟨k', e', seq', hbefore, htid, hsid, hseq⟩
        · rw [(Event.data.inj (List.mem_singleton.mp hnew)).1] at htid hsid
          exact absurd (Prod.ext htid.symm hsid.symm) hsender
  · -- refused by the table: nothing is counted, and the sender is not remembered
    have hstate : (a.recordData k plane path seq).state = a.setTable k a.lossTable := by
      unfold recordData
      rw [herr]
      rfl
    rw [hstate]
    have hflows : (W.opStep ⟨a.lossTable, []⟩ (.record k plane path seq)).flows = a.lossTable := by
      show (W.record k plane path seq a.lossTable).state = _
      rw [herr]
      rfl
    rw [hflows] at hcounts
    refine ⟨hcounts, h.ids, h.keyed.setTable fun _ _ => rfl, hold, fun tid sid hheard => ?_⟩
    obtain ⟨k', e', seq', hmem, htid, hsid, hseq⟩ := hheard
    rcases List.mem_append.mp hmem with hbefore | hnew
    · exact h.heard tid sid ⟨k', e', seq', hbefore, htid, hsid, hseq⟩
    · cases List.mem_singleton.mp hnew
      exact absurd ⟨⟨by omega, by omega⟩, ⟨by omega, by omega⟩, hseq⟩ hrefused

variable (send myId) in
/-- A trimmed arrival is counted before anything can go wrong with its NACK. -/
theorem recordTrimmed_state (a : ReceiverMrcAgent W) (k : FlowId) (plane path seq : Int) :
    let b := (a.recordTrimmed send myId k plane path seq).state
    let flows := (W.recordTrimmed k plane path a.lossTable).state
    b.lossTable = flows ∧ b.knownFlows = (a.setTable k flows).knownFlows ∧
      b.senders = a.senders := by
  unfold recordTrimmed
  rcases W.recordTrimmed k plane path a.lossTable with ⟨flows, _ | err⟩
  · dsimp only
    split
    · exact ⟨rfl, rfl, rfl⟩
    · split <;> exact ⟨rfl, rfl, rfl⟩
  · exact ⟨rfl, rfl, rfl⟩

/-- A trimmed packet is counted and NACKed, or raises. -/
theorem tracking_trimmed {before : List Event} {a : ReceiverMrcAgent W} (h : Tracking before a)
    (k : FlowId) (plane path seq : Int) :
    Tracking (before ++ [.trimmed k plane path seq])
      (a.recordTrimmed send myId k plane path seq).state := by
  have hcounts := h.table (.trimmed k plane path seq) (.recordTrimmed k plane path)
    (fun heq => by cases heq) rfl (fun k' heq => by cases heq)
  have hother : (∀ k', k' ≠ k →
        (W.recordTrimmed k plane path a.lossTable).state k' = a.lossTable k') ∧
      ∀ k', ((W.recordTrimmed k plane path a.lossTable).state.window k').nextWindowId =
        (a.lossTable.window k').nextWindowId := by
    rcases recordTrimmed_cases (W := W) k plane path a.lossTable with ⟨e, -, -, hok⟩ | ⟨-, err, herr⟩
    · rw [hok]
      exact ⟨fun k' hk' => Function.update_of_ne hk' _ _, setEv_nextWindowId _ _ _ _⟩
    · rw [herr]
      exact ⟨fun _ _ => rfl, fun _ => rfl⟩
  obtain ⟨htable, hknown, hsenders⟩ := recordTrimmed_state send myId a k plane path seq
  have hheard : ∀ tid sid, Heard W (before ++ [.trimmed k plane path seq]) tid sid →
      Heard W before tid sid := by
    rintro tid sid ⟨k', e, seq', hmem, hrest⟩
    rcases List.mem_append.mp hmem with hbefore | hnew
    · exact ⟨k', e, seq', hbefore, hrest⟩
    · cases List.mem_singleton.mp hnew
  refine ⟨fun k' e => ?_, fun k' => ?_, (h.keyed.setTable hother.1).congr htable hknown,
    fun tid sid addr haddr => ?_, fun tid sid hh => ?_⟩
  · rw [htable]
    exact hcounts k' e
  · rw [htable, hother.2 k']
    exact h.ids k'
  · rw [hsenders] at haddr
    obtain ⟨hsrc, k', e, seq', hmem, hrest⟩ := h.cached tid sid addr haddr
    exact ⟨hsrc, k', e, seq', List.mem_append_left _ hmem, hrest⟩
  · rw [hsenders]
    exact h.heard tid sid (hheard tid sid hh)

/-! ## A round -/

/-- What is busy is what had an arrival, as long as the table took all of them. -/
theorem pending_iff {events : List Event} {k : FlowId} {e : W.EV}
    (h : ∀ seq, .data k (e.1 : Nat) (e.2 : Nat) seq ∈ events → 0 ≤ seq ∧ seq ≤ 0xFFFFFFFF) :
    (fulls k e (events.filterMap toOp) ≠ [] ∨
      LossWindowTable.trims k e (events.filterMap toOp) ≠ 0) ↔
      0 < fullCount k e events + trimCount k e events := by
  rw [← length_fulls h, trims_eq, ← List.length_pos_iff]
  omega

/-- The report of a window that counts these arrivals carries them. -/
theorem carries_report (hp : W.numPlanes ≤ 256) (hq : W.numPaths ≤ 256)
    (hlen : W.cells.length ≤ 0xFFFF) {before : List Event} (hok : RoundOk W before) {k : FlowId}
    {evs : W.EV → EvCounters} (windowId : UInt16)
    (hc : ∀ e, Counts (evs e) (fulls k e ((sinceRound before).filterMap toOp))
      (LossWindowTable.trims k e ((sinceRound before).filterMap toOp))) :
    Carries W (reportBytes windowId ((W.cells.filter fun e => (evs e).active).map fun e =>
      LossWindowTable.recordOf e (evs e))) k (sinceRound before) := by
  have hshort : ((W.cells.filter fun e => (evs e).active).map fun e =>
      LossWindowTable.recordOf e (evs e)).length ≤ 0xFFFF := by
    rw [List.length_map]
    exact (List.length_filter_le _ W.cells).trans hlen
  refine ⟨_, decode_reportBytes windowId hshort, ?_⟩
  rw [List.map_map, List.map_map]
  have hfilter : (W.cells.filter fun e => (evs e).active) =
      W.cells.filter fun e => 0 < fullCount k e (sinceRound before) + trimCount k e (sinceRound before) := by
    refine List.filter_congr fun e _ => ?_
    rw [Bool.eq_iff_iff, (hc e).active, decide_eq_true_eq, pending_iff (hok.seqs k e)]
  rw [hfilter]
  refine List.map_congr_left fun e _ => ?_
  have hfull := hok.fulls k e
  have htrim := hok.trims k e
  rw [← length_fulls (hok.seqs k e)] at hfull
  rw [← trims_eq] at htrim
  obtain ⟨hplane, hpath, hseen, -, -, htrimmed⟩ := reports_recordOf hp hq e (hc e)
    (fulls_nonneg _ _ _) (fulls_le k e _) hfull (by omega)
  refine Prod.ext (Prod.ext hplane hpath) (Prod.ext ?_ ?_)
  · exact hseen.trans (length_fulls (hok.seqs k e))
  · show (UInt32.ofNat (min (LossWindowTable.recordOf e (evs e)).trimmed.toNat 0xFFFF)).toNat =
      trimCount k e (sinceRound before)
    rw [htrimmed, ← trims_eq, UInt32.toNat_ofNat_of_lt' (by show min _ _ < 4294967296; omega)]
    omega

/-- A round reports what is counted, and starts again. -/
theorem tracking_round (hp : W.numPlanes ≤ 256) (hq : W.numPaths ≤ 256)
    (hlen : W.cells.length ≤ 0xFFFF)
    (hsend : ∀ handed plane path dst payload,
      send handed (.lossReport plane path dst payload) ≠ some .other)
    {before : List Event} {a : ReceiverMrcAgent W} (h : Tracking before a) (hok : RoundOk W before) :
    Tracking (before ++ [.round]) (a.emitOneRound send).state ∧
    ∃ ks msgs, (a.emitOneRound send).state.handed = a.handed ++ msgs ∧ ks.Nodup ∧
      (∀ k, k ∈ ks ↔ Arrived W k (sinceRound before)) ∧
      List.Forall₂ (Reported W before) ks msgs := by
  let F : FlowId → W.EV → List Int := fun k e => fulls k e ((sinceRound before).filterMap toOp)
  let R : FlowId → W.EV → Nat := fun k e =>
    LossWindowTable.trims k e ((sinceRound before).filterMap toOp)
  have hbusy : ∀ k, busy F R k ↔ Arrived W k (sinceRound before) := by
    intro k
    rw [busy_iff]
    exact exists_congr fun e => pending_iff (hok.seqs k e)
  obtain ⟨a', msgs, hloop, hsenders, hkeyed, hids, hsame, hreset, hhanded, hreports⟩ :=
    emit_loop (F := F) (R := R) hp hq hlen hsend (fun _ _ => fulls_nonneg _ _ _) a.knownFlows
      h.keyed.1 a h.keyed h.ids (fun k _ e => h.counts k e)
      (fun k _ hk => h.heard _ _ (hok.heard k ((hbusy k).mp hk)))
  have hstate : (a.emitOneRound send).state = a' := by
    unfold emitOneRound
    rw [hloop]
    rfl
  rw [hstate]
  -- a flow that is not in the table has had no arrival
  have hempty : ∀ k, (a'.lossTable.window k).evs = fun _ => {} := by
    intro k
    by_cases hk : k ∈ a.knownFlows
    · exact hreset k hk
    · have hnone : a.lossTable k = none :=
        Option.not_isSome_iff_eq_none.mp fun hsome => hk (h.keyed.2 k hsome)
      show ((a'.lossTable k).getD {}).evs = _
      rw [hsame k hk, hnone]
      rfl
  refine ⟨⟨fun k e => ?_, hids, hkeyed, fun tid sid addr haddr => ?_, fun tid sid hheard => ?_⟩,
    a.knownFlows.filter (busy F R), msgs, hhanded, h.keyed.1.filter _, fun k => ?_, ?_⟩
  · rw [sinceRound_round, hempty k]
    exact counts_empty
  · rw [hsenders] at haddr
    obtain ⟨hsrc, k', e, seq', hmem, hrest⟩ := h.cached tid sid addr haddr
    exact ⟨hsrc, k', e, seq', List.mem_append_left _ hmem, hrest⟩
  · rw [hsenders]
    obtain ⟨k', e, seq', hmem, hrest⟩ := hheard
    rcases List.mem_append.mp hmem with hbefore | hnew
    · exact h.heard tid sid ⟨k', e, seq', hbefore, hrest⟩
    · cases List.mem_singleton.mp hnew
  · rw [List.mem_filter, hbusy k]
    refine and_iff_right_of_imp fun harrived => ?_
    by_contra hk
    have hnone : a.lossTable k = none :=
      Option.not_isSome_iff_eq_none.mp fun hsome => hk (h.keyed.2 k hsome)
    obtain ⟨e, he⟩ := busy_iff.mp ((hbusy k).mpr harrived)
    have hactive : ((a.lossTable.window k).evs e).active = true := (h.counts k e).active.mpr he
    rw [Flows.window, hnone] at hactive
    exact Bool.false_ne_true hactive
  · refine List.Forall₂.imp (fun k msg hreport => ?_) hreports
    obtain ⟨addr, windowId, evs, haddr, hc, rfl⟩ := hreport
    obtain ⟨hsrc, k', e, seq', hmem, htid, hsid, hplane, hpath⟩ := h.cached _ _ addr haddr
    rw [hplane, hpath, hsrc]
    exact ⟨e, _, rfl, carries_report hp hq hlen hok windowId hc, _, hmem, htid, hsid, rfl, rfl⟩

/-! ## Runs -/

theorem after_concat (events : List Event) (event : Event) :
    after W send myId (events ++ [event]) = step send myId (after W send myId events) event := by
  rw [after, List.foldl_append]
  rfl

/-- In every run the counters are those of what came since the last round. -/
theorem tracking_after (hp : W.numPlanes ≤ 256) (hq : W.numPaths ≤ 256)
    (hlen : W.cells.length ≤ 0xFFFF)
    (hsend : ∀ handed plane path dst payload,
      send handed (.lossReport plane path dst payload) ≠ some .other) (events : List Event)
    (hok : ∀ before rest, events = before ++ .round :: rest → RoundOk W before) :
    Tracking events (after W send myId events) := by
  induction events using List.reverseRecOn with
  | nil => exact tracking_nil
  | append_singleton events event ih =>
    have hbefore : Tracking events (after W send myId events) := by
      refine ih fun before rest heq => hok before (rest ++ [event]) ?_
      rw [heq, List.append_assoc]
      rfl
    rw [after_concat]
    cases event with
    | data k plane path seq => exact tracking_data hbefore k plane path seq
    | trimmed k plane path seq => exact tracking_trimmed hbefore k plane path seq
    | round => exact (tracking_round hp hq hlen hsend hbefore (hok events [] rfl)).1

/-- On a grid that fits the reports, with a transport that raises no more than `OSError`: as long as
    every round meets its condition, every round reports exactly what came in since the one before. -/
theorem rounds_reported (W : LossWindowTable) (hp : W.numPlanes ≤ 256) (hq : W.numPaths ≤ 256)
    (hlen : W.cells.length ≤ 0xFFFF) (send : Transport)
    (hsend : ∀ handed plane path dst payload,
      send handed (.lossReport plane path dst payload) ≠ some .other)
    (myId : Int) (events : List Event)
    (hok : ∀ before rest, events = before ++ .round :: rest → RoundOk W before) :
    ∀ before rest, events = before ++ .round :: rest → RoundSound W send myId before := by
  intro before rest heq
  have htracking : Tracking before (after W send myId before) := by
    refine tracking_after hp hq hlen hsend before fun before' rest' heq' =>
      hok before' (rest' ++ .round :: rest) ?_
    rw [heq, heq', List.append_assoc]
    rfl
  obtain ⟨ks, msgs, hhanded, hsound⟩ :=
    (tracking_round hp hq hlen hsend htracking (hok before rest heq)).2
  refine ⟨ks, msgs, ?_, hsound⟩
  rw [after_concat]
  exact hhanded

/-- A full and a trimmed arrival of one flow, and a round. -/
theorem rounds_reported_once :
    let W : LossWindowTable := ⟨4, 8, by decide, by decide⟩
    RoundSound W (fun _ _ => none) 5 [.data ⟨1, 2, 5⟩ 1 2 41, .trimmed ⟨1, 2, 5⟩ 3 0 42] := by
  intro W
  refine rounds_reported W (by decide) (by decide) (by decide) (fun _ _ => none)
    (fun _ _ _ _ _ => by decide) 5
    [.data ⟨1, 2, 5⟩ 1 2 41, .trimmed ⟨1, 2, 5⟩ 3 0 42, .round] ?_ _ [] rfl
  intro before rest heq
  have hbefore : before = [.data ⟨1, 2, 5⟩ 1 2 41, .trimmed ⟨1, 2, 5⟩ 3 0 42] := by
    rcases before with _ | ⟨e₁, _ | ⟨e₂, _ | ⟨e₃, before⟩⟩⟩ <;> simp_all
  have hsince : sinceRound before = [.data ⟨1, 2, 5⟩ 1 2 41, .trimmed ⟨1, 2, 5⟩ 3 0 42] := by
    rw [hbefore]
    decide
  refine ⟨fun k harrived => ?_, fun k e seq hmem => ?_, fun k e => ?_, fun k e => ?_⟩
  · have hk : k.tenantId = 1 ∧ k.srcId = 2 := by
      obtain ⟨e, he⟩ := harrived
      by_contra hother
      have hne : ¬ (⟨1, 2, 5⟩ : FlowId) = k := by
        rintro rfl
        exact hother ⟨rfl, rfl⟩
      rw [hsince] at he
      simp [fullCount, trimCount, isFull, isTrimmed, hne] at he
    refine ⟨⟨1, 2, 5⟩, (⟨1, by decide⟩, ⟨2, by decide⟩), 41, ?_, hk.1.symm, hk.2.symm, by decide, by decide⟩
    rw [hbefore]
    exact List.mem_cons_self
  · rw [hsince] at hmem
    simp at hmem
    omega
  · rw [hsince]
    exact (List.countP_le_length).trans_lt (by decide)
  · rw [hsince]
    exact (List.countP_le_length).trans_lt (by decide)

/-- Only trimmed arrivals: the round resets the window and hands over nothing. -/
theorem not_sound_trims_only :
    ¬ RoundSound ⟨4, 8, by decide, by decide⟩ (fun _ _ => none) 5 [.trimmed ⟨1, 2, 5⟩ 1 2 41] := by
  rintro ⟨ks, msgs, hhanded, -, hks, hmsgs⟩
  have hmem : ⟨1, 2, 5⟩ ∈ ks :=
    (hks ⟨1, 2, 5⟩).mpr ⟨(⟨1, by decide⟩, ⟨2, by decide⟩), by decide⟩
  have hnone : (after ⟨4, 8, by decide, by decide⟩ (fun _ _ => none) 5
      ([.trimmed ⟨1, 2, 5⟩ 1 2 41] ++ [.round])).handed =
        (after ⟨4, 8, by decide, by decide⟩ (fun _ _ => none) 5 [.trimmed ⟨1, 2, 5⟩ 1 2 41]).handed := by
    decide
  rw [hnone] at hhanded
  have hnil : msgs = [] := List.append_right_eq_self.mp hhanded.symm
  rw [hnil, List.forall₂_nil_right_iff] at hmsgs
  rw [hmsgs] at hmem
  exact absurd hmem List.not_mem_nil

end Srv6Mrc.ReceiverMrcAgent
