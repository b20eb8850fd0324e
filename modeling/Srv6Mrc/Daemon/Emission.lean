/-
  `srv6_mrc/mrc/agent.py` and `daemon.py`: the probes of a host, from its emit threads through any
  network to its one listener.

  Every flow has a thread that goes round the grid, sends a probe on each EV, and counts it in the
  EV's bucket if the send did not raise.  The network loses, delays, reorders and duplicates, and
  brings datagrams of others; what arrives is dispatched, in between the ticks and the loss reports of
  all the flows.  Between the send and the count there is a gap in which the probe can already come
  back.

  In every interleaving the books balance (`probes_balance`): an EV's probes are those under way, those
  lost and those counted as received, each in the flow and on the EV that it was sent for; and the
  rounds give every EV its turn.
-/
import Srv6Mrc.Transport.Return

namespace Srv6Mrc

open Wire

/-! ## What a call does to the totals -/

namespace EVStateTable

variable {T : EVStateTable}

/-- The judgement of a tick leaves the totals. -/
theorem judge_totals (room : Bool) (now : Nat) (r : EVRecord) :
    (T.judge room now r).totalSent = r.totalSent ∧ (T.judge room now r).totalRecv = r.totalRecv := by
  have hj := judged (T := T) room now r
  generalize T.judge room now r = r' at hj ⊢
  cases hj <;> exact ⟨rfl, rfl⟩

theorem lossJudge_totals (room : Bool) (now : Nat) (ratio : ℚ) (r : EVRecord) :
    (T.lossJudge room now ratio r).totalSent = r.totalSent ∧
      (T.lossJudge room now ratio r).totalRecv = r.totalRecv := by
  have hj := lossJudged (T := T) room now ratio r
  generalize T.lossJudge room now ratio r = r' at hj ⊢
  cases hj <;> exact ⟨rfl, rfl⟩

/-- The totals count the probe records that reach the EV, and nothing else. -/
theorem step_totals (cb : Option (TransitionCb T)) (s : Store T) (c : Call) (tenant : String)
    (e : T.EV) :
    ((T.step cb s c).state.evs tenant e).totalSent
        = (s.evs tenant e).totalSent + (if T.signal tenant e c = .sent then 1 else 0) ∧
      ((T.step cb s c).state.evs tenant e).totalRecv
        = (s.evs tenant e).totalRecv + (if T.signal tenant e c = .recv then 1 else 0) := by
  rw [step_evs]
  cases T.signal tenant e c with
  | sent => exact ⟨rfl, rfl⟩
  | recv => exact ⟨rfl, rfl⟩
  | close =>
    show (if _ then _ else s.evs tenant e).totalSent = (s.evs tenant e).totalSent ∧
      (if _ then _ else s.evs tenant e).totalRecv = (s.evs tenant e).totalRecv
    split
    · exact judge_totals _ _ _
    · exact ⟨rfl, rfl⟩
  | loss ratio => exact lossJudge_totals _ _ _ _
  | quiet => exact ⟨rfl, rfl⟩

/-- Neither total changes in a run without probe records. -/
theorem runFrom_totals (cb : Option (TransitionCb T)) (s : Store T) {calls : List Call}
    (h : ∀ c ∈ calls, ∃ t plane path seen expected, c = .lossWindow t plane path seen expected)
    (tenant : String) (e : T.EV) :
    ((T.runFrom cb s calls).evs tenant e).totalSent = (s.evs tenant e).totalSent ∧
      ((T.runFrom cb s calls).evs tenant e).totalRecv = (s.evs tenant e).totalRecv := by
  induction calls generalizing s with
  | nil => exact ⟨rfl, rfl⟩
  | cons c calls ih =>
    obtain ⟨t, plane, path, seen, expected, rfl⟩ := h c List.mem_cons_self
    have hstep := step_totals cb s (.lossWindow t plane path seen expected) tenant e
    have hrest := ih (T.step cb s (.lossWindow t plane path seen expected)).state
      fun c' hc' => h c' (List.mem_cons_of_mem _ hc')
    have hsignal : T.signal tenant e (.lossWindow t plane path seen expected) ≠ .sent ∧
        T.signal tenant e (.lossWindow t plane path seen expected) ≠ .recv := by
      simp only [signal]
      split <;> simp
    rw [if_neg hsignal.1, if_neg hsignal.2, Nat.add_zero, Nat.add_zero] at hstep
    exact ⟨hrest.1.trans hstep.1, hrest.2.trans hstep.2⟩

/-- A loss report makes no calls but loss windows. -/
theorem fusionCalls_lossWindow (cb : Option (TransitionCb T)) (tenant : String)
    (paired : Option SentWindow) (report : LossReport) (s : Store T) :
    ∀ c ∈ T.fusionCalls cb tenant paired report s,
      ∃ t plane path seen expected, c = .lossWindow t plane path seen expected := by
  intro c hc
  rcases List.mem_append.mp hc with hc | hc
  · unfold reportedCalls at hc
    cases paired with
    | none => exact absurd hc List.not_mem_nil
    | some w =>
      obtain ⟨rec, -, hcall⟩ := List.mem_filterMap.mp hc
      unfold reportedCall at hcall
      split_ifs at hcall
      exact ⟨_, _, _, _, _, (Option.some.inj hcall).symm⟩
  · unfold lostCalls at hc
    cases paired with
    | none => exact absurd hc List.not_mem_nil
    | some w =>
      dsimp only at hc
      split_ifs at hc with hcovered
      · generalize T.runFrom cb s (T.reportedCalls tenant (some w) report.planes) = s' at hc
        generalize T.cells = es at hc
        induction es generalizing s' with
        | nil => exact absurd hc List.not_mem_nil
        | cons e es ih =>
          rw [absentCalls] at hc
          split_ifs at hc with hlost
          · rcases List.mem_cons.mp hc with rfl | hc
            · exact ⟨_, _, _, _, _, rfl⟩
            · exact ih _ hc
          · exact ih _ hc
      · exact absurd hc List.not_mem_nil

end EVStateTable

namespace MrcDaemon

/-! ## The emit threads -/

/-- What became of `send_probe`. -/
inductive SendProbe where
  | returned
  | osError
  /-- Any other exception. -/
  | raised
  deriving DecidableEq, Repr

/-- The emit thread of a flow. -/
structure EmitThread (d : MrcDaemon) (flow : DaemonFlow) where
  /-- The EVs that this round has still to come to. -/
  todo : List (d.table flow).EV := (d.table flow).cells
  /-- The EV with a probe that is sent and not yet counted. -/
  pending : Option (d.table flow).EV := none
  /-- An exception that the loop does not catch has ended it. -/
  ended : Bool := false
  rounds : Nat := 0
  /-- The probes of each EV that were not sent. -/
  failed : (d.table flow).EV → Nat := fun _ => 0

/-- The daemon, its emit threads, and its datagrams in the network. -/
structure Probing (d : MrcDaemon) where
  daemon : d.State
  threads : (flow : DaemonFlow) → EmitThread d flow := fun _ => {}
  flight : List (List UInt8) := []
  lost : List (List UInt8) := []
  /-- What the network has put in itself: copies, and datagrams of others. -/
  foreign : List (List UInt8) := []

/-- A step of a thread or of the network. -/
inductive ProbeStep (d : MrcDaemon) where
  /-- The emit thread of a flow comes to its next EV, or to the end of its round. -/
  | emit (flow : DaemonFlow) (o : SendProbe)
  /-- It counts the probe that it has sent. -/
  | count (flow : DaemonFlow)
  /-- The datagram in this place is lost. -/
  | lose (i : Nat)
  | inject (payload : List UInt8)
  /-- The datagram in this place arrives, and is dispatched. -/
  | arrive (i : Nat) (receivedAtNs : Int) (peer : Option String)
  /-- The window thread of a flow: `table.tick` -/
  | tick (flow : DaemonFlow)
  /-- The window thread of a flow: whatever `_rotate_window` makes of the ring. -/
  | rotate (flow : DaemonFlow) (ring : SentWindowRing d.topo.numPlanes d.topo.numSpines)

namespace Probing

variable {d : MrcDaemon} (srcId : Int) (tenantId : String → Int)

/-- Write a thread. -/
def setThread (x : Probing d) (flow : DaemonFlow) (t : EmitThread d flow) : Probing d :=
  { x with threads := Function.update x.threads flow t }

/-- Write a table. -/
def setTable (x : Probing d) (flow : DaemonFlow) (s : (d.table flow).Store) : Probing d :=
  { x with daemon := x.daemon.setAgent flow { x.daemon.agents flow with fused.table := s } }

/-- The payload of the probe on an EV. -/
def payloadOf (flow : DaemonFlow) (e : (d.table flow).EV) : Except WireError (List UInt8) :=
  encodeProbe (e.1 : Nat) (e.2 : Nat) (tenantId flow.tenant) srcId flow.dstId

/-- The body of the loops of `_emit_loop`, up to `record_probe_sent`; only a flow has a thread. -/
def emit (flow : DaemonFlow) (o : SendProbe) (x : Probing d) : Probing d :=
  let t := x.threads flow
  if flow ∉ d.flows ∨ t.ended ∨ t.pending ≠ none then x
  else
    match t.todo with
    | [] => x.setThread flow { t with todo := (d.table flow).cells, rounds := t.rounds + 1 }
    | e :: rest =>
      let skipped := { t with todo := rest, failed := Function.update t.failed e (t.failed e + 1) }
      match payloadOf srcId tenantId flow e with
      | .error _ => x.setThread flow skipped
      | .ok payload =>
        match o with
        | .returned =>
          { x with flight := x.flight ++ [payload] }.setThread flow
            { t with todo := rest, pending := some e }
        | .osError => x.setThread flow skipped
        | .raised => x.setThread flow { t with ended := true }

/-- `self.table.record_probe_sent(self.tenant, plane, path)` -/
def count (flow : DaemonFlow) (x : Probing d) : Probing d :=
  let t := x.threads flow
  match t.pending with
  | none => x
  | some e =>
    let o := (d.table flow).recordProbeSent flow.tenant (e.1 : Nat) (e.2 : Nat)
      (x.daemon.agents flow).fused.table
    (x.setTable flow o.state).setThread flow { t with pending := none }

/-- One step. -/
def step (x : Probing d) : ProbeStep d → Probing d
  | .emit flow o => x.emit srcId tenantId flow o
  | .count flow => x.count flow
  | .lose i =>
    match x.flight[i]? with
    | none => x
    | some payload => { x with flight := x.flight.eraseIdx i, lost := x.lost ++ [payload] }
  | .inject payload =>
    { x with flight := x.flight ++ [payload], foreign := x.foreign ++ [payload] }
  | .arrive i receivedAtNs peer =>
    match x.flight[i]? with
    | none => x
    | some payload =>
      { x with
        flight := x.flight.eraseIdx i
        daemon := (d.receive receivedAtNs payload peer x.daemon).state }
  | .tick flow =>
    x.setTable flow ((d.table flow).tick none flow.tenant (x.daemon.agents flow).fused.table).state
  | .rotate flow ring =>
    { x with daemon := x.daemon.setAgent flow { x.daemon.agents flow with sentRing := ring } }

variable (d) in
/-- What `MrcDaemon.__init__` makes: nothing counted yet. -/
def start (rings : DaemonFlow → SentWindowRing d.topo.numPlanes d.topo.numSpines) : d.State where
  agents flow := ⟨⟨(d.table flow).fresh, {}⟩, rings flow⟩
  counters _ := 0

/-- A run from there. -/
def run (rings : DaemonFlow → SentWindowRing d.topo.numPlanes d.topo.numSpines)
    (steps : List (ProbeStep d)) : Probing d :=
  steps.foldl (step srcId tenantId) { daemon := start d rings }

/-! ## Whose probe it is -/

/-- The datagram is a probe of this flow on this EV. -/
def Names (flow : DaemonFlow) (e : (d.table flow).EV) (payload : List UInt8) : Bool :=
  match decodeProbe payload with
  | .error _ => false
  | .ok p => decide (flow.dstId = p.dstId.toNat ∧ (e.1 : Nat) = p.planeId.toNat ∧
      (e.2 : Nat) = p.pathId.toNat)

variable (x : Probing d) (flow : DaemonFlow) (e : (d.table flow).EV)

/-- `total_sent` of an EV -/
def sent : Nat := ((x.daemon.agents flow).fused.table.evs flow.tenant e).totalSent

/-- `total_recv` of an EV -/
def recv : Nat := ((x.daemon.agents flow).fused.table.evs flow.tenant e).totalRecv

/-- Its probe that is sent and not yet counted. -/
def waiting : Nat := if (x.threads flow).pending = some e then 1 else 0

/-- Its probes among some datagrams. -/
def among (payloads : List (List UInt8)) : Nat := payloads.countP (Names flow e)

end Probing

/-- The flows of the daemon go to different hosts. -/
def Distinct (d : MrcDaemon) : Prop :=
  ∀ flow ∈ d.flows, ∀ flow' ∈ d.flows, flow'.dstId = flow.dstId → flow' = flow

namespace Probing

variable {d : MrcDaemon} {srcId : Int} {tenantId : String → Int}

/-- A probe names the flow and the EV that it was made for, and no other. -/
theorem names_payloadOf (hd : d.Distinct) {flow flow' : DaemonFlow} (hmem : flow ∈ d.flows)
    (hmem' : flow' ∈ d.flows) {e : (d.table flow).EV} {payload : List UInt8}
    (h : payloadOf srcId tenantId flow e = .ok payload) (e' : (d.table flow').EV) :
    Names flow' e' payload = true ↔ flow' = flow ∧ (e'.1 : Nat) = e.1 ∧ (e'.2 : Nat) = e.2 := by
  obtain ⟨probe, rfl, hplane, hpath, -, -, hdst⟩ := encodeProbe_ok.mp h
  unfold Names
  rw [decode_probeBytes, decide_eq_true_eq]
  constructor
  · rintro ⟨hdst', hplane', hpath'⟩
    exact ⟨hd flow hmem flow' hmem' (hdst'.trans hdst.symm), by omega, by omega⟩
  · rintro ⟨rfl, hplane', hpath'⟩
    exact ⟨hdst, by omega, by omega⟩

theorem among_append (flow : DaemonFlow) (e : (d.table flow).EV) (l l' : List (List UInt8)) :
    among flow e (l ++ l') = among flow e l + among flow e l' := List.countP_append

/-- One payload is a probe of the EV, or not. -/
theorem among_singleton (flow : DaemonFlow) (e : (d.table flow).EV) (payload : List UInt8) :
    among flow e [payload] = if Names flow e payload then 1 else 0 := List.countP_singleton

theorem among_eraseIdx (flow : DaemonFlow) (e : (d.table flow).EV) {l : List (List UInt8)} {i : Nat}
    {payload : List UInt8} (h : l[i]? = some payload) :
    among flow e l = among flow e (l.eraseIdx i) + if Names flow e payload then 1 else 0 := by
  obtain ⟨hi, rfl⟩ := List.getElem?_eq_some_iff.mp h
  unfold among
  rw [← (List.getElem_cons_eraseIdx_perm hi).countP_eq (Names flow e), List.countP_cons]

/-- A probe that names a flow is looked up there. -/
theorem names_demux (hd : d.Distinct) {flow : DaemonFlow} (hmem : flow ∈ d.flows)
    (e : (d.table flow).EV) {payload : List UInt8} {p : Probe} (hp : decodeProbe payload = .ok p) :
    Names flow e payload = true ↔ d.demux p.dstId.toNat = some flow ∧
      (e.1 : Nat) = p.planeId.toNat ∧ (e.2 : Nat) = p.pathId.toNat := by
  unfold Names
  rw [hp, decide_eq_true_eq]
  constructor
  · rintro ⟨hdst, hev⟩
    have hflow := demux_eq hmem (hd flow hmem)
    rw [hdst] at hflow
    exact ⟨hflow, hev⟩
  · rintro ⟨hflow, hev⟩
    exact ⟨(demux_dstId hflow).2, hev⟩

/-- What happens to an EV's totals in an agent: `n` probes more are received, and none is sent. -/
def Receives {flow : DaemonFlow} (e : (d.table flow).EV) (n : Nat)
    (a a' : SenderAgent (d.table flow)) : Prop :=
  (a'.fused.table.evs flow.tenant e).totalSent = (a.fused.table.evs flow.tenant e).totalSent ∧
    (a'.fused.table.evs flow.tenant e).totalRecv
      = (a.fused.table.evs flow.tenant e).totalRecv + n

/-- Where nothing changes, nothing is received. -/
theorem receives_self {flow : DaemonFlow} (e : (d.table flow).EV) (a : SenderAgent (d.table flow)) :
    Receives e 0 a a := ⟨rfl, rfl⟩

/-- `record_probe_recv` by an agent: one more for the EV that is named. -/
theorem recordProbeRecv_totals (flow : DaemonFlow) (plane path : Nat)
    (a : SenderAgent (d.table flow)) (e : (d.table flow).EV) :
    Receives e (if (e.1 : Nat) = plane ∧ (e.2 : Nat) = path then 1 else 0) a
      (d.recordProbeRecv flow plane path a) := by
  have hmem : flow.tenant ∈ (d.table flow).tenants := List.mem_singleton_self _
  have htotals := EVStateTable.step_totals none a.fused.table (.probeRecv flow.tenant plane path)
    flow.tenant e
  have hsent : (d.table flow).signal flow.tenant e (.probeRecv flow.tenant plane path) ≠ .sent := by
    simp only [EVStateTable.signal]
    split <;> simp
  have hrecv : (d.table flow).signal flow.tenant e (.probeRecv flow.tenant plane path) = .recv ↔
      (e.1 : Nat) = plane ∧ (e.2 : Nat) = path := by
    simp only [EVStateTable.signal, EVStateTable.Names, hmem, true_and, Nat.cast_inj]
    rw [@eq_comm _ (e.1 : Nat), @eq_comm _ (e.2 : Nat)]
    split <;> simp [*]
  rw [if_neg hsent, Nat.add_zero] at htotals
  simp only [hrecv] at htotals
  exact htotals

/-- A loss report counts no probe. -/
theorem handleLossReport_totals (flow : DaemonFlow) (receivedAtNs : Int) (payload : List UInt8)
    (a : SenderAgent (d.table flow)) (e : (d.table flow).EV) :
    Receives e 0 a (d.handleLossReport flow receivedAtNs payload a).state := by
  cases h : decodeLossReport payload with
  | error err =>
    rw [(handleLossReport_returns flow receivedAtNs payload a).2 err h]
    exact receives_self e a
  | ok report =>
    have hmem : flow.tenant ∈ (d.table flow).tenants := List.mem_singleton_self _
    have hret := EVStateTable.applyLossReport_eq EVStateTable.returns_none hmem report a.sentRing
      receivedAtNs (d.maxWindowSkewMs * 1000000) a.fused
    have htable : (d.handleLossReport flow receivedAtNs payload a).state.fused.table
        = (d.table flow).runFrom none a.fused.table
          ((d.table flow).fusionCalls none flow.tenant
            (a.sentRing.findClosest receivedAtNs (d.maxWindowSkewMs * 1000000)) report
            a.fused.table) := by
      unfold handleLossReport
      rw [h]
      dsimp only
      rw [hret]
      rfl
    unfold Receives
    rw [htable]
    exact EVStateTable.runFrom_totals none _ (EVStateTable.fusionCalls_lossWindow none _ _ _ _) _ _

/-- A probe is counted where it belongs, or nowhere. -/
theorem dispatchProbe_totals (hd : d.Distinct) (payload : List UInt8) (peer : Option String)
    (st : d.State) {flow : DaemonFlow} (hmem : flow ∈ d.flows) (e : (d.table flow).EV) :
    Receives e (if Names flow e payload then 1 else 0) (st.agents flow)
      ((d.dispatchProbe payload peer st).state.agents flow) := by
  -- where the agent is as it was, and the datagram is not its probe, there is nothing to show
  have hkept : (d.dispatchProbe payload peer st).state.agents flow = st.agents flow →
      Names flow e payload = false → Receives e (if Names flow e payload then 1 else 0)
        (st.agents flow) ((d.dispatchProbe payload peer st).state.agents flow) := by
    intro hsame hnot
    rw [hsame, hnot]
    exact receives_self e _
  cases hp : decodeProbe payload with
  | error err =>
    refine hkept ?_ ?_
    · rw [dispatchProbe, hp]
      dsimp only
      rw [if_pos ((decode_error _ err).1 hp)]
      rfl
    · rw [Names, hp]
  | ok p =>
    have hnames := names_demux hd hmem e hp
    cases hflow : d.demux p.dstId.toNat with
    | none =>
      refine hkept ?_ (Bool.eq_false_iff.mpr fun h => ?_)
      · rw [dispatchProbe, hp]
        dsimp only
        rw [hflow]
        rfl
      · rw [hflow] at hnames
        cases (hnames.mp h).1
    | some flow' =>
      have hagents : (d.dispatchProbe payload peer st).state.agents
          = Function.update st.agents flow' (d.recordProbeRecv flow' p.planeId.toNat
            p.pathId.toNat (st.agents flow')) := by
        rw [dispatchProbe, hp]
        dsimp only
        rw [hflow]
        dsimp only
        split <;> rfl
      by_cases hsame : flow' = flow
      · subst hsame
        have htotals := recordProbeRecv_totals flow' p.planeId.toNat p.pathId.toNat
          (st.agents flow') e
        rw [hagents, Function.update_self]
        simp only [hnames, hflow, true_and]
        exact htotals
      · refine hkept ?_ (Bool.eq_false_iff.mpr fun h => ?_)
        · rw [hagents, Function.update_of_ne fun h => hsame h.symm]
        · rw [hflow] at hnames
          exact hsame (Option.some.inj (hnames.mp h).1)

theorem dispatchLossReport_totals (receivedAtNs : Int) (payload : List UInt8) (peer : Option String)
    (st : d.State) {flow : DaemonFlow} (e : (d.table flow).EV) :
    Receives e 0 (st.agents flow)
      ((d.dispatchLossReport receivedAtNs payload peer st).agents flow) := by
  obtain ⟨-, hagents⟩ := dispatchLossReport_spec receivedAtNs payload peer st
  rcases hagents with hsame | ⟨flow', -, hother, hown⟩
  · rw [hsame]
    exact receives_self e _
  · by_cases hsame : flow' = flow
    · subst hsame
      rw [hown]
      exact handleLossReport_totals flow' receivedAtNs payload (st.agents flow') e
    · rw [hother flow fun h => hsame h.symm]
      exact receives_self e _

/-- What arrives is counted where it belongs, or nowhere; and no send is. -/
theorem receive_totals (hd : d.Distinct) (receivedAtNs : Int) (payload : List UInt8)
    (peer : Option String) (st : d.State) {flow : DaemonFlow} (hmem : flow ∈ d.flows)
    (e : (d.table flow).EV) :
    Receives e (if Names flow e payload then 1 else 0) (st.agents flow)
      ((d.receive receivedAtNs payload peer st).state.agents flow) := by
  cases payload with
  | nil => exact receives_self e _
  | cons magic rest =>
    by_cases hprobe : magic = magicProbe
    · have hst : (d.receive receivedAtNs (magic :: rest) peer st).state
          = (d.dispatchProbe (magic :: rest) peer (st.count .packetsReceived)).state :=
        congrArg Outcome.state (if_pos hprobe)
      rw [hst]
      exact dispatchProbe_totals hd _ peer (st.count .packetsReceived) hmem e
    · have hnot : Names flow e (magic :: rest) = false := by
        unfold Names
        cases hp : decodeProbe (magic :: rest) with
        | error err => rfl
        | ok p =>
          exact absurd (Option.some.inj ((decodeProbe_accepts _).mp ⟨p, hp⟩).1) hprobe
      rw [hnot]
      by_cases hloss : magic = magicLossReport
      · have hst : (d.receive receivedAtNs (magic :: rest) peer st).state
            = d.dispatchLossReport receivedAtNs (magic :: rest) peer
              (st.count .packetsReceived) :=
          congrArg Outcome.state ((if_neg hprobe).trans (if_pos hloss))
        rw [hst]
        exact dispatchLossReport_totals receivedAtNs _ peer (st.count .packetsReceived) e
      · have hst : (d.receive receivedAtNs (magic :: rest) peer st).state
            = (st.count .packetsReceived).count .unknownMagic :=
          congrArg Outcome.state ((if_neg hprobe).trans (if_neg hloss))
        rw [hst]
        exact receives_self e _

/-! ## The books -/

/-- What is true of an EV of a flow at every point. -/
structure Balanced (srcId : Int) (tenantId : String → Int) (x : Probing d) (flow : DaemonFlow)
    (e : (d.table flow).EV) : Prop where
  /-- No probe is lost without a trace, and none counted twice. -/
  books : x.sent flow e + x.waiting flow e + among flow e x.foreign
    = among flow e x.flight + among flow e x.lost + x.recv flow e
  /-- One probe in each round, sent or not. -/
  turns : x.sent flow e + x.waiting flow e + (x.threads flow).failed e
    = (x.threads flow).rounds + if e ∈ (x.threads flow).todo then 0 else 1
  order : (x.threads flow).todo <:+ (d.table flow).cells
  /-- Only what can be encoded is ever sent. -/
  fits : 0 < x.sent flow e + x.waiting flow e →
    ∃ payload, payloadOf srcId tenantId flow e = .ok payload

theorem balanced_start (rings : DaemonFlow → SentWindowRing d.topo.numPlanes d.topo.numSpines)
    (flow : DaemonFlow) (e : (d.table flow).EV) :
    Balanced srcId tenantId ({ daemon := start d rings } : Probing d) flow e where
  books := rfl
  turns := by
    show 0 = 0 + if e ∈ (d.table flow).cells then 0 else 1
    rw [if_pos (EVStateTable.mem_cells e)]
  order := List.suffix_rfl
  fits := fun h => absurd h (Nat.lt_irrefl 0)

variable {x : Probing d} {flow flow₀ : DaemonFlow} {e : (d.table flow).EV}

/-- The other threads are as they were. -/
theorem threads_setThread_ne (t : EmitThread d flow₀) (h : flow ≠ flow₀) :
    (x.setThread flow₀ t).threads flow = x.threads flow := Function.update_of_ne h _ _

theorem threads_setThread_self (t : EmitThread d flow) :
    (x.setThread flow t).threads flow = t := Function.update_self ..

/-- The thread of another flow is none of its business. -/
theorem Balanced.setThread_ne (h : Balanced srcId tenantId x flow e) (t : EmitThread d flow₀)
    (hne : flow ≠ flow₀) : Balanced srcId tenantId (x.setThread flow₀ t) flow e := by
  have hthread := threads_setThread_ne (x := x) t hne
  have hwaiting : (x.setThread flow₀ t).waiting flow e = x.waiting flow e := by
    unfold waiting
    rw [hthread]
  exact ⟨by rw [hwaiting]; exact h.books, by rw [hwaiting, hthread]; exact h.turns,
    by rw [hthread]; exact h.order, by rw [hwaiting]; exact h.fits⟩

/-- In its own thread, what is between `pending` and the counters does not matter to the books. -/
theorem Balanced.setThread_self (h : Balanced srcId tenantId x flow e) {t : EmitThread d flow}
    (hpending : t.pending = (x.threads flow).pending) (horder : t.todo <:+ (d.table flow).cells)
    (hturns : t.rounds + (if e ∈ t.todo then 0 else 1) + (x.threads flow).failed e
      = (x.threads flow).rounds + (if e ∈ (x.threads flow).todo then 0 else 1) + t.failed e) :
    Balanced srcId tenantId (x.setThread flow t) flow e := by
  have hthread := threads_setThread_self (x := x) t
  have hwaiting : (x.setThread flow t).waiting flow e = x.waiting flow e := by
    unfold waiting
    rw [hthread, hpending]
  have hsent : (x.setThread flow t).sent flow e = x.sent flow e := rfl
  have hold := h.turns
  refine ⟨by rw [hwaiting]; exact h.books, ?_, by rw [hthread]; exact horder,
    by rw [hwaiting]; exact h.fits⟩
  rw [hwaiting, hthread, hsent]
  omega

/-- The first of the EVs to come is not among the others. -/
theorem not_mem_rest {e₀ : (d.table flow).EV} {rest : List (d.table flow).EV}
    (horder : e₀ :: rest <:+ (d.table flow).cells) : e₀ ∉ rest :=
  (List.nodup_cons.mp (horder.sublist.nodup EVStateTable.nodup_cells)).1

/-- An EV that was come to, and skipped. -/
theorem Balanced.skip (h : Balanced srcId tenantId x flow e) {e₀ : (d.table flow).EV}
    {rest : List (d.table flow).EV} (htodo : (x.threads flow).todo = e₀ :: rest) :
    Balanced srcId tenantId (x.setThread flow { x.threads flow with
      todo := rest
      failed := Function.update (x.threads flow).failed e₀ ((x.threads flow).failed e₀ + 1) })
      flow e := by
  have horder := h.order
  rw [htodo] at horder
  refine h.setThread_self rfl ((List.suffix_cons e₀ rest).trans horder) ?_
  dsimp only
  rw [htodo]
  by_cases he : e = e₀
  · subst he
    rw [Function.update_self, if_neg (not_mem_rest horder), if_pos List.mem_cons_self]
    omega
  · rw [Function.update_of_ne he]
    simp only [List.mem_cons, he, false_or]

/-- Its probe goes out: it is under way, and not counted yet. -/
theorem Balanced.sends (hd : d.Distinct) (hmem : flow ∈ d.flows)
    (h : Balanced srcId tenantId x flow e) {e₀ : (d.table flow).EV}
    {rest : List (d.table flow).EV} (htodo : (x.threads flow).todo = e₀ :: rest)
    (hnone : (x.threads flow).pending = none) {payload : List UInt8}
    (hpayload : payloadOf srcId tenantId flow e₀ = .ok payload) :
    Balanced srcId tenantId (Probing.setThread { x with flight := x.flight ++ [payload] } flow
      { x.threads flow with todo := rest, pending := some e₀ }) flow e := by
  have horder := h.order
  rw [htodo] at horder
  have hnames : Names flow e payload = true ↔ e = e₀ := by
    rw [names_payloadOf hd hmem hmem hpayload]
    constructor
    · rintro ⟨-, hplane, hpath⟩
      exact Prod.ext (Fin.ext hplane) (Fin.ext hpath)
    · rintro rfl
      exact ⟨rfl, rfl, rfl⟩
  have hthread : (Probing.setThread { x with flight := x.flight ++ [payload] } flow
      { x.threads flow with todo := rest, pending := some e₀ }).threads flow =
      { x.threads flow with todo := rest, pending := some e₀ } := threads_setThread_self _
  have hwas : x.waiting flow e = 0 := by
    unfold waiting
    rw [hnone]
    rfl
  have hbooks := h.books
  have hturns := h.turns
  rw [hwas] at hbooks hturns
  rw [htodo] at hturns
  have hflight : among flow e (x.flight ++ [payload])
      = among flow e x.flight + if e = e₀ then 1 else 0 := by
    rw [among_append, among_singleton]
    simp only [hnames]
  have hwaits : (Probing.setThread { x with flight := x.flight ++ [payload] } flow
      { x.threads flow with todo := rest, pending := some e₀ }).waiting flow e
        = if e = e₀ then 1 else 0 := by
    unfold waiting
    rw [hthread]
    simp only [Option.some.injEq, @eq_comm _ e₀]
  constructor
  · rw [hwaits]
    show x.sent flow e + _ + among flow e x.foreign
      = among flow e (x.flight ++ [payload]) + among flow e x.lost + x.recv flow e
    rw [hflight]
    omega
  · rw [hwaits, hthread]
    show x.sent flow e + _ + (x.threads flow).failed e
      = (x.threads flow).rounds + if e ∈ rest then 0 else 1
    by_cases he : e = e₀
    · subst he
      rw [if_pos List.mem_cons_self] at hturns
      rw [if_pos rfl, if_neg (not_mem_rest horder)]
      omega
    · simp only [List.mem_cons, he, false_or] at hturns
      rw [if_neg he]
      omega
  · rw [hthread]
    exact (List.suffix_cons e₀ rest).trans horder
  · rw [hwaits]
    intro hpos
    by_cases he : e = e₀
    · exact ⟨payload, he ▸ hpayload⟩
    · rw [if_neg he] at hpos
      exact h.fits (by rw [hwas]; exact hpos)

/-- A datagram that is not one of its probes. -/
theorem Balanced.flight (h : Balanced srcId tenantId x flow e) {payload : List UInt8}
    (hnot : Names flow e payload = false) :
    Balanced srcId tenantId { x with flight := x.flight ++ [payload] } flow e := by
  refine ⟨?_, h.turns, h.order, h.fits⟩
  show _ = among flow e (x.flight ++ [payload]) + _ + _
  rw [among_append, among_singleton, hnot]
  exact h.books

/-- The emit thread of a flow. -/
theorem balanced_emit (hd : d.Distinct) (hmem : flow ∈ d.flows)
    (h : Balanced srcId tenantId x flow e) (flow₀ : DaemonFlow) (o : SendProbe) :
    Balanced srcId tenantId (x.emit srcId tenantId flow₀ o) flow e := by
  unfold emit
  dsimp only
  split_ifs with hidle
  · exact h
  · rw [not_or, not_or, not_not, not_not] at hidle
    obtain ⟨hmem₀, -, hnone⟩ := hidle
    by_cases hsame : flow = flow₀
    · subst hsame
      cases htodo : (x.threads flow).todo with
      | nil =>
        refine h.setThread_self rfl List.suffix_rfl ?_
        dsimp only
        rw [htodo, if_pos (EVStateTable.mem_cells e), if_neg List.not_mem_nil]
      | cons e₀ rest =>
        dsimp only
        cases hpayload : payloadOf srcId tenantId flow e₀ with
        | error err => exact h.skip htodo
        | ok payload =>
          cases o with
          | osError => exact h.skip htodo
          | raised => exact h.setThread_self rfl (htodo ▸ h.order) (by rw [htodo])
          | returned => exact h.sends hd hmem htodo hnone hpayload
    · cases (x.threads flow₀).todo with
      | nil => exact h.setThread_ne _ hsame
      | cons e₀ rest =>
        dsimp only
        cases hpayload : payloadOf srcId tenantId flow₀ e₀ with
        | error err => exact h.setThread_ne _ hsame
        | ok payload =>
          cases o with
          | osError => exact h.setThread_ne _ hsame
          | raised => exact h.setThread_ne _ hsame
          | returned =>
            refine (h.flight (Bool.eq_false_iff.mpr fun hnames => ?_)).setThread_ne _ hsame
            exact hsame ((names_payloadOf hd hmem₀ hmem hpayload e).mp hnames).1

/-- A write to a table, seen by its flow and by another. -/
theorem setTable_totals (flow₀ : DaemonFlow) (s : (d.table flow₀).Store) :
    (flow ≠ flow₀ → (x.setTable flow₀ s).sent flow e = x.sent flow e ∧
      (x.setTable flow₀ s).recv flow e = x.recv flow e) ∧
    ∀ e₀, (x.setTable flow₀ s).sent flow₀ e₀ = (s.evs flow₀.tenant e₀).totalSent ∧
      (x.setTable flow₀ s).recv flow₀ e₀ = (s.evs flow₀.tenant e₀).totalRecv := by
  constructor
  · intro hne
    have hagent : (x.setTable flow₀ s).daemon.agents flow = x.daemon.agents flow :=
      Function.update_of_ne hne _ _
    unfold sent recv
    rw [hagent]
    exact ⟨rfl, rfl⟩
  · intro e₀
    have hagent : (x.setTable flow₀ s).daemon.agents flow₀
        = { x.daemon.agents flow₀ with fused.table := s } := Function.update_self ..
    unfold sent recv
    rw [hagent]
    exact ⟨rfl, rfl⟩

/-- A change of the daemon that leaves the totals. -/
theorem Balanced.daemon (h : Balanced srcId tenantId x flow e) {st : d.State}
    (hs : ((st.agents flow).fused.table.evs flow.tenant e).totalSent = x.sent flow e ∧
      ((st.agents flow).fused.table.evs flow.tenant e).totalRecv = x.recv flow e) :
    Balanced srcId tenantId { x with daemon := st } flow e := by
  have hsent : Probing.sent { x with daemon := st } flow e = x.sent flow e := hs.1
  have hrecv : Probing.recv { x with daemon := st } flow e = x.recv flow e := hs.2
  refine ⟨?_, ?_, h.order, ?_⟩
  · rw [hsent, hrecv]
    exact h.books
  · rw [hsent]
    exact h.turns
  · rw [hsent]
    exact h.fits

/-- `tick` counts no probe. -/
theorem tick_totals (flow : DaemonFlow) (s : (d.table flow).Store) (e : (d.table flow).EV) :
    let s' := ((d.table flow).tick none flow.tenant s).state
    (s'.evs flow.tenant e).totalSent = (s.evs flow.tenant e).totalSent ∧
      (s'.evs flow.tenant e).totalRecv = (s.evs flow.tenant e).totalRecv := by
  have htotals := EVStateTable.step_totals none s (.tick flow.tenant) flow.tenant e
  rcases EVStateTable.signal_tick (T := d.table flow) flow.tenant e with hsignal | hsignal <;>
  · rw [hsignal] at htotals
    exact htotals

/-- `record_probe_sent` by an agent: one more for the EV that is named. -/
theorem recordProbeSent_totals (flow : DaemonFlow) (s : (d.table flow).Store)
    (e₀ e : (d.table flow).EV) :
    let s' := ((d.table flow).recordProbeSent flow.tenant (e₀.1 : Nat) (e₀.2 : Nat) s).state
    (s'.evs flow.tenant e).totalSent
        = (s.evs flow.tenant e).totalSent + (if e = e₀ then 1 else 0) ∧
      (s'.evs flow.tenant e).totalRecv = (s.evs flow.tenant e).totalRecv := by
  have hmem : flow.tenant ∈ (d.table flow).tenants := List.mem_singleton_self _
  have htotals := EVStateTable.step_totals none s
    (.probeSent flow.tenant (e₀.1 : Nat) (e₀.2 : Nat)) flow.tenant e
  have hsignal : (d.table flow).signal flow.tenant e
      (.probeSent flow.tenant (e₀.1 : Nat) (e₀.2 : Nat)) = if e = e₀ then .sent else .quiet := by
    simp only [EVStateTable.signal, EVStateTable.Names, hmem, true_and, Nat.cast_inj, Fin.val_inj,
      Prod.ext_iff, @eq_comm _ e₀.1, @eq_comm _ e₀.2]
  rw [hsignal] at htotals
  by_cases he : e = e₀
  · rw [if_pos he] at htotals ⊢
    exact htotals
  · rw [if_neg he] at htotals ⊢
    exact htotals

/-- The emit thread counts what it has sent. -/
theorem balanced_count (h : Balanced srcId tenantId x flow e) (flow₀ : DaemonFlow) :
    Balanced srcId tenantId (x.count flow₀) flow e := by
  unfold count
  dsimp only
  cases hpending : (x.threads flow₀).pending with
  | none => exact h
  | some e₀ =>
    dsimp only
    generalize hs : ((d.table flow₀).recordProbeSent flow₀.tenant (e₀.1 : Nat) (e₀.2 : Nat)
      (x.daemon.agents flow₀).fused.table).state = s
    have htotals := setTable_totals (x := x) (e := e) flow₀ s
    by_cases hsame : flow = flow₀
    · -- the one that was waiting is now counted as sent
      subst hsame
      have hrecorded := recordProbeSent_totals flow (x.daemon.agents flow).fused.table e₀ e
      dsimp only at hrecorded
      rw [hs] at hrecorded
      obtain ⟨hsent, hrecv⟩ := htotals.2 e
      rw [hrecorded.1] at hsent
      rw [hrecorded.2] at hrecv
      have hwas : x.waiting flow e = if e = e₀ then 1 else 0 := by
        unfold waiting
        rw [hpending]
        simp only [Option.some.injEq, @eq_comm _ e₀]
      have hbooks := h.books
      have hturns := h.turns
      have hfits := h.fits
      rw [hwas] at hbooks hturns hfits
      have hthread := threads_setThread_self (x := x.setTable flow s)
        { x.threads flow with pending := none }
      have hnow : ((x.setTable flow s).setThread flow
          { x.threads flow with pending := none }).waiting flow e = 0 := by
        unfold waiting
        rw [hthread]
        exact if_neg (Option.some_ne_none e).symm
      have hsent' : ((x.setTable flow s).setThread flow
          { x.threads flow with pending := none }).sent flow e
            = x.sent flow e + if e = e₀ then 1 else 0 := hsent
      have hrecv' : ((x.setTable flow s).setThread flow
          { x.threads flow with pending := none }).recv flow e = x.recv flow e := hrecv
      constructor
      · rw [hnow, hsent', hrecv']
        exact hbooks
      · rw [hnow, hsent', hthread]
        exact hturns
      · rw [hthread]
        exact h.order
      · rw [hnow, hsent']
        exact hfits
    · exact (h.daemon (htotals.1 hsame)).setThread_ne _ hsame

/-- One step, of any thread or of the network. -/
theorem balanced_step (hd : d.Distinct) (hmem : flow ∈ d.flows)
    (h : Balanced srcId tenantId x flow e) (step : ProbeStep d) :
    Balanced srcId tenantId (x.step srcId tenantId step) flow e := by
  cases step with
  | emit flow₀ o => exact balanced_emit hd hmem h flow₀ o
  | count flow₀ => exact balanced_count h flow₀
  | lose i =>
    unfold Probing.step
    dsimp only
    cases hget : x.flight[i]? with
    | none => exact h
    | some payload =>
      -- from what is in flight to what is lost
      refine ⟨?_, h.turns, h.order, h.fits⟩
      have hbooks := h.books
      rw [among_eraseIdx flow e hget] at hbooks
      show x.sent flow e + x.waiting flow e + among flow e x.foreign = among flow e (x.flight.eraseIdx i)
        + among flow e (x.lost ++ [payload]) + x.recv flow e
      rw [among_append, among_singleton]
      omega
  | inject payload =>
    -- a datagram of someone else, on both sides
    refine ⟨?_, h.turns, h.order, h.fits⟩
    have hbooks := h.books
    show x.sent flow e + x.waiting flow e + among flow e (x.foreign ++ [payload])
      = among flow e (x.flight ++ [payload]) + among flow e x.lost + x.recv flow e
    rw [among_append, among_append]
    omega
  | arrive i receivedAtNs peer =>
    unfold Probing.step
    dsimp only
    cases hget : x.flight[i]? with
    | none => exact h
    | some payload =>
      -- what arrives is counted if it names the EV
      obtain ⟨hsent, hrecv⟩ := receive_totals hd receivedAtNs payload peer x.daemon hmem e
      have hbooks := h.books
      rw [among_eraseIdx flow e hget] at hbooks
      dsimp only
      generalize (d.receive receivedAtNs payload peer x.daemon).state = st at hsent hrecv ⊢
      have hsent' : Probing.sent { x with flight := x.flight.eraseIdx i, daemon := st } flow e
          = x.sent flow e := hsent
      have hrecv' : Probing.recv { x with flight := x.flight.eraseIdx i, daemon := st } flow e
          = x.recv flow e + if Names flow e payload then 1 else 0 := hrecv
      refine ⟨?_, ?_, h.order, ?_⟩
      · rw [hsent', hrecv']
        show x.sent flow e + x.waiting flow e + among flow e x.foreign
          = among flow e (x.flight.eraseIdx i) + among flow e x.lost + _
        omega
      · rw [hsent']
        exact h.turns
      · rw [hsent']
        exact h.fits
  | tick flow₀ =>
    by_cases hsame : flow = flow₀
    · subst hsame
      -- a tick leaves the totals
      refine h.daemon ?_
      have htotals := (setTable_totals (x := x) (e := e) flow ((d.table flow).tick none flow.tenant
        (x.daemon.agents flow).fused.table).state).2 e
      have htick := tick_totals flow (x.daemon.agents flow).fused.table e
      exact ⟨htotals.1.trans htick.1, htotals.2.trans htick.2⟩
    · exact h.daemon ((setTable_totals flow₀ _).1 hsame)
  | rotate flow₀ ring =>
    -- and so does a rotation
    refine h.daemon ?_
    show ((Function.update x.daemon.agents flow₀ _ flow).fused.table.evs flow.tenant e).totalSent
        = x.sent flow e ∧
      ((Function.update x.daemon.agents flow₀ _ flow).fused.table.evs flow.tenant e).totalRecv
        = x.recv flow e
    by_cases hsame : flow = flow₀
    · subst hsame
      rw [Function.update_self]
      exact ⟨rfl, rfl⟩
    · rw [Function.update_of_ne hsame]
      exact ⟨rfl, rfl⟩

variable (srcId tenantId)

theorem balanced_run (hd : d.Distinct) (hmem : flow ∈ d.flows)
    (rings : DaemonFlow → SentWindowRing d.topo.numPlanes d.topo.numSpines)
    (steps : List (ProbeStep d)) (e : (d.table flow).EV) :
    Balanced srcId tenantId (run srcId tenantId rings steps) flow e := by
  unfold run
  generalize hx : ({ daemon := start d rings } : Probing d) = x
  have hstart : Balanced srcId tenantId x flow e := hx ▸ balanced_start rings flow e
  clear hx
  induction steps generalizing x with
  | nil => exact hstart
  | cons step steps ih => exact ih (x.step srcId tenantId step) (balanced_step hd hmem hstart step)

/-- In every interleaving of the emit threads of a host's flows, of a network that may do anything to
    their probes, of the dispatch thread and of the window threads: what was sent on an EV, counted
    already or not, and what others have put in for it, is under way, lost, or counted as received
    there; so without others the received are at most one more than the sent, and no more as soon as
    the thread has counted; each EV has had one turn in each round; and the threads of a flow to a
    host from 256 on send nothing. -/
theorem probes_balance (d : MrcDaemon) (hd : d.Distinct) (srcId : Int) (tenantId : String → Int)
    (rings : DaemonFlow → SentWindowRing d.topo.numPlanes d.topo.numSpines)
    (steps : List (ProbeStep d)) (flow : DaemonFlow) (hmem : flow ∈ d.flows)
    (e : (d.table flow).EV) :
    let x := run srcId tenantId rings steps
    let t := x.threads flow
    x.sent flow e + x.waiting flow e + among flow e x.foreign
        = among flow e x.flight + among flow e x.lost + x.recv flow e ∧
      (among flow e x.foreign = 0 → x.recv flow e ≤ x.sent flow e + x.waiting flow e) ∧
      x.sent flow e + x.waiting flow e + t.failed e = t.rounds + (if e ∈ t.todo then 0 else 1) ∧
      (255 < flow.dstId → x.sent flow e = 0 ∧ x.waiting flow e = 0) := by
  intro x t
  have h : Balanced srcId tenantId x flow e := balanced_run srcId tenantId hd hmem rings steps e
  refine ⟨h.books, fun hforeign => ?_, h.turns, fun hdst => ?_⟩
  · have hbooks := h.books
    omega
  · by_contra hsome
    obtain ⟨payload, hpayload⟩ := h.fits (by omega)
    obtain ⟨probe, -, -, -, -, -, hprobe⟩ := encodeProbe_ok.mp hpayload
    have hlt : probe.dstId.toNat < 2 ^ 8 := probe.dstId.toNat_lt
    omega

theorem default_window : 0 ≤ ({} : EVStateConfig).probeWindowTicks := by decide

/-- A host with one flow, on a plane of one spine. -/
def oneFlow : MrcDaemon where
  topo := ⟨1, 1, 2, ["green"]⟩
  flows := [⟨"green", 1⟩]
  evCfg := {}
  maxWindowSkewMs := 500
  flows_ne := by decide
  tenants_known := by decide
  numPlanes_pos := by decide
  numSpines_pos := by decide
  window_nonneg := default_window

/-- A probe that is back before it is counted as sent. -/
theorem probes_balance_early :
    let flow : DaemonFlow := ⟨"green", 1⟩
    let e : (oneFlow.table flow).EV := (⟨0, by decide⟩, ⟨0, by decide⟩)
    let rings : DaemonFlow → SentWindowRing 1 1 := fun _ =>
      { capacity := 1, windows := [], capacity_pos := by decide, bounded := by decide
        shaped := fun _ h => absurd h List.not_mem_nil }
    let x : Probing oneFlow := run 0 (fun _ => 1) rings [.emit flow .returned, .arrive 0 5 none]
    x.sent flow e + x.waiting flow e + among flow e x.foreign
        = among flow e x.flight + among flow e x.lost + x.recv flow e ∧
      x.recv flow e = 1 ∧ x.sent flow e = 0 := by
  intro flow e rings x
  have hd : oneFlow.Distinct := by
    intro flow hflow flow' hflow' _
    rw [List.mem_singleton.mp hflow, List.mem_singleton.mp hflow']
  exact ⟨(probes_balance oneFlow hd 0 (fun _ => 1) rings
    [.emit flow .returned, .arrive 0 5 none] flow List.mem_cons_self e).1,
    by decide +kernel, by decide +kernel⟩

end Probing
end MrcDaemon
end Srv6Mrc
