/-
  `srv6_mrc/mrc/daemon.py`: one socket for all the flows of a host, and which agent a datagram is for.

  The first byte of a datagram says what it is.  A probe names its flow itself, by the id of the host
  it was sent to; a loss report does not, and its sender's address has to.  Each flow has a table of
  its own.  `dispatch_exact`: whatever comes in, the loop goes on, one counter says what became of
  it, and no table changes but that of the flow it is for.
-/
import Srv6Mrc.Loss.Fusion
import Srv6Mrc.Topo.Plan
import Srv6Mrc.Wire.RoundTrip

namespace Srv6Mrc

/-- `DaemonFlow` -/
structure DaemonFlow where
  tenant : String
  dstId : Int
  deriving DecidableEq

/-- The keys of `_dispatch_counters`. -/
inductive DispatchCounter where
  | packetsReceived
  | probesDispatched
  | probesNoFlow
  | probesDecodeFailed
  | probesEvMismatch
  | lossReportsDispatched
  | lossReportsNoPeer
  | unknownMagic
  deriving DecidableEq

/-- The counters that say what became of a datagram. -/
def DispatchCounter.verdicts : List DispatchCounter :=
  [probesDispatched, probesNoFlow, probesDecodeFailed, lossReportsDispatched, lossReportsNoPeer,
    unknownMagic]

/-- What `MrcDaemon.__init__` fixes, and what it checked, itself or in the constructors it calls. -/
structure MrcDaemon where
  topo : Topo
  flows : List DaemonFlow
  evCfg : EVStateConfig
  maxWindowSkewMs : Int
  flows_ne : flows ≠ []
  tenants_known : ∀ flow ∈ flows, flow.tenant ∈ topo.tenants
  numPlanes_pos : 1 ≤ topo.numPlanes
  numSpines_pos : 1 ≤ topo.numSpines
  window_nonneg : 0 ≤ evCfg.probeWindowTicks

/-- What a `SenderMrcAgent` mutates when a datagram comes in. -/
structure SenderAgent (T : EVStateTable) where
  fused : EVStateTable.Fused T
  sentRing : SentWindowRing T.numPlanes T.numPaths

theorem DaemonFlow.tenants_ne (flow : DaemonFlow) : [flow.tenant] ≠ [] := List.cons_ne_nil _ _

namespace MrcDaemon

variable (d : MrcDaemon)

/-- `self.tables[(flow.tenant, flow.dst_id)]` -/
def table (flow : DaemonFlow) : EVStateTable where
  tenants := [flow.tenant]
  numPlanes := d.topo.numPlanes
  numPaths := d.topo.numSpines
  cfg := d.evCfg
  tenants_ne := flow.tenants_ne
  numPlanes_pos := d.numPlanes_pos
  numPaths_pos := d.numSpines_pos
  window_nonneg := d.window_nonneg

/-- `self._demux.get(dst_id)`: the last flow to this host. -/
def demux (dstId : Int) : Option DaemonFlow := d.flows.reverse.find? fun flow => flow.dstId = dstId

/-- The agents and the counters. -/
structure State where
  agents : (flow : DaemonFlow) → SenderAgent (d.table flow)
  counters : DispatchCounter → Nat

variable {d}

namespace State

/-- `self._dispatch_counters[c] += 1` -/
def count (st : State d) (c : DispatchCounter) : State d :=
  { st with counters := Function.update st.counters c (st.counters c + 1) }

/-- Write one agent. -/
def setAgent (st : State d) (flow : DaemonFlow) (a : SenderAgent (d.table flow)) : State d :=
  { st with agents := Function.update st.agents flow a }

end State

variable (d)

/-- `SenderMrcAgent.record_probe_recv`: the table raises nothing but `ValueError` and `KeyError`,
    and the agent catches these. -/
def recordProbeRecv (flow : DaemonFlow) (plane path : Int) (a : SenderAgent (d.table flow)) :
    SenderAgent (d.table flow) :=
  { a with fused.table :=
      ((d.table flow).recordProbeRecv flow.tenant plane path a.fused.table).state }

/-- `SenderMrcAgent._handle_loss_report` -/
def handleLossReport (flow : DaemonFlow) (receivedAtNs : Int) (payload : List UInt8)
    (a : SenderAgent (d.table flow)) : Outcome (WireError ⊕ PyError) (SenderAgent (d.table flow)) :=
  match decodeLossReport payload with
  | .error err => if err.isProbeDecodeError then .ok a else .raise (.inl err) a
  | .ok report =>
    let o := (d.table flow).applyLossReport none flow.tenant report a.sentRing receivedAtNs
      (d.maxWindowSkewMs * 1000000) minSentForAbsentLoss a.fused
    ⟨{ a with fused := o.state }, o.raised.map .inr⟩

/-- The cross-check of `_dispatch_probe`: does the peer's address name another EV? -/
def evMismatch (probe : Probe) (peer : Option String) : Bool :=
  match peer with
  | none => false
  | some addr =>
    if addr = "" then false
    else
      match d.topo.probeEvFromInnerDst addr with
      | none => false
      | some (_, _, evPlane, evPath) =>
        (evPlane, evPath) ≠ (probe.planeId.toNat, probe.pathId.toNat)

/-- `_dispatch_probe` -/
def dispatchProbe (payload : List UInt8) (peer : Option String) (st : State d) :
    Outcome WireError (State d) :=
  match decodeProbe payload with
  | .error err =>
    if err.isProbeDecodeError then .ok (st.count .probesDecodeFailed) else .raise err st
  | .ok probe =>
    match d.demux probe.dstId.toNat with
    | none => .ok (st.count .probesNoFlow)
    | some flow =>
      let st := if d.evMismatch probe peer then st.count .probesEvMismatch else st
      let a := d.recordProbeRecv flow probe.planeId.toNat probe.pathId.toNat (st.agents flow)
      .ok ((st.setAgent flow a).count .probesDispatched)

/-- The flow a loss report is for, by its sender's address. -/
def peerFlow (peer : Option String) : Option DaemonFlow :=
  match peer with
  | none => none
  | some addr =>
    if addr = "" then none
    else
      match hostIdFromInnerAddr addr with
      | none => none
      | some (_, hostId) => d.demux hostId

/-- `_dispatch_loss_report`.  A handler that raised leaves what it wrote, and no counter. -/
def dispatchLossReport (receivedAtNs : Int) (payload : List UInt8) (peer : Option String)
    (st : State d) : State d :=
  match d.peerFlow peer with
  | none => st.count .lossReportsNoPeer
  | some flow =>
    let o := d.handleLossReport flow receivedAtNs payload (st.agents flow)
    let st := st.setAgent flow o.state
    match o.raised with
    | none => st.count .lossReportsDispatched
    | some _ => st

/-- The tail of `_dispatch_loop`'s body, where it looks at the first byte. -/
def dispatch (receivedAtNs : Int) (magic : UInt8) (rest : List UInt8) (peer : Option String)
    (st : State d) : Outcome WireError (State d) :=
  if magic = magicProbe then d.dispatchProbe (magic :: rest) peer st
  else if magic = magicLossReport then
    .ok (d.dispatchLossReport receivedAtNs (magic :: rest) peer st)
  else .ok (st.count .unknownMagic)

/-- `_dispatch_loop`'s body, on a datagram. -/
def receive (receivedAtNs : Int) (payload : List UInt8) (peer : Option String) (st : State d) :
    Outcome WireError (State d) :=
  match payload with
  | [] => .ok st
  | magic :: rest => d.dispatch receivedAtNs magic rest peer (st.count .packetsReceived)

/-! ## One verdict -/

variable {d}

/-- Of the six counters this one went up, by one, and no other. -/
def Verdict (c : DispatchCounter) (st st' : State d) : Prop :=
  ∀ c' ∈ DispatchCounter.verdicts, st'.counters c' = st.counters c' + if c' = c then 1 else 0

theorem verdict_count (st : State d) (c : DispatchCounter) : Verdict c st (st.count c) := by
  intro c' _
  show Function.update st.counters c _ c' = _
  by_cases h : c' = c
  · rw [h, Function.update_self, if_pos rfl]
  · rw [Function.update_of_ne h, if_neg h, Nat.add_zero]

/-- Writing an agent, or counting a mismatch, is no verdict. -/
theorem Verdict.of_eq {c : DispatchCounter} {st₀ st st' : State d} (h : Verdict c st st')
    (heq : ∀ c' ∈ DispatchCounter.verdicts, st.counters c' = st₀.counters c') :
    Verdict c st₀ st' := by
  intro c' hc'
  rw [h c' hc', heq c' hc']

theorem count_mismatch (st : State d) (b : Bool) :
    ∀ c ∈ DispatchCounter.verdicts,
      (if b then st.count .probesEvMismatch else st).counters c = st.counters c := by
  intro c hc
  cases b with
  | false => rfl
  | true =>
    refine Function.update_of_ne ?_ _ _
    rintro rfl
    exact absurd hc (by decide)

/-! ## The right flow -/

/-- A flow that is looked up has the id it was looked up by. -/
theorem demux_dstId {dstId : Int} {flow : DaemonFlow} (h : d.demux dstId = some flow) :
    flow ∈ d.flows ∧ flow.dstId = dstId := by
  unfold demux at h
  exact ⟨List.mem_reverse.mp (List.mem_of_find?_eq_some h), by simpa using List.find?_some h⟩

/-- The flow to a host, if no other flow goes there. -/
theorem demux_eq {flow : DaemonFlow} (hmem : flow ∈ d.flows)
    (honly : ∀ other ∈ d.flows, other.dstId = flow.dstId → other = flow) :
    d.demux flow.dstId = some flow := by
  cases h : d.demux flow.dstId with
  | none =>
    unfold demux at h
    have hno := List.find?_eq_none.mp h flow (List.mem_reverse.mpr hmem)
    simp at hno
  | some other =>
    obtain ⟨hother, hid⟩ := demux_dstId h
    rw [honly other hother hid]

/-- The id of the peer's inner address. -/
theorem peerFlow_some {peer : Option String} {flow : DaemonFlow} (h : d.peerFlow peer = some flow) :
    flow ∈ d.flows ∧ ∃ addr tenant hostId, peer = some addr ∧
      hostIdFromInnerAddr addr = some (tenant, hostId) ∧ flow.dstId = hostId := by
  unfold peerFlow at h
  split at h
  · cases h
  · rename_i addr
    split at h
    · cases h
    · split at h
      · cases h
      · rename_i tenant hostId haddr
        obtain ⟨hmem, hid⟩ := demux_dstId h
        exact ⟨hmem, addr, tenant, hostId, rfl, haddr, hid⟩

/-- The fields of a probe are where the format has them. -/
theorem decodeProbe_fields {payload : List UInt8} {p : Probe} (h : decodeProbe payload = .ok p) :
    payload[2]? = some p.planeId ∧ payload[3]? = some p.pathId ∧ payload[8]? = some p.dstId := by
  have hbytes := encode_decodeProbe h
  have hat : ∀ i, i < 9 → payload[i]? = (probeBytes p)[i]? := by
    intro i hi
    have hlen := ((decodeProbe_accepts payload).mp ⟨p, h⟩).2.2
    rw [hbytes, List.getElem?_append_left (by rw [List.length_take]; omega),
      List.getElem?_take_of_lt hi]
  have hpack : probeBytes p = magicProbe :: probeVersion :: p.planeId :: p.pathId
      :: (Wire.toBE 2 p.tenantId.toNat ++ (Wire.toBE 2 p.srcId.toNat ++ [p.dstId, 0])) := by
    unfold probeBytes
    rw [Wire.pack_byte, Wire.pack_byte, Wire.pack_byte, Wire.pack_byte]
    show _ :: _ :: _ :: _ :: (Wire.toBE 2 p.tenantId.toNat ++ (Wire.toBE 2 p.srcId.toNat ++
      Wire.pack [.B, .B] (p.dstId, 0, ()))) = _
    rw [Wire.pack_byte, Wire.pack_byte]
    rfl
  refine ⟨?_, ?_, ?_⟩
  · rw [hat 2 (by omega), hpack]
    rfl
  · rw [hat 3 (by omega), hpack]
    rfl
  · rw [hat 8 (by omega), hpack]
    rfl

/-! ## One table -/

/-- A probe that came back is counted in one EV, or in none if it names none of the grid. -/
theorem recordProbeRecv_cases (flow : DaemonFlow) (plane path : Nat)
    (a : SenderAgent (d.table flow)) :
    (∃ e : (d.table flow).EV, (e.1 : Nat) = plane ∧ (e.2 : Nat) = path ∧
      (d.recordProbeRecv flow plane path a).fused.table = a.fused.table.setEv flow.tenant e
        { a.fused.table.evs flow.tenant e with
          currentRecv := (a.fused.table.evs flow.tenant e).currentRecv + 1
          totalRecv := (a.fused.table.evs flow.tenant e).totalRecv + 1 }) ∨
    (d.topo.numPlanes ≤ plane ∨ d.topo.numSpines ≤ path) ∧
      (d.recordProbeRecv flow plane path a).fused.table = a.fused.table := by
  have hcases := EVStateTable.withEv_cases flow.tenant plane path (fun e s =>
    .ok (s.setEv flow.tenant e (EVStateTable.countRecv (s.evs flow.tenant e)))) a.fused.table
  rcases hcases with ⟨e, hN, heq⟩ | ⟨err, hno, heq⟩
  · obtain ⟨-, -, hplane, hpath⟩ := hN
    refine Or.inl ⟨e, by omega, by omega, ?_⟩
    exact congrArg Outcome.state heq
  · refine Or.inr ⟨?_, congrArg Outcome.state heq⟩
    by_contra hin
    rw [not_or, Nat.not_le, Nat.not_le] at hin
    exact hno flow.tenant (⟨plane, hin.1⟩, ⟨path, hin.2⟩)
      ⟨rfl, List.mem_singleton_self _, rfl, rfl⟩

/-- A report is handled without an exception, and a malformed one without a trace. -/
theorem handleLossReport_returns (flow : DaemonFlow) (receivedAtNs : Int) (payload : List UInt8)
    (a : SenderAgent (d.table flow)) :
    (d.handleLossReport flow receivedAtNs payload a).raised = none ∧
      ∀ err, decodeLossReport payload = .error err →
        (d.handleLossReport flow receivedAtNs payload a).state = a := by
  unfold handleLossReport
  cases h : decodeLossReport payload with
  | error err =>
    dsimp only
    rw [if_pos ((decode_error payload err).2.1 h)]
    exact ⟨rfl, fun _ _ => rfl⟩
  | ok report =>
    refine ⟨?_, fun err herr => by cases herr⟩
    have hmem : flow.tenant ∈ (d.table flow).tenants := List.mem_singleton_self _
    have hret := EVStateTable.applyLossReport_eq EVStateTable.returns_none hmem report a.sentRing
      receivedAtNs (d.maxWindowSkewMs * 1000000) a.fused
    show Option.map _ _ = none
    rw [hret]
    rfl

/-! ## A probe, a loss report -/

/-- What a probe does: one verdict, and to the flow it names at most one count. -/
theorem dispatchProbe_spec (payload : List UInt8) (peer : Option String) (st : State d) :
    let o := d.dispatchProbe payload peer st
    o.raised = none ∧
    (∃ c ∈ DispatchCounter.verdicts, Verdict c st o.state) ∧
    (o.state.agents = st.agents ∨ ∃ p flow, decodeProbe payload = .ok p ∧
      d.demux p.dstId.toNat = some flow ∧
      (∀ flow', flow' ≠ flow → o.state.agents flow' = st.agents flow') ∧
      o.state.agents flow
        = d.recordProbeRecv flow p.planeId.toNat p.pathId.toNat (st.agents flow)) := by
  intro o
  cases hp : decodeProbe payload with
  | error err =>
    have ho : o = .ok (st.count .probesDecodeFailed) := by
      show d.dispatchProbe payload peer st = _
      unfold dispatchProbe
      rw [hp]
      exact if_pos ((decode_error payload err).1 hp)
    rw [ho]
    exact ⟨rfl, ⟨_, by decide, verdict_count st .probesDecodeFailed⟩, Or.inl rfl⟩
  | ok p =>
    cases hflow : d.demux p.dstId.toNat with
    | none =>
      have ho : o = .ok (st.count .probesNoFlow) := by
        show d.dispatchProbe payload peer st = _
        unfold dispatchProbe
        rw [hp]
        dsimp only
        rw [hflow]
      rw [ho]
      exact ⟨rfl, ⟨_, by decide, verdict_count st .probesNoFlow⟩, Or.inl rfl⟩
    | some flow =>
      -- the mismatch is counted, and the probe is recorded all the same
      let st₁ := if d.evMismatch p peer then st.count .probesEvMismatch else st
      have hagents : st₁.agents = st.agents := by
        unfold st₁
        split <;> rfl
      have ho : o = .ok ((st₁.setAgent flow (d.recordProbeRecv flow p.planeId.toNat p.pathId.toNat
          (st₁.agents flow))).count .probesDispatched) := by
        show d.dispatchProbe payload peer st = _
        unfold dispatchProbe
        rw [hp]
        dsimp only
        rw [hflow]
      rw [ho]
      refine ⟨rfl, ⟨.probesDispatched, by decide, ?_⟩, Or.inr ⟨p, flow, rfl, hflow, ?_, ?_⟩⟩
      · exact (verdict_count _ .probesDispatched).of_eq fun c hc => count_mismatch st _ c hc
      · intro flow' hne
        rw [← hagents]
        exact Function.update_of_ne hne _ _
      · rw [← hagents]
        exact Function.update_self ..

/-- What a loss report does: one verdict, and the peer's flow is the only one to see it. -/
theorem dispatchLossReport_spec (receivedAtNs : Int) (payload : List UInt8) (peer : Option String)
    (st : State d) :
    let st' := d.dispatchLossReport receivedAtNs payload peer st
    (∃ c ∈ DispatchCounter.verdicts, Verdict c st st') ∧
    (st'.agents = st.agents ∨ ∃ flow, d.peerFlow peer = some flow ∧
      (∀ flow', flow' ≠ flow → st'.agents flow' = st.agents flow') ∧
      st'.agents flow = (d.handleLossReport flow receivedAtNs payload (st.agents flow)).state) := by
  intro st'
  cases hflow : d.peerFlow peer with
  | none =>
    have hst : st' = st.count .lossReportsNoPeer := by
      show d.dispatchLossReport receivedAtNs payload peer st = _
      unfold dispatchLossReport
      rw [hflow]
    rw [hst]
    exact ⟨⟨_, by decide, verdict_count st .lossReportsNoPeer⟩, Or.inl rfl⟩
  | some flow =>
    have hst : st' = (st.setAgent flow
        (d.handleLossReport flow receivedAtNs payload (st.agents flow)).state).count
          .lossReportsDispatched := by
      show d.dispatchLossReport receivedAtNs payload peer st = _
      unfold dispatchLossReport
      rw [hflow]
      dsimp only
      rw [(handleLossReport_returns flow receivedAtNs payload (st.agents flow)).1]
    rw [hst]
    exact ⟨⟨.lossReportsDispatched, by decide, verdict_count _ .lossReportsDispatched⟩,
      Or.inr ⟨flow, rfl, fun flow' hne => Function.update_of_ne hne _ _, Function.update_self ..⟩⟩

/-- Whatever comes in from wherever: handling returns; one of the six counters goes up, by one; only
    the agent changes that the datagram names, a probe by its `dst_id` byte, a report by its peer's
    address; a probe counts in the one EV it names, if that is in the grid, and in nothing else; and
    a report that does not decode changes no table. -/
theorem dispatch_exact (receivedAtNs : Int) (magic : UInt8) (rest : List UInt8)
    (peer : Option String) (st : State d) :
    let payload := magic :: rest
    let o := d.dispatch receivedAtNs magic rest peer st
    o.raised = none ∧
    (∃ c ∈ DispatchCounter.verdicts, ∀ c' ∈ DispatchCounter.verdicts,
      o.state.counters c' = st.counters c' + if c' = c then 1 else 0) ∧
    (∃ flow, ∀ flow', flow' ≠ flow → o.state.agents flow' = st.agents flow') ∧
    (∀ flow, (o.state.agents flow).fused.table ≠ (st.agents flow).fused.table → flow ∈ d.flows ∧
      (magic = 0xA5 ∧ (∃ dstId, payload[8]? = some dstId ∧ flow.dstId = dstId.toNat) ∨
       magic = 0xA7 ∧ ∃ addr tenant hostId, peer = some addr ∧
        hostIdFromInnerAddr addr = some (tenant, hostId) ∧ flow.dstId = hostId)) ∧
    (magic = 0xA5 → ∀ flow, (o.state.agents flow).fused.table ≠ (st.agents flow).fused.table →
      ∃ e : (d.table flow).EV, payload[2]?.map UInt8.toNat = some e.1.val ∧
        payload[3]?.map UInt8.toNat = some e.2.val ∧
        (o.state.agents flow).fused.table = (st.agents flow).fused.table.setEv flow.tenant e
          { (st.agents flow).fused.table.evs flow.tenant e with
            currentRecv := ((st.agents flow).fused.table.evs flow.tenant e).currentRecv + 1
            totalRecv := ((st.agents flow).fused.table.evs flow.tenant e).totalRecv + 1 }) ∧
    (magic = 0xA7 → (∃ err, decodeLossReport payload = .error err) →
      ∀ flow, (o.state.agents flow).fused.table = (st.agents flow).fused.table) := by
  intro payload o
  by_cases hprobe : magic = magicProbe
  · -- a probe
    have ho : o = d.dispatchProbe payload peer st := if_pos hprobe
    obtain ⟨hret, hverdict, hagents⟩ := dispatchProbe_spec payload peer st
    rw [ho]
    refine ⟨hret, hverdict, ?_, ?_, fun _ => ?_, fun hmagic => ?_⟩
    · rcases hagents with hsame | ⟨p, flow, -, -, hother, -⟩
      · obtain ⟨flow, -⟩ := List.exists_mem_of_ne_nil _ d.flows_ne
        exact ⟨flow, fun flow' _ => by rw [hsame]⟩
      · exact ⟨flow, hother⟩
    · intro flow' hne
      rcases hagents with hsame | ⟨p, flow, hp, hflow, hother, -⟩
      · exact absurd (by rw [hsame]) hne
      · obtain rfl : flow' = flow := by
          by_contra hdiff
          exact hne (by rw [hother flow' hdiff])
        obtain ⟨hmem, hid⟩ := demux_dstId hflow
        exact ⟨hmem, Or.inl ⟨hprobe, p.dstId, (decodeProbe_fields hp).2.2, hid⟩⟩
    · intro flow' hne
      rcases hagents with hsame | ⟨p, flow, hp, hflow, hother, hown⟩
      · exact absurd (by rw [hsame]) hne
      · obtain rfl : flow' = flow := by
          by_contra hdiff
          exact hne (by rw [hother flow' hdiff])
        obtain ⟨hplane, hpath, -⟩ := decodeProbe_fields hp
        rw [hown] at hne ⊢
        rcases recordProbeRecv_cases flow' p.planeId.toNat p.pathId.toNat (st.agents flow') with
          ⟨e, he₁, he₂, htable⟩ | ⟨-, htable⟩
        · refine ⟨e, ?_, ?_, htable⟩
          · rw [hplane, he₁]
            rfl
          · rw [hpath, he₂]
            rfl
        · exact absurd htable hne
    · rw [hprobe] at hmagic
      exact absurd hmagic (by decide)
  · by_cases hloss : magic = magicLossReport
    · -- a loss report, for the flow of the peer
      have ho : o = .ok (d.dispatchLossReport receivedAtNs payload peer st) :=
        (if_neg hprobe).trans (if_pos hloss)
      obtain ⟨hverdict, hagents⟩ := dispatchLossReport_spec receivedAtNs payload peer st
      rw [ho]
      refine ⟨rfl, hverdict, ?_, ?_, fun hmagic => absurd hmagic hprobe, fun _ hbad flow' => ?_⟩
      · rcases hagents with hsame | ⟨flow, -, hother, -⟩
        · obtain ⟨flow, -⟩ := List.exists_mem_of_ne_nil _ d.flows_ne
          exact ⟨flow, fun flow' _ => congrFun hsame flow'⟩
        · exact ⟨flow, hother⟩
      · intro flow' hne
        rcases hagents with hsame | ⟨flow, hflow, hother, -⟩
        · exact absurd (congrArg (fun a => a.fused.table) (congrFun hsame flow')) hne
        · obtain rfl : flow' = flow := by
            by_contra hdiff
            exact hne (congrArg (fun a => a.fused.table) (hother flow' hdiff))
          obtain ⟨hmem, hpeer⟩ := peerFlow_some hflow
          exact ⟨hmem, Or.inr ⟨hloss, hpeer⟩⟩
      · obtain ⟨err, herr⟩ := hbad
        -- one that does not decode leaves the agents as they are
        rcases hagents with hsame | ⟨flow, -, hother, hown⟩
        · exact congrArg (fun a => a.fused.table) (congrFun hsame flow')
        · by_cases hdiff : flow' = flow
          · subst hdiff
            have hstate := (handleLossReport_returns flow' receivedAtNs payload
              (st.agents flow')).2 err herr
            exact congrArg (fun a => a.fused.table) (hown.trans hstate)
          · exact congrArg (fun a => a.fused.table) (hother flow' hdiff)
    · -- no other magic is known
      have ho : o = .ok (st.count .unknownMagic) := (if_neg hprobe).trans (if_neg hloss)
      rw [ho]
      obtain ⟨flow, -⟩ := List.exists_mem_of_ne_nil _ d.flows_ne
      exact ⟨rfl, ⟨_, by decide, verdict_count st .unknownMagic⟩, ⟨flow, fun _ _ => rfl⟩,
        fun _ hne => absurd rfl hne, fun hmagic => absurd hmagic hprobe, fun _ _ _ => rfl⟩

end MrcDaemon
end Srv6Mrc
