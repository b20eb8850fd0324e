/-
  The receiver's two accountants.

  `run_receiver` counts the packets of a plane, and then calls a hook, which `cli/spray.py` makes of a
  `ReceiverMrcAgent`: it looks for the sender's id in its address, and has the agent count the packet
  in the window of its flow.  What the hook raises is swallowed.  So the two counts part when the
  agent's table refuses a packet, which it does for a seq of more than 32 bits.
-/
import Srv6Mrc.Loss.Agent
import Srv6Mrc.Loss.Arrivals
import Srv6Mrc.Receive.Receiver

namespace Srv6Mrc

open Py

/-! ## The hooks -/

/-- `tenant_id`: `TENANT_ID` numbers the tenants from 1 on, and a later one of a name replaces an
    earlier one. -/
def Topo.tenantId (T : Topo) (tenant : String) : Option Nat :=
  (T.tenants.zipIdx.reverse.find? fun t => t.1 = tenant).map fun t => t.2 + 1

/-- A receiving host: `run_receiver` with the agent that its hooks call. -/
structure MrcReceiver (W : LossWindowTable) where
  receiver : Receiver := {}
  agent : ReceiverMrcAgent W := {}

namespace MrcReceiver

variable {W : LossWindowTable}

section Hooks

variable (T : Topo) (tenant : String) (myId : Int) (send : Transport)

/-- The key that the hooks make of a flow: `none` if the packet is not for the agent. -/
def agentFlowKey (flow : FlowKey) : Option FlowId :=
  match hostIdFromInnerAddr flow.srcAddr with
  | none => none
  | some (senderTenant, srcId) =>
    if senderTenant ≠ tenant then none
    else (T.tenantId senderTenant).map fun tid => ⟨tid, srcId, myId⟩

/-- `_on_packet`, whatever it raises. -/
def onPacket (a : Arrival) (agent : ReceiverMrcAgent W) : ReceiverMrcAgent W :=
  match agentFlowKey T tenant myId a.flow with
  | none => agent
  | some flowKey => (agent.recordData flowKey a.plane a.path a.seq).state

/-- `_on_trimmed`, whatever it raises. -/
def onTrimmed (a : Arrival) (agent : ReceiverMrcAgent W) : ReceiverMrcAgent W :=
  match agentFlowKey T tenant myId a.flow with
  | none => agent
  | some flowKey => (agent.recordTrimmed send myId flowKey a.plane a.path a.seq).state

/-- `handle`, with its hooks. -/
def handle (st : MrcReceiver W) (nic : String) (a : Arrival) : MrcReceiver W where
  receiver := st.receiver.handle nic a
  agent :=
    if a.trimmed then onTrimmed T tenant myId send a st.agent else onPacket T tenant myId a st.agent

/-- A frame of a capture thread, or a round of the agent's. -/
inductive Input where
  | frame (nic : String) (bytes : List UInt8)
  | round

variable (inetNtop : List UInt8 → String) (self : String)

/-- One input. -/
def step (st : MrcReceiver W) : Input → MrcReceiver W
  | .frame nic bytes =>
    match arrivalOf inetNtop (canonInner self) bytes with
    | none => st
    | some a => st.handle T tenant myId send nic a
  | .round => { st with agent := (st.agent.emitOneRound send).state }

variable (W) in
/-- The host after some inputs. -/
def after (inputs : List Input) : MrcReceiver W :=
  inputs.foldl (step T tenant myId send inetNtop self) {}

end Hooks

/-- The count of `per_plane`. -/
def planeCount (st : MrcReceiver W) (plane : Nat) : Nat := (st.receiver.perPlane.get plane).getD 0

/-- `seen` of an EV, in the window of a flow. -/
def seen (st : MrcReceiver W) (flowKey : FlowId) (e : W.EV) : Nat :=
  ((st.agent.lossTable.window flowKey).evs e).seen

/-! ## Counting -/

section Counting

variable {T : Topo} {tenant : String} {myId : Int} {send : Transport}
  {inetNtop : List UInt8 → String} {self : String}

/-- What is counted of the plane is counted as seen, once, in the window of the flow and EV. -/
structure CountedTwice (T : Topo) (tenant : String) (myId : Int) (a : Arrival)
    (st st' : MrcReceiver W) : Prop where
  plane : st'.planeCount a.plane = st.planeCount a.plane + 1
  window : ∃ (flowKey : FlowId) (e : W.EV), agentFlowKey T tenant myId a.flow = some flowKey ∧
    (e.1 : Nat) = a.plane ∧ (e.2 : Nat) = a.path ∧
    st'.seen flowKey e = st.seen flowKey e + 1 ∧
    ∀ flowKey' e', (flowKey', e') ≠ (flowKey, e) → st'.seen flowKey' e' = st.seen flowKey' e'

theorem tenantId_of_mem (h : tenant ∈ T.tenants) : ∃ tid, T.tenantId tenant = some tid := by
  obtain ⟨i, hi⟩ := List.mem_iff_getElem?.mp h
  have hfind : (T.tenants.zipIdx.reverse.find? fun t => t.1 = tenant).isSome := by
    rw [List.find?_isSome]
    exact ⟨(tenant, i), List.mem_reverse.mpr (List.mk_mem_zipIdx_iff_getElem?.mpr hi), by simp⟩
  obtain ⟨t, ht⟩ := Option.isSome_iff_exists.mp hfind
  exact ⟨t.2 + 1, by rw [Topo.tenantId, ht]; rfl⟩

/-- `per_plane` counts a full packet. -/
theorem planeCount_handle {st : MrcReceiver W} {nic : String} {a : Arrival}
    (ha : a.trimmed = false) :
    (st.handle T tenant myId send nic a).planeCount a.plane = st.planeCount a.plane + 1 := by
  have hrecover : (st.receiver.recover a).perPlane = st.receiver.perPlane := by
    unfold Receiver.recover
    split
    · rfl
    · split <;> rfl
  unfold planeCount handle Receiver.handle
  dsimp only
  rw [ha, if_neg Bool.false_ne_true, Receiver.deliver, hrecover]
  dsimp only
  rw [FlowStats.count, Dict.get_set_self, Option.getD_some]

/-- The agent counts a packet of a flow that it knows and on an EV of its grid if the seq has 32 bits. -/
theorem countedTwice_iff {st : MrcReceiver W} {nic : String} {a : Arrival} (ha : a.trimmed = false)
    {flowKey : FlowId} (hkey : agentFlowKey T tenant myId a.flow = some flowKey) {e : W.EV}
    (hplane : (e.1 : Nat) = a.plane) (hpath : (e.2 : Nat) = a.path) :
    CountedTwice T tenant myId a st (st.handle T tenant myId send nic a) ↔ a.seq ≤ 0xFFFFFFFF := by
  have hagent : (st.handle T tenant myId send nic a).agent.lossTable =
      (W.record flowKey a.plane a.path a.seq st.agent.lossTable).state := by
    unfold handle onPacket
    dsimp only
    rw [ha, if_neg Bool.false_ne_true, hkey]
    dsimp only
    unfold ReceiverMrcAgent.recordData
    rcases W.record flowKey a.plane a.path a.seq st.agent.lossTable with ⟨flows, _ | err⟩ <;> rfl
  constructor
  · intro h
    obtain ⟨flowKey', e', hkey', hplane', hpath', hseen, -⟩ := h.window
    obtain rfl : flowKey = flowKey' := Option.some.inj (hkey.symm.trans hkey')
    rcases LossWindowTable.record_cases (W := W) flowKey a.plane a.path a.seq st.agent.lossTable with
      ⟨e'', -, -, -, hle, -⟩ | ⟨-, err, herr⟩
    · omega
    · unfold seen at hseen
      rw [hagent, herr, Outcome.state_raise] at hseen
      omega
  · intro hseq
    rcases LossWindowTable.record_cases (W := W) flowKey a.plane a.path a.seq st.agent.lossTable with
      ⟨e', hp, hq, -, -, hok⟩ | ⟨hrefused, -⟩
    · obtain rfl : e = e' := Prod.ext (Fin.ext (by omega)) (Fin.ext (by omega))
      refine ⟨planeCount_handle ha, flowKey, e, hkey, hplane, hpath, ?_, fun flowKey' e' hne => ?_⟩
      · unfold seen
        rw [hagent, hok, Outcome.state_ok, LossWindowTable.setEv_evs_self]
        rfl
      · unfold seen
        rw [hagent, hok, Outcome.state_ok, LossWindowTable.setEv_evs_other]
        rintro ⟨rfl, rfl⟩
        exact hne rfl
    · refine absurd ⟨⟨?_, ?_⟩, ⟨?_, ?_⟩, ?_, ?_⟩ hrefused
      · exact Int.natCast_nonneg _
      · have := e.1.isLt
        omega
      · exact Int.natCast_nonneg _
      · have := e.2.isLt
        omega
      · exact Int.natCast_nonneg _
      · omega

/-- In every run of frames and rounds, of which the full packets are from hosts of the receiver's tenant
    and on EVs of the grid: every packet that `per_plane` counts is counted in its window too, just in
    case all their seqs have 32 bits. -/
theorem accounts_agree_iff (W : LossWindowTable) (T : Topo) (tenant : String) (myId : Int)
    (send : Transport) (inetNtop : List UInt8 → String) (self : String)
    (hself : T.innerAddr tenant myId = .ok self) (inputs : List Input)
    (hknown : ∀ nic bytes a, .frame nic bytes ∈ inputs →
      arrivalOf inetNtop (canonInner self) bytes = some a → a.trimmed = false →
      (∃ srcId, hostIdFromInnerAddr a.flow.srcAddr = some (tenant, srcId)) ∧
        a.plane < W.numPlanes ∧ a.path < W.numPaths) :
    (∀ before nic bytes rest a, inputs = before ++ .frame nic bytes :: rest →
      arrivalOf inetNtop (canonInner self) bytes = some a → a.trimmed = false →
      CountedTwice T tenant myId a (after W T tenant myId send inetNtop self before)
        (after W T tenant myId send inetNtop self (before ++ [.frame nic bytes]))) ↔
    ∀ nic bytes a, .frame nic bytes ∈ inputs →
      arrivalOf inetNtop (canonInner self) bytes = some a → a.trimmed = false →
      a.seq ≤ 0xFFFFFFFF := by
  have hmem : tenant ∈ T.tenants := by
    unfold Topo.innerAddr at hself
    obtain ⟨⟨⟩, hcheck, -⟩ := Outcome.bind_ok.mp hself
    exact checkTenantIn_ok.mp hcheck
  obtain ⟨tid, htid⟩ := tenantId_of_mem hmem
  have hturn : ∀ before nic bytes a, .frame nic bytes ∈ inputs →
      arrivalOf inetNtop (canonInner self) bytes = some a → a.trimmed = false →
      (CountedTwice T tenant myId a (after W T tenant myId send inetNtop self before)
        (after W T tenant myId send inetNtop self (before ++ [.frame nic bytes])) ↔
          a.seq ≤ 0xFFFFFFFF) := by
    intro before nic bytes a hframe harrival ha
    obtain ⟨⟨srcId, hsrc⟩, hplane, hpath⟩ := hknown nic bytes a hframe harrival ha
    -- the agent and the report have one name for the flow
    have hkey : agentFlowKey T tenant myId a.flow = some ⟨tid, srcId, myId⟩ := by
      unfold agentFlowKey
      rw [hsrc]
      dsimp only
      rw [if_neg (not_not.mpr rfl), htid]
      rfl
    have hstep : after W T tenant myId send inetNtop self (before ++ [.frame nic bytes]) =
        (after W T tenant myId send inetNtop self before).handle T tenant myId send nic a := by
      unfold after
      rw [List.foldl_append, List.foldl_cons, List.foldl_nil, step, harrival]
    rw [hstep]
    exact countedTwice_iff (e := (⟨a.plane, hplane⟩, ⟨a.path, hpath⟩)) ha hkey rfl rfl
  constructor
  · intro h nic bytes a hframe harrival ha
    obtain ⟨before, rest, hsplit⟩ := List.append_of_mem hframe
    exact (hturn before nic bytes a hframe harrival ha).mp (h before nic bytes rest a hsplit harrival ha)
  · intro h before nic bytes rest a hsplit harrival ha
    have hframe : .frame nic bytes ∈ inputs := by
      rw [hsplit]
      exact List.mem_append_right _ List.mem_cons_self
    exact (hturn before nic bytes a hframe harrival ha).mpr (h nic bytes a hframe harrival ha)

/-- A data packet from yellow host 0 to yellow host 5, on plane 0 and path 0, with any seq. -/
def seqFrame (seq : Nat) : List UInt8 :=
  let addr (host : UInt8) : List UInt8 :=
    [0x20, 0x01, 0x0d, 0xb8, 0xcc, 0xcc, 0, host, 0, 0, 0, 0, 0, 0, 0, 2]
  List.replicate 12 0 ++ [0x86, 0xdd] ++ [0x60, 0, 0, 0, 0, 50, 17, 64]
    ++ addr 0 ++ addr 5 ++ [0x27, 0x0f, 0x27, 0x0f, 0, 50, 0, 0]
    ++ Wire.toBE 8 seq ++ [0, 0] ++ List.replicate 32 0x58

/-- The text of an address, in groups without leading zeros and no `::`. -/
def groupText (bs : List UInt8) : String :=
  String.intercalate ":" ((List.range 8).map fun i => hex (u16At bs (2 * i)))

/-- What the frame of a seq is taken for. -/
theorem arrivalOf_seqFrame :
    arrivalOf groupText (canonInner "2001:db8:cccc:05::2") (seqFrame 7) =
        some ⟨⟨"2001:db8:cccc:0:0:0:0:2", "2001:db8:cccc:5:0:0:0:2", 9999, 9999⟩, 7, 0, 0, false⟩ ∧
      arrivalOf groupText (canonInner "2001:db8:cccc:05::2") (seqFrame 0xFFFFFFFF) =
        some ⟨⟨"2001:db8:cccc:0:0:0:0:2", "2001:db8:cccc:5:0:0:0:2", 9999, 9999⟩, 0xFFFFFFFF, 0, 0,
          false⟩ := by
  decide +kernel

/-- Two packets, the second with the last seq that the table takes. -/
theorem accounts_agree_last :
    ∃ a, arrivalOf groupText (canonInner "2001:db8:cccc:05::2") (seqFrame 0xFFFFFFFF) = some a ∧
      a.trimmed = false ∧
      CountedTwice ⟨4, 4, 8, ["green", "yellow"]⟩ "yellow" 5 a
        (after ⟨4, 4, by decide, by decide⟩ ⟨4, 4, 8, ["green", "yellow"]⟩ "yellow" 5
          (fun _ _ => none) groupText "2001:db8:cccc:05::2" [.frame "eth1" (seqFrame 7), .round])
        (after ⟨4, 4, by decide, by decide⟩ ⟨4, 4, 8, ["green", "yellow"]⟩ "yellow" 5
          (fun _ _ => none) groupText "2001:db8:cccc:05::2"
          ([.frame "eth1" (seqFrame 7), .round] ++ [.frame "eth1" (seqFrame 0xFFFFFFFF)])) := by
  have harrivals : ∀ nic bytes a, Input.frame nic bytes ∈ [.frame "eth1" (seqFrame 7), .round,
      .frame "eth1" (seqFrame 0xFFFFFFFF)] →
      arrivalOf groupText (canonInner "2001:db8:cccc:05::2") bytes = some a →
        a.flow.srcAddr = "2001:db8:cccc:0:0:0:0:2" ∧ a.plane = 0 ∧ a.path = 0 ∧
          a.seq ≤ 0xFFFFFFFF := by
    intro nic bytes a hmem ha
    have hbytes : bytes = seqFrame 7 ∨ bytes = seqFrame 0xFFFFFFFF := by
      rcases List.mem_cons.mp hmem with heq | hmem
      · exact .inl (Input.frame.inj heq).2
      · rcases List.mem_pair.mp hmem with heq | heq
        · cases heq
        · exact .inr (Input.frame.inj heq).2
    rcases hbytes with rfl | rfl
    · rw [← Option.some.inj (arrivalOf_seqFrame.1.symm.trans ha)]
      exact ⟨rfl, rfl, rfl, by decide⟩
    · rw [← Option.some.inj (arrivalOf_seqFrame.2.symm.trans ha)]
      exact ⟨rfl, rfl, rfl, by decide⟩
  refine ⟨_, arrivalOf_seqFrame.2, rfl, ?_⟩
  refine (accounts_agree_iff ⟨4, 4, by decide, by decide⟩ ⟨4, 4, 8, ["green", "yellow"]⟩ "yellow" 5
    (fun _ _ => none) groupText "2001:db8:cccc:05::2" (by decide +kernel)
    [.frame "eth1" (seqFrame 7), .round, .frame "eth1" (seqFrame 0xFFFFFFFF)]
    (fun nic bytes a hmem ha _ => ?_)).mpr (fun nic bytes a hmem ha _ => (harrivals nic bytes a hmem ha).2.2.2)
    [.frame "eth1" (seqFrame 7), .round] "eth1" (seqFrame 0xFFFFFFFF) [] _ rfl arrivalOf_seqFrame.2 rfl
  obtain ⟨hsrc, hplane, hpath, -⟩ := harrivals nic bytes a hmem ha
  refine ⟨⟨0, ?_⟩, ?_, ?_⟩
  · rw [hsrc]
    decide +kernel
  · rw [hplane]
    decide
  · rw [hpath]
    decide

/-- The packet with seq 2^32 is counted on its plane, and in no window. -/
theorem accounts_part :
    ∃ a, arrivalOf groupText (canonInner "2001:db8:cccc:05::2") (seqFrame (2 ^ 32)) = some a ∧
      a.trimmed = false ∧ hostIdFromInnerAddr a.flow.srcAddr = some ("yellow", 0) ∧
      ¬ CountedTwice ⟨4, 4, 8, ["green", "yellow"]⟩ "yellow" 5 a
        (after ⟨4, 4, by decide, by decide⟩ ⟨4, 4, 8, ["green", "yellow"]⟩ "yellow" 5
          (fun _ _ => none) groupText "2001:db8:cccc:05::2" [])
        (after ⟨4, 4, by decide, by decide⟩ ⟨4, 4, 8, ["green", "yellow"]⟩ "yellow" 5
          (fun _ _ => none) groupText "2001:db8:cccc:05::2" [.frame "eth1" (seqFrame (2 ^ 32))]) := by
  refine ⟨⟨⟨"2001:db8:cccc:0:0:0:0:2", "2001:db8:cccc:5:0:0:0:2", 9999, 9999⟩, 2 ^ 32, 0, 0, false⟩,
    by decide +kernel, rfl, by decide +kernel, fun h => ?_⟩
  obtain ⟨flowKey, e, hkey, hplane, hpath, hseen, -⟩ := h.window
  have hflow : flowKey = ⟨2, 0, 5⟩ := by
    have hval : agentFlowKey ⟨4, 4, 8, ["green", "yellow"]⟩ "yellow" 5
        ⟨"2001:db8:cccc:0:0:0:0:2", "2001:db8:cccc:5:0:0:0:2", 9999, 9999⟩ = some ⟨2, 0, 5⟩ := by
      decide +kernel
    exact Option.some.inj (hkey.symm.trans hval)
  have he : e = (⟨0, by decide⟩, ⟨0, by decide⟩) := Prod.ext (Fin.ext hplane) (Fin.ext hpath)
  rw [hflow, he] at hseen
  exact absurd hseen (by decide +kernel)

end Counting

end MrcReceiver

end Srv6Mrc
