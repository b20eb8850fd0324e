/-
  Who a receiver's flow is counted for.

  A row is joined with the first flow between its addresses, and nothing keeps another row from being
  joined with the same one: what is matched is written down for the orphans only.  So two senders of
  one pair of hosts, as when a pair is in two flow entries of a scenario, both show all the packets.
  That is the only way to it (`attributed_iff`).
-/
import Srv6Mrc.Report.Merge
import Srv6Mrc.Scenario.Cli
import Srv6Mrc.Scenario.Settled

namespace Srv6Mrc

open Py

section Attribution

variable {V : Type} {T : Topo}

/-! ## What the report should say -/

/-- The flows of a record are kept by address and port, and an address is printed in one way. -/
structure Keyed (r : RecvRecord V) : Prop where
  keyed : (r.flows.map fun f => (f.src, f.dst, f.sport, f.dport)).Nodup
  src_printed : ∀ f ∈ r.flows, ∀ g ∈ r.flows, canonAddr f.src = canonAddr g.src → f.src = g.src
  dst_printed : ∀ f ∈ r.flows, ∀ g ∈ r.flows, canonAddr f.dst = canonAddr g.dst → f.dst = g.dst

/-- The counts of a flow in the record of a host are copied into a row. -/
def FlowRow.Copies (row : FlowRow V) (host : String) (f : RecvFlow V) : Prop :=
  row.sender.dst = host ∧ row.matched = some f

/-- The addresses of a sender, in the form in which they are compared. -/
def SenderRecord.HasAddrs (T : Topo) (s : SenderRecord V) (src dst : String) : Prop :=
  ∃ srcAddr dstAddr, s.addrs T = some (.ok (srcAddr, dstAddr)) ∧
    canonAddr srcAddr = src ∧ canonAddr dstAddr = dst

/-- Every flow that a receiver saw is attributed, once. -/
structure Attributed [DecidableEq V] (T : Topo) (senders : List (SenderRecord V))
    (kept : Dict String (RecvRecord V)) (report : ScenarioReport V) : Prop where
  /-- One row for each sender, in order. -/
  rows : report.flows.map FlowRow.sender = senders
  /-- No counts in two rows. -/
  once : report.flows.Pairwise fun row row' => ∀ host f, row.Copies host f → ¬ row'.Copies host f
  /-- In a row of the same addresses, or in the list of orphans. -/
  covered : ∀ host recv, kept.get host = some recv → ∀ f ∈ recv.flows,
    (∃ row ∈ report.flows, row.Copies host f ∧
      row.sender.HasAddrs T (canonAddr f.src) (canonAddr f.dst) ∧
      report.warnings.count (.orphan host f) = 0) ∨
    (∀ row ∈ report.flows, ¬ row.Copies host f) ∧ report.warnings.count (.orphan host f) = 1

/-! ## What one sender is joined with -/

/-- The flow that a row is joined with. -/
def matchOf (T : Topo) (kept : Dict String (RecvRecord V)) (s : SenderRecord V) :
    Except TopoError (Option (RecvFlow V)) :=
  match kept.get s.dst with
  | none => .ok none
  | some recv =>
    match s.addrs T with
    | none => .ok none
    | some (.error err) => .error err
    | some (.ok (srcAddr, dstAddr)) =>
      .ok (recv.flows.find? (RecvFlow.between (canonAddr srcAddr) (canonAddr dstAddr)))

variable {kept : Dict String (RecvRecord V)} {s : SenderRecord V} {m m' : Merge V}

theorem RecvFlow.between_iff {f : RecvFlow V} {src dst : String} :
    f.between src dst = true ↔ canonAddr f.src = src ∧ canonAddr f.dst = dst := decide_eq_true_iff

/-- The flow is the first one between the addresses, in the record of the host. -/
theorem matchOf_ok {o : Option (RecvFlow V)} (h : matchOf T kept s = .ok o) :
    (o = none ∧ ∀ recv src dst, kept.get s.dst = some recv → s.HasAddrs T src dst →
      ∀ f ∈ recv.flows, ¬ f.between src dst) ∨
    ∃ recv f, o = some f ∧ kept.get s.dst = some recv ∧
      s.HasAddrs T (canonAddr f.src) (canonAddr f.dst) ∧
      recv.flows.find? (RecvFlow.between (canonAddr f.src) (canonAddr f.dst)) = some f := by
  unfold matchOf at h
  cases hrecv : kept.get s.dst with
  | none =>
    rw [hrecv] at h
    refine Or.inl ⟨(Except.ok.inj h).symm, fun recv _ _ hget => ?_⟩
    cases hget
  | some recv =>
    rw [hrecv] at h
    match haddrs : s.addrs T with
    | none =>
      rw [haddrs] at h
      refine Or.inl ⟨(Except.ok.inj h).symm, ?_⟩
      rintro _ _ _ _ ⟨_, _, hnone, -⟩
      rw [haddrs] at hnone
      cases hnone
    | some (.error err) =>
      rw [haddrs] at h
      cases h
    | some (.ok (srcAddr, dstAddr)) =>
      rw [haddrs] at h
      have ho := Except.ok.inj h
      cases hfind : recv.flows.find? (RecvFlow.between (canonAddr srcAddr) (canonAddr dstAddr)) with
      | none =>
        rw [hfind] at ho
        refine Or.inl ⟨ho.symm, ?_⟩
        rintro recv' _ _ hget ⟨srcAddr', dstAddr', hsome, rfl, rfl⟩ f hf
        rw [haddrs] at hsome
        cases hsome
        cases hget
        exact List.find?_eq_none.mp hfind f hf
      | some f =>
        rw [hfind] at ho
        obtain ⟨hs, hd⟩ := RecvFlow.between_iff.mp (List.find?_some hfind)
        refine Or.inr ⟨recv, f, ho.symm, rfl, ⟨srcAddr, dstAddr, haddrs, hs.symm, hd.symm⟩, ?_⟩
        rw [hs, hd]
        exact hfind

/-- A turn adds the row of its sender, and writes down the flow it is joined with. -/
theorem mergeSender_spec {o : Option (RecvFlow V)} (h : matchOf T kept s = .ok o) :
    ∃ m', mergeSender T kept m s = .ok m' ∧
      (∃ row, m'.rows = m.rows ++ [row] ∧ row.sender = s ∧ row.matched = o) ∧
      ∀ k, k ∈ m'.matched ↔ (∃ f, o = some f ∧ k = f.key s.dst) ∨ k ∈ m.matched := by
  have hnone : ∀ row : FlowRow V, row.matched = none → row.sender = s → o = none →
      ∃ m', (.ok { m with rows := m.rows ++ [row] } : Except TopoError (Merge V)) = .ok m' ∧
        (∃ row, m'.rows = m.rows ++ [row] ∧ row.sender = s ∧ row.matched = o) ∧
        ∀ k, k ∈ m'.matched ↔ (∃ f, o = some f ∧ k = f.key s.dst) ∨ k ∈ m.matched := by
    rintro row hmatched hsender rfl
    exact ⟨_, rfl, ⟨row, rfl, hsender, hmatched⟩, fun k => ⟨Or.inr, fun h =>
      h.resolve_left fun ⟨f, hf, _⟩ => Option.some_ne_none f hf.symm⟩⟩
  unfold matchOf at h
  unfold mergeSender
  cases hrecv : kept.get s.dst with
  | none =>
    rw [hrecv] at h
    exact hnone _ rfl rfl (Except.ok.inj h).symm
  | some recv =>
    rw [hrecv] at h
    match haddrs : s.addrs T with
    | none =>
      rw [haddrs] at h
      exact hnone _ rfl rfl (Except.ok.inj h).symm
    | some (.error err) =>
      rw [haddrs] at h
      cases h
    | some (.ok (srcAddr, dstAddr)) =>
      rw [haddrs] at h
      have ho := Except.ok.inj h
      dsimp only at ho ⊢
      cases hfind : recv.flows.find? (RecvFlow.between (canonAddr srcAddr) (canonAddr dstAddr)) with
      | none =>
        rw [hfind] at ho
        exact hnone _ rfl rfl ho.symm
      | some f =>
        rw [hfind] at ho
        obtain ⟨hs, hd⟩ := RecvFlow.between_iff.mp (List.find?_some hfind)
        rw [← ho]
        refine ⟨_, rfl, ⟨_, rfl, rfl, rfl⟩, fun k => ?_⟩
        rw [List.mem_cons, ← hs, ← hd]
        refine or_congr_left ⟨fun hk => ⟨f, rfl, hk⟩, ?_⟩
        rintro ⟨g, hg, hk⟩
        rw [hk, ← Option.some.inj hg]
        rfl

theorem mergeSender_error {err : TopoError} (h : matchOf T kept s = .error err) :
    mergeSender T kept m s = .error err := by
  unfold matchOf at h
  unfold mergeSender
  cases hrecv : kept.get s.dst with
  | none =>
    rw [hrecv] at h
    cases h
  | some recv =>
    rw [hrecv] at h
    match haddrs : s.addrs T with
    | none =>
      rw [haddrs] at h
      cases h
    | some (.error err') =>
      rw [haddrs] at h
      exact congrArg Except.error (Except.error.inj h)
    | some (.ok addrs) =>
      rw [haddrs] at h
      cases h

/-! ## The loop over the senders -/

/-- After some senders: the rows, and what is written down of them. -/
structure Merged (T : Topo) (kept : Dict String (RecvRecord V)) (senders : List (SenderRecord V))
    (m : Merge V) : Prop where
  rows : m.rows.map FlowRow.sender = senders
  joined : ∀ row ∈ m.rows, matchOf T kept row.sender = .ok row.matched
  matched : ∀ k, k ∈ m.matched ↔ ∃ row ∈ m.rows, ∃ f, row.matched = some f ∧ k = f.key row.sender.dst

variable (T kept) in
theorem merged_nil : Merged T kept [] {} where
  rows := rfl
  joined := by simp
  matched := by simp

/-- A sender with addresses is one row more. -/
theorem Merged.next {senders : List (SenderRecord V)} (hm : Merged T kept senders m)
    {o : Option (RecvFlow V)} (h : matchOf T kept s = .ok o) :
    ∃ m', mergeSender T kept m s = .ok m' ∧ Merged T kept (senders ++ [s]) m' := by
  obtain ⟨m', hmerge, ⟨row, hrows, hsender, hrow⟩, hmatched⟩ := mergeSender_spec (m := m) h
  refine ⟨m', hmerge, ?_, ?_, fun k => ?_⟩
  · rw [hrows, List.map_append, hm.rows, List.map_singleton, hsender]
  · rw [hrows]
    intro row' hrow'
    rcases List.mem_append.mp hrow' with hold | hnew
    · exact hm.joined row' hold
    · rw [List.mem_singleton.mp hnew, hsender, hrow]
      exact h
  · rw [hmatched, hm.matched, hrows]
    simp only [List.mem_append, List.mem_singleton, or_and_right, exists_or, exists_eq_left, hsender,
      hrow]
    exact or_comm

/-- If every sender has its addresses where they are needed, the loop comes to its end. -/
theorem merged_foldlM {before senders : List (SenderRecord V)} (hm : Merged T kept before m)
    (h : ∀ s ∈ senders, ∃ o, matchOf T kept s = .ok o) :
    ∃ m', senders.foldlM (mergeSender T kept) m = .ok m' ∧ Merged T kept (before ++ senders) m' := by
  induction senders generalizing before m with
  | nil => exact ⟨m, rfl, by rwa [List.append_nil]⟩
  | cons s senders ih =>
    obtain ⟨o, ho⟩ := h s List.mem_cons_self
    obtain ⟨m₁, hstep, hm₁⟩ := hm.next ho
    obtain ⟨m', hrest, hm'⟩ := ih hm₁ fun s' hs' => h s' (List.mem_cons_of_mem s hs')
    refine ⟨m', ?_, ?_⟩
    · rw [List.foldlM_cons, hstep]
      exact hrest
    · rwa [List.append_assoc, List.singleton_append] at hm'

/-- If all are merged, all have addresses. -/
theorem matchOf_of_foldlM {senders : List (SenderRecord V)}
    (h : senders.foldlM (mergeSender T kept) m = .ok m') :
    ∀ s ∈ senders, ∃ o, matchOf T kept s = .ok o := by
  induction senders generalizing m with
  | nil => exact fun _ hs => absurd hs List.not_mem_nil
  | cons s senders ih =>
    rw [List.foldlM_cons] at h
    cases ho : matchOf T kept s with
    | error err =>
      rw [mergeSender_error ho] at h
      cases h
    | ok o =>
      obtain ⟨m₁, hstep, -⟩ := mergeSender_spec (m := m) ho
      rw [hstep] at h
      intro s' hs'
      rcases List.mem_cons.mp hs' with rfl | hs'
      · exact ⟨o, ho⟩
      · exact ih h s' hs'

/-! ## The records that are kept -/

/-- What is kept was received, and no orphan is reported yet. -/
theorem keepRecord_spec {st : Dict String (RecvRecord V) × List (ReportWarning V)}
    {receivers : List (RecvRecord V)} (h : ∀ host r, st.1.get host = some r → r ∈ receivers)
    (hwarn : ∀ host f, ReportWarning.orphan host f ∉ st.2) (r : RecvRecord V) :
    (∀ host r', (keepRecord st r).1.get host = some r' → r' ∈ receivers ++ [r]) ∧
      ∀ host f, ReportWarning.orphan host f ∉ (keepRecord st r).2 := by
  have hsame : ∀ host r', st.1.get host = some r' → r' ∈ receivers ++ [r] :=
    fun host r' hget => List.mem_append_left _ (h host r' hget)
  have hmore : ∀ warning : ReportWarning V, (∀ host f, warning ≠ .orphan host f) →
      ∀ host f, ReportWarning.orphan host f ∉ st.2 ++ [warning] := by
    intro warning hne host f hmem
    rcases List.mem_append.mp hmem with hold | hnew
    · exact hwarn host f hold
    · exact hne host f (List.mem_singleton.mp hnew).symm
  unfold keepRecord
  cases hhost : r.host with
  | none => exact ⟨hsame, hmore _ fun _ _ => nofun⟩
  | some host =>
    dsimp only
    by_cases hold : (st.1.get host).isSome = true
    · rw [if_pos hold]
      exact ⟨hsame, hmore _ fun _ _ => nofun⟩
    · rw [if_neg hold]
      refine ⟨fun host' r' hget => ?_, hwarn⟩
      by_cases heq : host' = host
      · rw [heq, Dict.get_set_self] at hget
        rw [← Option.some.inj hget]
        exact List.mem_append_right _ (List.mem_singleton_self r)
      · rw [Dict.get_set_ne _ _ heq] at hget
        exact hsame host' r' hget

/-- A kept record is one of the records, and the orphans are not listed yet. -/
theorem recvByHost_spec (receivers : List (RecvRecord V)) :
    (∀ host r, (recvByHost receivers).1.get host = some r → r ∈ receivers) ∧
      ∀ host f, ReportWarning.orphan host f ∉ (recvByHost receivers).2 := by
  induction receivers using List.reverseRecOn with
  | nil => exact ⟨fun _ _ hget => absurd hget (by simp [recvByHost]), fun _ _ => List.not_mem_nil⟩
  | append_singleton receivers r ih =>
    have hstep : recvByHost (receivers ++ [r]) = keepRecord (recvByHost receivers) r := by
      rw [recvByHost, List.foldl_append]
      rfl
    rw [hstep]
    exact keepRecord_spec ih.1 ih.2 r

/-! ## Orphans -/

/-- The orphans are the flows that no sender matched. -/
theorem mem_orphans {matched : List MatchKey} {host : String} {f : RecvFlow V} :
    ReportWarning.orphan host f ∈ orphans kept matched ↔
      ∃ recv, kept.get host = some recv ∧ f ∈ recv.flows ∧ f.key host ∉ matched := by
  unfold orphans
  simp only [List.mem_flatMap, List.mem_map, List.mem_filter, decide_eq_true_eq]
  constructor
  · rintro ⟨⟨host', recv⟩, hentry, g, ⟨hg, hkey⟩, heq⟩
    cases heq
    exact ⟨recv, Dict.find_of_mem kept.nodup hentry, hg, hkey⟩
  · rintro ⟨recv, hget, hf, hkey⟩
    exact ⟨(host, recv), Dict.mem_of_find hget, f, ⟨hf, hkey⟩, rfl⟩

/-- Flows with different keys are different. -/
theorem Keyed.nodup {r : RecvRecord V} (h : Keyed r) : r.flows.Nodup := h.keyed.of_map

theorem nodup_orphans {matched : List MatchKey}
    (h : ∀ host recv, kept.get host = some recv → Keyed recv) : (orphans kept matched).Nodup := by
  unfold orphans
  rw [List.nodup_flatMap]
  constructor
  · rintro ⟨host, recv⟩ hentry
    have hkeyed := h host recv (Dict.find_of_mem kept.nodup hentry)
    refine (hkeyed.nodup.filter _).map ?_
    intro f g hfg
    cases hfg
    rfl
  · refine (List.pairwise_map.mp kept.nodup).imp ?_
    rintro ⟨host, recv⟩ ⟨host', recv'⟩ hne warning hw hw'
    obtain ⟨f, -, rfl⟩ := List.mem_map.mp hw
    obtain ⟨g, -, heq⟩ := List.mem_map.mp hw'
    cases heq
    exact hne rfl

/-- Flows of one record are told apart by their keys. -/
theorem Keyed.key_inj {r : RecvRecord V} (h : Keyed r) {f g : RecvFlow V} (hf : f ∈ r.flows)
    (hg : g ∈ r.flows) {host : String} (hkey : f.key host = g.key host) : f = g := by
  have hfields := MatchKey.mk.inj hkey
  obtain ⟨-, hsrc, hdst, hsport, hdport⟩ := hfields
  refine List.inj_on_of_nodup_map h.keyed hf hg ?_
  rw [h.src_printed f hf g hg hsrc, h.dst_printed f hf g hg hdst, hsport, hdport]

/-! ## When every flow is attributed once -/

/-- Where a destination has a record, the addresses of the row exist. -/
def Addressed (T : Topo) (kept : Dict String (RecvRecord V)) (senders : List (SenderRecord V)) : Prop :=
  ∀ s ∈ senders, (kept.get s.dst).isSome → ∀ err, s.addrs T ≠ some (.error err)

/-- Two senders to a host have different addresses, or the record of the host has no flow between
    them. -/
def Apart (T : Topo) (kept : Dict String (RecvRecord V)) (senders : List (SenderRecord V)) : Prop :=
  senders.Pairwise fun s s' => s.dst = s'.dst → ∀ src dst, s.HasAddrs T src dst →
    s'.HasAddrs T src dst → ∀ recv, kept.get s.dst = some recv → ∀ f ∈ recv.flows, ¬ f.between src dst

/-- All senders are matched exactly if they have addresses. -/
theorem addressed_iff {senders : List (SenderRecord V)} :
    (∀ s ∈ senders, ∃ o, matchOf T kept s = .ok o) ↔ Addressed T kept senders := by
  refine forall₂_congr fun s _ => ?_
  unfold matchOf
  cases kept.get s.dst with
  | none => exact ⟨fun _ h => absurd h (by simp), fun _ => ⟨_, rfl⟩⟩
  | some recv =>
    match s.addrs T with
    | none => exact ⟨fun _ _ _ => nofun, fun _ => ⟨_, rfl⟩⟩
    | some (.error err) =>
      constructor
      · rintro ⟨o, ho⟩
        cases ho
      · exact fun h => absurd rfl (h rfl err)
    | some (.ok addrs) => exact ⟨fun _ _ _ => nofun, fun _ => ⟨_, rfl⟩⟩

/-- A sender has one pair of addresses. -/
theorem SenderRecord.HasAddrs.unique {src dst src' dst' : String} (h : s.HasAddrs T src dst)
    (h' : s.HasAddrs T src' dst') : src = src' ∧ dst = dst' := by
  obtain ⟨srcAddr, dstAddr, haddrs, rfl, rfl⟩ := h
  obtain ⟨srcAddr', dstAddr', haddrs', rfl, rfl⟩ := h'
  rw [haddrs] at haddrs'
  cases haddrs'
  exact ⟨rfl, rfl⟩

/-- What a row copies is in the kept record, between the addresses of the row. -/
theorem copies_of_joined {row : FlowRow V} (h : matchOf T kept row.sender = .ok row.matched)
    {host : String} {f : RecvFlow V} (hcopies : row.Copies host f) :
    ∃ recv, kept.get host = some recv ∧ f ∈ recv.flows ∧
      row.sender.HasAddrs T (canonAddr f.src) (canonAddr f.dst) := by
  obtain ⟨rfl, hmatched⟩ := hcopies
  rcases matchOf_ok h with ⟨hnone, -⟩ | ⟨recv, g, hsome, hget, haddrs, hfind⟩
  · rw [hmatched] at hnone
    cases hnone
  · obtain rfl := Option.some.inj (hmatched.symm.trans hsome)
    exact ⟨recv, hget, List.mem_of_find?_eq_some hfind, haddrs⟩

theorem once_iff {row row' : FlowRow V} (h : matchOf T kept row.sender = .ok row.matched)
    (h' : matchOf T kept row'.sender = .ok row'.matched) :
    (∀ host f, row.Copies host f → ¬ row'.Copies host f) ↔
      (row.sender.dst = row'.sender.dst → ∀ src dst, row.sender.HasAddrs T src dst →
        row'.sender.HasAddrs T src dst → ∀ recv, kept.get row.sender.dst = some recv →
          ∀ f ∈ recv.flows, ¬ f.between src dst) := by
  constructor
  · intro honce hdst src dst haddrs haddrs' recv hget f hf hbetween
    rcases matchOf_ok h with ⟨-, hnone⟩ | ⟨recv₁, f₁, hf₁, hget₁, haddrs₁, hfind₁⟩
    · exact hnone recv src dst hget haddrs f hf hbetween
    · rcases matchOf_ok h' with ⟨-, hnone⟩ | ⟨recv₂, f₂, hf₂, hget₂, haddrs₂, hfind₂⟩
      · exact hnone recv src dst (hdst ▸ hget) haddrs' f hf hbetween
      · -- both are the first flow between the same addresses of the same record
        obtain ⟨hs₁, hd₁⟩ := haddrs₁.unique haddrs
        obtain ⟨hs₂, hd₂⟩ := haddrs₂.unique haddrs'
        rw [hs₁, hd₁] at hfind₁
        rw [hs₂, hd₂] at hfind₂
        rw [← hdst, hget₁] at hget₂
        rw [← Option.some.inj hget₂, hfind₁] at hfind₂
        obtain rfl := Option.some.inj hfind₂
        exact honce row.sender.dst f₁ ⟨rfl, hf₁⟩ ⟨hdst.symm, hf₂⟩
  · intro hapart host f hcopies hcopies'
    obtain ⟨recv, hget, hf, haddrs⟩ := copies_of_joined h hcopies
    obtain ⟨-, -, -, haddrs'⟩ := copies_of_joined h' hcopies'
    exact hapart (hcopies.1.trans hcopies'.1.symm) _ _ haddrs haddrs' recv (hcopies.1 ▸ hget) f hf
      (RecvFlow.between_iff.mpr ⟨rfl, rfl⟩)

/-- No flow is copied twice exactly if the senders are apart. -/
theorem Merged.once_iff {senders : List (SenderRecord V)} (hm : Merged T kept senders m) :
    (m.rows.Pairwise fun row row' => ∀ host f, row.Copies host f → ¬ row'.Copies host f) ↔
      Apart T kept senders := by
  unfold Apart
  rw [← hm.rows, List.pairwise_map]
  exact List.Pairwise.iff_of_mem fun hrow hrow' =>
    Srv6Mrc.once_iff (hm.joined _ hrow) (hm.joined _ hrow')

/-- Every flow that is kept is copied, or an orphan. -/
theorem Merged.covered [DecidableEq V] {senders : List (SenderRecord V)}
    (hm : Merged T kept senders m) (hkeyed : ∀ host recv, kept.get host = some recv → Keyed recv)
    {warnings : List (ReportWarning V)} (hwarn : ∀ host f, ReportWarning.orphan host f ∉ warnings)
    {host : String} {recv : RecvRecord V} (hget : kept.get host = some recv) {f : RecvFlow V}
    (hf : f ∈ recv.flows) :
    (∃ row ∈ m.rows, row.Copies host f ∧
      row.sender.HasAddrs T (canonAddr f.src) (canonAddr f.dst) ∧
      (warnings ++ orphans kept m.matched).count (.orphan host f) = 0) ∨
    (∀ row ∈ m.rows, ¬ row.Copies host f) ∧
      (warnings ++ orphans kept m.matched).count (.orphan host f) = 1 := by
  rw [List.count_append, List.count_eq_zero_of_not_mem (hwarn host f), Nat.zero_add]
  by_cases hkey : f.key host ∈ m.matched
  · obtain ⟨row, hrow, g, hmatched, heq⟩ := (hm.matched _).mp hkey
    have hhost : host = row.sender.dst := congrArg MatchKey.host heq
    obtain ⟨recv', hget', hg, -⟩ := copies_of_joined (hm.joined row hrow) ⟨rfl, hmatched⟩
    rw [← hhost, hget] at hget'
    obtain rfl := Option.some.inj hget'
    rw [← hhost] at heq
    obtain rfl := (hkeyed host recv hget).key_inj hf hg heq
    have hcopies : row.Copies host f := ⟨hhost.symm, hmatched⟩
    obtain ⟨-, -, -, haddrs⟩ := copies_of_joined (hm.joined row hrow) hcopies
    refine Or.inl ⟨row, hrow, hcopies, haddrs, List.count_eq_zero_of_not_mem fun hmem => ?_⟩
    obtain ⟨-, -, -, hnot⟩ := mem_orphans.mp hmem
    exact hnot hkey
  · refine Or.inr ⟨fun row hrow hcopies => hkey ?_, List.count_eq_one_of_mem (nodup_orphans hkeyed)
      (mem_orphans.mpr ⟨recv, hget, hf, hkey⟩)⟩
    exact (hm.matched _).mpr ⟨row, hrow, f, hcopies.2, by rw [hcopies.1]⟩

/-- The report of a loop that came to its end. -/
theorem merged_of_fromRecords {scenarioName : String} {senders : List (SenderRecord V)}
    {receivers : List (RecvRecord V)} {topologyDims : Option (Nat × Nat)} {daemonRecords : List V}
    {report : ScenarioReport V}
    (h : fromRecords T scenarioName senders receivers topologyDims daemonRecords = .ok report) :
    ∃ m, Merged T (recvByHost receivers).1 senders m ∧ report.flows = m.rows ∧
      ∀ s ∈ senders, ∃ o, matchOf T (recvByHost receivers).1 s = .ok o := by
  unfold fromRecords at h
  dsimp only at h
  cases hloop : senders.foldlM (mergeSender T (recvByHost receivers).1) {} with
  | error err =>
    rw [hloop] at h
    cases h
  | ok m =>
    have hok := matchOf_of_foldlM hloop
    obtain ⟨m', hloop', hm⟩ := merged_foldlM (merged_nil T (recvByHost receivers).1) hok
    rw [hloop] at h hloop'
    cases hloop'
    cases h
    exact ⟨m, hm, rfl, hok⟩

/-- Every flow is attributed once exactly if no two senders share the addresses of one. -/
theorem attributed_iff [DecidableEq V] (T : Topo) (scenarioName : String)
    (senders : List (SenderRecord V)) (receivers : List (RecvRecord V))
    (topologyDims : Option (Nat × Nat)) (daemonRecords : List V)
    (hkeyed : ∀ r ∈ receivers, Keyed r) :
    (∃ report, fromRecords T scenarioName senders receivers topologyDims daemonRecords = .ok report ∧
      Attributed T senders (recvByHost receivers).1 report) ↔
    Addressed T (recvByHost receivers).1 senders ∧ Apart T (recvByHost receivers).1 senders := by
  obtain ⟨hkept, hwarn⟩ := recvByHost_spec receivers
  constructor
  · rintro ⟨report, hreport, hattributed⟩
    obtain ⟨m, hm, hrows, hok⟩ := merged_of_fromRecords hreport
    have honce := hattributed.once
    rw [hrows] at honce
    exact ⟨addressed_iff.mp hok, hm.once_iff.mp honce⟩
  · rintro ⟨haddressed, hapart⟩
    obtain ⟨m, hloop, hm⟩ := merged_foldlM (merged_nil T (recvByHost receivers).1)
      (addressed_iff.mpr haddressed)
    unfold fromRecords
    dsimp only
    rw [hloop]
    exact ⟨_, rfl, hm.rows, hm.once_iff.mpr hapart, fun host recv hget f hf =>
      hm.covered (fun host recv hget => hkeyed recv (hkept host recv hget)) hwarn hget hf⟩

end Attribution

/-! ## A pair in two flow entries -/

/-- A record of a sender that sent four packets. -/
def sentFour (src dst tenant : String) : SenderRecord Nat where
  src
  dst
  tenant
  policy := 0
  spine := 0
  ratePps := 100
  durationS := 30
  sent := 4
  elapsedS := 30
  perPlaneSent := []
  perEvSent := []
  errors := 0
  mrc := none
  trim := none

/-- A record of a receiver with one flow. -/
def recvOne (host src dst : String) (received : Nat) : RecvRecord Nat where
  host
  perNic := []
  flows := [{
    src, dst
    sport := sprayPort
    dport := sprayPort
    received
    loss := 0
    duplicates := 0
    reorderMax := 0
    reorderMean := 0
    reorderP99 := 0
    reorderHist := [(0, received)]
    perPlaneRecv := []
    trim := none }]

theorem keyed_recvOne {host src dst : String} {received : Nat} : Keyed (recvOne host src dst received) where
  keyed := List.nodup_singleton _
  src_printed := by
    intro f hf g hg _
    rw [List.mem_singleton.mp hf, List.mem_singleton.mp hg]
  dst_printed := by
    intro f hf g hg _
    rw [List.mem_singleton.mp hf, List.mem_singleton.mp hg]

/-- Two senders to one host, each with its flow. -/
theorem attributed_iff_pairs :
    ∃ report, fromRecords ⟨4, 8, 16, ["green", "yellow"]⟩ "pairs"
      [sentFour "green-host00" "green-host15" "green", sentFour "green-host01" "green-host14" "green"]
      [recvOne "green-host15" "2001:db8:bbbb::2" "2001:db8:bbbb:f::2" 4,
        recvOne "green-host14" "2001:db8:bbbb:1::2" "2001:db8:bbbb:e::2" 3] none [] = .ok report ∧
      Attributed ⟨4, 8, 16, ["green", "yellow"]⟩
        [sentFour "green-host00" "green-host15" "green", sentFour "green-host01" "green-host14" "green"]
        (recvByHost [recvOne "green-host15" "2001:db8:bbbb::2" "2001:db8:bbbb:f::2" 4,
          recvOne "green-host14" "2001:db8:bbbb:1::2" "2001:db8:bbbb:e::2" 3]).1 report := by
  refine (attributed_iff _ _ _ _ _ _ ?_).mpr ⟨?_, ?_⟩
  · intro r hr
    rcases List.mem_pair.mp hr with rfl | rfl
    · exact keyed_recvOne
    · exact keyed_recvOne
  · intro s hs _ err
    rcases List.mem_pair.mp hs with rfl | rfl
    · have haddrs : (sentFour "green-host00" "green-host15" "green").addrs
          ⟨4, 8, 16, ["green", "yellow"]⟩ =
            some (.ok ("2001:db8:bbbb:00::2", "2001:db8:bbbb:0f::2")) := by decide
      rw [haddrs]
      nofun
    · have haddrs : (sentFour "green-host01" "green-host14" "green").addrs
          ⟨4, 8, 16, ["green", "yellow"]⟩ =
            some (.ok ("2001:db8:bbbb:01::2", "2001:db8:bbbb:0e::2")) := by decide
      rw [haddrs]
      nofun
  · refine List.pairwise_pair.mpr fun hdst => ?_
    exact absurd hdst (by decide)

/-- A flow from host 0 to host 15. -/
def entryDoc : Yaml :=
  .dict [(.str "pairs", .str "green-00-15"), (.str "policy", .str "round_robin"),
    (.str "rate", .int 100), (.str "duration", .str "30s")]

/-- A scenario with this pair of hosts in two flow entries. -/
def twiceDoc : Yaml :=
  .dict [(.str "name", .str "twice"), (.str "flows", .list [entryDoc, entryDoc])]

/-- What a flow entry is expanded to. -/
theorem expand_entryDoc {flow : FlowSpec}
    (h : FlowOf ⟨4, 8, 16, ["green", "yellow"]⟩ entryDoc flow) :
    flow.pairs = [⟨"green", 0, 15⟩] ∧ flowCli (fun _ => "") flow = .ok "round_robin" := by
  obtain ⟨d, hd, hpairs, -, hspec, -⟩ := h.dict
  cases hd
  have hnamed : namedPairs ⟨4, 8, 16, ["green", "yellow"]⟩ "green-00-15" =
      some [⟨"green", 0, 15⟩] := by decide
  change namedPairs _ "green-00-15" = some flow.pairs at hpairs
  change flow.policySpec = .str "round_robin" at hspec
  refine ⟨Option.some.inj (hpairs.symm.trans hnamed), ?_⟩
  unfold flowCli
  rw [hspec]
  rfl

/-- The two flows are accepted and expanded; their eight packets are one flow at the receiver, which
    is counted for both. -/
theorem not_attributed_twice :
    (∃ s runs, validate ⟨4, 8, 16, ["green", "yellow"]⟩ twiceDoc = .ok s ∧
      expandFlows (fun _ => "") s = .ok runs ∧
      List.Forall₂ (fun run (r : SenderRecord Nat) =>
        r.src = run.srcHost ∧ r.dst = run.dstHost ∧ r.tenant = run.tenant) runs
        [sentFour "green-host00" "green-host15" "green", sentFour "green-host00" "green-host15" "green"]) ∧
    Keyed (recvOne "green-host15" "2001:db8:bbbb::2" "2001:db8:bbbb:f::2" 8) ∧
    ¬ ∃ report, fromRecords ⟨4, 8, 16, ["green", "yellow"]⟩ "twice"
      [sentFour "green-host00" "green-host15" "green", sentFour "green-host00" "green-host15" "green"]
      [recvOne "green-host15" "2001:db8:bbbb::2" "2001:db8:bbbb:f::2" 8] none [] = .ok report ∧
      Attributed ⟨4, 8, 16, ["green", "yellow"]⟩
        [sentFour "green-host00" "green-host15" "green", sentFour "green-host00" "green-host15" "green"]
        (recvByHost [recvOne "green-host15" "2001:db8:bbbb::2" "2001:db8:bbbb:f::2" 8]).1 report := by
  refine ⟨?_, keyed_recvOne, ?_⟩
  · have hok : (validate ⟨4, 8, 16, ["green", "yellow"]⟩ twiceDoc).toOption.isSome := by
      decide
    cases hs : validate ⟨4, 8, 16, ["green", "yellow"]⟩ twiceDoc with
    | error err =>
      rw [hs] at hok
      exact absurd hok Bool.false_ne_true
    | ok s =>
      obtain ⟨d, hd, hflows⟩ := ((validate_follows twiceDoc).returns s hs).flows
      cases hd
      change List.Forall₂ _ [entryDoc, entryDoc] s.flows at hflows
      obtain ⟨first, rest, hfirst, hrest, hboth⟩ := List.forall₂_cons_left_iff.mp hflows
      obtain ⟨second, rest', hsecond, hrest', rfl⟩ := List.forall₂_cons_left_iff.mp hrest
      obtain rfl := List.forall₂_nil_left_iff.mp hrest'
      obtain ⟨hpairs, hcli⟩ := expand_entryDoc hfirst
      obtain ⟨hpairs', hcli'⟩ := expand_entryDoc hsecond
      refine ⟨s, [flowRun first "round_robin" ⟨"green", 0, 15⟩,
        flowRun second "round_robin" ⟨"green", 0, 15⟩], rfl, ?_, ?_⟩
      · unfold expandFlows
        rw [hboth, List.mapM_cons, List.mapM_cons, List.mapM_nil, hcli, hcli', hpairs, hpairs']
        rfl
      · have hsrc : hostNameInt "green" 0 = "green-host00" := by decide
        have hdst : hostNameInt "green" 15 = "green-host15" := by decide
        exact .cons ⟨hsrc.symm, hdst.symm, rfl⟩ (.cons ⟨hsrc.symm, hdst.symm, rfl⟩ .nil)
  · rintro ⟨report, hreport, hattributed⟩
    obtain ⟨m, hm, hrows, -⟩ := merged_of_fromRecords hreport
    have honce := hattributed.once
    rw [hrows] at honce
    have hapart := List.pairwise_pair.mp (hm.once_iff.mp honce)
    have haddrs : (sentFour "green-host00" "green-host15" "green").HasAddrs
        ⟨4, 8, 16, ["green", "yellow"]⟩ "2001:db8:bbbb::2" "2001:db8:bbbb:f::2" :=
      ⟨"2001:db8:bbbb:00::2", "2001:db8:bbbb:0f::2", by decide, by decide,
        by decide⟩
    exact hapart rfl _ _ haddrs haddrs (recvOne "green-host15" "2001:db8:bbbb::2" "2001:db8:bbbb:f::2" 8)
      (by decide) _ (List.mem_singleton_self _) (by decide)

end Srv6Mrc
