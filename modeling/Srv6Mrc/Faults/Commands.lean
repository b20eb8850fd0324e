/-
  Runs of `srctl fault`: the file covers the damage as long as every command meets its condition.

  What is kept from command to command is that the file covers the damage and that no two of its
  faults have one id (`Ledger`); with the ids apart, `clear` removes from the file what it reverted
  and nothing else (`mem_cleared`).
-/
import Srv6Mrc.Faults.Covered

namespace Srv6Mrc

open Py

/-! ## Ids -/

/-- The number of an id that is made from a number is this number. -/
theorem idNumber_new {n : Nat} (hn : n < 10 ^ maxStrDigits) :
    idNumber ("fault-" ++ decPad 3 n) = some (n : Int) := by
  have hread : intOfText (decPad 3 n) = some (n : Int) := intOfText_decPad (by decide) hn
  have hlist : ("fault-" ++ decPad 3 n).toList =
      ['-'].intercalate ["fault".toList, (decPad 3 n).toList] := by
    have hdash : "fault-".toList = "fault".toList ++ ['-'] := by decide
    rw [String.toList_append, hdash, List.intercalate]
    simp
  have hsplit : ("fault-" ++ decPad 3 n).toList.splitOn '-' =
      ["fault".toList, (decPad 3 n).toList] := by
    rw [hlist]
    refine List.splitOn_intercalate _ (fun part hpart => ?_) (List.cons_ne_nil _ _)
    rcases List.mem_pair.mp hpart with rfl | rfl
    · decide
    · intro hmem
      unfold decPad at hmem
      rw [String.toList_ofList] at hmem
      rcases List.mem_append.mp hmem with hzero | hdigit
      · exact absurd (List.eq_of_mem_replicate hzero) (by decide)
      · exact absurd ((digits_toDigits n).2 _ hdigit) (by decide)
  unfold idNumber
  rw [if_pos, hsplit]
  · rw [List.getElem?_cons_succ, List.getElem?_cons_zero, Option.bind_some, String.ofList_toList]
    exact hread
  · rw [List.isPrefixOf_iff_prefix, String.toList_append]
    exact List.prefix_append _ _

/-- A turn of the loop for `max_id`. -/
theorem foldl_maxId (faults : List LedgerFault) (m : Int) :
    let top := faults.foldl (fun m f => match idNumber f.id with | some n => max m n | none => m) m
    m ≤ top ∧ ∀ f ∈ faults, ∀ n, idNumber f.id = some n → n ≤ top := by
  induction faults generalizing m with
  | nil => exact ⟨le_refl m, fun f hf => absurd hf List.not_mem_nil⟩
  | cons f faults ih =>
    rw [List.foldl_cons]
    cases hf : idNumber f.id with
    | none =>
      obtain ⟨hle, hall⟩ := ih m
      refine ⟨hle, List.forall_mem_cons.mpr ⟨fun n hn => ?_, hall⟩⟩
      rw [hf] at hn
      exact nomatch hn
    | some k =>
      obtain ⟨hle, hall⟩ := ih (max m k)
      refine ⟨(le_max_left m k).trans hle, List.forall_mem_cons.mpr ⟨fun n hn => ?_, hall⟩⟩
      rw [hf] at hn
      exact Option.some.inj hn ▸ (le_max_right m k).trans hle

/-- A new id is not in the file. -/
theorem generateFaultId_fresh {faults : List LedgerFault} {id : String}
    (h : generateFaultId faults = .ok id) : ∀ f ∈ faults, f.id ≠ id := by
  obtain ⟨hpos, hmax⟩ := foldl_maxId faults 0
  unfold generateFaultId at h
  change 0 ≤ maxId faults at hpos
  change ∀ f ∈ faults, ∀ n, idNumber f.id = some n → n ≤ maxId faults at hmax
  generalize maxId faults = m at h hpos hmax
  dsimp only at h
  split_ifs at h with hprint
  rintro f hf rfl
  have hsmall : (m + 1).toNat < 10 ^ maxStrDigits := by
    have habs : (m + 1).natAbs < 10 ^ maxStrDigits := of_decide_eq_true hprint
    have hsame : (m + 1).natAbs = (m + 1).toNat := by omega
    rwa [hsame] at habs
  have hle := hmax f hf (m + 1).toNat (by rw [← Except.ok.inj h]; exact idNumber_new hsmall)
  omega

/-- With the ids apart, the faults that are removed are those with the ids that were given. -/
theorem mem_foldl_removeFault (sel : List LedgerFault) {faults : List LedgerFault}
    (h : (faults.map (·.id)).Nodup) :
    (∀ g, g ∈ sel.foldl (fun file f => removeFault f.id file) faults ↔
      g ∈ faults ∧ ∀ f ∈ sel, f.id ≠ g.id) ∧
    ((sel.foldl (fun file f => removeFault f.id file) faults).map (·.id)).Nodup := by
  induction sel generalizing faults with
  | nil => exact ⟨fun g => ⟨fun hg => ⟨hg, fun f hf => absurd hf List.not_mem_nil⟩, fun hg => hg.1⟩, h⟩
  | cons f sel ih =>
    have hmem : ∀ g, g ∈ removeFault f.id faults ↔ g ∈ faults ∧ f.id ≠ g.id := by
      intro g
      constructor
      · intro hg
        refine ⟨List.mem_of_mem_eraseP hg, fun heq => ?_⟩
        -- what is left of the file has lost the only fault with this id
        obtain ⟨g', before, after, hnot, hid, hfile, herase⟩ :=
          List.exists_of_eraseP (p := fun f' : LedgerFault => f'.id = f.id)
            (List.mem_of_mem_eraseP hg) (decide_eq_true heq.symm)
        rw [removeFault, herase] at hg
        rw [hfile, List.map_append, List.map_cons, List.nodup_middle] at h
        refine (List.nodup_cons.mp h).1 ?_
        rw [of_decide_eq_true hid, heq, ← List.map_append]
        exact List.mem_map_of_mem hg
      · rintro ⟨hg, hne⟩
        exact (List.mem_eraseP_of_neg (by simpa using hne.symm)).mpr hg
    have hnodup : ((removeFault f.id faults).map (·.id)).Nodup :=
      h.sublist (List.eraseP_sublist.map _)
    obtain ⟨hrest, hres⟩ := ih hnodup
    refine ⟨fun g => ?_, hres⟩
    rw [List.foldl_cons, hrest g, hmem g, List.forall_mem_cons]
    exact and_assoc

/-! ## What is kept -/

/-- The file covers the damage, and its ids are apart. -/
structure Ledger (T : Topo) (s : Srctl) : Prop where
  covered : Covered T s
  ids : (s.file.map (·.id)).Nodup

section Steps

variable {T : Topo} {topo : String} {L : TopologyLinks} {runner : Runner}

/-- The damage has become no more. -/
theorem Ledger.failed {s : Srctl} (h : Ledger T s) {ran : List Ran}
    (hlinks : ∀ e, linkDown ran e → linkDown s.ran e)
    (hnics : ∀ q ∈ installed ran, q ∈ installed s.ran) : Ledger T { s with ran := ran } :=
  ⟨⟨fun e he => h.covered.links e (hlinks e he), fun q hq => h.covered.nics q (hnics q hq)⟩, h.ids⟩

/-- The damage has become no more than a new fault covers. -/
theorem Ledger.record {s : Srctl} (h : Ledger T s) {ran : List Ran} {new : LedgerFault}
    (hid : generateFaultId s.file = .ok new.id)
    (hlinks : ∀ e, linkDown ran e → linkDown s.ran e ∨ new.ClaimsLink e)
    (hnics : ∀ q ∈ installed ran, q ∈ installed s.ran ∨ new.ClaimsNic T q.1) :
    Ledger T ⟨ran, s.file ++ [new]⟩ := by
  refine ⟨⟨fun e he => ?_, fun q hq => ?_⟩, ?_⟩
  · rcases hlinks e he with hold | hnew
    · obtain ⟨f, hf, hclaims⟩ := h.covered.links e hold
      exact ⟨f, List.mem_append_left _ hf, hclaims⟩
    · exact ⟨new, List.mem_append_right _ List.mem_cons_self, hnew⟩
  · rcases hnics q hq with hold | hnew
    · obtain ⟨f, hf, hclaims⟩ := h.covered.nics q hold
      exact ⟨f, List.mem_append_left _ hf, hclaims⟩
    · exact ⟨new, List.mem_append_right _ List.mem_cons_self, hnew⟩
  · have hfresh := generateFaultId_fresh hid
    rw [List.map_append, List.map_singleton, ← List.concat_eq_append]
    refine h.ids.concat fun hmem => ?_
    obtain ⟨f, hf, heq⟩ := List.mem_map.mp hmem
    exact hfresh f hf heq

theorem record_ok (type : FaultType) (targets : List InterfaceEndpoint) (spec : String)
    (bidirectional : Bool) (s : Srctl) {id : String} (h : generateFaultId s.file = .ok id) :
    (record type targets spec bidirectional s).1 =
      ⟨s.ran, s.file ++ [⟨id, type, targets, spec, bidirectional⟩]⟩ := by
  unfold record
  rw [h]

/-- The conditions of a `clear` of these faults: none has a qdisc in place, every interface of theirs
    is set up, and none of these is down for another fault too. -/
structure ClearOk (T : Topo) (runner : Runner) (s : Srctl) (sel : List LedgerFault) : Prop where
  qdiscs : ∀ f ∈ sel, ∀ q ∈ installed s.ran, ¬ f.ClaimsNic T q.1
  up : AllUp runner s.ran (upTargets sel)
  apart : ∀ f ∈ sel, ∀ g ∈ s.file, g ∉ sel → ∀ e, linkDown s.ran e → f.ClaimsLink e →
    ¬ g.ClaimsLink e

/-- The condition of a command: it does not get stuck half way, there is an id for the fault, and what
    is cleared has no qdisc in place. -/
def StepOk (T : Topo) (topo : String) (L : TopologyLinks) (runner : Runner) (s : Srctl) :
    Command → Prop
  | .shutdown node interfaces unidirectional =>
    let interfaces := shutdownInterfaces L node interfaces
    (∀ iface ∈ interfaces, "Ethernet".toList.isPrefixOf iface.toList) →
      ¬ PartialShutdown runner s.ran (shutdownTargets L node interfaces unidirectional) ∧
        ∃ id, generateFaultId s.file = .ok id
  | .netem target spec =>
    ¬ NetemSticks topo runner { ran := s.ran } (nicSteps T ⟨target, spec⟩) ∧
      ∃ id, generateFaultId s.file = .ok id
  | .clear all node interface => ClearOk T runner s (selected all node interface s.file)

theorem shutdown_ledger {node : String} {interfaces : List String} {unidirectional : Bool}
    {s : Srctl} (h : Ledger T s)
    (hok : StepOk T topo L runner s (.shutdown node interfaces unidirectional)) :
    Ledger T (cmdFaultShutdown L runner node interfaces unidirectional s).1 ∧
      s.file ⊆ (cmdFaultShutdown L runner node interfaces unidirectional s).1.file := by
  unfold cmdFaultShutdown
  dsimp only
  split_ifs with hrefused
  · exact ⟨h, List.Subset.refl _⟩
  · rw [not_or, Bool.not_eq_true', Bool.not_eq_false, List.all_eq_true] at hrefused
    obtain ⟨hhalf, id, hid⟩ := hok hrefused.2
    generalize shutdownTargets L node (shutdownInterfaces L node interfaces) unidirectional = ts
      at hhalf ⊢
    obtain ⟨hqdiscs, hdown⟩ := shutdown_effects runner ts s.ran
    have hfailed := shutdown_failed runner ts s.ran
    generalize Outcome.forEach (setInterface runner false) ts s.ran = o at hqdiscs hdown hfailed ⊢
    have hkept : o.raised ≠ none → Ledger T { s with ran := o.state } := fun hraised =>
      h.failed (fun e he => hfailed hraised hhalf e ▸ he) fun q hq => hqdiscs ▸ hq
    obtain ⟨ran, _ | err⟩ := o
    · dsimp only at hqdiscs hdown ⊢
      have hnew := record_ok .shutdown ts "down" (!unidirectional) { s with ran := ran } hid
      rw [hnew]
      refine ⟨h.record hid (fun e he => ?_) fun q hq => .inl (hqdiscs ▸ hq),
        List.subset_append_left _ _⟩
      exact (hdown e he).imp_right fun ⟨t, ht, hnames⟩ => ⟨rfl, t, ht, hnames⟩
    · have hledger := hkept (Option.some_ne_none _)
      cases err <;> exact ⟨hledger, List.Subset.refl _⟩

/-- The steps of a fault are over the NICs of its target. -/
theorem mem_nicSteps {fault : NetemFault} {nic : NICTarget} {tokens : List String}
    (h : .nic nic tokens ∈ nicSteps T fault) :
    ∃ nics, parseTarget T fault.target = .ok nics ∧ nic ∈ nics := by
  unfold nicSteps at h
  cases hresolve : fault.resolve T with
  | error err =>
    rw [hresolve] at h
    simp at h
  | ok parsed =>
    obtain ⟨nics, tokens'⟩ := parsed
    rw [hresolve] at h
    obtain ⟨nic', hnic, heq⟩ := List.mem_map.mp h
    obtain ⟨nics', hnics, hrest⟩ := Outcome.bind_ok.mp hresolve
    obtain ⟨tokens'', -, hpair⟩ := Outcome.bind_ok.mp hrest
    have hsame : nics' = nics := (Prod.mk.inj (Except.ok.inj hpair)).1
    refine ⟨nics', hnics, ?_⟩
    rw [hsame, ← (NicStep.nic.inj heq).1]
    exact hnic

theorem netem_ledger {target spec : String} {s : Srctl} (h : Ledger T s)
    (hok : StepOk T topo L runner s (.netem target spec)) :
    Ledger T (cmdFaultNetem T topo runner target spec s).1 ∧
      s.file ⊆ (cmdFaultNetem T topo runner target spec s).1.file := by
  obtain ⟨hsticks, id, hid⟩ := hok
  obtain ⟨hlinks, hqdiscs⟩ := apply_effects topo runner
    (nicSteps T ⟨target, spec⟩) { ran := s.ran }
  unfold cmdFaultNetem
  have happly : apply T topo runner false [⟨target, spec⟩] { ran := s.ran } =
      Outcome.forEach (applyStep topo runner) (nicSteps T ⟨target, spec⟩) { ran := s.ran } := by
    rw [apply_eq, List.flatMap_cons, List.flatMap_nil, List.append_nil]
  rw [happly]
  generalize Outcome.forEach (applyStep topo runner) (nicSteps T ⟨target, spec⟩)
    { ran := s.ran } = o at hlinks hqdiscs ⊢
  obtain ⟨t, _ | err⟩ := o
  · dsimp only at hlinks hqdiscs ⊢
    have hnew := record_ok .netem [⟨"netem", target⟩] spec false { s with ran := t.ran } hid
    rw [hnew]
    refine ⟨h.record hid (fun e he => .inl (hlinks e ▸ he)) fun q hq => ?_,
      List.subset_append_left _ _⟩
    refine (hqdiscs q hq).1.imp_right fun ⟨tokens, hmem⟩ => ?_
    obtain ⟨nics, hnics, hnic⟩ := mem_nicSteps hmem
    exact ⟨rfl, ⟨"netem", target⟩, nics, rfl, hnics, hnic⟩
  · dsimp only at hlinks hqdiscs ⊢
    refine ⟨h.failed (fun e he => hlinks e ▸ he) fun q hq => ?_, List.Subset.refl _⟩
    exact ((hqdiscs q hq).2 (Option.some_ne_none _) hsticks).1

/-- What is selected is in the file. -/
theorem selected_subset {all : Bool} {node interface : String} {faults : List LedgerFault} :
    selected all node interface faults ⊆ faults := by
  unfold selected
  split_ifs
  · exact List.Subset.refl _
  · exact List.nil_subset _
  · exact List.filter_subset_self _
  · exact List.filter_subset_self _

/-- `clear` removes from the file what it reverted, and nothing else. -/
theorem mem_cleared (all : Bool) (node interface : String) {faults : List LedgerFault}
    (h : (faults.map (·.id)).Nodup) :
    let sel := selected all node interface faults
    let file := if all then [] else sel.foldl (fun file f => removeFault f.id file) faults
    (∀ g, g ∈ file ↔ g ∈ faults ∧ g ∉ sel) ∧ (file.map (·.id)).Nodup := by
  cases all with
  | true =>
    refine ⟨fun g => ?_, List.nodup_nil⟩
    rw [if_pos rfl]
    exact iff_of_false List.not_mem_nil fun hg => hg.2 hg.1
  | false =>
    obtain ⟨hmem, hnodup⟩ := mem_foldl_removeFault (selected false node interface faults) h
    refine ⟨fun g => ?_, hnodup⟩
    rw [if_neg Bool.false_ne_true, hmem g]
    refine and_congr_right fun hg => ?_
    constructor
    · intro hid hsel
      exact hid g hsel rfl
    · intro hsel f hf hid
      -- two faults of the file with one id are one
      have hsame : f = g := List.inj_on_of_nodup_map h (selected_subset hf) hg hid
      exact hsel (hsame ▸ hf)

/-- A clear that meets its conditions. -/
theorem clear_ledger {all : Bool} {node interface : String} {s : Srctl} (h : Ledger T s)
    (hok : ClearOk T runner s (selected all node interface s.file)) :
    Ledger T (cmdFaultClear runner all node interface s).1 ∧
      Released T s (cmdFaultClear runner all node interface s).1 ∧
      Kept T s (cmdFaultClear runner all node interface s).1 := by
  obtain ⟨hraised, hqdiscs, hdown⟩ := up_effects hok.up
  rw [← revert_eq] at hraised hqdiscs hdown
  obtain ⟨hmem, hnodup⟩ := mem_cleared all node interface h.ids
  unfold cmdFaultClear
  dsimp only at hmem hnodup ⊢
  by_cases hnone : (!all) = true ∧ node = ""
  · rw [if_pos hnone]
    -- neither `--all` nor a node: nothing is cleared
    exact ⟨h, ⟨fun f hf hnot => absurd hf hnot, fun f hf hnot => absurd hf hnot⟩,
      ⟨fun f _ _ e _ he => he, fun f _ _ q hq _ => hq⟩⟩
  · rw [if_neg hnone]
    generalize Outcome.forEach (revertFault runner) (selected all node interface s.file) s.ran = o
      at hraised hqdiscs hdown ⊢
    generalize (if all then [] else (selected all node interface s.file).foldl
      (fun file f => removeFault f.id file) s.file) = file at hmem hnodup ⊢
    obtain ⟨ran, _ | err⟩ := o
    · dsimp only at hqdiscs hdown ⊢
      refine ⟨⟨⟨fun e he => ?_, fun q hq => ?_⟩, hnodup⟩, ⟨fun f hf hnot e hclaims => ?_,
        fun f hf hnot q hq => ?_⟩, ⟨fun f hf hstays e hclaims he => ?_, fun f _ _ q hq _ => ?_⟩⟩
      · -- what is still down is claimed by a fault that stays
        obtain ⟨hbefore, hother⟩ := (hdown e).mp he
        obtain ⟨f, hf, hclaims⟩ := h.covered.links e hbefore
        exact ⟨f, (hmem f).mpr ⟨hf, fun hsel => hother (mem_upTargets.mpr ⟨f, hsel, hclaims⟩)⟩,
          hclaims⟩
      · rw [hqdiscs] at hq
        obtain ⟨f, hf, hclaims⟩ := h.covered.nics q hq
        exact ⟨f, (hmem f).mpr ⟨hf, fun hsel => hok.qdiscs f hsel q hq hclaims⟩, hclaims⟩
      · -- what a cleared fault claimed is up
        have hsel : f ∈ selected all node interface s.file :=
          by_contra fun hsel => hnot ((hmem f).mpr ⟨hf, hsel⟩)
        rw [Bool.eq_false_iff]
        intro he
        exact ((hdown e).mp he).2 (mem_upTargets.mpr ⟨f, hsel, hclaims⟩)
      · have hsel : f ∈ selected all node interface s.file :=
          by_contra fun hsel => hnot ((hmem f).mpr ⟨hf, hsel⟩)
        exact hok.qdiscs f hsel q (hqdiscs ▸ hq)
      · -- and what no cleared fault claims stays down
        refine (hdown e).mpr ⟨he, fun hup => ?_⟩
        obtain ⟨g, hg, hgclaims⟩ := mem_upTargets.mp hup
        exact hok.apart g hg f hf ((hmem f).mp hstays).2 e he hgclaims hclaims
      · rw [hqdiscs]
        exact hq
    · exact absurd hraised (Option.some_ne_none _)

/-! ## Runs -/

/-- Something holds of every command of a run, and the state it starts in. -/
def Srctl.Along (T : Topo) (topo : String) (L : TopologyLinks) (runner : Runner)
    (P : Srctl → Command → Prop) : Srctl → List Command → Prop
  | _, [] => True
  | s, c :: cs => P s c ∧ Srctl.Along T topo L runner P (s.step T topo L runner c) cs

/-- A command leaves the damage covered; what leaves the file is undone; and a clear undoes nothing
    of what stays in it. -/
structure StepSound (T : Topo) (topo : String) (L : TopologyLinks) (runner : Runner) (s : Srctl)
    (c : Command) : Prop where
  covered : Covered T (s.step T topo L runner c)
  released : Released T s (s.step T topo L runner c)
  kept : ∀ all node interface, c = .clear all node interface → Kept T s (s.step T topo L runner c)

theorem step_ledger {s : Srctl} {c : Command} (h : Ledger T s) (hok : StepOk T topo L runner s c) :
    Ledger T (s.step T topo L runner c) ∧ StepSound T topo L runner s c := by
  have hnone : ∀ s' : Srctl, s.file ⊆ s'.file → Released T s s' := fun s' hsub =>
    ⟨fun f hf hnot => absurd (hsub hf) hnot, fun f hf hnot => absurd (hsub hf) hnot⟩
  cases c with
  | shutdown node interfaces unidirectional =>
    have hstep : s.step T topo L runner (.shutdown node interfaces unidirectional) =
        (cmdFaultShutdown L runner node interfaces unidirectional s).1 := rfl
    obtain ⟨hledger, hsub⟩ := shutdown_ledger h hok
    rw [← hstep] at hledger hsub
    refine ⟨hledger, hledger.covered, hnone _ hsub, ?_⟩
    intro all node interface heq
    cases heq
  | netem target spec =>
    have hstep : s.step T topo L runner (.netem target spec) =
        (cmdFaultNetem T topo runner target spec s).1 := rfl
    obtain ⟨hledger, hsub⟩ := netem_ledger h hok
    rw [← hstep] at hledger hsub
    refine ⟨hledger, hledger.covered, hnone _ hsub, ?_⟩
    intro all node interface heq
    cases heq
  | clear all node interface =>
    obtain ⟨hledger, hreleased, hkept⟩ := clear_ledger h hok
    exact ⟨hledger, hledger.covered, hreleased, fun _ _ _ _ => hkept⟩

theorem along_ledger {s : Srctl} {cmds : List Command} (h : Ledger T s)
    (hok : Srctl.Along T topo L runner (StepOk T topo L runner) s cmds) :
    Srctl.Along T topo L runner (StepSound T topo L runner) s cmds := by
  induction cmds generalizing s with
  | nil => trivial
  | cons c cs ih =>
    obtain ⟨hledger, hsound⟩ := step_ledger h hok.1
    exact ⟨hsound, ih hledger hok.2⟩

end Steps

/-- From nothing, whatever the commands are and whatever they meet: as long as each command meets its
    condition, each is sound. -/
theorem ledger_along (T : Topo) (topo : String) (L : TopologyLinks) (runner : Runner)
    (cmds : List Command)
    (h : Srctl.Along T topo L runner (StepOk T topo L runner) {} cmds) :
    Srctl.Along T topo L runner (StepSound T topo L runner) {} cmds := by
  refine along_ledger ⟨⟨fun e he => ?_, fun q hq => absurd hq List.not_mem_nil⟩, List.nodup_nil⟩ h
  exact absurd he Bool.false_ne_true

/-- An interface is set down, a qdisc put on a NIC, and the interface set up again. -/
theorem ledger_along_shutdown :
    let T : Topo := ⟨4, 8, 16, ["green", "yellow"]⟩
    let runner : Runner := fun _ _ => ⟨0, "123\n", ""⟩
    Srctl.Along T "lab" ⟨[]⟩ runner (StepSound T "lab" ⟨[]⟩ runner) {}
      [.shutdown "p0-leaf00" ["Ethernet0"] true, .netem "host green-host00 plane 0" "loss 5%",
        .clear false "p0-leaf00" ""] := by
  intro T runner
  refine ledger_along T "lab" ⟨[]⟩ runner _
    ⟨fun _ => ⟨?_, "fault-001", by decide +kernel⟩, ⟨?_, "fault-002", by decide +kernel⟩, ?_, trivial⟩
  · -- no command of the shutdown fails
    rintro ⟨t, rest, r, hts, -, hfails⟩
    have htargets : shutdownTargets ⟨[]⟩ "p0-leaf00" (shutdownInterfaces ⟨[]⟩ "p0-leaf00"
        ["Ethernet0"]) true = [⟨"p0-leaf00", "Ethernet0"⟩] := by
      decide +kernel
    rw [htargets] at hts
    rw [← (List.cons.inj hts).2] at hfails
    cases hfails
  · have hsteps : nicSteps T ⟨"host green-host00 plane 0", "loss 5%"⟩ =
        [.nic ⟨"green-host00", "eth1"⟩ ["loss", "5%"]] := by
      rfl
    rw [hsteps]
    intro h
    cases h with
    | noPid _ h => exact h rfl
    | undo hpid hadd _ => exact absurd hadd (by simp [runner, RunResult.success])
    | next _ _ h => cases h
  · have hfile : ((({} : Srctl).step T "lab" ⟨[]⟩ runner
        (.shutdown "p0-leaf00" ["Ethernet0"] true)).step T "lab" ⟨[]⟩ runner
        (.netem "host green-host00 plane 0" "loss 5%")).file =
          [⟨"fault-001", .shutdown, [⟨"p0-leaf00", "Ethernet0"⟩], "down", false⟩,
            ⟨"fault-002", .netem, [⟨"netem", "host green-host00 plane 0"⟩], "loss 5%", false⟩] := by
      decide +kernel
    have hsel : selected false "p0-leaf00" "" ((({} : Srctl).step T "lab" ⟨[]⟩ runner
        (.shutdown "p0-leaf00" ["Ethernet0"] true)).step T "lab" ⟨[]⟩ runner
        (.netem "host green-host00 plane 0" "loss 5%")).file =
          [⟨"fault-001", .shutdown, [⟨"p0-leaf00", "Ethernet0"⟩], "down", false⟩] := by
      rw [hfile]
      decide
    rw [StepOk, hsel]
    refine ⟨fun f hf q _ hclaims => ?_, ?_, fun f hf g hg hnot e _ _ hclaims => ?_⟩
    · rw [List.mem_singleton.mp hf] at hclaims
      exact nomatch hclaims.1
    · exact .cons ⟨"eth1", by rfl, rfl, rfl⟩ .nil
    · rw [hfile] at hg
      rcases List.mem_pair.mp hg with rfl | rfl
      · exact hnot List.mem_cons_self
      · exact nomatch hclaims.1

/-- Clearing a netem fault deletes nothing: the qdisc stays, and the fault is gone. -/
theorem not_ledger_netem :
    let T : Topo := ⟨4, 8, 16, ["green", "yellow"]⟩
    let runner : Runner := fun _ _ => ⟨0, "123\n", ""⟩
    ¬ Srctl.Along T "lab" ⟨[]⟩ runner (StepSound T "lab" ⟨[]⟩ runner) {}
      [.netem "host green-host00 plane 0" "loss 5%", .clear true "" ""] := by
  intro T runner h
  obtain ⟨f, hf, -⟩ := h.2.1.covered.nics (⟨"green-host00", "eth1"⟩, 123) (by decide +kernel)
  have hfile : ((({} : Srctl).step T "lab" ⟨[]⟩ runner
      (.netem "host green-host00 plane 0" "loss 5%")).step T "lab" ⟨[]⟩ runner
      (.clear true "" "")).file = [] := by
    decide +kernel
  rw [hfile] at hf
  exact absurd hf List.not_mem_nil

end Srv6Mrc
