/-
  `srv6_mrc/mrc/run.py`: the MRC daemons that a run starts, and the senders that read what they write.

  A flow under `health_aware_mrc` is not sent with a table of its own.  The daemon of its source host
  has the table and writes a snapshot for each flow; the sender's policy becomes `mrc_snapshot:<path>`,
  and the sender counts what it sends in a file beside that.  The path is put together on both sides,
  from the same parts but in two places.

  It is the same path (`senders_meet_daemons`): each sender reads what its own daemon writes for its
  own flow, no two flows of a host share a file, and no sender is left with a table of its own.
-/
import Srv6Mrc.Daemon.Emission
import Srv6Mrc.Scenario.Arrival

namespace Srv6Mrc

open Py

/-! ## Paths -/

/-- `MRC_SNAPSHOT_BASE` -/
def mrcSnapshotBase : String := "/dev/shm/srv6-mrc"

/-- `f"{n:02d}"` -/
def twoDigits (n : Int) : String :=
  if n < 0 then "-" ++ toString n.natAbs else decPad 2 n.toNat

/-- `_snapshot_path_for_flow` -/
def snapshotPathForFlow (srcHost tenant : String) (dstId : Int) : String :=
  mrcSnapshotBase ++ "/" ++ srcHost ++ "/" ++ tenant ++ "_" ++ twoDigits dstId ++ ".json"

/-- `Path(path).with_suffix(suffix)`: the suffix of the last part is what follows its last dot, if the
    dot is neither the first nor the last character of the part. -/
def withSuffix (path suffix : String) : String :=
  let name := path.toList.reverse.takeWhile (· ≠ '/')
  let dir := path.toList.reverse.dropWhile (· ≠ '/')
  let old := name.takeWhile (· ≠ '.')
  let stem := (name.dropWhile (· ≠ '.')).tail
  String.ofList (((if old ≠ [] ∧ stem ≠ [] then stem else name) ++ dir).reverse ++ suffix.toList)

/-- `sent_counters_path` -/
def sentCountersPath (snapshotPath : String) : String := withSuffix snapshotPath ".sent"

namespace MrcDaemon

/-- `Path(snapshot_dir) / src_host` -/
def snapshotDir (base srcHost : String) : String := base ++ "/" ++ srcHost

/-- `_snapshot_path` -/
def snapshotPath (dir : String) (flow : DaemonFlow) : String :=
  dir ++ "/" ++ (flow.tenant ++ "_" ++ twoDigits flow.dstId ++ ".json")

end MrcDaemon

/-! ## The processes of a run -/

/-- `_flow_uses_mrc` -/
def FlowRun.usesMrc (flow : FlowRun) : Bool := flow.policyCli = "health_aware_mrc"

/-- The flow as its daemon has it. -/
def FlowRun.daemonFlow (flow : FlowRun) : DaemonFlow := ⟨flow.tenant, flow.dstId⟩

/-- `_translate_policy_for_daemon` -/
def translatePolicyForDaemon (flow : FlowRun) : String :=
  if ¬ flow.usesMrc then flow.policyCli
  else "mrc_snapshot:" ++ snapshotPathForFlow flow.srcHost flow.tenant flow.dstId

/-- `_select_mrc_daemon_flows` -/
def selectMrcDaemonFlows (flows : List FlowRun) : Dict String (List FlowRun) :=
  flows.foldl (fun byHost f =>
    if ¬ f.usesMrc then byHost
    else byHost.set f.srcHost ((byHost.get f.srcHost).getD [] ++ [f])) ∅

/-- The daemons that `run_flows` starts, if MRC is on: the flows of each, as it reads them back from
    `--flows-json`. -/
def daemonProcs (mrcEnabled : Bool) (flows : List FlowRun) (host : String) :
    Option (List DaemonFlow) :=
  if mrcEnabled then
    ((selectMrcDaemonFlows flows).get host).map fun group => group.map FlowRun.daemonFlow
  else none

/-- `src_host` in `cmd_mrc_daemon`: what `HOSTNAME` is in the container, or else a name made up. -/
def daemonHost (hostname : Option String) (myId : Int) : String :=
  match hostname with
  | some name => if name = "" then "host" ++ twoDigits myId else name
  | none => "host" ++ twoDigits myId

/-- The policy that `_do_send` gives to the sender of a flow. -/
def senderPolicy (mrcEnabled : Bool) (flows : List FlowRun) (flow : FlowRun) : String :=
  if mrcEnabled ∧ (selectMrcDaemonFlows flows).entries ≠ [] then translatePolicyForDaemon flow
  else flow.policyCli

/-! ## Texts -/

/-- Different numbers are printed differently. -/
theorem twoDigits_inj {m n : Int} (hm : 0 ≤ m) (hn : 0 ≤ n) (h : twoDigits m = twoDigits n) :
    m = n := by
  unfold twoDigits at h
  rw [if_neg (by omega), if_neg (by omega)] at h
  have := Fabric.decPad_inj h
  omega

theorem not_mem_twoDigits {c : Char} (hc : c.isDigit = false) {n : Int} (hn : 0 ≤ n) :
    c ∉ (twoDigits n).toList := by
  unfold twoDigits
  rw [if_neg (by omega)]
  exact Fabric.not_mem_decPad hc 2 n.toNat

/-! ## The files of a flow -/

/-- Both sides put the same path together. -/
theorem snapshotPath_eq (srcHost : String) (flow : DaemonFlow) :
    MrcDaemon.snapshotPath (MrcDaemon.snapshotDir mrcSnapshotBase srcHost) flow
      = snapshotPathForFlow srcHost flow.tenant flow.dstId := by
  unfold MrcDaemon.snapshotPath MrcDaemon.snapshotDir snapshotPathForFlow
  simp only [String.append_assoc]

/-- The path of a flow's files, but for the suffix. -/
def flowStem (srcHost : String) (flow : DaemonFlow) : String :=
  mrcSnapshotBase ++ "/" ++ srcHost ++ "/" ++ flow.tenant ++ "_" ++ twoDigits flow.dstId

/-- `x.json` becomes `x.sent`, if something stands before the dot. -/
theorem withSuffix_json {stem : String} {cs : List Char} {c : Char} (h : stem.toList = cs ++ [c])
    (hc : c ≠ '/') : withSuffix (stem ++ ".json") ".sent" = stem ++ ".sent" := by
  have hrev : (stem ++ ".json").toList.reverse
      = 'n' :: 'o' :: 's' :: 'j' :: '.' :: stem.toList.reverse := by
    rw [String.toList_append, List.reverse_append]
    rfl
  have hname : stem.toList.reverse.takeWhile (· ≠ '/') ≠ [] := by
    rw [h, List.reverse_append, List.reverse_singleton, List.singleton_append,
      List.takeWhile_cons_of_pos (p := fun x => decide (x ≠ '/')) (decide_eq_true hc)]
    exact List.cons_ne_nil _ _
  have hold : ∀ cs : List Char, ('n' :: 'o' :: 's' :: 'j' :: '.' :: cs).takeWhile (· ≠ '.')
      = ['n', 'o', 's', 'j'] := fun _ => rfl
  have hstem : ∀ cs : List Char, ('n' :: 'o' :: 's' :: 'j' :: '.' :: cs).dropWhile (· ≠ '.')
      = '.' :: cs := fun _ => rfl
  have hslash : ∀ cs : List Char, ('n' :: 'o' :: 's' :: 'j' :: '.' :: cs).takeWhile (· ≠ '/')
      = 'n' :: 'o' :: 's' :: 'j' :: '.' :: cs.takeWhile (· ≠ '/') := fun _ => rfl
  have hdir : ∀ cs : List Char, ('n' :: 'o' :: 's' :: 'j' :: '.' :: cs).dropWhile (· ≠ '/')
      = cs.dropWhile (· ≠ '/') := fun _ => rfl
  unfold withSuffix
  dsimp only
  rw [hrev, hslash, hdir, hold, hstem, List.tail_cons, if_pos ⟨List.cons_ne_nil _ _, hname⟩,
    List.takeWhile_append_dropWhile, List.reverse_reverse, ← String.toList_append,
    String.ofList_toList]

/-- The counter file is named like the snapshot. -/
theorem sentCountersPath_snapshot (srcHost : String) {flow : DaemonFlow} (h : 0 ≤ flow.dstId) :
    sentCountersPath (flowStem srcHost flow ++ ".json") = flowStem srcHost flow ++ ".sent" := by
  have hdigits : (twoDigits flow.dstId).toList ≠ [] := by
    intro hnil
    have hlen := congrArg List.length hnil
    rw [twoDigits, if_neg (by omega), toList_decPad, List.length_leftpad, List.length_nil] at hlen
    omega
  obtain ⟨cs, c, hcs⟩ := (List.eq_nil_or_concat' (twoDigits flow.dstId).toList).resolve_left hdigits
  have hsplit : (flowStem srcHost flow).toList
      = ((mrcSnapshotBase ++ "/" ++ srcHost ++ "/" ++ flow.tenant ++ "_").toList ++ cs) ++ [c] := by
    rw [flowStem, String.toList_append, hcs, List.append_assoc]
  refine withSuffix_json hsplit ?_
  rintro rfl
  refine not_mem_twoDigits (c := '/') (by decide) h ?_
  rw [hcs]
  exact List.mem_append_right _ (List.mem_singleton_self _)

/-- The flows of a host have files of their own. -/
theorem flowStem_inj {srcHost : String} {flow flow' : DaemonFlow} (h : 0 ≤ flow.dstId)
    (h' : 0 ≤ flow'.dstId) (hstem : flowStem srcHost flow = flowStem srcHost flow') :
    flow = flow' := by
  have hsplit : ∀ f : DaemonFlow, (flowStem srcHost f).toList
      = ((mrcSnapshotBase ++ "/" ++ srcHost ++ "/").toList ++ f.tenant.toList) ++
        '_' :: (twoDigits f.dstId).toList := by
    intro f
    rw [flowStem, String.toList_append, String.toList_append, String.toList_append,
      List.append_assoc]
    rfl
  have hlist := congrArg String.toList hstem
  rw [hsplit, hsplit] at hlist
  obtain ⟨hhead, hdigits⟩ := after_sep_inj (not_mem_twoDigits (by decide) h)
    (not_mem_twoDigits (by decide) h') hlist
  have htenant := String.toList_inj.mp (List.append_cancel_left hhead)
  have hdst := twoDigits_inj h h' (String.toList_inj.mp hdigits)
  cases flow
  cases flow'
  exact congrArg₂ DaemonFlow.mk htenant hdst

theorem json_ne_sent (a b : String) : a ++ ".sent" ≠ b ++ ".json" := by
  intro h
  have hlast := congrArg (fun text : String => text.toList.reverse.head?) h
  simp only [String.toList_append, List.reverse_append] at hlast
  exact absurd (show some 't' = some 'n' from hlast) (by decide)

/-! ## The daemons of a run -/

/-- The daemon of a host has its flows that need one, in order; without any there is none. -/
theorem get_selectMrcDaemonFlows (flows : List FlowRun) (host : String) :
    (selectMrcDaemonFlows flows).get host
      = if flows.filter (fun f => f.usesMrc ∧ f.srcHost = host) = [] then none
        else some (flows.filter fun f => f.usesMrc ∧ f.srcHost = host) := by
  induction flows using List.reverseRecOn with
  | nil => rfl
  | append_singleton flows f ih =>
    have hstep : selectMrcDaemonFlows (flows ++ [f])
        = if ¬ f.usesMrc then selectMrcDaemonFlows flows
          else (selectMrcDaemonFlows flows).set f.srcHost
            (((selectMrcDaemonFlows flows).get f.srcHost).getD [] ++ [f]) := by
      unfold selectMrcDaemonFlows
      rw [List.foldl_append]
      rfl
    rw [hstep, List.filter_append]
    by_cases huses : f.usesMrc
    · rw [if_neg (not_not.mpr huses)]
      by_cases hhost : f.srcHost = host
      · subst hhost
        have hone : [f].filter (fun g => g.usesMrc ∧ g.srcHost = f.srcHost) = [f] :=
          List.filter_cons_of_pos (decide_eq_true ⟨huses, rfl⟩)
        rw [Dict.get_set_self, ih, hone, if_neg (List.append_ne_nil_of_right_ne_nil _
          (List.cons_ne_nil _ _))]
        split
        · rename_i hnil
          rw [hnil]
          rfl
        · rfl
      · have hone : [f].filter (fun g => g.usesMrc ∧ g.srcHost = host) = [] :=
          List.filter_cons_of_neg (by simp [hhost])
        rw [Dict.get_set_ne _ _ fun h => hhost h.symm, ih, hone, List.append_nil]
    · have hone : [f].filter (fun g => g.usesMrc ∧ g.srcHost = host) = [] :=
        List.filter_cons_of_neg (by simp [huses])
      rw [if_pos huses, ih, hone, List.append_nil]

/-- The daemon of a host has the flows that use MRC there. -/
theorem daemonProcs_some {flows : List FlowRun} {host : String} {group : List DaemonFlow}
    (h : daemonProcs true flows host = some group) :
    group = (flows.filter fun f => f.usesMrc ∧ f.srcHost = host).map FlowRun.daemonFlow ∧
      group ≠ [] := by
  unfold daemonProcs at h
  rw [if_pos rfl, get_selectMrcDaemonFlows] at h
  split at h
  · cases h
  · rename_i hne
    cases h
    exact ⟨rfl, fun hnil => hne (List.map_eq_nil_iff.mp hnil)⟩

/-- A flow that uses MRC has a daemon on its host. -/
theorem daemonProcs_serves {flows : List FlowRun} {run : FlowRun} (hrun : run ∈ flows)
    (huses : run.usesMrc) : ∃ group, daemonProcs true flows run.srcHost = some group ∧
      run.daemonFlow ∈ group ∧ (selectMrcDaemonFlows flows).entries ≠ [] := by
  have hmem : run ∈ flows.filter fun f => f.usesMrc ∧ f.srcHost = run.srcHost :=
    List.mem_filter.mpr ⟨hrun, decide_eq_true ⟨huses, rfl⟩⟩
  have hget := get_selectMrcDaemonFlows flows run.srcHost
  rw [if_neg (List.ne_nil_of_mem hmem)] at hget
  refine ⟨_, ?_, List.mem_map_of_mem hmem, fun hnil => ?_⟩
  · rw [daemonProcs, if_pos rfl, hget]
    rfl
  · rw [Dict.get, hnil] at hget
    cases hget

/-! ## The senders -/

section Read

variable {T : Topo} {tenant : String} {evConfig : Option EVStateConfig}

/-- The head of the form ends at its colon. -/
theorem formHead_snapshot : "mrc_snapshot:".toList = "mrc_snapshot".toList ++ [':'] ∧
    ("mrc_snapshot".toList.all fun c => !isSpace c) ∧ "mrc_snapshot".toList.all (· != ':') ∧
    (∀ rest, startsWith "weighted:" ("mrc_snapshot".toList ++ ':' :: rest) = false) ∧
    ∀ rest, startsWith "ev_spray:" ("mrc_snapshot".toList ++ ':' :: rest) = false :=
  ⟨by decide, by decide, by decide, fun _ => rfl, fun _ => rfl⟩

/-- The path is not cut: what follows its last colon is no number. -/
theorem parsePolicy_snapshot (stem : String) (pathsPerPlane : Option Int) :
    parsePolicy T tenant evConfig ("mrc_snapshot:" ++ (stem ++ ".json")) pathsPerPlane
      = ((MrcSnapshot.new tenant (pathsPerPlane.getD T.numSpines) T.numPlanes T.numSpines
          200).mapError .policy).map (.mrcSnapshot (stem ++ ".json")) := by
  obtain ⟨hhead, hspaces, hcolons, hweighted, hspray⟩ := formHead_snapshot
  have hrest : (stem ++ ".json").toList = (stem ++ ".jso").toList ++ ['n'] := by
    rw [String.toList_append, String.toList_append, List.append_assoc]
    rfl
  have hkept : (stem ++ ".json").toList.rdropWhile isSpace = (stem ++ ".json").toList := by
    rw [hrest, List.rdropWhile_concat_neg _ _ _ (by decide)]
  have hcs : strip isSpace ("mrc_snapshot:" ++ (stem ++ ".json")).toList
      = "mrc_snapshot".toList ++ ':' :: (stem ++ ".json").toList := by
    rw [String.toList_append, hhead, List.append_assoc]
    refine (strip_form hspaces (stem ++ ".json").toList).trans ?_
    rw [hkept]
  have hsuffix : ∀ path suffix, rsplitColon (stem ++ ".json").toList = some (path, suffix) →
      isDigitText suffix = false := by
    intro path suffix h
    unfold rsplitColon at h
    split at h
    · obtain ⟨-, rfl⟩ := Prod.mk.inj (Option.some.inj h)
      have hn : 'n' ∈ ((stem ++ ".json").toList.reverse.takeWhile (· ≠ ':')).reverse := by
        rw [List.mem_reverse, hrest, List.reverse_append, List.reverse_singleton,
          List.singleton_append, List.takeWhile_cons_of_pos (by decide)]
        exact List.mem_cons_self
      rw [isDigitText, Bool.and_eq_false_iff]
      refine Or.inr (List.all_eq_false.mpr ⟨'n', hn, by decide⟩)
    · cases h
  have hkept : ((MrcSnapshot.new tenant (pathsPerPlane.getD T.numSpines) T.numPlanes T.numSpines
      200).mapError ParseError.policy >>= fun policy =>
        .ok (LivePolicy.mrcSnapshot (String.ofList (stem ++ ".json").toList) policy))
      = ((MrcSnapshot.new tenant (pathsPerPlane.getD T.numSpines) T.numPlanes T.numSpines
          200).mapError .policy).map (.mrcSnapshot (stem ++ ".json")) := by
    rw [String.ofList_toList]
    cases MrcSnapshot.new tenant (pathsPerPlane.getD T.numSpines) T.numPlanes T.numSpines 200 <;> rfl
  unfold parsePolicy
  dsimp only
  rw [hcs, hweighted, hspray, if_neg Bool.false_ne_true, if_neg Bool.false_ne_true,
    if_pos (startsWith_form hhead _), afterColon_form hcolons]
  unfold parseSnapshot
  cases hsplit : rsplitColon (stem ++ ".json").toList with
  | none => exact hkept
  | some parts =>
    obtain ⟨path, suffix⟩ := parts
    dsimp only
    rw [hsuffix path suffix hsplit, if_neg Bool.false_ne_true]
    exact hkept

/-- Only the bare name makes a policy with a table of its own. -/
theorem parsePolicy_own {s : String} {pathsPerPlane : Option Int} {policy : HealthAwareMrc}
    (h : parsePolicy T tenant evConfig s pathsPerPlane = .ok (.healthAwareMrc policy)) :
    String.ofList (strip isSpace s.toList) = "health_aware_mrc" := by
  unfold parsePolicy at h
  dsimp only at h
  split at h
  · obtain ⟨_, -, h⟩ := Outcome.bind_ok.mp h
    obtain ⟨_, -, h⟩ := Outcome.bind_ok.mp h
    cases h
  split at h
  · split at h
    · obtain ⟨_, -, h⟩ := Outcome.bind_ok.mp h
      cases h
    · cases h
  split at h
  · unfold parseSnapshot at h
    dsimp only at h
    split at h
    · split at h
      · split at h
        · obtain ⟨_, -, h⟩ := Outcome.bind_ok.mp h
          obtain ⟨_, -, h⟩ := Outcome.bind_ok.mp h
          cases h
        · cases h
      · obtain ⟨_, -, h⟩ := Outcome.bind_ok.mp h
        obtain ⟨_, -, h⟩ := Outcome.bind_ok.mp h
        cases h
    · obtain ⟨_, -, h⟩ := Outcome.bind_ok.mp h
      obtain ⟨_, -, h⟩ := Outcome.bind_ok.mp h
      cases h
  split at h
  · obtain ⟨_, -, h⟩ := Outcome.bind_ok.mp h
    cases h
  · obtain ⟨p, hp, hresolve⟩ := Outcome.bind_ok.mp h
    by_contra hne
    have hspec : policyFromSpec T (.str (String.ofList (strip isSpace s.toList))) = .ok p := by
      unfold fromSpec at hp
      cases hq : policyFromSpec T (.str (String.ofList (strip isSpace s.toList))) with
      | error err =>
        rw [hq] at hp
        cases hp
      | ok q =>
        rw [hq] at hp
        exact congrArg Except.ok (Except.ok.inj hp)
    rw [policyFromSpec] at hspec
    split_ifs at hspec
    · cases hspec
      cases hresolve
    · cases hspec
      cases hresolve
    · obtain ⟨q, -, rfl⟩ := Outcome.map_ok.mp hspec
      cases hresolve

/-- So the text of a policy does that only if it is the name. -/
theorem own_table {str : Yaml → String} {spec : Yaml} {p : SpecPolicy}
    (hspec : policyFromSpec T spec = .ok p) {cli : String} (hcli : policyToCli str spec = .ok cli)
    (hne : cli ≠ "health_aware_mrc") (pathsPerPlane : Option Int) (policy : HealthAwareMrc) :
    parsePolicy T tenant evConfig cli pathsPerPlane ≠ .ok (.healthAwareMrc policy) := by
  intro h
  have hname := parsePolicy_own h
  have hform : ∀ head ∈ ["weighted", "ev_spray"], ∀ rest : String,
      String.ofList (strip isSpace (head ++ ":" ++ rest).toList) ≠ "health_aware_mrc" := by
    intro head hhead rest heq
    obtain ⟨-, hheads, -⟩ := formHeads
    have hcs : (head ++ ":" ++ rest).toList = head.toList ++ ':' :: rest.toList := by
      rw [String.toList_append, String.toList_append, List.append_assoc]
      rfl
    rw [hcs, strip_form (hheads head hhead).1] at heq
    have hchars := congrArg (fun text : String => text.toList.head?) heq
    simp only [String.toList_ofList] at hchars
    rcases List.mem_pair.mp hhead with rfl | rfl
    · exact absurd (show some 'w' = some 'h' from hchars) (by decide)
    · exact absurd (show some 'e' = some 'h' from hchars) (by decide)
  cases spec with
  | str s =>
    cases hcli
    have hplain : ∀ s ∈ ["round_robin", "hash5tuple", "ev_spray"],
        strip isSpace s.toList = s.toList := by decide
    have hmem : cli ∈ ["round_robin", "hash5tuple", "ev_spray"] := by
      rw [policyFromSpec] at hspec
      split_ifs at hspec with hround hhash hspray
      · simp [hround]
      · simp [hhash]
      · simp [hspray]
    rw [hplain cli hmem, String.ofList_toList] at hname
    exact hne hname
  | dict entries =>
    rcases entries with _ | ⟨⟨kind, value⟩, _ | ⟨second, rest⟩⟩
    · cases hcli
    · rw [policyToCli] at hcli
      split_ifs at hcli with hweighted hspray
      · obtain ⟨_, -, hcli⟩ := Outcome.bind_ok.mp hcli
        obtain ⟨texts, -, hcli⟩ := Outcome.bind_ok.mp hcli
        cases hcli
        exact hform "weighted" (by simp) _ hname
      · obtain ⟨_, -, hcli⟩ := Outcome.bind_ok.mp hcli
        obtain ⟨text, -, hcli⟩ := Outcome.bind_ok.mp hcli
        cases hcli
        exact hform "ev_spray" (by simp) _ hname
    · cases hcli
  | null | bool | int | float | list => cases hcli

end Read

/-! ## The runs of a scenario -/

variable {T : Topo}

/-- The pairs of a named set have ids that are not negative. -/
theorem namedPairSets_nonneg : ∀ set ∈ namedPairSets T, ∀ p ∈ set.2, 0 ≤ p.src ∧ 0 ≤ p.dst := by
  have hfixed : ∀ (tenant : String) (pairs : List (Int × Int)),
      (∀ q ∈ pairs, 0 ≤ q.1 ∧ 0 ≤ q.2) → ∀ p ∈ flowPairs tenant pairs, 0 ≤ p.src ∧ 0 ≤ p.dst := by
    intro tenant pairs h p hp
    obtain ⟨q, hq, rfl⟩ := List.mem_map.mp hp
    exact h q hq
  intro set hset
  rcases List.mem_append.mp hset with hset | hset
  · simp only [List.mem_cons, List.not_mem_nil, or_false] at hset
    rcases hset with rfl | rfl | rfl | rfl | rfl | rfl <;> exact hfixed _ _ (by decide)
  · obtain ⟨tenant, -, hset⟩ := List.mem_flatMap.mp hset
    simp only [List.mem_cons, List.not_mem_nil, or_false] at hset
    rcases hset with rfl | rfl | rfl
    · intro p hp
      obtain ⟨i, j, -, -, -, rfl⟩ := mem_allToAllPairs.mp hp
      exact ⟨Int.natCast_nonneg i, Int.natCast_nonneg j⟩
    · intro p hp
      obtain ⟨i, hi, rfl⟩ := List.mem_map.mp hp
      have hpos : 0 < T.numLeaves := Nat.zero_lt_of_lt (List.mem_range.mp hi)
      exact ⟨Int.natCast_nonneg i, Int.emod_nonneg _ (by omega)⟩
    · intro p hp
      obtain ⟨i, hi, rfl⟩ := List.mem_map.mp hp
      have hlt := List.mem_range.mp hi
      exact ⟨Int.natCast_nonneg i, by show 0 ≤ (T.numLeaves : Int) - 1 - i; omega⟩

/-- The hosts of a pair are not negative. -/
theorem pairsOf_nonneg {v : Yaml} {pairs : List FlowPair} (h : PairsOf T v pairs) :
    ∀ p ∈ pairs, 0 ≤ p.src ∧ 0 ≤ p.dst := by
  cases v with
  | str name =>
    obtain ⟨set, hset, rfl⟩ := Option.map_eq_some_iff.mp h
    exact namedPairSets_nonneg set (List.mem_reverse.mp (List.mem_of_find?_eq_some hset))
  | null | bool | int | float | list | dict =>
    exact fun p hp => ⟨(h.2 p hp).src_range.1, (h.2 p hp).dst_range.1⟩

/-- So they are in a scenario that is accepted. -/
theorem pairs_of_validate {doc : Yaml} {s : Scenario} (h : validate T doc = .ok s) :
    ∀ flow ∈ s.flows, ∀ p ∈ flow.pairs, 0 ≤ p.src ∧ 0 ≤ p.dst := by
  obtain ⟨d, -, hflows⟩ := ((validate_follows doc).returns s h).flows
  clear h
  generalize s.flows = flows at hflows
  generalize items (field "flows" d) = vs at hflows
  induction hflows with
  | nil => exact fun _ h => absurd h List.not_mem_nil
  | cons hflow _ ih =>
    obtain ⟨d, -, hpairs, -⟩ := hflow.dict
    exact List.forall_mem_cons.mpr ⟨pairsOf_nonneg hpairs, ih⟩

/-- A run of a validated scenario: its policy was accepted, and its hosts have their names. -/
theorem run_of_scenario {str : Yaml → String} {doc : Yaml} {s : Scenario}
    (h : validate T doc = .ok s) {runs : List FlowRun} (hruns : expandFlows str s = .ok runs)
    {run : FlowRun} (hrun : run ∈ runs) :
    (∃ spec p, policyFromSpec T spec = .ok p ∧ policyToCli str spec = .ok run.policyCli) ∧
      0 ≤ run.srcId ∧ 0 ≤ run.dstId ∧ run.srcHost = hostNameInt run.tenant run.srcId := by
  obtain ⟨rows, hrows, hflat⟩ := Outcome.bind_ok.mp hruns
  cases hflat
  obtain ⟨row, hrow, hmem⟩ := List.mem_flatten.mp hrun
  obtain ⟨flow, hflow, hturn⟩ := (Outcome.mem_mapM hrows).1 row hrow
  obtain ⟨cli, hcli, hturn⟩ := Outcome.bind_ok.mp hturn
  cases hturn
  obtain ⟨pair, hpair, rfl⟩ := List.mem_map.mp hmem
  obtain ⟨p, hp⟩ := policy_of_validate h flow hflow
  obtain ⟨hsrc, hdst⟩ := pairs_of_validate h flow hflow pair hpair
  exact ⟨⟨flow.policySpec, p, hp, flowCli_ok.mp hcli⟩, hsrc, hdst, rfl⟩

/-- The daemon writes where the sender reads if and only if its container tells it the host's name:
    the name that it makes up is no host's. -/
theorem daemonHost_iff {run : FlowRun} (hsrc : 0 ≤ run.srcId)
    (hhost : run.srcHost = hostNameInt run.tenant run.srcId) (hostname : Option String) :
    MrcDaemon.snapshotPath (MrcDaemon.snapshotDir mrcSnapshotBase (daemonHost hostname run.srcId))
        run.daemonFlow = snapshotPathForFlow run.srcHost run.tenant run.dstId ↔
      hostname = some run.srcHost := by
  have hdash : '-' ∈ run.srcHost.toList := by
    rw [hhost, hostNameInt, if_neg (by omega), hostNameOf, String.toList_append,
      String.toList_append]
    exact List.mem_append_left _ (List.mem_append_right _ (by decide))
  have hmade : '-' ∉ ("host" ++ twoDigits run.srcId).toList := by
    rw [String.toList_append]
    intro hmem
    rcases List.mem_append.mp hmem with hmem | hmem
    · exact absurd hmem (by decide)
    · exact not_mem_twoDigits (by decide) hsrc hmem
  have hpath : ∀ host, MrcDaemon.snapshotPath (MrcDaemon.snapshotDir mrcSnapshotBase host)
      run.daemonFlow = snapshotPathForFlow run.srcHost run.tenant run.dstId ↔
        host = run.srcHost := by
    intro host
    have hcancel : ∀ a : String, (MrcDaemon.snapshotPath (MrcDaemon.snapshotDir mrcSnapshotBase a)
        run.daemonFlow).toList = (mrcSnapshotBase ++ "/").toList ++ (a.toList ++
          ("/" ++ (run.tenant ++ "_" ++ twoDigits run.dstId ++ ".json")).toList) := by
      intro a
      simp only [MrcDaemon.snapshotPath, MrcDaemon.snapshotDir, FlowRun.daemonFlow,
        String.toList_append, List.append_assoc]
    rw [show snapshotPathForFlow run.srcHost run.tenant run.dstId = _ from
      (snapshotPath_eq run.srcHost run.daemonFlow).symm]
    constructor
    · intro h
      have hlist := congrArg String.toList h
      rw [hcancel, hcancel] at hlist
      exact String.toList_inj.mp (List.append_cancel_right (List.append_cancel_left hlist))
    · rintro rfl
      rfl
  -- a host that is not named gets `host` and its number, which has no dash
  have hne : "host" ++ twoDigits run.srcId ≠ run.srcHost := fun h => hmade (h ▸ hdash)
  rw [hpath]
  cases hostname with
  | none => exact iff_of_false hne fun h => Option.some_ne_none _ h.symm
  | some name =>
    unfold daemonHost
    dsimp only
    by_cases hempty : name = ""
    · -- the empty name is no name
      rw [if_pos hempty]
      refine iff_of_false hne fun h => ?_
      rw [← Option.some.inj h, hempty] at hdash
      exact absurd hdash (by decide)
    · rw [if_neg hempty]
      exact ⟨congrArg some, Option.some.inj⟩

/-- What `run_flows` starts for a scenario that is accepted.  A host with flows under
    `health_aware_mrc` has a daemon for just these, which are of one tenant and, but for repetitions,
    to different hosts, and have no file in common.  Their senders read the file that the daemon of
    their host writes for their flow, if the container has the host's name; every other sender has
    its own policy; and no sender is left with a table of its own.  Without MRC nothing changes. -/
theorem senders_meet_daemons (T : Topo) (str : Yaml → String) {doc : Yaml} {s : Scenario}
    (h : validate T doc = .ok s) {runs : List FlowRun} (hruns : expandFlows str s = .ok runs) :
    (∀ host group, daemonProcs true runs host = some group → group ≠ [] ∧
      (∀ flow, flow ∈ group ↔
        ∃ run ∈ runs, run.usesMrc ∧ run.srcHost = host ∧ run.daemonFlow = flow) ∧
      (∀ flow ∈ group, ∀ flow' ∈ group, flow.tenant = flow'.tenant) ∧
      (∀ d : MrcDaemon, d.flows = group → d.Distinct) ∧
      ∀ flow ∈ group, ∀ flow' ∈ group,
        let file (f : DaemonFlow) :=
          MrcDaemon.snapshotPath (MrcDaemon.snapshotDir mrcSnapshotBase host) f
        (file flow = file flow' ∨ sentCountersPath (file flow) = sentCountersPath (file flow') →
          flow = flow') ∧ sentCountersPath (file flow) ≠ file flow') ∧
    ∀ run ∈ runs,
      (run.usesMrc = false → senderPolicy true runs run = run.policyCli) ∧
      (run.usesMrc = true → (∃ group, daemonProcs true runs run.srcHost = some group ∧
          run.daemonFlow ∈ group) ∧
        ∃ path, (∀ evConfig pathsPerPlane,
            parsePolicy T run.tenant evConfig (senderPolicy true runs run) pathsPerPlane
              = ((MrcSnapshot.new run.tenant (pathsPerPlane.getD T.numSpines) T.numPlanes
                  T.numSpines 200).mapError .policy).map (.mrcSnapshot path)) ∧
          ∀ hostname, MrcDaemon.snapshotPath (MrcDaemon.snapshotDir mrcSnapshotBase
            (daemonHost hostname run.srcId)) run.daemonFlow = path ↔ hostname = some run.srcHost) ∧
      (∀ evConfig pathsPerPlane policy,
        parsePolicy T run.tenant evConfig (senderPolicy true runs run) pathsPerPlane
          ≠ .ok (.healthAwareMrc policy)) ∧
      daemonProcs false runs run.srcHost = none ∧ senderPolicy false runs run = run.policyCli := by
  constructor
  · -- the daemons: who is in a group, and which files it writes
    intro host group hgroup
    obtain ⟨hfilter, hne⟩ := daemonProcs_some hgroup
    have hmem : ∀ flow, flow ∈ group ↔
        ∃ run ∈ runs, run.usesMrc ∧ run.srcHost = host ∧ run.daemonFlow = flow := by
      intro flow
      simp only [hfilter, List.mem_map, List.mem_filter, decide_eq_true_eq, and_assoc]
    have htenant : ∀ flow ∈ group, ∀ flow' ∈ group, flow.tenant = flow'.tenant := by
      intro flow hflow flow' hflow'
      obtain ⟨run, hrun, -, hhost, rfl⟩ := (hmem flow).mp hflow
      obtain ⟨run', hrun', -, hhost', rfl⟩ := (hmem flow').mp hflow'
      obtain ⟨-, hsrc, -, hname⟩ := run_of_scenario h hruns hrun
      obtain ⟨-, hsrc', -, hname'⟩ := run_of_scenario h hruns hrun'
      exact (hostNameInt_inj hsrc hsrc'
        (hname.symm.trans (hhost.trans (hhost'.symm.trans hname')))).1
    have hdst : ∀ flow ∈ group, 0 ≤ flow.dstId := by
      intro flow hflow
      obtain ⟨run, hrun, -, -, rfl⟩ := (hmem flow).mp hflow
      exact (run_of_scenario h hruns hrun).2.2.1
    refine ⟨hne, hmem, htenant, ?_, ?_⟩
    · -- one host has one tenant, so two flows of a group to one destination are the same
      rintro d rfl flow hflow flow' hflow' hsame
      have hten := htenant flow' hflow' flow hflow
      cases flow
      cases flow'
      exact congrArg₂ DaemonFlow.mk hten hsame
    · -- the two endings tell a snapshot and its counters apart
      intro flow hflow flow' hflow' file
      have hfile : ∀ f, file f = flowStem host f ++ ".json" := snapshotPath_eq host
      have hsent : ∀ f ∈ group, sentCountersPath (file f) = flowStem host f ++ ".sent" := by
        intro f hf
        rw [hfile, sentCountersPath_snapshot host (hdst f hf)]
      rw [hsent flow hflow, hsent flow' hflow', hfile, hfile]
      refine ⟨fun hsame => ?_, json_ne_sent _ _⟩
      have hstem : flowStem host flow = flowStem host flow' := by
        rcases hsame with hsame | hsame
        · exact Fabric.append_right_inj hsame
        · exact Fabric.append_right_inj hsame
      exact flowStem_inj (hdst flow hflow) (hdst flow' hflow') hstem
  · intro run hrun
    obtain ⟨⟨spec, p, hspec, hcli⟩, hsrc, -, hname⟩ := run_of_scenario h hruns hrun
    by_cases huses : run.usesMrc = true
    · -- a flow under MRC: its sender reads the file that the daemon writes for it
      obtain ⟨group, hgroup, hflow, hsome⟩ := daemonProcs_serves hrun huses
      have hpolicy : senderPolicy true runs run
          = "mrc_snapshot:" ++ (flowStem run.srcHost run.daemonFlow ++ ".json") := by
        rw [senderPolicy, if_pos ⟨rfl, hsome⟩, translatePolicyForDaemon, if_neg (not_not.mpr huses)]
        rfl
      have hparse : ∀ evConfig pathsPerPlane,
          parsePolicy T run.tenant evConfig (senderPolicy true runs run) pathsPerPlane
            = ((MrcSnapshot.new run.tenant (pathsPerPlane.getD T.numSpines) T.numPlanes T.numSpines
                200).mapError .policy).map
              (.mrcSnapshot (flowStem run.srcHost run.daemonFlow ++ ".json")) := by
        intro evConfig pathsPerPlane
        rw [hpolicy]
        exact parsePolicy_snapshot _ pathsPerPlane
      refine ⟨fun hno => absurd (huses.symm.trans hno) (by decide), fun _ => ⟨⟨group, hgroup, hflow⟩,
        _, hparse, daemonHost_iff hsrc hname⟩, ?_, rfl, rfl⟩
      intro evConfig pathsPerPlane policy hlive
      rw [hparse] at hlive
      obtain ⟨_, -, hlive⟩ := Outcome.map_ok.mp hlive
      cases hlive
    · have hno : run.usesMrc = false := Bool.eq_false_iff.mpr huses
      -- any other flow keeps its policy
      have hpolicy : senderPolicy true runs run = run.policyCli := by
        rw [senderPolicy]
        split
        · rw [translatePolicyForDaemon, if_pos huses]
        · rfl
      refine ⟨fun _ => hpolicy, fun hyes => absurd hyes huses, ?_, rfl, rfl⟩
      intro evConfig pathsPerPlane policy
      rw [hpolicy]
      exact own_table hspec hcli (fun heq => huses (decide_eq_true heq)) pathsPerPlane policy

/-- One flow under `health_aware_mrc`: its sender is not left with a table of its own. -/
theorem senders_meet_daemons_oneFlow :
    let T : Topo := ⟨4, 8, 16, ["green", "yellow"]⟩
    ∃ s runs, validate T (docOf (.str "health_aware_mrc")) = .ok s ∧
      expandFlows (fun _ => "") s = .ok runs ∧
      (runs.map fun run => (run.srcHost, run.usesMrc)) = [("green-host00", true)] ∧
      ∀ run ∈ runs, ∀ policy, parsePolicy T run.tenant none (senderPolicy true runs run) none
        ≠ .ok (.healthAwareMrc policy) := by
  intro T
  obtain ⟨s, hs⟩ := exists_validated (T := T) (docOf (.str "health_aware_mrc")) (by decide +kernel)
  obtain ⟨runs, hruns⟩ : ∃ runs, expandFlows (fun _ => "") s = .ok runs := by
    refine expandFlows_ok.mpr fun flow hflow => ?_
    have hspec := List.mem_map_of_mem (f := FlowSpec.policySpec) hflow
    rw [show s.flows.map FlowSpec.policySpec = _ from policySpec_docOf hs,
      List.mem_singleton] at hspec
    exact ⟨"health_aware_mrc", by rw [hspec]; rfl⟩
  have honly : (((validate T (docOf (.str "health_aware_mrc"))).toOption.bind fun s =>
      (expandFlows (fun _ => "") s).toOption).map fun runs =>
        runs.map fun run => (run.srcHost, run.usesMrc)) = some [("green-host00", true)] := by
    decide +kernel
  rw [hs] at honly
  change ((expandFlows (fun _ => "") s).toOption.map _) = _ at honly
  rw [hruns] at honly
  exact ⟨s, runs, hs, hruns, Option.some.inj honly, fun run hrun =>
    ((senders_meet_daemons T (fun _ => "") hs hruns).2 run hrun).2.2.1 none none⟩

end Srv6Mrc
