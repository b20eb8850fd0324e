/-
  `srctl fault shutdown` on the fabric that the generator wires.

  `TopologyLinks` reads the links of topology.clab.yaml and names their ends as SONiC does, hosts
  included; the peer that a shutdown adds to its targets is the other end of the link
  (`getPeer_iff`).  So a packet that the fabric delivers is lost by a shutdown exactly when its path
  has one of the interfaces that were given (`shutdown_cuts`), and after any run of the commands that
  keeps the file in order, what is lost, on interfaces that are down or on NICs with a qdisc, is lost
  by a fault of the file (`losses_recorded`).
-/
import Srv6Mrc.Fabric.Outage
import Srv6Mrc.Faults.Commands

namespace Srv6Mrc

open Py Net Fabric

/-! ## topology.clab.yaml, read -/

/-- `clab_to_sonic` -/
def clabToSonic (clabIface : String) : Except Exc String :=
  if "eth".toList.isPrefixOf clabIface.toList then
    match intOfText (String.ofList (clabIface.toList.drop 3)) with
    | some n =>
      if printableInt ((n - 1) * 4) then .ok ("Ethernet" ++ toString ((n - 1) * 4))
      else .error .valueError
    | none => .error .valueError
  else .error .valueError

/-- A turn of the loop of `_load_links`: the two entries of a link. -/
def loadLink (endpoints : List String) :
    Except Exc (List (InterfaceEndpoint × InterfaceEndpoint)) :=
  match endpoints with
  | [a, b] =>
    match a.toList.splitOn ':', b.toList.splitOn ':' with
    | [nodeA, clabIfaceA], [nodeB, clabIfaceB] => do
      let sonicIfaceA ← clabToSonic (String.ofList clabIfaceA)
      let sonicIfaceB ← clabToSonic (String.ofList clabIfaceB)
      let endA : InterfaceEndpoint := ⟨String.ofList nodeA, sonicIfaceA⟩
      let endB : InterfaceEndpoint := ⟨String.ofList nodeB, sonicIfaceB⟩
      return [(endA, endB), (endB, endA)]
    | _, _ => return []
  | _ => return []

/-- `_load_links`, of the `endpoints` of the links of the file. -/
def TopologyLinks.load (links : List (List String)) : Except Exc TopologyLinks :=
  (links.mapM loadLink).map fun entries => ⟨entries.flatten⟩

/-- The `endpoints` that the generator writes. -/
def Fabric.linkEndpoints (F : Fabric) : List (List String) :=
  F.links.map fun (a, b) => [endpointText a, endpointText b]

/-- An interface, as `TopologyLinks` names it. -/
def sonicEnd (e : Node × Nat) : InterfaceEndpoint :=
  ⟨nodeName e.1, "Ethernet" ++ toString (((e.2 : Int) - 1) * 4)⟩

/-! ## Ports -/

/-- The ports that have a link. -/
def IsPort (k : Nat) : Prop := 0 < k ∧ k ≤ 16

/-- A number of few digits is read back. -/
theorem intOfText_toString {n : Int} (h : n.natAbs < 10 ^ maxStrDigits) :
    intOfText (toString n) = some n :=
  intOfText_textOfInt (if_pos h)

theorem lt_maxStr {n : Nat} (h : n < 100) : n < 10 ^ maxStrDigits := by
  have hle : 10 ^ 2 ≤ 10 ^ maxStrDigits := Nat.pow_le_pow_right (by omega) (by decide)
  exact Nat.lt_of_lt_of_le h hle

/-- The name that SONiC has for a port. -/
theorem clabToSonic_eth {k : Nat} (hk : IsPort k) :
    clabToSonic ("eth" ++ toString k) = .ok ("Ethernet" ++ toString (((k : Int) - 1) * 4)) := by
  obtain ⟨hpos, hle⟩ := hk
  have hread : intOfText (toString k) = some (k : Int) :=
    intOfText_toString (n := (k : Int)) (lt_maxStr (by omega))
  have hprint : printableInt (((k : Int) - 1) * 4) = true :=
    decide_eq_true (lt_maxStr (n := (((k : Int) - 1) * 4).natAbs) (by omega))
  unfold clabToSonic
  rw [String.toList_append, if_pos (by simp)]
  have hdrop : ("eth".toList ++ (toString k).toList).drop 3 = (toString k).toList := rfl
  rw [hdrop, String.ofList_toList, hread]
  dsimp only
  rw [if_pos hprint]

theorem sonicToClab_ethernet {k : Nat} (hk : IsPort k) :
    sonicToClab ("Ethernet" ++ toString (((k : Int) - 1) * 4)) = .ok ("eth" ++ toString k) := by
  obtain ⟨hpos, hle⟩ := hk
  have hread : intOfText (toString (((k : Int) - 1) * 4)) = some (((k : Int) - 1) * 4) :=
    intOfText_toString (lt_maxStr (n := (((k : Int) - 1) * 4).natAbs) (by omega))
  have hport : ((k : Int) - 1) * 4 / 4 + 1 = k := by omega
  unfold sonicToClab
  rw [String.toList_append, if_pos (by simp)]
  have hdrop : ("Ethernet".toList ++ (toString (((k : Int) - 1) * 4)).toList).drop 8 =
      (toString (((k : Int) - 1) * 4)).toList := rfl
  rw [hdrop, String.ofList_toList, hread]
  dsimp only
  rw [if_pos (by omega), hport]
  rfl

/-- Different interfaces have different names. -/
theorem sonicEnd_inj {e e' : Node × Nat} (hk : IsPort e.2) (hk' : IsPort e'.2)
    (h : sonicEnd e = sonicEnd e') : e = e' := by
  obtain ⟨node, k⟩ := e
  obtain ⟨node', k'⟩ := e'
  injection h with hnode hiface
  have hclab := congrArg sonicToClab hiface
  rw [sonicToClab_ethernet hk, sonicToClab_ethernet hk'] at hclab
  exact Prod.ext (nodeName_injective hnode) (toString_inj (append_left_inj (Except.ok.inj hclab)))

/-- An interface by its name in the container. -/
theorem sonicEnd_names {e e' : Node × Nat} (hk : IsPort e.2) :
    (sonicEnd e).Names (nodeName e'.1, "eth" ++ toString e'.2) ↔ e = e' := by
  obtain ⟨node, k⟩ := e
  obtain ⟨node', k'⟩ := e'
  unfold InterfaceEndpoint.Names sonicEnd
  dsimp only
  rw [sonicToClab_ethernet hk]
  constructor
  · rintro ⟨hnode, hport⟩
    exact Prod.ext (nodeName_injective hnode) (toString_inj (append_left_inj (Except.ok.inj hport)))
  · intro h
    cases h
    exact ⟨rfl, rfl⟩

/-! ## The links of the generator -/

section Generated

variable {F : Fabric}

theorem isPort_of_link (hF : F.Fits) {a b : Node × Nat} (h : (a, b) ∈ F.links) :
    IsPort a.2 ∧ IsPort b.2 := by
  have hplanes := hF.planes
  have hspines := hF.spines
  have hleaves := hF.leaves
  unfold IsPort
  rcases mem_links.mp h with ⟨p, hp, s, hs, l, hl, rfl, rfl⟩ |
    ⟨p, hp, n, hn, ⟨rfl, rfl⟩ | ⟨rfl, rfl⟩⟩ <;> dsimp only <;> omega

theorem isPort_of_peer (hF : F.Fits) {node : Node} {port : Nat} {e : Node × Nat}
    (h : e ∈ F.network.peers node port) : IsPort port ∧ IsPort e.2 := by
  rcases Network.mem_peers.mp h with hlink | hlink
  · exact isPort_of_link hF hlink
  · exact (isPort_of_link hF hlink).symm

theorem splitOn_endpoint (e : Node × Nat) : (endpointText e).toList.splitOn ':' =
    [(nodeName e.1).toList, ("eth" ++ toString e.2).toList] := by
  have hlist : (endpointText e).toList =
      [':'].intercalate [(nodeName e.1).toList, ("eth" ++ toString e.2).toList] := by
    show (nodeName e.1 ++ ":eth" ++ toString e.2).toList = _
    simp [List.intercalate]
  rw [hlist]
  refine List.splitOn_intercalate _ (fun part hpart => ?_) (List.cons_ne_nil _ _)
  rcases List.mem_pair.mp hpart with rfl | rfl
  · exact colon_not_mem_nodeName e.1
  · simp only [String.toList_append, List.mem_append, not_or]
    exact ⟨by decide, not_mem_digits rfl e.2⟩

/-- A link of the generator gives its two entries. -/
theorem loadLink_generated (hF : F.Fits) {a b : Node × Nat} (h : (a, b) ∈ F.links) :
    loadLink [endpointText a, endpointText b] =
      .ok [(sonicEnd a, sonicEnd b), (sonicEnd b, sonicEnd a)] := by
  obtain ⟨ha, hb⟩ := isPort_of_link hF h
  unfold loadLink
  dsimp only
  rw [splitOn_endpoint, splitOn_endpoint]
  dsimp only
  rw [String.ofList_toList, String.ofList_toList, String.ofList_toList, String.ofList_toList,
    clabToSonic_eth ha, clabToSonic_eth hb]
  rfl

/-- The links of the generator are loaded. -/
theorem load_generated (hF : F.Fits) : TopologyLinks.load F.linkEndpoints =
    .ok ⟨F.links.flatMap fun (a, b) => [(sonicEnd a, sonicEnd b), (sonicEnd b, sonicEnd a)]⟩ := by
  unfold TopologyLinks.load linkEndpoints
  rw [List.mapM_map]
  have hlinks : F.links.mapM (loadLink ∘ fun (a, b) => [endpointText a, endpointText b]) =
      .ok (F.links.map fun (a, b) => [(sonicEnd a, sonicEnd b), (sonicEnd b, sonicEnd a)]) :=
    Outcome.mapM_ok fun (a, b) hlink => loadLink_generated hF hlink
  rw [hlinks]
  rfl

variable {L : TopologyLinks}

/-- The entries that are loaded are the links, from both sides. -/
theorem mem_load (hF : F.Fits) (hL : TopologyLinks.load F.linkEndpoints = .ok L)
    {x y : InterfaceEndpoint} : (x, y) ∈ L.links ↔
      ∃ node port e, e ∈ F.network.peers node port ∧ x = sonicEnd (node, port) ∧ y = sonicEnd e := by
  rw [load_generated hF] at hL
  cases hL
  simp only [List.mem_flatMap, List.mem_cons, List.not_mem_nil, or_false, Prod.mk.injEq]
  constructor
  · rintro ⟨⟨a, b⟩, hlink, ⟨rfl, rfl⟩ | ⟨rfl, rfl⟩⟩
    · exact ⟨a.1, a.2, b, Network.mem_peers.mpr (Or.inl hlink), rfl, rfl⟩
    · exact ⟨b.1, b.2, a, Network.mem_peers.mpr (Or.inr hlink), rfl, rfl⟩
  · rintro ⟨node, port, e, hpeer, rfl, rfl⟩
    rcases Network.mem_peers.mp hpeer with hlink | hlink
    · exact ⟨_, hlink, Or.inl ⟨rfl, rfl⟩⟩
    · exact ⟨_, hlink, Or.inr ⟨rfl, rfl⟩⟩

/-- The peer of an interface is the other end of its link. -/
theorem getPeer_iff (hF : F.Fits) (hL : TopologyLinks.load F.linkEndpoints = .ok L)
    {x y : InterfaceEndpoint} : L.getPeer x = some y ↔
      ∃ node port e, e ∈ F.network.peers node port ∧ x = sonicEnd (node, port) ∧ y = sonicEnd e := by
  rw [← mem_load hF hL]
  -- the entries of one interface agree, so the last of them is any
  have hunique : ∀ y', (x, y) ∈ L.links → (x, y') ∈ L.links → y' = y := by
    intro y' h h'
    obtain ⟨node, port, e, hpeer, hx, rfl⟩ := (mem_load hF hL).mp h
    obtain ⟨node', port', e', hpeer', hx', rfl⟩ := (mem_load hF hL).mp h'
    cases sonicEnd_inj (isPort_of_peer hF hpeer).1 (isPort_of_peer hF hpeer').1 (hx.symm.trans hx')
    rw [wired hF node port e hpeer e' hpeer']
  unfold TopologyLinks.getPeer
  cases hfind : L.links.reverse.find? fun link => link.1 = x with
  | none =>
    refine iff_of_false (fun h => by cases h) fun h => ?_
    exact List.find?_eq_none.mp hfind _ (List.mem_reverse.mpr h) (decide_eq_true rfl)
  | some link =>
    obtain ⟨x', y'⟩ := link
    have hpred := List.find?_some hfind
    have hx : x' = x := of_decide_eq_true hpred
    subst hx
    have hmem := List.mem_reverse.mp (List.mem_of_find?_eq_some hfind)
    constructor
    · intro h
      cases h
      exact hmem
    · intro h
      rw [hunique y' h hmem]
      rfl

/-- The interfaces of a node are the ports that have a link. -/
theorem mem_getAllInterfaces (hF : F.Fits) (hL : TopologyLinks.load F.linkEndpoints = .ok L)
    {node : Node} {iface : String} : iface ∈ L.getAllInterfaces (nodeName node) ↔
      ∃ port e, e ∈ F.network.peers node port ∧ iface = (sonicEnd (node, port)).interface := by
  unfold TopologyLinks.getAllInterfaces
  rw [List.mem_mergeSort, List.mem_dedup]
  simp only [List.mem_map, List.mem_filter, decide_eq_true_eq]
  constructor
  · rintro ⟨x, ⟨⟨link, hlink, rfl⟩, hnode⟩, rfl⟩
    obtain ⟨node', port, e, hpeer, hx, -⟩ := (mem_load hF hL).mp (show (link.1, link.2) ∈ _ from hlink)
    rw [hx] at hnode ⊢
    cases nodeName_injective hnode
    exact ⟨port, e, hpeer, rfl⟩
  · rintro ⟨port, e, hpeer, rfl⟩
    exact ⟨_, ⟨⟨_, (mem_load hF hL).mpr ⟨node, port, e, hpeer, rfl, rfl⟩, rfl⟩, rfl⟩, rfl⟩

end Generated

/-! ## A shutdown -/

/-- The interfaces that are up, after what was run. -/
def upAfter (ran : List Ran) (node : Node) (port : Nat) : Bool :=
  !linkDown ran (nodeName node, "eth" ++ toString port)

/-- A shutdown that gets through sets down its targets, and nothing else. -/
theorem linkDown_shutdown {runner : Runner} {ts : List InterfaceEndpoint} {ran ran' : List Ran}
    (h : Outcome.forEach (setInterface runner false) ts ran = ⟨ran', none⟩) (e : String × String) :
    linkDown ran' e = true ↔ linkDown ran e = true ∨ ∃ t ∈ ts, t.Names e := by
  induction ts generalizing ran with
  | nil =>
    cases h
    simp
  | cons t ts ih =>
    rw [Outcome.forEach_cons] at h
    rcases setInterface_cases runner false t ran with ⟨r, hok, heq⟩ | ⟨-, hraised, -⟩
    · rw [heq, Outcome.andThen_none rfl] at h
      rw [ih h]
      simp only [List.mem_cons, exists_eq_or_imp]
      rcases hok.effects.2 e with ⟨hnames, hdown⟩ | ⟨hnames, hsame⟩
      · rw [Outcome.state_ok, hdown]
        exact iff_of_true (Or.inl rfl) (Or.inr (Or.inl hnames))
      · rw [Outcome.state_ok, hsame]
        simp only [hnames, false_or]
    · rw [Outcome.andThen_some hraised] at h
      rw [h] at hraised
      exact absurd rfl hraised

/-- What is down after a shutdown was down before, or is one of its targets. -/
theorem shutdown_down {L : TopologyLinks} {runner : Runner} {node : String}
    {interfaces : List String} {unidirectional : Bool} {s s' : Srctl}
    (h : cmdFaultShutdown L runner node interfaces unidirectional s = (s', .code 0))
    (e : String × String) : linkDown s'.ran e = true ↔ linkDown s.ran e = true ∨
      ∃ t ∈ shutdownTargets L node (shutdownInterfaces L node interfaces) unidirectional,
        t.Names e := by
  unfold cmdFaultShutdown at h
  dsimp only at h
  split at h
  · cases h
  · split at h
    · cases h
    · cases h
    · rename_i ran hloop
      have hran : s'.ran = ran := by
        unfold record at h
        split at h <;> cases h
        rfl
      rw [hran]
      exact linkDown_shutdown hloop e

section Cut

variable {F : Fabric} {L : TopologyLinks} {runner : Runner} {s s' : Srctl} {node : Node}
  {interfaces : List String} {unidirectional : Bool} {path : List (Event Node Vrf)}

/-- A path has lost an interface by a shutdown if it had one of those that were given: a peer is on
    the path only with the interface that it is the peer of. -/
theorem clear_shutdown (hF : F.Fits) (hL : TopologyLinks.load F.linkEndpoints = .ok L)
    (h : cmdFaultShutdown L runner (nodeName node) interfaces unidirectional s = (s', .code 0)) :
    F.network.Clear (upAfter s'.ran) path ↔ F.network.Clear (upAfter s.ran) path ∧
      ∀ iface ∈ shutdownInterfaces L (nodeName node) interfaces, ∀ port,
        sonicToClab iface = .ok ("eth" ++ toString port) → ¬ F.network.Crosses path node port := by
  have hdown := shutdown_down h
  generalize shutdownInterfaces L (nodeName node) interfaces = ifaces at hdown ⊢
  have hup : ∀ n k, upAfter s'.ran n k = true ↔ upAfter s.ran n k = true ∧
      ∀ t ∈ shutdownTargets L (nodeName node) ifaces unidirectional,
        ¬ t.Names (nodeName n, "eth" ++ toString k) := by
    intro n k
    have := hdown (nodeName n, "eth" ++ toString k)
    unfold upAfter
    rw [Bool.not_eq_true', Bool.not_eq_true', ← Bool.not_eq_true, ← Bool.not_eq_true, this, not_or]
    simp only [not_exists, not_and]
  have htarget : ∀ iface ∈ ifaces, (⟨nodeName node, iface⟩ : InterfaceEndpoint) ∈
      shutdownTargets L (nodeName node) ifaces unidirectional := fun iface hiface =>
    List.mem_flatMap.mpr ⟨iface, hiface, List.mem_cons_self⟩
  constructor
  · intro hclear
    refine ⟨fun n k hcross => ((hup n k).mp (hclear n k hcross)).1, ?_⟩
    intro iface hiface port hport hcross
    exact ((hup node port).mp (hclear node port hcross)).2 _ (htarget iface hiface) ⟨rfl, hport⟩
  · rintro ⟨hclear, hgiven⟩ n k hcross
    refine (hup n k).mpr ⟨hclear n k hcross, fun t ht hnames => ?_⟩
    obtain ⟨iface, hiface, ht⟩ := List.mem_flatMap.mp ht
    rcases List.mem_cons.mp ht with rfl | ht
    · cases nodeName_injective hnames.1
      exact hgiven iface hiface k hnames.2 hcross
    · have hpeer : L.getPeer ⟨nodeName node, iface⟩ = some t := by
        split at ht
        · cases ht
        · exact Option.mem_toList.mp ht
      obtain ⟨node', port, e, he, hiface', rfl⟩ := (getPeer_iff hF hL).mp hpeer
      obtain ⟨hport, hport'⟩ := isPort_of_peer hF he
      injection hiface' with hnode hname
      cases nodeName_injective hnode
      have hsame : e = (n, k) := (sonicEnd_names hport').mp hnames
      cases hsame
      refine hgiven iface hiface port ?_
        (Network.crosses_peer (wired hF) hcross (Network.peers_symm he))
      rw [hname]
      exact sonicToClab_ethernet hport

/-- `all` stands for every interface of the node that a path can have. -/
theorem crosses_all (hF : F.Fits) (hL : TopologyLinks.load F.linkEndpoints = .ok L)
    {st : State Node Vrf} (hpath : F.network.Delivers st path) :
    (∀ iface ∈ shutdownInterfaces L (nodeName node) ["all"], ∀ port,
      sonicToClab iface = .ok ("eth" ++ toString port) → ¬ F.network.Crosses path node port) ↔
    ∀ port, ¬ F.network.Crosses path node port := by
  have hall : shutdownInterfaces L (nodeName node) ["all"] = L.getAllInterfaces (nodeName node) :=
    if_pos (by decide +kernel)
  rw [hall]
  constructor
  · intro h port hcross
    obtain ⟨e, he⟩ := Network.peer_of_crosses hpath hcross
    exact h _ ((mem_getAllInterfaces hF hL).mpr ⟨port, e, he, rfl⟩) port
      (sonicToClab_ethernet (isPort_of_peer hF he).1) hcross
  · intro h _ _ port _
    exact h port

end Cut

/-- A shutdown that ends well, on one side or both, from any state: a packet that the fabric delivers
    is delivered after it if it was before and its path has none of the interfaces that were given;
    with `all`, none of the node. -/
theorem shutdown_cuts (F : Fabric) (hF : F.Fits) (L : TopologyLinks)
    (hL : TopologyLinks.load F.linkEndpoints = .ok L) (runner : Runner) (s s' : Srctl) (node : Node)
    (interfaces : List String) (unidirectional : Bool)
    (h : cmdFaultShutdown L runner (nodeName node) interfaces unidirectional s = (s', .code 0))
    (st : State Node Vrf) (path : List (Event Node Vrf)) (hpath : F.network.Delivers st path) :
    ((∃ path', (F.network.cut (upAfter s'.ran)).Delivers st path') ↔
      (∃ path', (F.network.cut (upAfter s.ran)).Delivers st path') ∧
      ∀ iface ∈ shutdownInterfaces L (nodeName node) interfaces, ∀ port,
        sonicToClab iface = .ok ("eth" ++ toString port) → ¬ F.network.Crosses path node port) ∧
    (interfaces = ["all"] →
      ((∃ path', (F.network.cut (upAfter s'.ran)).Delivers st path') ↔
        (∃ path', (F.network.cut (upAfter s.ran)).Delivers st path') ∧
        ∀ port, ¬ F.network.Crosses path node port)) := by
  have hcut : ∀ ran, (∃ path', (F.network.cut (upAfter ran)).Delivers st path') ↔
      F.network.Clear (upAfter ran) path := by
    intro ran
    simp only [Network.delivers_cut_iff (wired hF) hpath, exists_eq_left]
  rw [hcut, hcut, clear_shutdown hF hL h]
  refine ⟨Iff.rfl, ?_⟩
  rintro rfl
  rw [crosses_all hF hL hpath]

/-- An uplink is shut down, on both sides: what goes over its spine is lost, and nothing else. -/
theorem shutdown_cuts_uplink :
    let F : Fabric := ⟨1, 2, 2, false⟩
    let L : TopologyLinks :=
      ⟨F.links.flatMap fun (a, b) => [(sonicEnd a, sonicEnd b), (sonicEnd b, sonicEnd a)]⟩
    let s' := (cmdFaultShutdown L (fun _ _ => ⟨0, "", ""⟩) "p0-leaf00" ["Ethernet0"] false {}).1
    ∃ data₀ data₁, F.IsData ["green", "yellow"] .green 0 0 1 "uA" data₀ ∧
      F.IsData ["green", "yellow"] .green 0 1 1 "uA" data₁ ∧
      (¬ ∃ path, (F.network.cut (upAfter s'.ran)).Delivers (.leaving (.host .green 0) 1 data₀) path) ∧
      ∃ path, (F.network.cut (upAfter s'.ran)).Delivers (.leaving (.host .green 0) 1 data₁) path := by
  intro F L s'
  have hF : F.Fits := ⟨by decide, by decide, by decide⟩
  have hcmd : cmdFaultShutdown L (fun _ _ => ⟨0, "", ""⟩) (nodeName (.leaf 0 0)) ["Ethernet0"] false {}
      = (s', .code 0) := Prod.ext rfl (by decide +kernel)
  have hifaces : shutdownInterfaces L (nodeName (.leaf 0 0)) ["Ethernet0"] = ["Ethernet0"] := by
    decide +kernel
  have hport : sonicToClab "Ethernet0" = .ok ("eth" ++ toString 1) := by decide +kernel
  have hsend : ∀ s < 2, ∃ data, F.IsData ["green", "yellow"] .green 0 s 1 "uA" data ∧
      F.network.Delivers (.leaving (.host .green 0) 1 data) (dataPath .green 0 s 0 1) := fun s hs =>
    exists_data hF (by decide) (by decide) hs (by decide) (by decide) (by decide)
  have hcuts := shutdown_cuts F hF L (load_generated hF) _ {} s' (.leaf 0 0) ["Ethernet0"] false hcmd
  obtain ⟨data₀, hdata₀, hpath₀⟩ := hsend 0 (by decide)
  obtain ⟨data₁, hdata₁, hpath₁⟩ := hsend 1 (by decide)
  refine ⟨data₀, data₁, hdata₀, hdata₁, fun h => ?_, ?_⟩
  · have hlost := ((hcuts _ _ hpath₀).1.mp h).2
    rw [hifaces] at hlost
    have hpeer : (Node.leaf 0 0, 1) ∈ F.network.peers (.spine 0 0) 1 :=
      (peers_downlink (by decide) (by decide) (by decide)).mem
    exact hlost "Ethernet0" (List.mem_singleton_self _) 1 hport
      ⟨.spine 0 0, 1, by decide, Or.inr hpeer⟩
  · refine (hcuts _ _ hpath₁).1.mpr ⟨⟨_, (Network.delivers_cut_iff (wired hF) hpath₁ _).mpr
      ⟨rfl, fun _ _ _ => rfl⟩⟩, fun iface hiface port hiport hcross => ?_⟩
    rw [hifaces] at hiface
    cases List.mem_singleton.mp hiface
    rw [hport] at hiport
    cases toString_inj (append_left_inj (Except.ok.inj hiport))
    have hclear : F.network.Clear (fun node k => !decide (node = .leaf 0 0 ∧ k = 1))
        (dataPath .green 0 1 0 1) :=
      (clear_dataPath hF (by decide) (by decide) (by decide) (by decide)).mpr
        ⟨⟨by decide, by decide⟩, ⟨by decide, by decide⟩, ⟨by decide, by decide⟩, by decide, by decide⟩
    exact absurd (hclear _ _ hcross) (by decide)

/-! ## What is on record -/

/-- The interfaces that lose nothing after what was run: up, and without a qdisc. -/
def intactAfter (ran : List Ran) (node : Node) (port : Nat) : Bool :=
  upAfter ran node port &&
    !(installed ran).any fun q => q.1 = ⟨nodeName node, "eth" ++ toString port⟩

/-- The fault stands for the interface: that it is down, or that it has a qdisc. -/
def LedgerFault.Claims (T : Topo) (f : LedgerFault) (node : Node) (port : Nat) : Prop :=
  f.ClaimsLink (nodeName node, "eth" ++ toString port) ∨
    f.ClaimsNic T ⟨nodeName node, "eth" ++ toString port⟩

/-- Whatever is wrong with an interface, the file has a fault that stands for it. -/
theorem Covered.claims {T : Topo} {s : Srctl} (h : Covered T s) {node : Node} {port : Nat}
    (hlost : intactAfter s.ran node port = false) : ∃ f ∈ s.file, f.Claims T node port := by
  unfold intactAfter at hlost
  rcases Bool.and_eq_false_iff.mp hlost with hdown | hqdisc
  · unfold upAfter at hdown
    rw [Bool.not_eq_false'] at hdown
    obtain ⟨f, hf, hclaims⟩ := h.links _ hdown
    exact ⟨f, hf, Or.inl hclaims⟩
  · rw [Bool.not_eq_false', List.any_eq_true] at hqdisc
    obtain ⟨q, hq, hnic⟩ := hqdisc
    obtain ⟨f, hf, hclaims⟩ := h.nics q hq
    exact ⟨f, hf, Or.inr (of_decide_eq_true hnic ▸ hclaims)⟩

/-- The file covers the damage along the commands that meet their conditions. -/
theorem ledger_after {T : Topo} {topo : String} {L : TopologyLinks} {runner : Runner}
    {cmds : List Command} {s : Srctl} (hs : Ledger T s)
    (h : Srctl.Along T topo L runner (StepOk T topo L runner) s cmds) :
    Ledger T (cmds.foldl (Srctl.step T topo L runner) s) := by
  induction cmds generalizing s with
  | nil => exact hs
  | cons c cs ih => exact ih (step_ledger hs h.1).1 h.2

/-- After any run of the commands that meet their conditions: a packet that the fabric delivers is
    still delivered, whatever interfaces with a qdisc lose, or a fault of the file stands for an
    interface of its path. -/
theorem losses_recorded (F : Fabric) (hF : F.Fits) (T : Topo) (topo : String) (L : TopologyLinks)
    (runner : Runner) (cmds : List Command)
    (h : Srctl.Along T topo L runner (StepOk T topo L runner) {} cmds)
    (st : State Node Vrf) (path : List (Event Node Vrf)) (hpath : F.network.Delivers st path) :
    (F.network.cut (intactAfter (Srctl.after T topo L runner cmds).ran)).Delivers st path ∨
      ∃ f ∈ (Srctl.after T topo L runner cmds).file, ∃ node port, F.network.Crosses path node port ∧
        f.Claims T node port := by
  have hempty : Ledger T {} := ⟨⟨fun e he => absurd he Bool.false_ne_true,
    fun q hq => absurd hq List.not_mem_nil⟩, List.nodup_nil⟩
  have hcovered : Covered T (Srctl.after T topo L runner cmds) := (ledger_after hempty h).covered
  by_cases hclear : F.network.Clear (intactAfter (Srctl.after T topo L runner cmds).ran) path
  · exact Or.inl ((Network.delivers_cut_iff (wired hF) hpath path).mpr ⟨rfl, hclear⟩)
  · unfold Network.Clear at hclear
    simp only [not_forall] at hclear
    obtain ⟨node, port, hcross, hlost⟩ := hclear
    obtain ⟨f, hf, hclaims⟩ := hcovered.claims (Bool.eq_false_iff.mpr hlost)
    exact Or.inr ⟨f, hf, node, port, hcross, hclaims⟩

/-- A host's NIC loses everything, with all interfaces up: the file has the fault. -/
theorem losses_recorded_netem :
    let F : Fabric := ⟨1, 2, 2, false⟩
    let T : Topo := ⟨1, 2, 2, ["green", "yellow"]⟩
    let runner : Runner := fun _ _ => ⟨0, "123\n", ""⟩
    let s := Srctl.after T "lab" ⟨[]⟩ runner [.netem "host green-host00 plane 0" "loss 100%"]
    ∃ data, F.IsData ["green", "yellow"] .green 0 1 1 "uA" data ∧
      ∃ f ∈ s.file, ∃ node port, F.network.Crosses (dataPath .green 0 1 0 1) node port ∧
        f.ClaimsNic T ⟨nodeName node, "eth" ++ toString port⟩ := by
  intro F T runner s
  have hF : F.Fits := ⟨by decide, by decide, by decide⟩
  have hok : Srctl.Along T "lab" ⟨[]⟩ runner (StepOk T "lab" ⟨[]⟩ runner) {}
      [.netem "host green-host00 plane 0" "loss 100%"] := by
    refine ⟨⟨?_, "fault-001", by decide +kernel⟩, trivial⟩
    have hsteps : nicSteps T ⟨"host green-host00 plane 0", "loss 100%"⟩ =
        [.nic ⟨"green-host00", "eth1"⟩ ["loss", "100%"]] := by
      rfl
    rw [hsteps]
    intro h
    cases h with
    | noPid _ h => exact h rfl
    | undo hpid hadd _ => exact absurd hadd (by simp [runner, RunResult.success])
    | next _ _ h => cases h
  obtain ⟨data, hdata, hpath⟩ : ∃ data, F.IsData ["green", "yellow"] .green 0 1 1 "uA" data ∧
      F.network.Delivers (.leaving (.host .green 0) 1 data) (dataPath .green 0 1 0 1) :=
    exists_data hF (by decide) (by decide) (by decide) (by decide) (by decide) (by decide)
  refine ⟨data, hdata, ?_⟩
  rcases losses_recorded F hF T "lab" ⟨[]⟩ runner _ hok _ _ hpath with
    hdelivers | ⟨f, hf, node, port, hcross, hclaims⟩
  · -- the packet leaves over the NIC
    have hclear := ((Network.delivers_cut_iff (wired hF) hpath _).mp hdelivers).2
    have hpeer : (Node.host .green 0, 1) ∈ F.network.peers (.leaf 0 0) (hostPort .green) :=
      Network.peers_symm (peers_host (by decide) (by decide) .green).mem
    have hintact := hclear (.host .green 0) 1 ⟨.leaf 0 0, hostPort .green, by decide, Or.inr hpeer⟩
    have hlost : intactAfter s.ran (.host .green 0) 1 = false := by decide +kernel
    exact absurd (hlost.symm.trans hintact) Bool.false_ne_true
  · have hfile : s.file = [⟨"fault-001", .netem, [⟨"netem", "host green-host00 plane 0"⟩],
        "loss 100%", false⟩] := by
      decide +kernel
    refine ⟨f, hf, node, port, hcross, hclaims.resolve_left fun hlink => ?_⟩
    rw [hfile] at hf
    rw [List.mem_singleton.mp hf] at hlink
    cases hlink.1

end Srv6Mrc
