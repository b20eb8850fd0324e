/-
  `srv6_mrc/topology.py`: the same plan as a value.

  The class is to replace the globals of `topo.py`, and is safe to switch to because every method
  returns what the module's function returns.  For the addresses and the drawn spines it does.  Not
  so for `spine_for`: the module looks in the reference table of `4p-8x16` whatever the topology is,
  the class only if the topology has that name; and the table has spines up to 7, for any number of
  spines (`samePlan_iff`).
-/
import Mathlib.Data.Int.ModEq
import Srv6Mrc.Topo.Plan

namespace Srv6Mrc

open Py

/-- A parsed topo.yaml, as far as `Topology.from_dict` and `topo.py` read it. -/
structure TopoYaml where
  name : String
  planes : Nat
  spinesPerPlane : Nat
  leavesPerPlane : Nat
  tenants : List String
  clabTopologyName : Option String := none
  /-- `[lo, hi, spine]` triples. -/
  referencePairsSpines : Option (List (Int × Int × Int)) := none

/-- The globals of `topo.py`, loaded from a topo.yaml. -/
def Topo.ofYaml (d : TopoYaml) : Topo where
  numPlanes := d.planes
  numSpines := d.spinesPerPlane
  numLeaves := d.leavesPerPlane
  tenants := d.tenants

/-- `Topology` -/
structure Topology where
  name : String
  planes : Nat
  spinesPerPlane : Nat
  leavesPerPlane : Nat
  tenants : List String
  clabTopologyName : String
  /-- The items of the frozenset, in some order. -/
  referencePairsItems : List ((Int × Int) × Int)

namespace Topology

/-- `Topology.from_dict` -/
def fromDict (d : TopoYaml) : Topology where
  name := d.name
  planes := d.planes
  spinesPerPlane := d.spinesPerPlane
  leavesPerPlane := d.leavesPerPlane
  tenants := d.tenants
  clabTopologyName := d.clabTopologyName.getD ("sonic-docker-" ++ d.name)
  referencePairsItems :=
    let items :=
      match d.referencePairsSpines with
      | none => if d.name = "4p-8x16" then referencePairsSpines else []
      | some triples => triples.map fun (lo, hi, sp) => ((lo, hi), sp)
    items.map fun item => ((min item.1.1 item.1.2, max item.1.1 item.1.2), item.2)

variable (T : Topology)

/-- `check_tenant` -/
def checkTenant : String → Except TopoError Unit := checkTenantIn T.tenants

/-- `check_plane` -/
def checkPlane : Int → Except TopoError Nat := checkIndex .plane T.planes

/-- `check_spine` -/
def checkSpine : Int → Except TopoError Nat := checkIndex .spine T.spinesPerPlane

/-- `check_host` -/
def checkHost : Int → Except TopoError Nat := checkIndex .host T.leavesPerPlane

/-- `inner_addr` -/
def innerAddr (tenant : String) (hostId : Int) : Except TopoError String := do
  T.checkTenant tenant
  let h ← T.checkHost hostId
  if tenant = "green" then return "2001:db8:bbbb:" ++ hexPad 2 h ++ "::2"
  else return "2001:db8:cccc:" ++ hexPad 2 h ++ "::2"

/-- `usid_outer_dst` -/
def usidOuterDst (tenant : String) (plane spine dstLeaf : Int) (sidMode : String := "uA") :
    Except TopoError String := do
  T.checkTenant tenant
  let p ← T.checkPlane plane
  let s ← T.checkSpine spine
  let l ← T.checkHost dstLeaf
  checkSidMode sidMode
  let (head, yellowTail) :=
    if sidMode = "uA" then
      ("fc00:000" ++ hex p ++ ":f00" ++ hex s ++ ":e00" ++ hex l, "e009:d001::")
    else ("fc00:000" ++ hex p ++ ":1" ++ hex s ++ ":2" ++ hex l, "d001::")
  if tenant = "green" then return head ++ ":d000::" else return head ++ ":" ++ yellowTail

/-- `leaf_gateway_addr` -/
def leafGatewayAddr (tenant : String) (plane hostId : Int) : Except TopoError String := do
  T.checkTenant tenant
  let p ← T.checkPlane plane
  let h ← T.checkHost hostId
  if tenant = "green" then return "2001:db8:bbbb:" ++ hexPad 2 h ++ "::1"
  else return "2001:db8:cccc:" ++ hex p ++ hexPad 2 h ++ "::1"

/-- `spine_for` -/
def spineFor : Int → Int → Int :=
  spineForPair T.referencePairsItems T.leavesPerPlane T.spinesPerPlane

/-- `select_spines` -/
def selectSpines : Int → Int → Int → Except PolicyError (List Nat) :=
  Srv6Mrc.selectSpines T.spinesPerPlane

/-- `select_spines_for_addrs` -/
def selectSpinesForAddrs : String → String → Int → Except PolicyError (List Nat) :=
  Srv6Mrc.selectSpinesForAddrs T.spinesPerPlane

end Topology

/-! ## Where the two agree -/

/-- The class and the module are the same plan, and every transit spine is one of the plane. -/
structure SamePlan (d : TopoYaml) : Prop where
  innerAddr : ∀ tenant hostId addr, (Topo.ofYaml d).innerAddr tenant hostId = .ok addr →
    (Topology.fromDict d).innerAddr tenant hostId = .ok addr
  usidOuterDst : ∀ tenant plane spine dstLeaf sidMode addr,
    (Topo.ofYaml d).usidOuterDst tenant plane spine dstLeaf sidMode = .ok addr →
      (Topology.fromDict d).usidOuterDst tenant plane spine dstLeaf sidMode = .ok addr
  leafGatewayAddr : ∀ tenant plane hostId addr,
    (Topo.ofYaml d).leafGatewayAddr tenant plane hostId = .ok addr →
      (Topology.fromDict d).leafGatewayAddr tenant plane hostId = .ok addr
  selectSpines : ∀ srcId dstId n spines, (Topo.ofYaml d).selectSpines srcId dstId n = .ok spines →
    (Topology.fromDict d).selectSpines srcId dstId n = .ok spines
  selectSpinesForAddrs : ∀ srcAddr dstAddr n spines,
    (Topo.ofYaml d).selectSpinesForAddrs srcAddr dstAddr n = .ok spines →
      (Topology.fromDict d).selectSpinesForAddrs srcAddr dstAddr n = .ok spines
  spineFor : ∀ srcId dstId,
    (Topology.fromDict d).spineFor srcId dstId = (Topo.ofYaml d).spineFor srcId dstId
  inRange : ∀ srcId dstId, 0 ≤ (Topo.ofYaml d).spineFor srcId dstId ∧
    (Topo.ofYaml d).spineFor srcId dstId < d.spinesPerPlane
  /-- `usid_outer_dst` takes the transit spine. -/
  accepted : ∀ tenant ∈ d.tenants, ∀ plane < d.planes, ∀ a < d.leavesPerPlane,
    ∀ b < d.leavesPerPlane, ∀ sidMode, sidMode = "uA" ∨ sidMode = "uN" →
      ∃ addr, (Topo.ofYaml d).usidOuterDst tenant plane ((Topo.ofYaml d).spineFor a b) b sidMode
        = .ok addr

/-- Both check the tenant and then the host, the module in the function of the tenant. -/
theorem innerAddr_eq (d : TopoYaml) (tenant : String) (hostId : Int) :
    (Topology.fromDict d).innerAddr tenant hostId = (Topo.ofYaml d).innerAddr tenant hostId := by
  unfold Topology.innerAddr Topo.innerAddr Topo.greenAnycastAddr Topo.yellowAnycastAddr
  show (checkTenantIn d.tenants tenant).bind _ = (checkTenantIn d.tenants tenant).bind _
  refine congrArg _ (funext fun _ => ?_)
  by_cases hgreen : tenant = "green"
  · simp only [if_pos hgreen]
    rfl
  · simp only [if_neg hgreen]
    rfl

theorem fromDict_table {d : TopoYaml} (href : d.referencePairsSpines = none) :
    (Topology.fromDict d).referencePairsItems
      = if d.name = "4p-8x16" then referencePairsSpines else [] := by
  unfold Topology.fromDict
  rw [href]
  dsimp only
  split
  · decide
  · rfl

/-! ## The transit spine -/

section Spine

variable (numLeaves : Nat) {numSpines : Nat}

/-- A pair without an entry gets a spine of the plane. -/
theorem spineForPair_nil (hpos : 0 < numSpines) (srcId dstId : Int) :
    0 ≤ spineForPair [] numLeaves numSpines srcId dstId ∧
      spineForPair [] numLeaves numSpines srcId dstId < numSpines := by
  have hne : (numSpines : Int) ≠ 0 := by omega
  exact ⟨Int.emod_nonneg _ hne, Int.emod_lt_of_pos _ (by omega)⟩

/-- The two ids in the order in which the table has them. -/
def sortedPair (srcId dstId : Int) : Int × Int :=
  if srcId < dstId then (srcId, dstId) else (dstId, srcId)

/-- A pair of the table gets its entry, any other the hash. -/
theorem spineForPair_cases (numSpines : Nat) (srcId dstId : Int) :
    (∃ entry ∈ referencePairsSpines, entry.1 = sortedPair srcId dstId ∧
      spineForPair referencePairsSpines numLeaves numSpines srcId dstId = entry.2) ∨
    spineForPair referencePairsSpines numLeaves numSpines srcId dstId
      = spineForPair [] numLeaves numSpines srcId dstId := by
  unfold spineForPair
  dsimp only
  cases hfind : referencePairsSpines.find? fun entry =>
      entry.1 = if srcId < dstId then (srcId, dstId) else (dstId, srcId) with
  | none => exact Or.inr rfl
  | some entry =>
    have hpair := List.find?_some hfind
    exact Or.inl ⟨entry, List.mem_of_find?_eq_some hfind, of_decide_eq_true hpair, rfl⟩

/-- The table: hosts in order, and spines up to 7. -/
theorem referencePairsSpines_spec : ∀ entry ∈ referencePairsSpines,
    0 ≤ entry.1.1 ∧ entry.1.1 < entry.1.2 ∧ 8 ≤ entry.1.2 ∧ 0 ≤ entry.2 ∧ entry.2 < 8 := by
  decide

/-- Each entry is found. -/
theorem spineForPair_entry (numSpines : Nat) : ∀ entry ∈ referencePairsSpines,
    spineForPair referencePairsSpines numLeaves numSpines entry.1.1 entry.1.2 = entry.2 := by
  intro entry hmem
  unfold referencePairsSpines at hmem
  simp only [List.mem_cons, List.not_mem_nil, or_false] at hmem
  rcases hmem with rfl | rfl | rfl | rfl | rfl | rfl | rfl | rfl
  all_goals rfl

/-- With eight spines every transit spine is one of the plane; hosts 7 and 8 need all eight. -/
theorem spineFor_inRange_iff (hpos : 0 < numSpines) :
    (∀ srcId dstId,
      0 ≤ spineForPair referencePairsSpines numLeaves numSpines srcId dstId ∧
        spineForPair referencePairsSpines numLeaves numSpines srcId dstId < numSpines) ↔
      8 ≤ numSpines := by
  constructor
  · intro h
    have hlast : (7 : Int) < numSpines := (h 7 8).2
    omega
  · intro h srcId dstId
    rcases spineForPair_cases numLeaves numSpines srcId dstId with ⟨entry, hmem, -, heq⟩ | heq
    · have hspec := referencePairsSpines_spec entry hmem
      rw [heq]
      omega
    · rw [heq]
      exact spineForPair_nil numLeaves hpos srcId dstId

/-- The hash is not the table, whatever the numbers of spines and leaves: (0, 15) wants a divisor of
    15, (7, 8) more than seven spines, and then (4, 11) comes out wrong. -/
theorem table_ne_hash (hpos : 0 < numSpines) :
    ∃ srcId dstId, spineForPair [] numLeaves numSpines srcId dstId
      ≠ spineForPair referencePairsSpines numLeaves numSpines srcId dstId := by
  by_contra hall
  push Not at hall
  have h015 : ((0 : Int) * numLeaves + 15) % numSpines = 0 := hall 0 15
  have h114 : ((1 : Int) * numLeaves + 14) % numSpines = 2 := hall 1 14
  have h411 : ((4 : Int) * numLeaves + 11) % numSpines = 1 := hall 4 11
  have h78 : ((7 : Int) * numLeaves + 8) % numSpines = 7 := hall 7 8
  have hlarge : (7 : Int) < numSpines := by
    rw [← h78]
    exact Int.emod_lt_of_pos _ (by omega)
  have hdvd : numSpines ∣ 15 := by
    have : (numSpines : Int) ∣ 15 := Int.dvd_of_emod_eq_zero (by simpa using h015)
    exact_mod_cast this
  have hfifteen : numSpines = 15 := by
    have hle : numSpines ≤ 15 := Nat.le_of_dvd (by omega) hdvd
    interval_cases numSpines <;> omega
  subst hfifteen
  omega

/-! On the hosts of the topology alone, less is needed. -/

/-- A topology of at most eight leaves has no pair of the table. -/
theorem spineFor_hosts_inRange_iff (hpos : 0 < numSpines) :
    (∀ a < numLeaves, ∀ b < numLeaves,
      0 ≤ spineForPair referencePairsSpines numLeaves numSpines a b ∧
        spineForPair referencePairsSpines numLeaves numSpines a b < numSpines) ↔
      numLeaves ≤ 8 ∨ 8 ≤ numSpines := by
  constructor
  · intro h
    by_cases hleaves : numLeaves ≤ 8
    · exact Or.inl hleaves
    · have hlast : (7 : Int) < numSpines := (h 7 (by omega) 8 (by omega)).2
      omega
  · rintro (hleaves | hspines) a ha b hb
    · rcases spineForPair_cases numLeaves numSpines a b with ⟨entry, hmem, hpair, -⟩ | heq
      · have hspec := referencePairsSpines_spec entry hmem
        rw [hpair] at hspec
        unfold sortedPair at hspec
        split at hspec <;> dsimp only at hspec <;> omega
      · rw [heq]
        exact spineForPair_nil numLeaves hpos a b
    · exact (spineFor_inRange_iff numLeaves hpos).mpr hspines a b

/-- On the hosts, hash and table agree exactly if they do so on the pairs of the table. -/
theorem table_eq_hash_hosts_iff (numSpines : Nat) :
    (∀ a < numLeaves, ∀ b < numLeaves, spineForPair [] numLeaves numSpines a b
      = spineForPair referencePairsSpines numLeaves numSpines a b) ↔
    ∀ entry ∈ referencePairsSpines, entry.1.2 < numLeaves →
      (entry.1.1 * numLeaves + entry.1.2) % numSpines = entry.2 := by
  constructor
  · intro h entry hmem hlt
    obtain ⟨hnonneg, hle, hright, -⟩ := referencePairsSpines_spec entry hmem
    obtain ⟨a, ha⟩ := Int.eq_ofNat_of_zero_le hnonneg
    obtain ⟨b, hb⟩ := Int.eq_ofNat_of_zero_le (by omega : 0 ≤ entry.1.2)
    have heq := h a (by omega) b (by omega)
    rw [← ha, ← hb, spineForPair_entry numLeaves numSpines entry hmem] at heq
    rw [← heq]
    show _ = ((sortedPair entry.1.1 entry.1.2).1 * numLeaves + (sortedPair entry.1.1 entry.1.2).2)
      % numSpines
    rw [sortedPair, if_pos hle]
  · intro h a ha b hb
    rcases spineForPair_cases numLeaves numSpines a b with ⟨entry, hmem, hpair, heq⟩ | heq
    · rw [heq, ← h entry hmem]
      · rw [hpair]
        rfl
      · rw [hpair]
        unfold sortedPair
        split <;> dsimp only <;> omega
    · rw [heq]

end Spine

/-- The class and the module agree, and every transit spine is one of the plane, exactly for a
    topology of the reference design's name with at least eight spines per plane. -/
theorem samePlan_iff (d : TopoYaml) (hpos : 0 < d.spinesPerPlane)
    (href : d.referencePairsSpines = none) :
    SamePlan d ↔ d.name = "4p-8x16" ∧ 8 ≤ d.spinesPerPlane := by
  have htable := fromDict_table href
  constructor
  · intro h
    refine ⟨?_, (spineFor_inRange_iff d.leavesPerPlane hpos).mp h.inRange⟩
    by_contra hname
    rw [if_neg hname] at htable
    obtain ⟨srcId, dstId, hne⟩ := table_ne_hash d.leavesPerPlane hpos
    refine hne (Eq.trans ?_ (h.spineFor srcId dstId))
    unfold Topology.spineFor
    rw [htable]
    rfl
  · rintro ⟨hname, height⟩
    rw [if_pos hname] at htable
    have hrange := (spineFor_inRange_iff d.leavesPerPlane hpos).mpr height
    refine ⟨fun tenant hostId addr h => (innerAddr_eq d tenant hostId).trans h,
      fun _ _ _ _ _ _ h => h, fun _ _ _ _ h => h, fun _ _ _ _ h => h, fun _ _ _ _ h => h,
      fun srcId dstId => ?_, hrange, ?_⟩
    · unfold Topology.spineFor
      rw [htable]
      rfl
    · intro tenant htenant plane hplane a _ b hb sidMode hmode
      obtain ⟨spine, hspine⟩ := Int.eq_ofNat_of_zero_le (hrange a b).1
      have hlt : spine < d.spinesPerPlane := by
        have := (hrange a b).2
        omega
      have hspine : (Topo.ofYaml d).spineFor a b = (spine : Int) := hspine
      unfold Topo.usidOuterDst
      rw [hspine]
      have htenant : (Topo.ofYaml d).checkTenant tenant = .ok () := checkTenantIn_ok.mpr htenant
      have hplane : (Topo.ofYaml d).checkPlane plane = .ok plane := checkIndex_nat _ hplane
      have hspine : (Topo.ofYaml d).checkSpine spine = .ok spine := checkIndex_nat _ hlt
      have hleaf : (Topo.ofYaml d).checkHost b = .ok b := checkIndex_nat _ hb
      rw [htenant, hplane, hspine, hleaf, checkSidMode_ok.mpr hmode]
      by_cases hgreen : tenant = "green"
      · exact ⟨_, if_pos hgreen⟩
      · exact ⟨_, if_neg hgreen⟩

/-- At work on `4p-8x16` itself. -/
theorem samePlan_iff_reference :
    SamePlan ⟨"4p-8x16", 4, 8, 16, ["green", "yellow"], none, none⟩ :=
  (samePlan_iff ⟨"4p-8x16", 4, 8, 16, ["green", "yellow"], none, none⟩ (by decide) rfl).mpr
    (by decide)

/-- With four spines and sixteen leaves under another name, hosts 7 and 8 are sent over spine 7 by
    the module, over spine 0 by the class, and `usid_outer_dst` refuses the module's. -/
theorem spineFor_differs :
    let d : TopoYaml := ⟨"4p-4x16", 4, 4, 16, ["green", "yellow"], none, none⟩
    (Topo.ofYaml d).spineFor 7 8 = 7 ∧ (Topology.fromDict d).spineFor 7 8 = 0 ∧
      (Topo.ofYaml d).usidOuterDst "green" 0 ((Topo.ofYaml d).spineFor 7 8) 8
        = .error (.spine 4 7) := by
  decide

end Srv6Mrc
