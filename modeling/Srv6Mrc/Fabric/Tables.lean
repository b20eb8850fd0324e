/-
  The tables of the fabric's nodes, entry by entry.

  For a fabric whose numbers fit the texts (`Fits`), each entry of a leaf, a spine or a host is one of
  a few kinds, known by the groups of its prefix.  In the block of a plane there is one entry to a
  slot, so the slot decides what a switch does.
-/
import Srv6Mrc.Fabric.Network

namespace Srv6Mrc
namespace Fabric

open Py Net

/-- Numbers that leave one digit for a plane, a spine and a leaf, and a leaf's ports 0 to 7 for the
    spines. -/
structure Fits (F : Fabric) : Prop where
  planes : F.numPlanes ≤ 16
  spines : F.numSpines ≤ 8
  leaves : F.numLeaves ≤ 16

variable {F : Fabric}

/-- The number of a link has two bytes. -/
theorem Fits.linkIdx_lt (hF : F.Fits) {s l : Nat} (hs : s < F.numSpines) (hl : l < F.numLeaves) :
    F.linkIdx s l < 65536 := by
  have hspines := hF.spines
  have hleaves := hF.leaves
  have hmul : s * F.numLeaves ≤ 8 * 16 := Nat.mul_le_mul (by omega) hleaves
  unfold linkIdx
  omega

/-- The number of a link names its spine. -/
theorem linkIdx_inj {s s' l : Nat} (hl : l < F.numLeaves)
    (h : F.linkIdx s l = F.linkIdx s' l) : s = s' := by
  unfold linkIdx at h
  exact Nat.eq_of_mul_eq_mul_right (by omega) (Nat.add_right_cancel h)

/-- The links of a spine have different numbers. -/
theorem linkIdx_inj_leaf {s l l' : Nat} (h : F.linkIdx s l = F.linkIdx s l') : l = l' :=
  Nat.add_left_cancel h

theorem portNumber_leafUplinkEth (s : Nat) : portNumber (leafUplinkEth s) = some (s + 1) := by
  show (if s * 4 % 4 = 0 then some (s * 4 / 4 + 1) else none) = some (s + 1)
  rw [if_pos (Nat.mul_mod_left s 4), Nat.mul_div_cancel s (by omega)]

/-- The interface of a spine's downlink. -/
theorem portNumber_spineDownlinkEth (l : Nat) : portNumber (spineDownlinkEth l) = some (l + 1) :=
  portNumber_leafUplinkEth l

/-- The leaf's port to a host, and the table the port is in. -/
def hostPort : Color → Nat
  | .green => 9
  | .yellow => 10

def hostTable : Color → Vrf
  | .green => .green
  | .yellow => .default

/-! ## The tables an interface is in -/

variable {p l : Nat}

/-- The ports of a leaf: the loopback, the uplinks and the hosts'. -/
theorem mem_leaf_port {port : Port} {v : Option String}
    (h : (InterfaceKey.port port, v) ∈ (F.leafConfigDb p l).interface) :
    (port = .loopback0 ∧ v = none) ∨ (∃ s < F.numSpines, port = leafUplinkEth s ∧ v = none) ∨
      (port = .ethernet 32 ∧ v = some "Vrf-green") ∨ (port = .ethernet 36 ∧ v = none) := by
  simp only [leafConfigDb, loopbackKeys, List.map_cons, List.map_nil, List.mem_append,
    List.mem_cons, List.mem_flatMap, List.mem_range, Prod.mk.injEq, InterfaceKey.port.injEq,
    reduceCtorEq, false_and, or_false, false_or, List.not_mem_nil] at h
  rcases h with (h | ⟨s, hs, h⟩) | h | h
  · exact Or.inl h
  · exact Or.inr (Or.inl ⟨s, hs, h⟩)
  · exact Or.inr (Or.inr (Or.inl h))
  · exact Or.inr (Or.inr (Or.inr h))

/-- All ports of a leaf but the green host's are in the default table. -/
theorem leaf_vrfOf_default {port : Port} (hport : port ≠ .ethernet 32) :
    (F.leafConfigDb p l).vrfOf port = .default := by
  refine ConfigDb.vrfOf_default fun v hv => ?_
  rcases mem_leaf_port hv with ⟨-, hv⟩ | ⟨-, -, -, hv⟩ | ⟨h, -⟩ | ⟨-, hv⟩
  · exact hv
  · exact hv
  · exact absurd h hport
  · exact hv

/-- The eighth spine is the last that leaves `Ethernet32` alone. -/
theorem leafUplinkEth_ne (hF : F.Fits) {s : Nat} (hs : s < F.numSpines) :
    leafUplinkEth s ≠ .ethernet 32 := by
  have hspines := hF.spines
  intro h
  injection h with h
  omega

theorem leaf_vrfOf_green (hF : F.Fits) : (F.leafConfigDb p l).vrfOf (.ethernet 32) = .green := by
  have hmem : (InterfaceKey.port (.ethernet 32), some "Vrf-green")
      ∈ (F.leafConfigDb p l).interface := by
    simp [leafConfigDb]
  rw [ConfigDb.vrfOf_eq hmem]
  · rfl
  · intro v hv
    rcases mem_leaf_port hv with ⟨h, -⟩ | ⟨s, hs, h, -⟩ | ⟨-, hv⟩ | ⟨h, -⟩
    · cases h
    · exact absurd h.symm (leafUplinkEth_ne hF hs)
    · exact hv
    · cases h

/-- A spine has the default table only. -/
theorem spine_vrfOf {s : Nat} (port : Port) : (F.spineConfigDb p s).vrfOf port = .default := by
  refine ConfigDb.vrfOf_default fun v hv => ?_
  simp only [spineConfigDb, loopbackKeys, List.map_cons, List.map_nil, List.mem_append,
    List.mem_cons, List.mem_flatMap, Prod.mk.injEq, reduceCtorEq, false_and, or_false,
    List.not_mem_nil] at hv
  rcases hv with ⟨-, hv⟩ | ⟨l, -, -, hv⟩
  · exact hv
  · exact hv

/-! ## A leaf -/

/-- What a leaf does with a slot of its plane. -/
inductive LeafSlot (F : Fabric) (l : Nat) : Nat → Action Vrf → Prop where
  | locator : LeafSlot F l (0x20 + l) .uN
  | uplink {s : Nat} (hs : s < F.numSpines) : LeafSlot F l (0xf000 + s) (.uA (s + 1))
  | green : LeafSlot F l 0xd000 (.uDT6 .green)
  | yellow : LeafSlot F l 0xe009 (.uA 10)
  | probe : LeafSlot F l 0xdfff (.uDT6 .default)
  | spine {s : Nat} {nexthop : Ipv6} (hs : s < F.numSpines)
      (h : nexthop.hextets = [0x2001, 0xdb8, 0xfab, F.linkIdx s l, 0, 0, 0, 0]) :
      LeafSlot F l (0x10 + s) (.via nexthop none)
  | leaf {s other : Nat} {nexthop : Ipv6} (hs : s < F.numSpines) (hother : other < F.numLeaves)
      (hne : other ≠ l) (h : nexthop.hextets = [0x2001, 0xdb8, 0xfab, F.linkIdx s l, 0, 0, 0, 0]) :
      LeafSlot F l (0x20 + other) (.via nexthop none)
  | yellowHost {nexthop : Ipv6} (h : nexthop.hextets = [0x2001, 0xdb8, 0xcccc, l, 0, 0, 0, 2]) :
      LeafSlot F l 0xd001 (.via nexthop none)

/-- A leaf's static routes are those of its slots. -/
theorem leaf_frr_cases (hF : F.Fits) (hp : p < F.numPlanes) (hl : l < F.numLeaves)
    {r : Route (Action Vrf)} (hr : r ∈ (F.leafFrr p l).routes) :
    ∃ x action, LeafSlot F l x action ∧ r.Is [0xfc00, p, x, 0, 0, 0, 0, 0] 48 action := by
  have hp16 : p < 16 := Nat.lt_of_lt_of_le hp hF.planes
  have hl16 : l < 16 := Nat.lt_of_lt_of_le hl hF.leaves
  have hspines := hF.spines
  have hleaves := hF.leaves
  rcases List.mem_append.mp hr with hr | hr
  · obtain ⟨line, hline, hr⟩ := List.mem_filterMap.mp hr
    simp only [leafFrr, List.mem_append, List.mem_cons, List.mem_map, List.mem_range,
      List.not_mem_nil, or_false] at hline
    rcases hline with (rfl | ⟨s, hs, rfl⟩) | rfl | rfl | rfl
    · exact ⟨_, _, .locator, is_of_sidRoute (readsPrefix_leafLocator hp16 hl16) rfl hr⟩
    · exact ⟨_, _, .uplink hs, is_of_sidRoute (readsPrefix_leafUaSid hp16 (by omega))
        (Behavior.action_uA (portNumber_leafUplinkEth s) _) hr⟩
    · exact ⟨_, _, .green, is_of_sidRoute (readsPrefix_greenUdtSid hp16) rfl hr⟩
    · exact ⟨_, _, .yellow, is_of_sidRoute (readsPrefix_leafHostUaSid hp16) rfl hr⟩
    · exact ⟨_, _, .probe, is_of_sidRoute (readsPrefix_probeDfffSid hp16) rfl hr⟩
  · obtain ⟨line, hline, hr⟩ := List.mem_filterMap.mp hr
    simp only [leafFrr, List.mem_append, List.mem_cons, List.mem_map, List.mem_range,
      List.mem_flatMap, List.mem_filter, decide_eq_true_eq, List.not_mem_nil, or_false] at hline
    rcases hline with (⟨s, hs, rfl⟩ | ⟨other, ⟨hother, hne⟩, s, hs, rfl⟩) | rfl
    · obtain ⟨ip, hip, hgroups⟩ := reads_p2pSpine (hF.linkIdx_lt hs hl)
      exact ⟨_, _, .spine hs hgroups,
        is_of_staticRoute (readsPrefix_spineLocator hp16 (by omega)) hip hr⟩
    · obtain ⟨ip, hip, hgroups⟩ := reads_p2pSpine (hF.linkIdx_lt hs hl)
      exact ⟨_, _, .leaf hs hother hne hgroups,
        is_of_staticRoute (readsPrefix_leafLocator hp16 (by omega)) hip hr⟩
    · obtain ⟨ip, hip, hgroups⟩ := reads_hostNexthop .yellow hl16
      exact ⟨_, _, .yellowHost hgroups,
        is_of_staticRoute (readsPrefix_yellowUdtSid hp16) hip hr⟩

/-- Every slot of a leaf has its route. -/
theorem exists_leafSlot (hF : F.Fits) (hp : p < F.numPlanes) (hl : l < F.numLeaves) {x : Nat}
    {action : Action Vrf} (h : LeafSlot F l x action) :
    ∃ r ∈ (F.leafFrr p l).routes, r.Is [0xfc00, p, x, 0, 0, 0, 0, 0] 48 action := by
  have hp16 : p < 16 := Nat.lt_of_lt_of_le hp hF.planes
  have hl16 : l < 16 := Nat.lt_of_lt_of_le hl hF.leaves
  have hspines := hF.spines
  have hleaves := hF.leaves
  have hsid : ∀ {text behavior}, (text, behavior) ∈ (F.leafFrr p l).staticSids →
      ReadsPrefix text [0xfc00, p, x, 0, 0, 0, 0, 0] 48 → behavior.action = some action →
        ∃ r ∈ (F.leafFrr p l).routes, r.Is [0xfc00, p, x, 0, 0, 0, 0, 0] 48 action := by
    intro text behavior hmem htext haction
    obtain ⟨r, hr, his⟩ := sidRoute_is htext haction
    exact ⟨r, List.mem_append_left _ (List.mem_filterMap.mpr ⟨_, hmem, hr⟩), his⟩
  have hstatic : ∀ {text nexthop ip}, (text, nexthop) ∈ (F.leafFrr p l).staticRoutes →
      ReadsPrefix text [0xfc00, p, x, 0, 0, 0, 0, 0] 48 → Ipv6.ofText nexthop = some ip →
        action = .via ip none →
          ∃ r ∈ (F.leafFrr p l).routes, r.Is [0xfc00, p, x, 0, 0, 0, 0, 0] 48 action := by
    rintro text nexthop ip hmem htext hip rfl
    obtain ⟨r, hr, his⟩ := staticRoute_is htext hip
    exact ⟨r, List.mem_append_right _ (List.mem_filterMap.mpr ⟨_, hmem, hr⟩), his⟩
  -- first the SIDs, then the routes: to a spine, to another leaf, to the yellow host
  cases h with
  | locator =>
    have hmem : (leafLocator p l, Behavior.uN) ∈ (F.leafFrr p l).staticSids := by
      simp [leafFrr]
    exact hsid hmem (readsPrefix_leafLocator hp16 hl16) rfl
  | @uplink s hs =>
    have hmem : (leafUaSid p s, Behavior.uA (leafUplinkEth s) (F.p2pPrefix s l ++ "::0"))
        ∈ (F.leafFrr p l).staticSids := by
      simp only [leafFrr, List.mem_append, List.mem_map, List.mem_range]
      exact Or.inl (Or.inr ⟨s, hs, rfl⟩)
    exact hsid hmem (readsPrefix_leafUaSid hp16 (by omega))
      (Behavior.action_uA (portNumber_leafUplinkEth s) _)
  | green =>
    have hmem : (greenUdtSid p, Behavior.uDT6 "Vrf-green") ∈ (F.leafFrr p l).staticSids := by
      simp [leafFrr]
    exact hsid hmem (readsPrefix_greenUdtSid hp16) rfl
  | yellow =>
    have hmem : (leafHostUaSid p 36,
        Behavior.uA (.ethernet 36) (hostAnycastPrefix .yellow l ++ "::2")) ∈ (F.leafFrr p l).staticSids := by
      simp [leafFrr]
    exact hsid hmem (readsPrefix_leafHostUaSid hp16) rfl
  | probe =>
    have hmem : (probeDfffSid p, Behavior.uDT6 "default") ∈ (F.leafFrr p l).staticSids := by
      simp [leafFrr]
    exact hsid hmem (readsPrefix_probeDfffSid hp16) rfl
  | @spine s nexthop hs hnexthop =>
    obtain ⟨ip, hip, hgroups⟩ := reads_p2pSpine (hF.linkIdx_lt hs hl)
    have hmem : (spineLocator p s, F.p2pPrefix s l ++ "::0") ∈ (F.leafFrr p l).staticRoutes := by
      simp only [leafFrr, List.mem_append, List.mem_map, List.mem_range]
      exact Or.inl (Or.inl ⟨s, hs, rfl⟩)
    refine hstatic hmem (readsPrefix_spineLocator hp16 (by omega)) hip ?_
    rw [Ipv6.eq_of_hextets (hnexthop.trans hgroups.symm)]
  | @leaf s other nexthop hs hother hne hnexthop =>
    obtain ⟨ip, hip, hgroups⟩ := reads_p2pSpine (hF.linkIdx_lt hs hl)
    have hmem : (leafLocator p other, F.p2pPrefix s l ++ "::0") ∈ (F.leafFrr p l).staticRoutes := by
      simp only [leafFrr, List.mem_append, List.mem_map, List.mem_flatMap, List.mem_filter,
        List.mem_range, decide_eq_true_eq]
      exact Or.inl (Or.inr ⟨other, ⟨hother, hne⟩, s, hs, rfl⟩)
    refine hstatic hmem (readsPrefix_leafLocator hp16 (by omega)) hip ?_
    rw [Ipv6.eq_of_hextets (hnexthop.trans hgroups.symm)]
  | @yellowHost nexthop hnexthop =>
    obtain ⟨ip, hip, hgroups⟩ := reads_hostNexthop .yellow hl16
    have hmem : (yellowUdtSid p, hostAnycastPrefix .yellow l ++ "::2")
        ∈ (F.leafFrr p l).staticRoutes := by
      simp [leafFrr]
    refine hstatic hmem (readsPrefix_yellowUdtSid hp16) hip ?_
    rw [Ipv6.eq_of_hextets (hnexthop.trans hgroups.symm)]

/-- The addresses of a leaf: table, groups, length, and the link. -/
inductive LeafAddress (F : Fabric) (p l : Nat) : Vrf → List Nat → Nat → Option Nat → Prop where
  | loopback : LeafAddress F p l .default [0xfc00, p, 0x20 + l, 0, 0, 0, 0, 1] 128 none
  | uplink {s : Nat} (hs : s < F.numSpines) :
      LeafAddress F p l .default [0x2001, 0xdb8, 0xfab, F.linkIdx s l, 0, 0, 0, 1] 127 (some (s + 1))
  | yellow : LeafAddress F p l .default [0x2001, 0xdb8, 0xcccc, l, 0, 0, 0, 1] 64 (some 10)
  | green : LeafAddress F p l .green [0x2001, 0xdb8, 0xbbbb, l, 0, 0, 0, 1] 64 (some 9)

/-- The addresses of a leaf: its loopback, its uplinks and its hosts. -/
theorem mem_leaf_ipv6 {port : Port} {text : String} {v : Option String}
    (h : (InterfaceKey.ipv6 port text, v) ∈ (F.leafConfigDb p l).interface) :
    (port = .loopback0 ∧ text = leafLoopback p l ++ "/128") ∨
    (∃ s < F.numSpines, port = leafUplinkEth s ∧ text = F.p2pPrefix s l ++ "::1/127") ∨
    (port = .ethernet 32 ∧ text = hostAnycastPrefix .green l ++ "::1/64") ∨
    (port = .ethernet 36 ∧ text = hostAnycastPrefix .yellow l ++ "::1/64") := by
  simp only [leafConfigDb, loopbackKeys, List.map_cons, List.map_nil, List.mem_append,
    List.mem_cons, List.mem_flatMap, List.mem_range, Prod.mk.injEq, InterfaceKey.ipv6.injEq,
    reduceCtorEq, false_and, or_false, false_or, List.not_mem_nil] at h
  rcases h with (⟨h, -⟩ | ⟨s, hs, h, -⟩) | ⟨h, -⟩ | ⟨h, -⟩
  · exact Or.inl h
  · exact Or.inr (Or.inl ⟨s, hs, h⟩)
  · exact Or.inr (Or.inr (Or.inl h))
  · exact Or.inr (Or.inr (Or.inr h))

/-- The address of each interface. -/
theorem leafAddress_of_mem (hF : F.Fits) (hp : p < F.numPlanes) (hl : l < F.numLeaves) {port : Port}
    {text : String} {v : Option String}
    (h : (InterfaceKey.ipv6 port text, v) ∈ (F.leafConfigDb p l).interface) :
    ∃ hextets len, ReadsPrefix text hextets len ∧
      LeafAddress F p l ((F.leafConfigDb p l).vrfOf port) hextets len (portNumber port) := by
  have hp16 : p < 16 := Nat.lt_of_lt_of_le hp hF.planes
  have hl16 : l < 16 := Nat.lt_of_lt_of_le hl hF.leaves
  rcases mem_leaf_ipv6 h with ⟨rfl, rfl⟩ | ⟨s, hs, rfl, rfl⟩ | ⟨rfl, rfl⟩ | ⟨rfl, rfl⟩
  · refine ⟨_, _, (reads_leafLoopback hp16 hl16).slash128, ?_⟩
    rw [leaf_vrfOf_default (fun h => by cases h)]
    exact .loopback
  · refine ⟨_, _, readsPrefix_p2pLeaf (hF.linkIdx_lt hs hl), ?_⟩
    rw [leaf_vrfOf_default (leafUplinkEth_ne hF hs), portNumber_leafUplinkEth]
    exact .uplink hs
  · refine ⟨_, _, readsPrefix_hostGateway .green hl16, ?_⟩
    rw [leaf_vrfOf_green hF]
    exact .green
  · refine ⟨_, _, readsPrefix_hostGateway .yellow hl16, ?_⟩
    rw [leaf_vrfOf_default (fun h => by cases h)]
    exact .yellow

/-- A leaf's connected routes are those of its addresses. -/
theorem leaf_interface_cases (hF : F.Fits) (hp : p < F.numPlanes) (hl : l < F.numLeaves)
    {table : Vrf} {r : Route (Action Vrf)} (hr : r ∈ (F.leafConfigDb p l).routes table) :
    ∃ hextets len port, LeafAddress F p l table hextets len port ∧
      (r.Is hextets 128 .own ∨ len < 128 ∧ ∃ k, port = some k ∧ r.Is hextets len (.connected k)) := by
  obtain ⟨⟨key, v⟩, hmem, hr⟩ := List.mem_flatMap.mp hr
  cases key with
  | port _ => cases hr
  | ipv4 _ _ => cases hr
  | ipv6 port text =>
    dsimp only at hr
    split at hr
    · rename_i htable
      obtain ⟨hextets, len, hread, haddress⟩ := leafAddress_of_mem hF hp hl hmem
      rw [htable] at haddress
      exact ⟨hextets, len, _, haddress, mem_addressRoutes hread hr⟩
    · cases hr

/-- The connected entry of a link. -/
theorem exists_leafAddress (hF : F.Fits) (hl : l < F.numLeaves) {table : Vrf}
    {hextets : List Nat} {len k : Nat} (h : LeafAddress F p l table hextets len (some k)) :
    ∃ r ∈ (F.leafConfigDb p l).routes table, r.Is hextets len (.connected k) := by
  have hl16 : l < 16 := Nat.lt_of_lt_of_le hl hF.leaves
  have hentry : ∀ {port text v}, (InterfaceKey.ipv6 port text, v) ∈ (F.leafConfigDb p l).interface →
      (F.leafConfigDb p l).vrfOf port = table → portNumber port = some k →
        ReadsPrefix text hextets len → len < 128 →
          ∃ r ∈ (F.leafConfigDb p l).routes table, r.Is hextets len (.connected k) := by
    intro port text v hmem htable hport hread hlen
    obtain ⟨r, hr, his⟩ := exists_connected hread k hlen
    refine ⟨r, List.mem_flatMap.mpr ⟨_, hmem, ?_⟩, his⟩
    dsimp only
    rw [if_pos htable, hport]
    exact hr
  cases h with
  | @uplink s hs =>
    have hmem : (InterfaceKey.ipv6 (leafUplinkEth s) (F.p2pPrefix s l ++ "::1/127"), none)
        ∈ (F.leafConfigDb p l).interface := by
      simp only [leafConfigDb, List.mem_append, List.mem_flatMap, List.mem_range]
      exact Or.inl (Or.inr ⟨s, hs, List.mem_cons_of_mem _ (List.mem_singleton_self _)⟩)
    exact hentry hmem (leaf_vrfOf_default (leafUplinkEth_ne hF hs)) (portNumber_leafUplinkEth s)
      (readsPrefix_p2pLeaf (hF.linkIdx_lt hs hl)) (by omega)
  | yellow =>
    have hmem : (InterfaceKey.ipv6 (.ethernet 36) (hostAnycastPrefix .yellow l ++ "::1/64"), none)
        ∈ (F.leafConfigDb p l).interface := by
      simp [leafConfigDb]
    exact hentry hmem (leaf_vrfOf_default (fun h => by cases h)) rfl
      (readsPrefix_hostGateway .yellow hl16) (by omega)
  | green =>
    have hmem : (InterfaceKey.ipv6 (.ethernet 32) (hostAnycastPrefix .green l ++ "::1/64"), none)
        ∈ (F.leafConfigDb p l).interface := by
      simp [leafConfigDb]
    exact hentry hmem (leaf_vrfOf_green hF) rfl (readsPrefix_hostGateway .green hl16) (by omega)

/-- `Vrf-green` has the addresses of the green host, and no other. -/
theorem leaf_green_miss (hF : F.Fits) (hp : p < F.numPlanes) (hl : l < F.numLeaves) {a : Ipv6}
    {g₀ g₁ g₂ : Nat} {groups : List Nat} (ha : a.hextets = g₀ :: g₁ :: g₂ :: groups)
    (hg : g₂ ≠ 0xbbbb) : lookup (F.network.fib (.leaf p l) .green) a = [] := by
  refine lookup_nil fun r hr hmatch => ?_
  obtain ⟨hextets, len, port, haddress, his⟩ := leaf_interface_cases hF hp hl hr
  cases haddress with
  | green =>
    rcases his with his | ⟨-, k, -, his⟩
    · have hsame := (his.matches_iff ha).mp hmatch
      simp [sameBits] at hsame
      omega
    · have hsame := (his.matches_iff ha).mp hmatch
      simp [sameBits] at hsame
      omega

/-- What a leaf does with a destination in the block of its plane. -/
theorem leaf_find_slot (hF : F.Fits) (hp : p < F.numPlanes) (hl : l < F.numLeaves) {a : Ipv6}
    {x y₃ y₄ y₅ y₆ y₇ : Nat} (ha : a.hextets = [0xfc00, p, x, y₃, y₄, y₅, y₆, y₇]) (hy : y₇ ≠ 1)
    {action : Action Vrf} (hslot : LeafSlot F l x action)
    (hunique : ∀ action', LeafSlot F l x action' → action' = action) (table : Vrf)
    (hx : x ≠ 0xbbbb) : Only (F.network.find (.leaf p l) table a) action := by
  have hmain : Only (lookup (F.network.fib (.leaf p l) .default) a) action := by
    obtain ⟨r, hr, his⟩ := exists_leafSlot hF hp hl hslot
    refine his.lookup_only (List.mem_append_left _ hr) ha (by simp [sameBits]) fun r' hr' hmatch => ?_
    rcases List.mem_append.mp hr' with hr' | hr'
    · obtain ⟨x', action', hslot', his'⟩ := leaf_frr_cases hF hp hl hr'
      have hsame := (his'.matches_iff ha).mp hmatch
      have hx' : x' = x := by simpa [sameBits] using hsame
      subst hx'
      exact ⟨Nat.le_of_eq his'.len, fun _ => his'.action.trans (hunique _ hslot')⟩
    · obtain ⟨hextets, len, port, haddress, his'⟩ := leaf_interface_cases hF hp hl hr'
      cases haddress <;> rcases his' with his' | ⟨-, k, -, his'⟩ <;>
        have hsame := (his'.matches_iff ha).mp hmatch <;> simp [sameBits] at hsame <;> omega
  cases table with
  | default => exact Network.find_of_lookup hmain
  | green => exact Network.find_of_miss (leaf_green_miss hF hp hl ha hx) hmain

/-- A spine's end of an uplink is on the uplink. -/
theorem leaf_find_p2p (hF : F.Fits) (hp : p < F.numPlanes) (hl : l < F.numLeaves) {s : Nat}
    (hs : s < F.numSpines) {a : Ipv6}
    (ha : a.hextets = [0x2001, 0xdb8, 0xfab, F.linkIdx s l, 0, 0, 0, 0]) (table : Vrf) :
    Only (F.network.find (.leaf p l) table a) (.connected (s + 1)) := by
  have hmain : Only (lookup (F.network.fib (.leaf p l) .default) a) (.connected (s + 1)) := by
    obtain ⟨r, hr, his⟩ := exists_leafAddress hF hl (p := p) (.uplink hs)
    refine his.lookup_only (List.mem_append_right _ hr) ha (by simp [sameBits]) fun r' hr' hmatch => ?_
    rcases List.mem_append.mp hr' with hr' | hr'
    · obtain ⟨x', action', -, his'⟩ := leaf_frr_cases hF hp hl hr'
      have hsame := (his'.matches_iff ha).mp hmatch
      simp [sameBits] at hsame
    · obtain ⟨hextets, len, port, haddress, his'⟩ := leaf_interface_cases hF hp hl hr'
      cases haddress with
      | @uplink s' hs' =>
        rcases his' with his' | ⟨-, k, hk, his'⟩
        · have hsame := (his'.matches_iff ha).mp hmatch
          simp [sameBits] at hsame
        · have hsame := (his'.matches_iff ha).mp hmatch
          simp [sameBits] at hsame
          have hs' := linkIdx_inj hl hsame
          cases hk
          subst hs'
          exact ⟨Nat.le_of_eq his'.len, fun _ => his'.action⟩
      | _ =>
        rcases his' with his' | ⟨-, k, -, his'⟩ <;>
          have hsame := (his'.matches_iff ha).mp hmatch <;> simp [sameBits] at hsame
  cases table with
  | default => exact Network.find_of_lookup hmain
  | green => exact Network.find_of_miss (leaf_green_miss hF hp hl ha (by omega)) hmain

/-- The addresses of a host's /64, but for the leaf's own, are on the host's port: in `Vrf-green` for
    green, in the default table for yellow. -/
theorem leaf_find_host (hF : F.Fits) (hp : p < F.numPlanes) (hl : l < F.numLeaves) (color : Color)
    {z : Nat} (hz : z ≠ 1) {a : Ipv6}
    (ha : a.hextets = [0x2001, 0xdb8, tenantGroup color, l, 0, 0, 0, z]) :
    Only (F.network.find (.leaf p l) (hostTable color) a) (.connected (hostPort color)) := by
  cases color with
  | green =>
    refine Network.find_of_lookup ?_
    obtain ⟨r, hr, his⟩ := exists_leafAddress hF hl (p := p) .green
    refine his.lookup_only hr ha (by simp [sameBits, tenantGroup]) fun r' hr' hmatch => ?_
    obtain ⟨hextets, len, port, haddress, his'⟩ := leaf_interface_cases hF hp hl hr'
    cases haddress with
    | green =>
      rcases his' with his' | ⟨-, k, hk, his'⟩
      · have hsame := (his'.matches_iff ha).mp hmatch
        simp [sameBits] at hsame
        omega
      · cases hk
        exact ⟨Nat.le_of_eq his'.len, fun _ => his'.action⟩
  | yellow =>
    refine Network.find_of_lookup ?_
    obtain ⟨r, hr, his⟩ := exists_leafAddress hF hl (p := p) .yellow
    refine his.lookup_only (List.mem_append_right _ hr) ha (by simp [sameBits, tenantGroup])
      fun r' hr' hmatch => ?_
    rcases List.mem_append.mp hr' with hr' | hr'
    · obtain ⟨x', action', -, his'⟩ := leaf_frr_cases hF hp hl hr'
      have hsame := (his'.matches_iff ha).mp hmatch
      simp [sameBits] at hsame
    · obtain ⟨hextets, len, port, haddress, his'⟩ := leaf_interface_cases hF hp hl hr'
      cases haddress with
      | yellow =>
        rcases his' with his' | ⟨-, k, hk, his'⟩
        · have hsame := (his'.matches_iff ha).mp hmatch
          simp [sameBits] at hsame
          omega
        · cases hk
          exact ⟨Nat.le_of_eq his'.len, fun _ => his'.action⟩
      | _ =>
        rcases his' with his' | ⟨-, k, -, his'⟩ <;>
          have hsame := (his'.matches_iff ha).mp hmatch <;> simp [sameBits, tenantGroup] at hsame

/-! ## A spine -/

/-- What a spine does with a slot of its plane. -/
inductive SpineSlot (F : Fabric) (s : Nat) : Nat → Action Vrf → Prop where
  | locator : SpineSlot F s (0x10 + s) .uN
  | downlink {l : Nat} (hl : l < F.numLeaves) : SpineSlot F s (0xe000 + l) (.uA (l + 1))
  | leaf {l : Nat} {nexthop : Ipv6} (hl : l < F.numLeaves)
      (h : nexthop.hextets = [0x2001, 0xdb8, 0xfab, F.linkIdx s l, 0, 0, 0, 1]) :
      SpineSlot F s (0x20 + l) (.via nexthop none)

variable {s : Nat}

/-- A spine's static routes are those of its slots. -/
theorem spine_frr_cases (hF : F.Fits) (hp : p < F.numPlanes) (hs : s < F.numSpines)
    {r : Route (Action Vrf)} (hr : r ∈ (F.spineFrr p s).routes) :
    ∃ x action, SpineSlot F s x action ∧ r.Is [0xfc00, p, x, 0, 0, 0, 0, 0] 48 action := by
  have hp16 : p < 16 := Nat.lt_of_lt_of_le hp hF.planes
  have hspines := hF.spines
  have hleaves := hF.leaves
  rcases List.mem_append.mp hr with hr | hr
  · obtain ⟨line, hline, hr⟩ := List.mem_filterMap.mp hr
    simp only [spineFrr, List.mem_append, List.mem_cons, List.mem_map, List.mem_range,
      List.not_mem_nil, or_false] at hline
    rcases hline with rfl | ⟨l, hl, rfl⟩
    · exact ⟨_, _, .locator,
        is_of_sidRoute (readsPrefix_spineLocator hp16 (by omega)) rfl hr⟩
    · exact ⟨_, _, .downlink hl, is_of_sidRoute (readsPrefix_spineUaSid hp16 (by omega))
        (Behavior.action_uA (portNumber_spineDownlinkEth l) _) hr⟩
  · obtain ⟨line, hline, hr⟩ := List.mem_filterMap.mp hr
    simp only [spineFrr, List.mem_map, List.mem_range] at hline
    obtain ⟨l, hl, rfl⟩ := hline
    obtain ⟨ip, hip, hgroups⟩ := reads_p2pLeaf (hF.linkIdx_lt hs hl)
    exact ⟨_, _, .leaf hl hgroups,
      is_of_staticRoute (readsPrefix_leafLocator hp16 (by omega)) hip hr⟩

/-- Every slot of a spine has its route. -/
theorem exists_spineSlot (hF : F.Fits) (hp : p < F.numPlanes) (hs : s < F.numSpines) {x : Nat}
    {action : Action Vrf} (h : SpineSlot F s x action) :
    ∃ r ∈ (F.spineFrr p s).routes, r.Is [0xfc00, p, x, 0, 0, 0, 0, 0] 48 action := by
  have hp16 : p < 16 := Nat.lt_of_lt_of_le hp hF.planes
  have hspines := hF.spines
  have hleaves := hF.leaves
  cases h with
  | locator =>
    have hmem : (spineLocator p s, Behavior.uN) ∈ (F.spineFrr p s).staticSids := by
      simp [spineFrr]
    obtain ⟨r, hr, his⟩ := sidRoute_is (readsPrefix_spineLocator hp16 (by omega : s < 16))
      (show Behavior.uN.action = some .uN from rfl)
    exact ⟨r, List.mem_append_left _ (List.mem_filterMap.mpr ⟨_, hmem, hr⟩), his⟩
  | @downlink l hl =>
    have hmem : (spineUaSid p l, Behavior.uA (spineDownlinkEth l) (F.p2pPrefix s l ++ "::1"))
        ∈ (F.spineFrr p s).staticSids := by
      simp only [spineFrr, List.mem_append, List.mem_map, List.mem_range]
      exact Or.inr ⟨l, hl, rfl⟩
    obtain ⟨r, hr, his⟩ := sidRoute_is (readsPrefix_spineUaSid hp16 (by omega : l < 16))
      (Behavior.action_uA (portNumber_spineDownlinkEth l) (F.p2pPrefix s l ++ "::1"))
    exact ⟨r, List.mem_append_left _ (List.mem_filterMap.mpr ⟨_, hmem, hr⟩), his⟩
  | @leaf l nexthop hl hnexthop =>
    obtain ⟨ip, hip, hgroups⟩ := reads_p2pLeaf (hF.linkIdx_lt hs hl)
    have hmem : (leafLocator p l, F.p2pPrefix s l ++ "::1") ∈ (F.spineFrr p s).staticRoutes := by
      simp only [spineFrr, List.mem_map, List.mem_range]
      exact ⟨l, hl, rfl⟩
    obtain ⟨r, hr, his⟩ := staticRoute_is (readsPrefix_leafLocator hp16 (by omega : l < 16)) hip
    rw [Ipv6.eq_of_hextets (hnexthop.trans hgroups.symm)]
    exact ⟨r, List.mem_append_right _ (List.mem_filterMap.mpr ⟨_, hmem, hr⟩), his⟩

/-- The addresses of a spine: its own, and the links. -/
inductive SpineAddress (F : Fabric) (p s : Nat) : List Nat → Nat → Option Nat → Prop where
  | loopback : SpineAddress F p s [0xfc00, p, 0x10 + s, 0, 0, 0, 0, 1] 128 none
  | downlink {l : Nat} (hl : l < F.numLeaves) :
      SpineAddress F p s [0x2001, 0xdb8, 0xfab, F.linkIdx s l, 0, 0, 0, 0] 127 (some (l + 1))

/-- A spine's connected routes are those of its addresses. -/
theorem spine_interface_cases (hF : F.Fits) (hp : p < F.numPlanes) (hs : s < F.numSpines)
    {table : Vrf} {r : Route (Action Vrf)} (hr : r ∈ (F.spineConfigDb p s).routes table) :
    ∃ hextets len port, SpineAddress F p s hextets len port ∧
      (r.Is hextets 128 .own ∨ len < 128 ∧ ∃ k, port = some k ∧ r.Is hextets len (.connected k)) := by
  have hp16 : p < 16 := Nat.lt_of_lt_of_le hp hF.planes
  have hs16 : s < 16 := Nat.lt_of_lt_of_le hs (Nat.le_trans hF.spines (by omega))
  obtain ⟨⟨key, v⟩, hmem, hr⟩ := List.mem_flatMap.mp hr
  cases key with
  | port _ => cases hr
  | ipv4 _ _ => cases hr
  | ipv6 port text =>
    simp only [spineConfigDb, loopbackKeys, List.map_cons, List.map_nil, List.mem_append,
      List.mem_cons, List.mem_flatMap, List.mem_range, Prod.mk.injEq, InterfaceKey.ipv6.injEq,
      reduceCtorEq, false_and, or_false, false_or, List.not_mem_nil] at hmem
    dsimp only at hr
    split at hr
    · rcases hmem with ⟨⟨rfl, rfl⟩, -⟩ | ⟨l, hl, ⟨rfl, rfl⟩, -⟩
      · exact ⟨_, _, _, .loopback,
          mem_addressRoutes (reads_spineLoopback hp16 hs16).slash128 hr⟩
      · rw [portNumber_spineDownlinkEth] at hr
        exact ⟨_, _, _, .downlink hl,
          mem_addressRoutes (readsPrefix_p2pSpine (hF.linkIdx_lt hs hl)) hr⟩
    · cases hr

/-- Every downlink of a spine is connected. -/
theorem exists_spine_connected (hF : F.Fits) (hs : s < F.numSpines) {l : Nat}
    (hl : l < F.numLeaves) :
    ∃ r ∈ (F.spineConfigDb p s).routes .default,
      r.Is [0x2001, 0xdb8, 0xfab, F.linkIdx s l, 0, 0, 0, 0] 127 (.connected (l + 1)) := by
  obtain ⟨r, hr, his⟩ :=
    exists_connected (readsPrefix_p2pSpine (hF.linkIdx_lt hs hl)) (l + 1) (by omega)
  have hmem : (InterfaceKey.ipv6 (spineDownlinkEth l) (F.p2pPrefix s l ++ "::0/127"), none)
      ∈ (F.spineConfigDb p s).interface := by
    simp only [spineConfigDb, List.mem_append, List.mem_flatMap, List.mem_range]
    exact Or.inr ⟨l, hl, List.mem_cons_of_mem _ (List.mem_singleton_self _)⟩
  refine ⟨r, List.mem_flatMap.mpr ⟨_, hmem, ?_⟩, his⟩
  dsimp only
  rw [if_pos (spine_vrfOf _), portNumber_spineDownlinkEth]
  exact hr

/-- What a spine does with a destination in the block of its plane. -/
theorem spine_find_slot (hF : F.Fits) (hp : p < F.numPlanes) (hs : s < F.numSpines) {a : Ipv6}
    {x y₃ y₄ y₅ y₆ y₇ : Nat} (ha : a.hextets = [0xfc00, p, x, y₃, y₄, y₅, y₆, y₇]) (hy : y₇ ≠ 1)
    {action : Action Vrf} (hslot : SpineSlot F s x action)
    (hunique : ∀ action', SpineSlot F s x action' → action' = action) :
    Only (F.network.find (.spine p s) .default a) action := by
  refine Network.find_of_lookup ?_
  obtain ⟨r, hr, his⟩ := exists_spineSlot hF hp hs hslot
  refine his.lookup_only (List.mem_append_left _ hr) ha (by simp [sameBits]) fun r' hr' hmatch => ?_
  rcases List.mem_append.mp hr' with hr' | hr'
  · obtain ⟨x', action', hslot', his'⟩ := spine_frr_cases hF hp hs hr'
    have hsame := (his'.matches_iff ha).mp hmatch
    have hx' : x' = x := by simpa [sameBits] using hsame
    subst hx'
    exact ⟨Nat.le_of_eq his'.len, fun _ => his'.action.trans (hunique _ hslot')⟩
  · obtain ⟨hextets, len, port, haddress, his'⟩ := spine_interface_cases hF hp hs hr'
    cases haddress <;> rcases his' with his' | ⟨-, k, -, his'⟩ <;>
      have hsame := (his'.matches_iff ha).mp hmatch <;> simp [sameBits] at hsame <;> omega

/-- A leaf's end of a downlink is on the downlink. -/
theorem spine_find_p2p (hF : F.Fits) (hp : p < F.numPlanes) (hs : s < F.numSpines) {l : Nat}
    (hl : l < F.numLeaves) {a : Ipv6}
    (ha : a.hextets = [0x2001, 0xdb8, 0xfab, F.linkIdx s l, 0, 0, 0, 1]) :
    Only (F.network.find (.spine p s) .default a) (.connected (l + 1)) := by
  refine Network.find_of_lookup ?_
  obtain ⟨r, hr, his⟩ := exists_spine_connected hF hs hl (p := p)
  refine his.lookup_only (List.mem_append_right _ hr) ha (by simp [sameBits]) fun r' hr' hmatch => ?_
  rcases List.mem_append.mp hr' with hr' | hr'
  · obtain ⟨x', action', -, his'⟩ := spine_frr_cases hF hp hs hr'
    have hsame := (his'.matches_iff ha).mp hmatch
    simp [sameBits] at hsame
  · obtain ⟨hextets, len, port, haddress, his'⟩ := spine_interface_cases hF hp hs hr'
    cases haddress with
    | loopback =>
      rcases his' with his' | ⟨-, k, -, his'⟩ <;>
        have hsame := (his'.matches_iff ha).mp hmatch <;> simp [sameBits] at hsame
    | downlink hl' =>
      rcases his' with his' | ⟨-, k, hk, his'⟩
      · have hsame := (his'.matches_iff ha).mp hmatch
        simp [sameBits] at hsame
      · have hsame := (his'.matches_iff ha).mp hmatch
        simp [sameBits] at hsame
        have hl' := linkIdx_inj_leaf hsame
        cases hk
        subst hl'
        exact ⟨Nat.le_of_eq his'.len, fun _ => his'.action⟩

end Fabric
end Srv6Mrc
