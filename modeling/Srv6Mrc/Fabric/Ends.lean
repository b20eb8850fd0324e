/-
  The hosts of the fabric and its links.

  On a host all entries of 128 bits are its own addresses.  A link is between a leaf and a spine of
  one plane, or between a leaf and a host; each port that a packet can leave through has one.
-/
import Srv6Mrc.Fabric.Tables

namespace Srv6Mrc
namespace Fabric

open Py Net

variable {F : Fabric}

/-! ## A host -/

/-- The entries of a host. -/
inductive HostEntry (F : Fabric) (n : Nat) : Color → List Nat → Nat → Action Vrf → Prop where
  | anycast {color : Color} :
      HostEntry F n color [0x2001, 0xdb8, tenantGroup color, n, 0, 0, 0, 2] 128 .own
  | link {color : Color} {p : Nat} (hp : p < F.numPlanes) :
      HostEntry F n color [0x2001, 0xdb8, tenantGroup color, n, 0, 0, 0, 2] 64 (.connected (p + 1))
  | probe {color : Color} {p s : Nat} (hp : p < F.numPlanes) (hs : s < F.numSpines) :
      HostEntry F n color [0x2001, 0xdb8, tenantGroup color, n, 0, 0, 0, (p + 1) <<< 4 ||| s] 128
        .own
  | plane {color : Color} {p : Nat} {gw : Ipv6} (hp : p < F.numPlanes)
      (h : gw.hextets = [0x2001, 0xdb8, tenantGroup color, n, 0, 0, 0, 1]) :
      HostEntry F n color [0xfc00, p, 0, 0, 0, 0, 0, 0] 32 (.via gw (some (p + 1)))
  | tenant {color : Color} {gw : Ipv6} :
      HostEntry F n color [0x2001, 0xdb8, tenantGroup color, 0, 0, 0, 0, 0] 48 (.via gw (some 1))
  | decap {p : Nat} (hp : p < F.numPlanes) :
      HostEntry F n .yellow [0xfc00, p, 0xd001, 0, 0, 0, 0, 0] 48 (.uDT6 .default)

variable {n : Nat} {color : Color}

/-- The low byte of a probe address is one. -/
theorem Fits.lowByte_lt (hF : F.Fits) {p s : Nat} (hp : p < F.numPlanes) (hs : s < F.numSpines) :
    (p + 1) <<< 4 ||| s < 65536 := by
  have hplanes := hF.planes
  have hspines := hF.spines
  refine Nat.or_lt_two_pow (n := 16) ?_ (by omega)
  rw [Nat.shiftLeft_eq]
  omega

/-- The commands of a host: its addresses and its routes. -/
theorem mem_hostExec {cmd : ExecCmd} (h : cmd ∈ F.hostExec color n) :
    (∃ p < F.numPlanes, cmd = .addrAdd (hostAnycastAddr color n ++ "/64") (.eth (p + 1))) ∨
    (color = .yellow ∧
      (cmd = .addrAdd (hostAnycastAddr color n ++ "/128") .lo ∨ cmd = .sysctlForwarding)) ∨
    (∃ p < F.numPlanes, ∃ s < F.numSpines,
      cmd = .addrAdd (probeEvAddr color n p s ++ "/128") (.eth (p + 1))) ∨
    (∃ p < F.numPlanes,
      cmd = .routeVia (planeAggregate p) (hostAnycastPrefix color n ++ "::1") (.eth (p + 1))) ∨
    cmd = .routeVia (tenantPrefix color) (hostAnycastPrefix color n ++ "::1") (.eth 1) ∨
    (color = .yellow ∧ ∃ p < F.numPlanes, cmd = .routeDT6 (yellowUdtSid p) (.eth (p + 1))) := by
  simp only [hostExec, List.mem_append, List.mem_map, List.mem_flatMap, List.mem_range,
    List.mem_singleton] at h
  rcases h with ((((⟨p, hp, rfl⟩ | h) | ⟨p, hp, s, hs, rfl⟩) | ⟨p, hp, rfl⟩) | rfl) | h
  · exact Or.inl ⟨p, hp, rfl⟩
  · split at h
    · rename_i hyellow
      simp only [List.mem_cons, List.not_mem_nil, or_false] at h
      exact Or.inr (Or.inl ⟨hyellow, h⟩)
    · cases h
  · exact Or.inr (Or.inr (Or.inl ⟨p, hp, s, hs, rfl⟩))
  · exact Or.inr (Or.inr (Or.inr (Or.inl ⟨p, hp, rfl⟩)))
  · exact Or.inr (Or.inr (Or.inr (Or.inr (Or.inl rfl))))
  · split at h
    · rename_i hyellow
      obtain ⟨p, hp, rfl⟩ := List.mem_map.mp h
      exact Or.inr (Or.inr (Or.inr (Or.inr (Or.inr
        ⟨hyellow, p, List.mem_range.mp hp, rfl⟩))))
    · cases h

/-- A gateway route. -/
theorem mem_routeVia {text gateway : String} {hextets : List Nat} {len : Nat} {gw : Ipv6} {dev : Dev}
    (htext : ReadsPrefix text hextets len) (hgw : Ipv6.ofText gateway = some gw)
    {r : Route (Action Vrf)} (hr : r ∈ (ExecCmd.routeVia text gateway dev).routes) :
    r.Is hextets len (.via gw (devNumber dev)) := by
  obtain ⟨ip, hip, hgroups⟩ := htext
  unfold ExecCmd.routes at hr
  dsimp only at hr
  rw [hip, hgw] at hr
  rw [List.mem_singleton.mp hr]
  exact ⟨hgroups, rfl, rfl⟩

/-- A uDT6 command makes a route that looks up in the main table. -/
theorem mem_routeDT6 {text : String} {hextets : List Nat} {len : Nat} {dev : Dev}
    (htext : ReadsPrefix text hextets len) {r : Route (Action Vrf)}
    (hr : r ∈ (ExecCmd.routeDT6 text dev).routes) : r.Is hextets len (.uDT6 .default) := by
  obtain ⟨ip, hip, hgroups⟩ := htext
  unfold ExecCmd.routes at hr
  dsimp only at hr
  rw [hip] at hr
  rw [List.mem_singleton.mp hr]
  exact ⟨hgroups, rfl, rfl⟩

/-- A host's routes are those of its entries. -/
theorem host_cases (hF : F.Fits) (hn : n < F.numLeaves) {r : Route (Action Vrf)}
    (hr : r ∈ F.fib (.host color n) .default) :
    ∃ hextets len action, HostEntry F n color hextets len action ∧ r.Is hextets len action := by
  have hn16 : n < 16 := Nat.lt_of_lt_of_le hn hF.leaves
  obtain ⟨gw, hgw, hgroups⟩ := reads_hostGateway color hn16
  obtain ⟨cmd, hcmd, hr⟩ := List.mem_flatMap.mp hr
  rcases mem_hostExec hcmd with ⟨p, hp, rfl⟩ | ⟨-, rfl | rfl⟩ | ⟨p, hp, s, hs, rfl⟩ |
    ⟨p, hp, rfl⟩ | rfl | ⟨rfl, p, hp, rfl⟩
  · replace hr : r ∈ addressRoutes _ (some (p + 1)) := hr
    rcases mem_addressRoutes (reads_hostAnycastAddr color hn16).slash64 hr with
      his | ⟨-, k, hk, his⟩
    · exact ⟨_, _, _, .anycast, his⟩
    · cases hk
      exact ⟨_, _, _, .link hp, his⟩
  · replace hr : r ∈ addressRoutes _ none := hr
    rcases mem_addressRoutes (reads_hostAnycastAddr color hn16).slash128 hr with
      his | ⟨-, k, hk, his⟩
    · exact ⟨_, _, _, .anycast, his⟩
    · cases hk
  · cases hr
  · replace hr : r ∈ addressRoutes _ (some (p + 1)) := hr
    rcases mem_addressRoutes (reads_probeEvAddr color hn16 (hF.lowByte_lt hp hs)).slash128 hr with
      his | ⟨hlen, -⟩
    · exact ⟨_, _, _, .probe hp hs, his⟩
    · omega
  · have hp16 : p < 16 := Nat.lt_of_lt_of_le hp hF.planes
    exact ⟨_, _, _, .plane hp hgroups, mem_routeVia (readsPrefix_planeAggregate hp16) hgw hr⟩
  · exact ⟨_, _, _, .tenant, mem_routeVia (readsPrefix_tenantPrefix color) hgw hr⟩
  · have hp16 : p < 16 := Nat.lt_of_lt_of_le hp hF.planes
    exact ⟨_, _, _, .decap hp, mem_routeDT6 (readsPrefix_yellowUdtSid hp16) hr⟩

/-- What a command of a host's `exec` adds to its table. -/
theorem mem_host_fib {cmd : ExecCmd} (hcmd : cmd ∈ F.hostExec color n) {r : Route (Action Vrf)}
    (hr : r ∈ cmd.routes) : r ∈ F.fib (.host color n) .default :=
  List.mem_flatMap.mpr ⟨cmd, hcmd, hr⟩

/-- An address of a host is its own. -/
theorem host_find_own (hF : F.Fits) (hn : n < F.numLeaves) {text : String} {hextets : List Nat}
    {len : Nat} (htext : ReadsPrefix text hextets len) {dev : Dev}
    (hcmd : .addrAdd text dev ∈ F.hostExec color n) {a : Ipv6} (ha : a.hextets = hextets) :
    Only (F.network.find (.host color n) .default a) .own := by
  refine Network.find_of_lookup ?_
  obtain ⟨r, hr, his⟩ := exists_own htext (devNumber dev)
  refine his.lookup_only (mem_host_fib hcmd hr) ha (sameBits_self 128 hextets) fun r' hr' _ => ?_
  obtain ⟨hextets', len', action, hentry, his'⟩ := host_cases hF hn hr'
  rw [his'.len, his'.action]
  cases hentry <;> simp

/-- A destination in the block of a plane goes to the leaf of the plane, unless it is the SID with
    which a yellow host takes the outer header away. -/
theorem host_find_plane (hF : F.Fits) (hn : n < F.numLeaves) {p : Nat} (hp : p < F.numPlanes)
    {a : Ipv6} {x : Nat} {slots : List Nat} (ha : a.hextets = 0xfc00 :: p :: x :: slots)
    (hx : x ≠ 0xd001) :
    ∃ gw, Only (F.network.find (.host color n) .default a) (.via gw (some (p + 1))) := by
  have hp16 : p < 16 := Nat.lt_of_lt_of_le hp hF.planes
  have hn16 : n < 16 := Nat.lt_of_lt_of_le hn hF.leaves
  obtain ⟨gw, hgw, hgroups⟩ := reads_hostGateway color hn16
  refine ⟨gw, Network.find_of_lookup ?_⟩
  obtain ⟨ip, hip, hblock⟩ := readsPrefix_planeAggregate hp16
  have hcmd : ExecCmd.routeVia (planeAggregate p) (hostAnycastPrefix color n ++ "::1") (.eth (p + 1))
      ∈ F.hostExec color n := by
    simp only [hostExec, List.mem_append, List.mem_map, List.mem_range]
    exact Or.inl (Or.inl (Or.inr ⟨p, hp, rfl⟩))
  have hmem : (⟨⟨ip, 32⟩, .via gw (some (p + 1))⟩ : Route (Action Vrf))
      ∈ (ExecCmd.routeVia (planeAggregate p) (hostAnycastPrefix color n ++ "::1")
        (.eth (p + 1))).routes := by
    unfold ExecCmd.routes
    dsimp only
    rw [hip, hgw]
    exact List.mem_singleton_self _
  have his : (⟨⟨ip, 32⟩, .via gw (some (p + 1))⟩ : Route (Action Vrf)).Is
      [0xfc00, p, 0, 0, 0, 0, 0, 0] 32 (.via gw (some (p + 1))) := ⟨hblock, rfl, rfl⟩
  refine his.lookup_only (mem_host_fib hcmd hmem) ha (by simp [sameBits]) fun r' hr' hmatch => ?_
  obtain ⟨hextets', len', action, hentry, his'⟩ := host_cases hF hn hr'
  have hsame := (his'.matches_iff ha).mp hmatch
  rw [his'.len, his'.action]
  cases hentry with
  | @plane _ p' gw' hp' hgw' =>
    simp [sameBits] at hsame
    rw [hsame, Ipv6.eq_of_hextets (hgw'.trans hgroups.symm)]
    exact ⟨Nat.le_refl 32, fun _ => rfl⟩
  | decap hp' =>
    simp [sameBits] at hsame
    omega
  | _ => simp [sameBits] at hsame

/-- The SID with which a yellow host takes the outer header away. -/
theorem host_find_decap (hF : F.Fits) (hn : n < F.numLeaves) {p : Nat} (hp : p < F.numPlanes)
    {a : Ipv6} {slots : List Nat} (ha : a.hextets = 0xfc00 :: p :: 0xd001 :: slots) :
    Only (F.network.find (.host .yellow n) .default a) (.uDT6 .default) := by
  have hp16 : p < 16 := Nat.lt_of_lt_of_le hp hF.planes
  refine Network.find_of_lookup ?_
  obtain ⟨ip, hip, hsid⟩ := readsPrefix_yellowUdtSid hp16
  have hcmd : ExecCmd.routeDT6 (yellowUdtSid p) (.eth (p + 1)) ∈ F.hostExec .yellow n := by
    simp only [hostExec, List.mem_append, if_pos, List.mem_map, List.mem_range]
    exact Or.inr ⟨p, hp, rfl⟩
  have hmem : (⟨⟨ip, 48⟩, .uDT6 .default⟩ : Route (Action Vrf))
      ∈ (ExecCmd.routeDT6 (yellowUdtSid p) (.eth (p + 1))).routes := by
    unfold ExecCmd.routes
    dsimp only
    rw [hip]
    exact List.mem_singleton_self _
  have his : (⟨⟨ip, 48⟩, .uDT6 .default⟩ : Route (Action Vrf)).Is
      [0xfc00, p, 0xd001, 0, 0, 0, 0, 0] 48 (.uDT6 .default) := ⟨hsid, rfl, rfl⟩
  refine his.lookup_only (mem_host_fib hcmd hmem) ha (by simp [sameBits]) fun r' hr' hmatch => ?_
  obtain ⟨hextets', len', action, hentry, his'⟩ := host_cases hF hn hr'
  have hsame := (his'.matches_iff ha).mp hmatch
  rw [his'.len, his'.action]
  cases hentry with
  | plane hp' => exact ⟨by omega, fun h => absurd h (by omega)⟩
  | decap hp' => exact ⟨Nat.le_refl 48, fun _ => rfl⟩
  | _ => simp [sameBits] at hsame

theorem yellow_forwards : F.network.forwards (.host .yellow n) = true := by
  refine decide_eq_true ?_
  simp [hostExec]

/-! ## Links -/

/-- The links: of leaves with spines, and of leaves with hosts. -/
theorem mem_links {a b : Node × Nat} :
    (a, b) ∈ F.links ↔
      (∃ p < F.numPlanes, ∃ s < F.numSpines, ∃ l < F.numLeaves,
        a = (.leaf p l, s + 1) ∧ b = (.spine p s, l + 1)) ∨
      ∃ p < F.numPlanes, ∃ n < F.numLeaves,
        (a = (.leaf p n, 9) ∧ b = (.host .green n, p + 1)) ∨
        (a = (.leaf p n, 10) ∧ b = (.host .yellow n, p + 1)) := by
  simp only [links, List.mem_append, List.mem_flatMap, List.mem_map, List.mem_range,
    List.mem_cons, List.not_mem_nil, or_false, Prod.mk.injEq]
  constructor
  · rintro (⟨p, hp, s, hs, l, hl, rfl, rfl⟩ | ⟨p, hp, n, hn, h⟩)
    · exact Or.inl ⟨p, hp, s, hs, l, hl, rfl, rfl⟩
    · exact Or.inr ⟨p, hp, n, hn, h⟩
  · rintro (⟨p, hp, s, hs, l, hl, rfl, rfl⟩ | ⟨p, hp, n, hn, h⟩)
    · exact Or.inl ⟨p, hp, s, hs, l, hl, rfl, rfl⟩
    · exact Or.inr ⟨p, hp, n, hn, h⟩

section Peers

variable {p s l : Nat}

/-- At the other end of an uplink is the spine, and nothing else. -/
theorem peers_uplink (hF : F.Fits) (hp : p < F.numPlanes) (hs : s < F.numSpines)
    (hl : l < F.numLeaves) : Only (F.network.peers (.leaf p l) (s + 1)) (.spine p s, l + 1) := by
  have hspines := hF.spines
  refine only_of_mem
    (Network.mem_peers.mpr (Or.inl (mem_links.mpr (Or.inl ⟨p, hp, s, hs, l, hl, rfl, rfl⟩)))) ?_
  rintro ⟨node, port⟩ hmem
  rcases Network.mem_peers.mp hmem with hlink | hlink
  · rcases mem_links.mp hlink with ⟨p', hp', s', hs', l', hl', ha, hb⟩ |
      ⟨p', hp', n, hn, ⟨ha, hb⟩ | ⟨ha, hb⟩⟩
    · cases ha
      exact hb
    · injection ha
      omega
    · injection ha
      omega
  · rcases mem_links.mp hlink with ⟨p', hp', s', hs', l', hl', ha, hb⟩ |
      ⟨p', hp', n, hn, ⟨ha, hb⟩ | ⟨ha, hb⟩⟩ <;> cases hb

/-- At the other end of a downlink is the leaf. -/
theorem peers_downlink (hp : p < F.numPlanes) (hs : s < F.numSpines) (hl : l < F.numLeaves) :
    Only (F.network.peers (.spine p s) (l + 1)) (.leaf p l, s + 1) := by
  refine only_of_mem
    (Network.mem_peers.mpr (Or.inr (mem_links.mpr (Or.inl ⟨p, hp, s, hs, l, hl, rfl, rfl⟩)))) ?_
  rintro ⟨node, port⟩ hmem
  rcases Network.mem_peers.mp hmem with hlink | hlink
  · rcases mem_links.mp hlink with ⟨p', hp', s', hs', l', hl', ha, hb⟩ |
      ⟨p', hp', n, hn, ⟨ha, hb⟩ | ⟨ha, hb⟩⟩ <;> cases ha
  · rcases mem_links.mp hlink with ⟨p', hp', s', hs', l', hl', ha, hb⟩ |
      ⟨p', hp', n, hn, ⟨ha, hb⟩ | ⟨ha, hb⟩⟩
    · cases hb
      exact ha
    · cases hb
    · cases hb

/-- At the other end of a host's port is the host. -/
theorem peers_hostPort (hF : F.Fits) (hp : p < F.numPlanes) (hl : l < F.numLeaves) (color : Color) :
    Only (F.network.peers (.leaf p l) (hostPort color)) (.host color l, p + 1) := by
  have hspines := hF.spines
  refine only_of_mem (Network.mem_peers.mpr (Or.inl (mem_links.mpr (Or.inr ⟨p, hp, l, hl, ?_⟩)))) ?_
  · cases color with
    | green => exact Or.inl ⟨rfl, rfl⟩
    | yellow => exact Or.inr ⟨rfl, rfl⟩
  rintro ⟨node, port⟩ hmem
  rcases Network.mem_peers.mp hmem with hlink | hlink
  · rcases mem_links.mp hlink with ⟨p', hp', s', hs', l', hl', ha, hb⟩ |
      ⟨p', hp', n, hn, ⟨ha, hb⟩ | ⟨ha, hb⟩⟩
    · injection ha with _ hport
      cases color <;> simp only [hostPort] at hport <;> omega
    · cases color <;> cases ha
      exact hb
    · cases color <;> cases ha
      exact hb
  · rcases mem_links.mp hlink with ⟨p', hp', s', hs', l', hl', ha, hb⟩ |
      ⟨p', hp', n, hn, ⟨ha, hb⟩ | ⟨ha, hb⟩⟩ <;> cases hb

/-- At the other end of a host's NIC is the leaf. -/
theorem peers_host (hp : p < F.numPlanes) (hn : n < F.numLeaves) (color : Color) :
    Only (F.network.peers (.host color n) (p + 1)) (.leaf p n, hostPort color) := by
  refine only_of_mem (Network.mem_peers.mpr (Or.inr (mem_links.mpr (Or.inr ⟨p, hp, n, hn, ?_⟩)))) ?_
  · cases color with
    | green => exact Or.inl ⟨rfl, rfl⟩
    | yellow => exact Or.inr ⟨rfl, rfl⟩
  rintro ⟨node, port⟩ hmem
  rcases Network.mem_peers.mp hmem with hlink | hlink
  · rcases mem_links.mp hlink with ⟨p', hp', s', hs', l', hl', ha, hb⟩ |
      ⟨p', hp', n, hn, ⟨ha, hb⟩ | ⟨ha, hb⟩⟩ <;> cases ha
  · rcases mem_links.mp hlink with ⟨p', hp', s', hs', l', hl', ha, hb⟩ |
      ⟨p', hp', n, hn, ⟨ha, hb⟩ | ⟨ha, hb⟩⟩
    · cases hb
    · cases hb
      exact ha
    · cases hb
      exact ha

/-- What comes in on an uplink is looked up in the default table. -/
theorem ingress_uplink (hF : F.Fits) (hs : s < F.numSpines) :
    F.network.ingress (.leaf p l) (s + 1) = .default := by
  have hspines := hF.spines
  refine leaf_vrfOf_default fun h => ?_
  injection h with h
  omega

/-- What comes in from a host is looked up in its own. -/
theorem ingress_hostPort (hF : F.Fits) (color : Color) :
    F.network.ingress (.leaf p l) (hostPort color) = hostTable color := by
  cases color with
  | green => exact leaf_vrfOf_green hF
  | yellow => exact leaf_vrfOf_default (fun h => by cases h)

/-- A spine has the default table only. -/
theorem ingress_spine (k : Nat) : F.network.ingress (.spine p s) k = .default := spine_vrfOf _

end Peers
end Fabric
end Srv6Mrc
