/-
  A data packet over the path that its outer destination names.

  `usid_outer_dst` of `topo.py` writes the destination, `generators/fabric.py` the tables that take
  it slot by slot.  A leg of the path is one lemma; the path of either SID mode is the legs one after
  the other, and the packet is delivered on it (`usid_delivers`).
-/
import Srv6Mrc.Fabric.Ends

namespace Srv6Mrc
namespace Fabric

open Py Net

variable {F : Fabric} {p s l : Nat} {inner outer : Ipv6} {trace : List (Event Node Vrf)}

/-! ## Legs -/

section Legs

variable (hF : F.Fits) (hp : p < F.numPlanes) (hs : s < F.numSpines) (hl : l < F.numLeaves)
include hF hp hs hl

/-- Up by the adjacency of a spine. -/
theorem leaf_uA {y₃ y₄ y₅ y₆ y₇ port : Nat} {table : Vrf}
    (hgroups : outer.hextets = [0xfc00, p, 0xf000 + s, y₃, y₄, y₅, y₆, y₇]) (hy : y₇ ≠ 1)
    (hrest : F.network.Delivers (.found (.spine p s) (l + 1) .default ⟨some (shift outer), inner⟩)
      trace) :
    F.network.Delivers (.found (.leaf p l) port table ⟨some outer, inner⟩)
      (.visit (.spine p s) (l + 1) :: trace) := by
  have hspines := hF.spines
  have hleaves := hF.leaves
  have hunique : ∀ action', LeafSlot F l (0xf000 + s) action' → action' = .uA (s + 1) := by
    intro action' h
    generalize hx : 0xf000 + s = x at h
    cases h with
    | @uplink s' hs' => rw [show s' = s by omega]
    | _ => omega
  have hfind := leaf_find_slot hF hp hl hgroups hy (.uplink hs) hunique table (by omega)
  refine Network.delivers_uA hfind rfl (Network.delivers_leaving (peers_uplink hF hp hs hl) ?_)
  rw [ingress_spine]
  exact hrest

/-- Down by the adjacency of a leaf. -/
theorem spine_uA {y₃ y₄ y₅ y₆ y₇ port : Nat}
    (hgroups : outer.hextets = [0xfc00, p, 0xe000 + l, y₃, y₄, y₅, y₆, y₇]) (hy : y₇ ≠ 1)
    (hrest : F.network.Delivers (.found (.leaf p l) (s + 1) .default ⟨some (shift outer), inner⟩)
      trace) :
    F.network.Delivers (.found (.spine p s) port .default ⟨some outer, inner⟩)
      (.visit (.leaf p l) (s + 1) :: trace) := by
  have hspines := hF.spines
  have hleaves := hF.leaves
  have hunique : ∀ action', SpineSlot F s (0xe000 + l) action' → action' = .uA (l + 1) := by
    intro action' h
    generalize hx : 0xe000 + l = x at h
    cases h with
    | @downlink l' hl' => rw [show l' = l by omega]
    | _ => omega
  have hfind := spine_find_slot hF hp hs hgroups hy (.downlink hl) hunique
  refine Network.delivers_uA hfind rfl (Network.delivers_leaving (peers_downlink hp hs hl) ?_)
  rw [ingress_uplink hF hs]
  exact hrest

/-- Up by the locator of a spine. -/
theorem leaf_locator {y₃ y₄ y₅ y₆ y₇ port : Nat} {table : Vrf}
    (hgroups : outer.hextets = [0xfc00, p, 0x10 + s, y₃, y₄, y₅, y₆, y₇]) (hy : y₇ ≠ 1)
    (hrest : F.network.Delivers (.found (.spine p s) (l + 1) .default ⟨some outer, inner⟩) trace) :
    F.network.Delivers (.found (.leaf p l) port table ⟨some outer, inner⟩)
      (.visit (.spine p s) (l + 1) :: trace) := by
  have hspines := hF.spines
  have hleaves := hF.leaves
  obtain ⟨nexthop, -, hnexthop⟩ := reads_p2pSpine (hF.linkIdx_lt hs hl)
  have hunique : ∀ action', LeafSlot F l (0x10 + s) action' → action' = .via nexthop none := by
    intro action' h
    generalize hx : 0x10 + s = x at h
    cases h with
    | @spine s' nexthop' hs' hnexthop' =>
      have hs' : s' = s := by omega
      subst hs'
      rw [Ipv6.eq_of_hextets (hnexthop'.trans hnexthop.symm)]
    | _ => omega
  have hfind := leaf_find_slot hF hp hl hgroups hy (.spine hs hnexthop) hunique table (by omega)
  refine Network.delivers_via hfind (leaf_find_p2p hF hp hl hs hnexthop table) rfl
    (Network.delivers_leaving (peers_uplink hF hp hs hl) ?_)
  rw [ingress_spine]
  exact hrest

/-- Down by the locator of a leaf, after the spine's own. -/
theorem spine_locator {y₄ y₅ y₆ y₇ port : Nat}
    (hgroups : outer.hextets = [0xfc00, p, 0x10 + s, 0x20 + l, y₄, y₅, y₆, y₇]) (hy : y₇ ≠ 1)
    (hrest : F.network.Delivers (.found (.leaf p l) (s + 1) .default ⟨some (shift outer), inner⟩)
      trace) :
    F.network.Delivers (.found (.spine p s) port .default ⟨some outer, inner⟩)
      (.visit (.leaf p l) (s + 1) :: trace) := by
  have hspines := hF.spines
  have hleaves := hF.leaves
  obtain ⟨nexthop, -, hnexthop⟩ := reads_p2pLeaf (hF.linkIdx_lt hs hl)
  have hown : ∀ action', SpineSlot F s (0x10 + s) action' → action' = .uN := by
    intro action' h
    generalize hx : 0x10 + s = x at h
    cases h with
    | locator => rfl
    | _ => omega
  have hunique : ∀ action', SpineSlot F s (0x20 + l) action' → action' = .via nexthop none := by
    intro action' h
    generalize hx : 0x20 + l = x at h
    cases h with
    | @leaf l' nexthop' hl' hnexthop' =>
      have hl' : l' = l := by omega
      subst hl'
      rw [Ipv6.eq_of_hextets (hnexthop'.trans hnexthop.symm)]
    | _ => omega
  have hshift := hextets_shift hgroups
  have hfind := spine_find_slot hF hp hs hgroups hy .locator hown
  have hfind' := spine_find_slot hF hp hs hshift (by omega) (.leaf hl hnexthop) hunique
  refine Network.delivers_uN hfind (Network.delivers_via hfind'
    (spine_find_p2p hF hp hs hl hnexthop) rfl
    (Network.delivers_leaving (peers_downlink hp hs hl) ?_))
  rw [ingress_uplink hF hs]
  exact hrest

end Legs

section LeafLegs

variable (hF : F.Fits) (hp : p < F.numPlanes) (hl : l < F.numLeaves)
include hF hp hl

/-- The locator of the leaf itself. -/
theorem leaf_uN {y₃ y₄ y₅ y₆ y₇ port : Nat} {table : Vrf}
    (hgroups : outer.hextets = [0xfc00, p, 0x20 + l, y₃, y₄, y₅, y₆, y₇]) (hy : y₇ ≠ 1)
    (hrest : F.network.Delivers (.found (.leaf p l) port .default ⟨some (shift outer), inner⟩)
      trace) :
    F.network.Delivers (.found (.leaf p l) port table ⟨some outer, inner⟩) trace := by
  have hspines := hF.spines
  have hleaves := hF.leaves
  have hunique : ∀ action', LeafSlot F l (0x20 + l) action' → action' = .uN := by
    intro action' h
    generalize hx : 0x20 + l = x at h
    cases h with
    | locator => rfl
    | @leaf s other nexthop hs hother hne => exact absurd (by omega) hne
    | _ => omega
  exact Network.delivers_uN
    (leaf_find_slot hF hp hl hgroups hy .locator hunique table (by omega)) hrest

/-- The outer header away, and on in `Vrf-green`. -/
theorem leaf_green {y₃ y₄ y₅ y₆ y₇ port : Nat} {table : Vrf}
    (hgroups : outer.hextets = [0xfc00, p, 0xd000, y₃, y₄, y₅, y₆, y₇]) (hy : y₇ ≠ 1)
    (hrest : F.network.Delivers (.found (.leaf p l) port .green ⟨none, inner⟩) trace) :
    F.network.Delivers (.found (.leaf p l) port table ⟨some outer, inner⟩)
      (.decap (.leaf p l) .green :: trace) := by
  have hspines := hF.spines
  have hleaves := hF.leaves
  have hunique : ∀ action', LeafSlot F l 0xd000 action' → action' = .uDT6 .green := by
    intro action' h
    generalize hx : 0xd000 = x at h
    cases h with
    | green => rfl
    | _ => omega
  exact Network.delivers_uDT6
    (leaf_find_slot hF hp hl hgroups hy .green hunique table (by omega)) hrest

/-- The outer header away, and on in the default table. -/
theorem leaf_probe {y₃ y₄ y₅ y₆ y₇ port : Nat} {table : Vrf}
    (hgroups : outer.hextets = [0xfc00, p, 0xdfff, y₃, y₄, y₅, y₆, y₇]) (hy : y₇ ≠ 1)
    (hrest : F.network.Delivers (.found (.leaf p l) port .default ⟨none, inner⟩) trace) :
    F.network.Delivers (.found (.leaf p l) port table ⟨some outer, inner⟩)
      (.decap (.leaf p l) .default :: trace) := by
  have hspines := hF.spines
  have hleaves := hF.leaves
  have hunique : ∀ action', LeafSlot F l 0xdfff action' → action' = .uDT6 .default := by
    intro action' h
    generalize hx : 0xdfff = x at h
    cases h with
    | probe => rfl
    | _ => omega
  exact Network.delivers_uDT6
    (leaf_find_slot hF hp hl hgroups hy .probe hunique table (by omega)) hrest

/-- Out to the yellow host by the adjacency of its port. -/
theorem leaf_yellow_uA {y₃ y₄ y₅ y₆ y₇ port : Nat} {table : Vrf}
    (hgroups : outer.hextets = [0xfc00, p, 0xe009, y₃, y₄, y₅, y₆, y₇]) (hy : y₇ ≠ 1)
    (hrest : F.network.Delivers (.found (.host .yellow l) (p + 1) .default
      ⟨some (shift outer), inner⟩) trace) :
    F.network.Delivers (.found (.leaf p l) port table ⟨some outer, inner⟩)
      (.visit (.host .yellow l) (p + 1) :: trace) := by
  have hspines := hF.spines
  have hleaves := hF.leaves
  have hunique : ∀ action', LeafSlot F l 0xe009 action' → action' = .uA 10 := by
    intro action' h
    generalize hx : 0xe009 = x at h
    cases h with
    | yellow => rfl
    | _ => omega
  exact Network.delivers_uA
    (leaf_find_slot hF hp hl hgroups hy .yellow hunique table (by omega)) rfl
    (Network.delivers_leaving (peers_hostPort hF hp hl .yellow) hrest)

/-- Out to the yellow host by the route to its SID. -/
theorem leaf_yellow_via {y₃ y₄ y₅ y₆ y₇ port : Nat}
    (hgroups : outer.hextets = [0xfc00, p, 0xd001, y₃, y₄, y₅, y₆, y₇]) (hy : y₇ ≠ 1)
    (hrest : F.network.Delivers (.found (.host .yellow l) (p + 1) .default ⟨some outer, inner⟩)
      trace) :
    F.network.Delivers (.found (.leaf p l) port .default ⟨some outer, inner⟩)
      (.visit (.host .yellow l) (p + 1) :: trace) := by
  have hspines := hF.spines
  have hleaves := hF.leaves
  obtain ⟨nexthop, -, hnexthop⟩ := reads_hostNexthop .yellow (Nat.lt_of_lt_of_le hl hleaves)
  have hunique : ∀ action', LeafSlot F l 0xd001 action' → action' = .via nexthop none := by
    intro action' h
    generalize hx : 0xd001 = x at h
    cases h with
    | yellowHost hnexthop' => rw [Ipv6.eq_of_hextets (hnexthop'.trans hnexthop.symm)]
    | _ => omega
  have hfind := leaf_find_slot hF hp hl hgroups hy (.yellowHost hnexthop) hunique .default (by omega)
  have hlink : Only (F.network.find (.leaf p l) .default nexthop) (.connected 10) :=
    leaf_find_host hF hp hl .yellow (by omega) hnexthop
  exact Network.delivers_via hfind hlink rfl
    (Network.delivers_leaving (peers_hostPort hF hp hl .yellow) hrest)

/-- The inner packet to the host whose address it is for. -/
theorem leaf_deliver {color : Color} {z port : Nat}
    (hgroups : inner.hextets = [0x2001, 0xdb8, tenantGroup color, l, 0, 0, 0, z]) (hz : z ≠ 1)
    (hown : Only (F.network.find (.host color l) .default inner) .own) :
    F.network.Delivers (.found (.leaf p l) port (hostTable color) ⟨none, inner⟩)
      [.visit (.host color l) (p + 1), .deliver (.host color l) (p + 1)] :=
  Network.delivers_connected (leaf_find_host hF hp hl color hz hgroups) rfl
    (Network.delivers_leaving (peers_hostPort hF hp hl color) (Network.delivers_own hown))

/-- The outer header away on the host, whose address the inner packet is for. -/
theorem host_decap {port : Nat} {slots : List Nat}
    (hgroups : outer.hextets = 0xfc00 :: p :: 0xd001 :: slots)
    (hown : Only (F.network.find (.host .yellow l) .default inner) .own) :
    F.network.Delivers (.found (.host .yellow l) port .default ⟨some outer, inner⟩)
      [.decap (.host .yellow l) .default, .deliver (.host .yellow l) port] :=
  Network.delivers_uDT6 (host_find_decap hF hl hp hgroups) (Network.delivers_own hown)

end LeafLegs

/-! ## The texts of `topo.py` -/

/-- The numbers of the fabric as `topo.py` has them. -/
def topo (F : Fabric) (tenants : List String) : Topo where
  numPlanes := F.numPlanes
  numSpines := F.numSpines
  numLeaves := F.numLeaves
  tenants := tenants

/-- The slots of a data packet's destination. -/
def usidSlots (color : Color) (spine leaf : Nat) (sidMode : String) : List Nat :=
  match color with
  | .green =>
    if sidMode = "uA" then [0xf000 + spine, 0xe000 + leaf, 0xd000]
    else [0x10 + spine, 0x20 + leaf, 0xd000]
  | .yellow =>
    if sidMode = "uA" then [0xf000 + spine, 0xe000 + leaf, 0xe009, 0xd001]
    else [0x10 + spine, 0x20 + leaf, 0xd001]

/-- A destination in the block of a plane, up to six slots long. -/
def slotGroups (p : Nat) (slots : List Nat) : List Nat :=
  0xfc00 :: p :: slots ++ List.replicate (6 - slots.length) 0

theorem reads_slots (hp : p < 16) {text : String} (slots : List (List Char)) {values : List Nat}
    (htext : text = groupsText ("fc00".toList :: digits "000" p :: slots) [])
    (hslots : ∀ part ∈ slots, Hextet part) (hlen : slots.length ≤ 5)
    (hvalues : slots.map hexVal = values) : Reads text (slotGroups p values) := by
  subst hvalues
  have hread := reads_block hp htext hslots (List.forall_mem_nil _) hlen
  unfold slotGroups
  rw [List.length_map]
  simpa using hread

/-- `usid_outer_dst`: the block of the plane, and the slots. -/
theorem reads_usidOuterDst (hF : F.Fits) {tenants : List String} {color : Color}
    (htenant : colorName color ∈ tenants) (hp : p < F.numPlanes) (hs : s < F.numSpines)
    (hl : l < F.numLeaves) {sidMode : String} (hmode : sidMode = "uA" ∨ sidMode = "uN") :
    ∃ text, (F.topo tenants).usidOuterDst (colorName color) p s l sidMode = .ok text ∧
      Reads text (slotGroups p (usidSlots color s l sidMode)) := by
  have hp16 : p < 16 := Nat.lt_of_lt_of_le hp hF.planes
  have hl16 : l < 16 := Nat.lt_of_lt_of_le hl hF.leaves
  have hs16 : s < 16 := Nat.lt_of_lt_of_le hs (Nat.le_trans hF.spines (by omega))
  have hspine : ∀ fixed : String, IsHex fixed.toList → fixed.toList.length ≤ 3 →
      Hextet (digits fixed s) := fun _ h₁ h₂ => hextet_digits h₁ h₂ hs16
  have hleaf : ∀ fixed : String, IsHex fixed.toList → fixed.toList.length ≤ 3 →
      Hextet (digits fixed l) := fun _ h₁ h₂ => hextet_digits h₁ h₂ hl16
  unfold Topo.usidOuterDst
  rw [show (F.topo tenants).checkTenant (colorName color) = .ok () from checkTenantIn_ok.mpr htenant,
    show (F.topo tenants).checkPlane p = .ok p from checkIndex_nat _ hp,
    show (F.topo tenants).checkSpine s = .ok s from checkIndex_nat _ hs,
    show (F.topo tenants).checkHost l = .ok l from checkIndex_nat _ hl,
    checkSidMode_ok.mpr hmode]
  rcases hmode with rfl | rfl <;> cases color
  · refine ⟨"fc00:000" ++ hex p ++ ":f00" ++ hex s ++ ":e00" ++ hex l ++ ":d000::", rfl,
      reads_slots hp16 [digits "f00" s, digits "e00" l, "d000".toList] ?_ ?_ (by simp) ?_⟩
    · apply String.toList_injective
      simp [groupsText, sideParts, digits]
    · simp only [List.forall_mem_cons]
      exact ⟨hspine _ (by decide) (by decide), hleaf _ (by decide) (by decide), by decide,
        List.forall_mem_nil _⟩
    · simp only [List.map_cons, List.map_nil, hexVal_digits _ hs16, hexVal_digits _ hl16]
      rfl
  · refine ⟨"fc00:000" ++ hex p ++ ":f00" ++ hex s ++ ":e00" ++ hex l ++ ":" ++ "e009:d001::", rfl,
      reads_slots hp16 [digits "f00" s, digits "e00" l, "e009".toList, "d001".toList] ?_ ?_ (by simp) ?_⟩
    · apply String.toList_injective
      simp [groupsText, sideParts, digits]
    · simp only [List.forall_mem_cons]
      exact ⟨hspine _ (by decide) (by decide), hleaf _ (by decide) (by decide), by decide, by decide,
        List.forall_mem_nil _⟩
    · simp only [List.map_cons, List.map_nil, hexVal_digits _ hs16, hexVal_digits _ hl16]
      rfl
  · refine ⟨"fc00:000" ++ hex p ++ ":1" ++ hex s ++ ":2" ++ hex l ++ ":d000::", rfl,
      reads_slots hp16 [digits "1" s, digits "2" l, "d000".toList] ?_ ?_ (by simp) ?_⟩
    · apply String.toList_injective
      simp [groupsText, sideParts, digits]
    · simp only [List.forall_mem_cons]
      exact ⟨hspine _ (by decide) (by decide), hleaf _ (by decide) (by decide), by decide,
        List.forall_mem_nil _⟩
    · simp only [List.map_cons, List.map_nil, hexVal_digits _ hs16, hexVal_digits _ hl16]
      rfl
  · refine ⟨"fc00:000" ++ hex p ++ ":1" ++ hex s ++ ":2" ++ hex l ++ ":" ++ "d001::", rfl,
      reads_slots hp16 [digits "1" s, digits "2" l, "d001".toList] ?_ ?_ (by simp) ?_⟩
    · apply String.toList_injective
      simp [groupsText, sideParts, digits]
    · simp only [List.forall_mem_cons]
      exact ⟨hspine _ (by decide) (by decide), hleaf _ (by decide) (by decide), by decide,
        List.forall_mem_nil _⟩
    · simp only [List.map_cons, List.map_nil, hexVal_digits _ hs16, hexVal_digits _ hl16]
      rfl

/-- `inner_addr`: the anycast address of the host. -/
theorem innerAddr_eq {tenants : List String} {color : Color}
    (htenant : colorName color ∈ tenants) (hl : l < F.numLeaves) :
    (F.topo tenants).innerAddr (colorName color) l = .ok (hostAnycastAddr color l) := by
  unfold Topo.innerAddr
  rw [show (F.topo tenants).checkTenant (colorName color) = .ok () from checkTenantIn_ok.mpr htenant]
  have hhost : (F.topo tenants).checkHost l = .ok l := checkIndex_nat _ hl
  cases color with
  | green =>
    show (F.topo tenants).greenAnycastAddr l = _
    unfold Topo.greenAnycastAddr
    rw [hhost]
    rfl
  | yellow =>
    show (F.topo tenants).yellowAnycastAddr l = _
    unfold Topo.yellowAnycastAddr
    rw [hhost]
    rfl

/-! ## The whole path -/

/-- Leaf, spine and leaf; then a green packet is taken out on the leaf, a yellow one on the host. -/
def dataPath (color : Color) (p s src dst : Nat) : List (Event Node Vrf) :=
  [.visit (.leaf p src) (hostPort color), .visit (.spine p s) (src + 1),
    .visit (.leaf p dst) (s + 1)] ++
  match color with
  | .green =>
    [.decap (.leaf p dst) .green, .visit (.host .green dst) (p + 1),
      .deliver (.host .green dst) (p + 1)]
  | .yellow =>
    [.visit (.host .yellow dst) (p + 1), .decap (.host .yellow dst) .default,
      .deliver (.host .yellow dst) (p + 1)]

/-- The anycast address of a host is its own. -/
theorem host_find_anycast (hF : F.Fits) (hp : p < F.numPlanes) {n : Nat} (hn : n < F.numLeaves)
    {color : Color} (hgroups : inner.hextets = [0x2001, 0xdb8, tenantGroup color, n, 0, 0, 0, 2]) :
    Only (F.network.find (.host color n) .default inner) .own := by
  have hcmd : ExecCmd.addrAdd (hostAnycastAddr color n ++ "/64") (.eth (p + 1))
      ∈ F.hostExec color n := by
    simp only [hostExec, List.mem_append, List.mem_map, List.mem_range]
    exact Or.inl (Or.inl (Or.inl (Or.inl (Or.inl ⟨p, hp, rfl⟩))))
  exact host_find_own hF hn
    (reads_hostAnycastAddr color (Nat.lt_of_lt_of_le hn hF.leaves)).slash64 hcmd hgroups

/-- From the last leaf on. -/
theorem delivers_lastLeaf (hF : F.Fits) (hp : p < F.numPlanes) {dst port : Nat}
    (hdst : dst < F.numLeaves) {color : Color} {sidMode : String}
    (houter : outer.hextets = slotGroups p ((usidSlots color s dst sidMode).drop 2))
    (hinner : inner.hextets = [0x2001, 0xdb8, tenantGroup color, dst, 0, 0, 0, 2]) :
    F.network.Delivers (.found (.leaf p dst) port .default ⟨some outer, inner⟩)
      ((dataPath color p s l dst).drop 3) := by
  have hown := host_find_anycast hF hp hdst hinner
  cases color with
  | green =>
    have hslots : (usidSlots .green s dst sidMode).drop 2 = [0xd000] := by
      unfold usidSlots
      dsimp only
      split <;> rfl
    rw [hslots] at houter
    have hdeliver : F.network.Delivers (.found (.leaf p dst) port .green ⟨none, inner⟩) _ :=
      leaf_deliver hF hp hdst hinner (by omega) hown
    exact leaf_green hF hp hdst houter (by omega) hdeliver
  | yellow =>
    by_cases hmode : sidMode = "uA"
    · have hslots : (usidSlots .yellow s dst sidMode).drop 2 = [0xe009, 0xd001] := by
        unfold usidSlots
        dsimp only
        rw [if_pos hmode]
        rfl
      rw [hslots] at houter
      exact leaf_yellow_uA hF hp hdst houter (by omega)
        (host_decap hF hp hdst (hextets_shift houter) hown)
    · have hslots : (usidSlots .yellow s dst sidMode).drop 2 = [0xd001] := by
        unfold usidSlots
        dsimp only
        rw [if_neg hmode]
        rfl
      rw [hslots] at houter
      exact leaf_yellow_via hF hp hdst houter (by omega) (host_decap hF hp hdst houter hown)

/-- Every data packet is delivered over the path it names: leaf, spine and leaf of its plane, one
    decapsulation, and the host's interface in that plane. -/
theorem usid_delivers (F : Fabric) (hF : F.Fits) (tenants : List String) (color : Color)
    (htenant : colorName color ∈ tenants) (p s src dst : Nat) (hp : p < F.numPlanes)
    (hs : s < F.numSpines) (hsrc : src < F.numLeaves) (hdst : dst < F.numLeaves) (sidMode : String)
    (hmode : sidMode = "uA" ∨ sidMode = "uN") :
    ∃ outerText innerText outer inner,
      (F.topo tenants).usidOuterDst (colorName color) p s dst sidMode = .ok outerText ∧
      (F.topo tenants).innerAddr (colorName color) dst = .ok innerText ∧
      Ipv6.ofText outerText = some outer ∧ Ipv6.ofText innerText = some inner ∧
      F.network.Delivers (.leaving (.host color src) (p + 1) ⟨some outer, inner⟩)
        (dataPath color p s src dst) := by
  obtain ⟨outerText, hcall, outer, houterText, houter⟩ :=
    reads_usidOuterDst hF htenant hp hs hdst hmode
  obtain ⟨inner, hinnerText, hinner⟩ :=
    reads_hostAnycastAddr color (Nat.lt_of_lt_of_le hdst hF.leaves)
  refine ⟨outerText, _, outer, inner, hcall, innerAddr_eq htenant hdst, houterText, hinnerText, ?_⟩
  refine Network.delivers_leaving (peers_host hp hsrc color) ?_
  rcases hmode with rfl | rfl
  · have hlast : (shift (shift outer)).hextets
        = slotGroups p ((usidSlots color s dst "uA").drop 2) := by
      cases color <;> exact hextets_shift (hextets_shift houter)
    have hrest : F.network.Delivers
        (.found (.leaf p dst) (s + 1) .default ⟨some (shift (shift outer)), inner⟩)
        ((dataPath color p s src dst).drop 3) := delivers_lastLeaf hF hp hdst hlast hinner
    cases color with
    | green =>
      exact leaf_uA hF hp hs hsrc houter (by omega)
        (spine_uA hF hp hs hdst (hextets_shift houter) (by omega) hrest)
    | yellow =>
      exact leaf_uA hF hp hs hsrc houter (by omega)
        (spine_uA hF hp hs hdst (hextets_shift houter) (by omega) hrest)
  · have hlast : (shift (shift outer)).hextets
        = slotGroups p ((usidSlots color s dst "uN").drop 2) := by
      cases color <;> exact hextets_shift (hextets_shift houter)
    have hrest : F.network.Delivers
        (.found (.leaf p dst) (s + 1) .default ⟨some (shift (shift outer)), inner⟩)
        ((dataPath color p s src dst).drop 3) := delivers_lastLeaf hF hp hdst hlast hinner
    cases color with
    | green =>
      exact leaf_locator hF hp hs hsrc houter (by omega)
        (spine_locator hF hp hs hdst houter (by omega)
          (leaf_uN hF hp hdst (hextets_shift houter) (by omega) hrest))
    | yellow =>
      exact leaf_locator hF hp hs hsrc houter (by omega)
        (spine_locator hF hp hs hdst houter (by omega)
          (leaf_uN hF hp hdst (hextets_shift houter) (by omega) hrest))

/-- At work on four planes of eight spines and sixteen leaves. -/
theorem usid_delivers_reference :
    let F : Fabric := ⟨4, 8, 16, false⟩
    ∃ outerText innerText outer inner,
      (F.topo ["green", "yellow"]).usidOuterDst "yellow" 3 5 15 "uN" = .ok outerText ∧
      (F.topo ["green", "yellow"]).innerAddr "yellow" 15 = .ok innerText ∧
      Ipv6.ofText outerText = some outer ∧ Ipv6.ofText innerText = some inner ∧
      F.network.Delivers (.leaving (.host .yellow 2) 4 ⟨some outer, inner⟩)
        [.visit (.leaf 3 2) 10, .visit (.spine 3 5) 3, .visit (.leaf 3 15) 6,
          .visit (.host .yellow 15) 4, .decap (.host .yellow 15) .default,
          .deliver (.host .yellow 15) 4] :=
  usid_delivers ⟨4, 8, 16, false⟩ ⟨by decide, by decide, by decide⟩ ["green", "yellow"] .yellow
    (by decide) 3 5 2 15 (by decide) (by decide) (by decide) (by decide) "uN" (by decide)

end Fabric
end Srv6Mrc
