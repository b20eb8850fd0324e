/-
  The fabric with interfaces that are down.

  A data packet has four links on its path: from the host to its leaf, up to the spine of the EV,
  down to the other leaf, and to the other host.  A probe of a yellow EV has the same four, there and
  back, so that it comes back exactly when data packets are delivered on the EV.  A probe of a green
  one turns at the other leaf: it says nothing of the last link (`probes_sense_paths`).
-/
import Srv6Mrc.Lib.Cut
import Srv6Mrc.Fabric.ProbeTrip
import Srv6Mrc.Fabric.Sound

namespace Srv6Mrc
namespace Fabric

open Py Net

variable {F : Fabric} {p s src dst : Nat}

/-- Every interface has one other end at most. -/
theorem wired (hF : F.Fits) : F.network.Wired := by
  intro node port e he e' he'
  have hlink : ∀ {e : Node × Nat}, e ∈ F.network.peers node port →
      ∃ link ∈ F.links, ((node, port) = link.1 ∧ e = link.2) ∨ ((node, port) = link.2 ∧ e = link.1) := by
    intro e he
    rcases Network.mem_peers.mp he with h | h
    · exact ⟨_, h, Or.inl ⟨rfl, rfl⟩⟩
    · exact ⟨_, h, Or.inr ⟨rfl, rfl⟩⟩
  obtain ⟨link, hmem, hends⟩ := hlink he
  obtain ⟨link', hmem', hends'⟩ := hlink he'
  have hsame : link = link' :=
    links_disjoint hF.spines hmem hmem' (hends.imp And.left And.left) (hends'.imp And.left And.left)
  subst hsame
  rcases hends with ⟨h₁, rfl⟩ | ⟨h₁, rfl⟩ <;> rcases hends' with ⟨h₂, rfl⟩ | ⟨h₂, rfl⟩
  · rfl
  · rw [← h₁, ← h₂]
  · rw [← h₁, ← h₂]
  · rfl

/-! ## Links -/

/-- Both ends of the link between a host and its leaf of a plane are up. -/
def HostLink (up : Node → Nat → Bool) (color : Color) (p n : Nat) : Prop :=
  up (.host color n) (p + 1) = true ∧ up (.leaf p n) (hostPort color) = true

/-- Both ends of the link between a leaf and a spine are up. -/
def SpineLink (up : Node → Nat → Bool) (p s l : Nat) : Prop :=
  up (.leaf p l) (s + 1) = true ∧ up (.spine p s) (l + 1) = true

section Links

variable (hF : F.Fits) {up : Node → Nat → Bool} {l : Nat} {color : Color}
include hF

theorem clear_toLeaf (hp : p < F.numPlanes) (hl : l < F.numLeaves) :
    F.network.Clear up [.visit (.leaf p l) (hostPort color)] ↔ HostLink up color p l :=
  Network.clear_visit (wired hF) (peers_host hp hl color).mem

theorem clear_toHost (hp : p < F.numPlanes) (hl : l < F.numLeaves) :
    F.network.Clear up [.visit (.host color l) (p + 1)] ↔ HostLink up color p l :=
  (Network.clear_visit (wired hF) (peers_hostPort hF hp hl color).mem).trans and_comm

theorem clear_toSpine (hp : p < F.numPlanes) (hs : s < F.numSpines) (hl : l < F.numLeaves) :
    F.network.Clear up [.visit (.spine p s) (l + 1)] ↔ SpineLink up p s l :=
  Network.clear_visit (wired hF) (peers_uplink hF hp hs hl).mem

theorem clear_fromSpine (hp : p < F.numPlanes) (hs : s < F.numSpines) (hl : l < F.numLeaves) :
    F.network.Clear up [.visit (.leaf p l) (s + 1)] ↔ SpineLink up p s l :=
  (Network.clear_visit (wired hF) (peers_downlink hp hs hl).mem).trans and_comm

end Links

theorem clear_decap (up : Node → Nat → Bool) (node : Node) (table : Vrf) :
    F.network.Clear up [.decap node table] :=
  Network.clear_of_not_visit fun _ _ hmem => by simp at hmem

theorem clear_deliver (up : Node → Nat → Bool) (node : Node) (port : Nat) :
    F.network.Clear up [.deliver node port] :=
  Network.clear_of_not_visit fun _ _ hmem => by simp at hmem

/-! ## Paths -/

/-- Where a probe turns: a green one at the leaf of the peer, a yellow one at the peer. -/
def turn (color : Color) (p dst : Nat) : List (Event Node Vrf) :=
  match color with
  | .green => []
  | .yellow => [.visit (.host .yellow dst) (p + 1), .visit (.leaf p dst) 10]

section Paths

variable (hF : F.Fits) (hp : p < F.numPlanes) (hs : s < F.numSpines) (hsrc : src < F.numLeaves)
  (hdst : dst < F.numLeaves)
include hF hp hs hsrc hdst

/-- A data packet has four links on its path. -/
theorem clear_dataPath {up : Node → Nat → Bool} {color : Color} :
    F.network.Clear up (dataPath color p s src dst) ↔
      HostLink up color p src ∧ SpineLink up p s src ∧ SpineLink up p s dst ∧
        HostLink up color p dst := by
  have htail : F.network.Clear up ((dataPath color p s src dst).drop 3) ↔ HostLink up color p dst := by
    cases color with
    | green =>
      show F.network.Clear up ([.decap _ _] ++ ([.visit _ _] ++ [.deliver _ _])) ↔ _
      simp only [Network.clear_append, clear_decap, clear_toHost hF hp hdst, clear_deliver, true_and,
        and_true]
    | yellow =>
      show F.network.Clear up ([.visit _ _] ++ ([.decap _ _] ++ [.deliver _ _])) ↔ _
      simp only [Network.clear_append, clear_toHost hF hp hdst, clear_decap, clear_deliver, and_true]
  have hpath : dataPath color p s src dst =
      [.visit (.leaf p src) (hostPort color)] ++ ([.visit (.spine p s) (src + 1)] ++
        ([.visit (.leaf p dst) (s + 1)] ++ (dataPath color p s src dst).drop 3)) := by
    cases color <;> rfl
  rw [hpath, Network.clear_append, Network.clear_append, Network.clear_append, htail,
    clear_toLeaf hF hp hsrc, clear_toSpine hF hp hs hsrc, clear_fromSpine hF hp hs hdst]

/-- There and back are the same links. -/
theorem clear_probePath {up : Node → Nat → Bool} {color : Color} :
    F.network.Clear up (probePath color p s src dst) ↔
      HostLink up color p src ∧ SpineLink up p s src ∧ SpineLink up p s dst ∧
        (color = .yellow → HostLink up .yellow p dst) := by
  have hback : F.network.Clear up ([.visit (.spine p s) (dst + 1)] ++
      ([.visit (.leaf p src) (s + 1)] ++ ([.decap (.leaf p src) (hostTable color)] ++
        ([.visit (.host color src) (p + 1)] ++ [.deliver (.host color src) (p + 1)])))) ↔
      SpineLink up p s dst ∧ SpineLink up p s src ∧ HostLink up color p src := by
    simp only [Network.clear_append, clear_toSpine hF hp hs hdst, clear_fromSpine hF hp hs hsrc,
      clear_decap, clear_toHost hF hp hsrc, clear_deliver, true_and, and_true]
  have hturn : F.network.Clear up (turn color p dst) ↔
      (color = .yellow → HostLink up .yellow p dst) := by
    cases color with
    | green => exact iff_of_true Network.clear_nil fun h => by cases h
    | yellow =>
      have hleaf : F.network.Clear up [.visit (.leaf p dst) (hostPort .yellow)] ↔
          HostLink up .yellow p dst := clear_toLeaf hF hp hdst
      show F.network.Clear up ([.visit _ _] ++ [.visit (.leaf p dst) (hostPort .yellow)]) ↔ _
      simp only [Network.clear_append, clear_toHost hF hp hdst, hleaf, and_self, forall_const]
  have hpath : probePath color p s src dst =
      [.visit (.leaf p src) (hostPort color)] ++ ([.visit (.spine p s) (src + 1)] ++
        ([.visit (.leaf p dst) (s + 1)] ++ (turn color p dst ++
        ([.visit (.spine p s) (dst + 1)] ++ ([.visit (.leaf p src) (s + 1)] ++
          ([.decap (.leaf p src) (hostTable color)] ++ ([.visit (.host color src) (p + 1)] ++
            [.deliver (.host color src) (p + 1)]))))))) := by
    cases color <;> rfl
  rw [hpath, Network.clear_append, Network.clear_append, Network.clear_append, Network.clear_append,
    hback, hturn, clear_toLeaf hF hp hsrc, clear_toSpine hF hp hs hsrc, clear_fromSpine hF hp hs hdst]
  tauto

end Paths

/-! ## Packets -/

/-- Any packet with the groups of a data packet is delivered over its path. -/
theorem delivers_data (hF : F.Fits) {color : Color} (hp : p < F.numPlanes) (hs : s < F.numSpines)
    (hsrc : src < F.numLeaves) (hdst : dst < F.numLeaves) {sidMode : String}
    (hmode : sidMode = "uA" ∨ sidMode = "uN") {outer inner : Ipv6}
    (houter : outer.hextets = slotGroups p (usidSlots color s dst sidMode))
    (hinner : inner.hextets = [0x2001, 0xdb8, tenantGroup color, dst, 0, 0, 0, 2]) :
    F.network.Delivers (.leaving (.host color src) (p + 1) ⟨some outer, inner⟩)
      (dataPath color p s src dst) := by
  have hpath : dataPath color p s src dst = .visit (.leaf p src) (hostPort color) ::
      .visit (.spine p s) (src + 1) :: .visit (.leaf p dst) (s + 1) ::
        (dataPath color p s src dst).drop 3 := by
    cases color <;> rfl
  rw [hpath]
  refine Network.delivers_leaving (peers_host hp hsrc color) ?_
  rcases hmode with rfl | rfl
  · have hlast : (shift (shift outer)).hextets =
        slotGroups p ((usidSlots color s dst "uA").drop 2) := by
      cases color <;> exact hextets_shift (hextets_shift houter)
    have hrest : F.network.Delivers
        (.found (.leaf p dst) (s + 1) .default ⟨some (shift (shift outer)), inner⟩)
        ((dataPath color p s src dst).drop 3) := delivers_lastLeaf hF hp hdst hlast hinner
    cases color <;> exact leaf_uA hF hp hs hsrc houter (by omega)
      (spine_uA hF hp hs hdst (hextets_shift houter) (by omega) hrest)
  · have hlast : (shift (shift outer)).hextets =
        slotGroups p ((usidSlots color s dst "uN").drop 2) := by
      cases color <;> exact hextets_shift (hextets_shift houter)
    have hrest : F.network.Delivers
        (.found (.leaf p dst) (s + 1) .default ⟨some (shift (shift outer)), inner⟩)
        ((dataPath color p s src dst).drop 3) := delivers_lastLeaf hF hp hdst hlast hinner
    cases color <;> exact leaf_locator hF hp hs hsrc houter (by omega)
      (spine_locator hF hp hs hdst houter (by omega)
        (leaf_uN hF hp hdst (hextets_shift houter) (by omega) hrest))

/-- Any packet with the groups of a probe makes its round trip. -/
theorem delivers_probe {F : Fabric} (hF : F.Fits) {color : Color} {p s src dst : Nat}
    (hp : p < F.numPlanes) (hs : s < F.numSpines) (hsrc : src < F.numLeaves)
    (hdst : dst < F.numLeaves) {outer inner : Ipv6}
    (houter : outer.hextets = probeGroups color p s src dst)
    (hinner : inner.hextets = [0x2001, 0xdb8, tenantGroup color, src, 0, 0, 0, (p + 1) <<< 4 ||| s]) :
    F.network.Delivers (.leaving (.host color src) (p + 1) ⟨some outer, inner⟩)
      (probePath color p s src dst) := by
  have hspines := hF.spines
  have hlow : (p + 1) <<< 4 ||| s ≠ 1 := by
    rw [lowByte_eq (by omega)]
    omega
  refine Network.delivers_leaving (peers_host hp hsrc color) ?_
  have hdeliver : F.network.Delivers
      (.found (.leaf p src) (s + 1) (hostTable color) ⟨none, inner⟩) _ :=
    leaf_deliver hF hp hsrc hinner hlow (host_find_probe hF hp hs hsrc hinner)
  cases color with
  | green =>
    have h₁ := hextets_shift houter
    have h₂ := hextets_shift h₁
    have h₃ := hextets_shift h₂
    have h₄ := hextets_shift h₃
    exact leaf_uA hF hp hs hsrc houter (by omega) (spine_uA hF hp hs hdst h₁ (by omega)
      (leaf_uA hF hp hs hdst h₂ (by omega) (spine_uA hF hp hs hsrc h₃ (by omega)
        (leaf_green hF hp hsrc h₄ (by omega) hdeliver))))
  | yellow =>
    have h₁ := hextets_shift houter
    have h₂ := hextets_shift h₁
    have h₃ := hextets_shift h₂
    have h₄ := hextets_shift h₃
    have h₅ := hextets_shift h₄
    exact leaf_uA hF hp hs hsrc houter (by omega) (spine_uA hF hp hs hdst h₁ (by omega)
      (leaf_yellow_uA hF hp hdst h₂ (by omega) (yellow_turns hF hp hdst h₃ (by omega)
        (leaf_uA hF hp hs hdst h₃ (by omega) (spine_uA hF hp hs hsrc h₄ (by omega)
          (leaf_probe hF hp hsrc h₅ (by omega) hdeliver))))))

/-- What a data packet is to `topo.py`. -/
def IsData (F : Fabric) (tenants : List String) (color : Color) (p s dst : Nat) (sidMode : String)
    (packet : Packet) : Prop :=
  ∃ outerText innerText outer,
    (F.topo tenants).usidOuterDst (colorName color) p s dst sidMode = .ok outerText ∧
    (F.topo tenants).innerAddr (colorName color) dst = .ok innerText ∧
    Ipv6.ofText outerText = some outer ∧ Ipv6.ofText innerText = some packet.inner ∧
    packet.outer = some outer

/-- What a probe is. -/
def IsProbe (F : Fabric) (tenants : List String) (color : Color) (p s src dst : Nat)
    (packet : Packet) : Prop :=
  ∃ outerText innerText outer,
    (F.topo tenants).probeOuterDst (colorName color) p src dst s = .ok outerText ∧
    (F.topo tenants).probeEvAddr (colorName color) src p s = .ok innerText ∧
    Ipv6.ofText outerText = some outer ∧ Ipv6.ofText innerText = some packet.inner ∧
    packet.outer = some outer

/-- There is a data packet for every EV, and it is delivered. -/
theorem exists_data (hF : F.Fits) {tenants : List String} {color : Color}
    (htenant : colorName color ∈ tenants) (hp : p < F.numPlanes) (hs : s < F.numSpines)
    (hsrc : src < F.numLeaves) (hdst : dst < F.numLeaves) {sidMode : String}
    (hmode : sidMode = "uA" ∨ sidMode = "uN") :
    ∃ packet, F.IsData tenants color p s dst sidMode packet ∧
      F.network.Delivers (.leaving (.host color src) (p + 1) packet)
        (dataPath color p s src dst) := by
  obtain ⟨outerText, hcall, outer, houterText, houter⟩ :=
    reads_usidOuterDst hF htenant hp hs hdst hmode
  obtain ⟨inner, hinnerText, hinner⟩ :=
    reads_hostAnycastAddr color (Nat.lt_of_lt_of_le hdst hF.leaves)
  exact ⟨⟨some outer, inner⟩, ⟨outerText, _, outer, hcall, innerAddr_eq htenant hdst, houterText,
    hinnerText, rfl⟩, delivers_data hF hp hs hsrc hdst hmode houter hinner⟩

/-- There is a probe for every EV, and it comes back. -/
theorem exists_probe (hF : F.Fits) {tenants : List String} {color : Color}
    (htenant : colorName color ∈ tenants) (hp : p < F.numPlanes) (hs : s < F.numSpines)
    (hsrc : src < F.numLeaves) (hdst : dst < F.numLeaves) :
    ∃ packet, F.IsProbe tenants color p s src dst packet ∧
      F.network.Delivers (.leaving (.host color src) (p + 1) packet)
        (probePath color p s src dst) := by
  obtain ⟨outerText, hcall, outer, houterText, houter⟩ :=
    reads_probeOuterDst hF htenant hp hs hsrc hdst
  obtain ⟨inner, hinnerText, hinner⟩ :=
    reads_probeEvAddr color (Nat.lt_of_lt_of_le hsrc hF.leaves) (hF.lowByte_lt hp hs)
  exact ⟨⟨some outer, inner⟩, ⟨outerText, _, outer, hcall, topo_probeEvAddr htenant hsrc hp hs,
    houterText, hinnerText, rfl⟩, delivers_probe hF hp hs hsrc hdst houter hinner⟩

/-! ## What a probe tells -/

/-- Whatever interfaces are down: a data packet is delivered when the four links of its path are up,
    over that path, and else not at all; a yellow probe comes back in the same case, a green one when
    the first three are up. -/
theorem probes_sense_paths (F : Fabric) (hF : F.Fits) (tenants : List String) (color : Color)
    (htenant : colorName color ∈ tenants) (p s src dst : Nat) (hp : p < F.numPlanes)
    (hs : s < F.numSpines) (hsrc : src < F.numLeaves) (hdst : dst < F.numLeaves) (sidMode : String)
    (hmode : sidMode = "uA" ∨ sidMode = "uN") (up : Node → Nat → Bool) :
    ∃ data probe, F.IsData tenants color p s dst sidMode data ∧
      F.IsProbe tenants color p s src dst probe ∧
      (∀ path, (F.network.cut up).Delivers (.leaving (.host color src) (p + 1) data) path ↔
        path = dataPath color p s src dst ∧ HostLink up color p src ∧ SpineLink up p s src ∧
          SpineLink up p s dst ∧ HostLink up color p dst) ∧
      (∀ path, (F.network.cut up).Delivers (.leaving (.host color src) (p + 1) probe) path ↔
        path = probePath color p s src dst ∧ HostLink up color p src ∧ SpineLink up p s src ∧
          SpineLink up p s dst ∧ (color = .yellow → HostLink up .yellow p dst)) := by
  obtain ⟨data, hdata, hdelivers⟩ := exists_data hF htenant hp hs hsrc hdst hmode
  obtain ⟨probe, hprobe, hreturns⟩ := exists_probe hF htenant hp hs hsrc hdst
  refine ⟨data, probe, hdata, hprobe, fun path => ?_, fun path => ?_⟩
  · rw [Network.delivers_cut_iff (wired hF) hdelivers, clear_dataPath hF hp hs hsrc hdst]
  · rw [Network.delivers_cut_iff (wired hF) hreturns, clear_probePath hF hp hs hsrc hdst]

/-- The link to a green peer is down: data packets are lost, and probes come back. -/
theorem probes_sense_paths_blind :
    let F : Fabric := ⟨4, 8, 16, false⟩
    let up : Node → Nat → Bool := fun node port => ¬ (node = .host .green 9 ∧ port = 3)
    ∃ data probe, F.IsData ["green", "yellow"] .green 2 5 9 "uA" data ∧
      F.IsProbe ["green", "yellow"] .green 2 5 1 9 probe ∧
      (∀ path, ¬ (F.network.cut up).Delivers (.leaving (.host .green 1) 3 data) path) ∧
      (F.network.cut up).Delivers (.leaving (.host .green 1) 3 probe)
        (probePath .green 2 5 1 9) := by
  intro F up
  obtain ⟨data, probe, hdata, hprobe, hdelivers, hreturns⟩ :=
    probes_sense_paths F ⟨by decide, by decide, by decide⟩ ["green", "yellow"] .green (by decide) 2 5
      1 9 (by decide) (by decide) (by decide) (by decide) "uA" (by decide) up
  refine ⟨data, probe, hdata, hprobe, fun path h => ?_, (hreturns _).mpr ⟨rfl, ?_⟩⟩
  · have hdown := ((hdelivers path).mp h).2.2.2.2.1
    exact absurd hdown (by decide)
  · exact ⟨⟨by decide, by decide⟩, ⟨by decide, by decide⟩, ⟨by decide, by decide⟩, fun h => by cases h⟩

end Fabric
end Srv6Mrc
