/-
  A probe's round trip.

  The destination of `probe_outer_dst` takes a probe up and down to the leaf of the peer, for yellow
  on to the peer itself, and back over the same spine; the leaf of the sender takes the outer header
  away and has the inner destination, `probe_ev_addr`, on the port of the sender.  No other host has
  that address (`hasAddress_probe_iff`), so the probe comes back to the interface it names
  (`probe_delivers`).
-/
import Srv6Mrc.Fabric.Delivery

namespace Srv6Mrc
namespace Fabric

open Py Net

variable {F : Fabric} {p s : Nat}

/-! ## The addresses of a probe -/

/-- An interface of a host has an address. -/
def HasAddress (F : Fabric) (color : Color) (n : Nat) (dev : Dev) (a : Ipv6) : Prop :=
  ∃ text len, .addrAdd text dev ∈ F.hostExec color n ∧ Prefix.ofText text = some ⟨a, len⟩

theorem lowByte_eq (hs : s < 16) : (p + 1) <<< 4 ||| s = (p + 1) * 16 + s := by
  rw [← Nat.shiftLeft_add_eq_or_of_lt (show s < 2 ^ 4 from hs), Nat.shiftLeft_eq]

theorem tenantGroup_inj {color color' : Color} (h : tenantGroup color = tenantGroup color') :
    color = color' := by
  cases color <;> cases color' <;> first | rfl | cases h

/-- The address of a probe is on the interface that it names, and on no other of the lab. -/
theorem hasAddress_probe_iff (hF : F.Fits) {color color' : Color} {n n' : Nat} {dev : Dev}
    (hp : p < F.numPlanes) (hs : s < F.numSpines) (hn : n < F.numLeaves) (hn' : n' < F.numLeaves)
    {a : Ipv6}
    (ha : a.hextets = [0x2001, 0xdb8, tenantGroup color, n, 0, 0, 0, (p + 1) <<< 4 ||| s]) :
    F.HasAddress color' n' dev a ↔ color' = color ∧ n' = n ∧ dev = .eth (p + 1) := by
  have hspines := hF.spines
  have hn16 : n < 16 := Nat.lt_of_lt_of_le hn hF.leaves
  have hn16' : n' < 16 := Nat.lt_of_lt_of_le hn' hF.leaves
  have hlow := lowByte_eq (p := p) (show s < 16 by omega)
  constructor
  · rintro ⟨text, len, hcmd, htext⟩
    have hgroups : ∀ {groups length}, ReadsPrefix text groups length → a.hextets = groups := by
      rintro groups length ⟨ip, hip, hgroups⟩
      rw [htext] at hip
      cases hip
      exact hgroups
    rcases mem_hostExec hcmd with ⟨p', hp', h⟩ | ⟨-, h | h⟩ | ⟨p', hp', s', hs', h⟩ |
      ⟨p', hp', h⟩ | h | ⟨-, p', hp', h⟩
    · cases h
      have heq := ha.symm.trans (hgroups (reads_hostAnycastAddr color' hn16').slash64)
      simp only [List.cons.injEq] at heq
      omega
    · cases h
      have heq := ha.symm.trans (hgroups (reads_hostAnycastAddr color' hn16').slash128)
      simp only [List.cons.injEq] at heq
      omega
    · cases h
    · cases h
      have hlow' := lowByte_eq (p := p') (show s' < 16 by omega)
      have heq := ha.symm.trans
        (hgroups (reads_probeEvAddr color' hn16' (hF.lowByte_lt hp' hs')).slash128)
      simp only [List.cons.injEq, true_and, and_true] at heq
      obtain ⟨htenant, hhost, hbyte⟩ := heq
      have hplane : p' = p := by omega
      exact ⟨(tenantGroup_inj htenant).symm, hhost.symm, by rw [hplane]⟩
    · cases h
    · cases h
    · cases h
  · rintro ⟨rfl, rfl, rfl⟩
    obtain ⟨ip, hip, hgroups⟩ := (reads_probeEvAddr color' hn16 (hF.lowByte_lt hp hs)).slash128
    refine ⟨_, 128, ?_, Ipv6.eq_of_hextets (hgroups.trans ha.symm) ▸ hip⟩
    simp only [hostExec, List.mem_append, List.mem_flatMap, List.mem_map, List.mem_range]
    exact Or.inl (Or.inl (Or.inl (Or.inr ⟨p, hp, s, hs, rfl⟩)))

/-- `probe_ev_addr` is the generator's. -/
theorem topo_probeEvAddr {tenants : List String} {color : Color}
    (htenant : colorName color ∈ tenants) {n : Nat} (hn : n < F.numLeaves) (hp : p < F.numPlanes)
    (hs : s < F.numSpines) :
    (F.topo tenants).probeEvAddr (colorName color) n p s = .ok (probeEvAddr color n p s) := by
  unfold Topo.probeEvAddr
  rw [show (F.topo tenants).checkTenant (colorName color) = .ok () from checkTenantIn_ok.mpr htenant,
    show (F.topo tenants).checkHost n = .ok n from checkIndex_nat _ hn,
    show (F.topo tenants).checkPlane p = .ok p from checkIndex_nat _ hp,
    show (F.topo tenants).checkSpine s = .ok s from checkIndex_nat _ hs]
  cases color <;> rfl

/-- The groups of a probe's outer destination. -/
def probeGroups (color : Color) (p s src dst : Nat) : List Nat :=
  match color with
  | .yellow => [0xfc00, p, 0xf000 + s, 0xe000 + dst, 0xe009, 0xf000 + s, 0xe000 + src, 0xdfff]
  | .green => [0xfc00, p, 0xf000 + s, 0xe000 + dst, 0xf000 + s, 0xe000 + src, 0xd000, 0]

theorem reads_probeOuterDst (hF : F.Fits) {tenants : List String} {color : Color}
    (htenant : colorName color ∈ tenants) (hp : p < F.numPlanes) (hs : s < F.numSpines)
    {src dst : Nat} (hsrc : src < F.numLeaves) (hdst : dst < F.numLeaves) :
    ∃ text, (F.topo tenants).probeOuterDst (colorName color) p src dst s = .ok text ∧
      Reads text (probeGroups color p s src dst) := by
  have hp16 : p < 16 := Nat.lt_of_lt_of_le hp hF.planes
  have hs16 : s < 16 := Nat.lt_of_lt_of_le hs (Nat.le_trans hF.spines (by omega))
  have hsrc16 : src < 16 := Nat.lt_of_lt_of_le hsrc hF.leaves
  have hdst16 : dst < 16 := Nat.lt_of_lt_of_le hdst hF.leaves
  have hspine : Hextet (digits "f00" s) := hextet_digits (by decide) (by decide) hs16
  have hleaf : ∀ {l}, l < 16 → Hextet (digits "e00" l) :=
    fun h => hextet_digits (by decide) (by decide) h
  unfold Topo.probeOuterDst
  rw [show (F.topo tenants).checkTenant (colorName color) = .ok () from checkTenantIn_ok.mpr htenant,
    show (F.topo tenants).checkPlane p = .ok p from checkIndex_nat _ hp,
    show (F.topo tenants).checkHost src = .ok src from checkIndex_nat _ hsrc,
    show (F.topo tenants).checkHost dst = .ok dst from checkIndex_nat _ hdst,
    show (F.topo tenants).checkSpine s = .ok s from checkIndex_nat _ hs]
  cases color with
  | yellow =>
    have htext : ("fc00:000" ++ hex p ++ ":f00" ++ hex s ++ ":e00" ++ hex dst ++ ":e009:f00" ++ hex s
        ++ ":e00" ++ hex src ++ ":dfff").toList
        = [':'].intercalate ["fc00".toList, digits "000" p, digits "f00" s, digits "e00" dst,
          "e009".toList, digits "f00" s, digits "e00" src, "dfff".toList] := by
      simp [digits]
    obtain ⟨ip, hip, hgroups⟩ := Ipv6.ofText_full htext (by
      simp only [List.forall_mem_cons]
      exact ⟨by decide, hextet_digits (by decide) (by decide) hp16, hspine, hleaf hdst16,
        by decide, hspine, hleaf hsrc16, by decide, List.forall_mem_nil _⟩) rfl
    refine ⟨_, rfl, ip, hip, hgroups.trans ?_⟩
    simp only [List.map_cons, List.map_nil, hexVal_plane hp16, hexVal_digits _ hs16,
      hexVal_digits _ hdst16, hexVal_digits _ hsrc16]
    rfl
  | green =>
    have htext : "fc00:000" ++ hex p ++ ":f00" ++ hex s ++ ":e00" ++ hex dst ++ ":f00" ++ hex s
        ++ ":e00" ++ hex src ++ ":d000::"
        = groupsText ("fc00".toList :: digits "000" p :: [digits "f00" s, digits "e00" dst,
          digits "f00" s, digits "e00" src, "d000".toList]) [] := by
      apply String.toList_injective
      simp [groupsText, sideParts, digits]
    have hread := reads_slots hp16 _ htext (by
      simp only [List.forall_mem_cons]
      exact ⟨hspine, hleaf hdst16, hspine, hleaf hsrc16, by decide, List.forall_mem_nil _⟩)
      (by simp) rfl
    refine ⟨_, rfl, ?_⟩
    simp only [List.map_cons, List.map_nil, hexVal_digits _ hs16, hexVal_digits _ hdst16,
      hexVal_digits _ hsrc16] at hread
    exact hread

/-! ## The round trip -/

/-- Up and down to the leaf of the peer, for yellow to the peer, and back. -/
def probePath (color : Color) (p s src dst : Nat) : List (Event Node Vrf) :=
  [.visit (.leaf p src) (hostPort color), .visit (.spine p s) (src + 1),
    .visit (.leaf p dst) (s + 1)] ++
  (match color with
    | .green => []
    | .yellow => [.visit (.host .yellow dst) (p + 1), .visit (.leaf p dst) 10]) ++
  [.visit (.spine p s) (dst + 1), .visit (.leaf p src) (s + 1),
    .decap (.leaf p src) (hostTable color), .visit (.host color src) (p + 1),
    .deliver (.host color src) (p + 1)]

/-- The address of a probe is the host's own. -/
theorem host_find_probe (hF : F.Fits) (hp : p < F.numPlanes) (hs : s < F.numSpines) {color : Color}
    {n : Nat} (hn : n < F.numLeaves) {inner : Ipv6}
    (hgroups : inner.hextets = [0x2001, 0xdb8, tenantGroup color, n, 0, 0, 0, (p + 1) <<< 4 ||| s]) :
    Only (F.network.find (.host color n) .default inner) .own := by
  have hcmd : ExecCmd.addrAdd (probeEvAddr color n p s ++ "/128") (.eth (p + 1))
      ∈ F.hostExec color n := by
    simp only [hostExec, List.mem_append, List.mem_flatMap, List.mem_map, List.mem_range]
    exact Or.inl (Or.inl (Or.inl (Or.inr ⟨p, hp, s, hs, rfl⟩)))
  exact host_find_own hF hn (reads_probeEvAddr color (Nat.lt_of_lt_of_le hn hF.leaves)
    (hF.lowByte_lt hp hs)).slash128 hcmd hgroups

/-- The peer sends a probe of which the destination is not its own back to its leaf. -/
theorem yellow_turns {n port : Nat} (hF : F.Fits) (hp : p < F.numPlanes) (hn : n < F.numLeaves)
    {outer inner : Ipv6} {x : Nat} {slots : List Nat}
    (hgroups : outer.hextets = 0xfc00 :: p :: x :: slots) (hx : x ≠ 0xd001)
    {trace : List (Event Node Vrf)}
    (hrest : F.network.Delivers (.found (.leaf p n) 10 .default ⟨some outer, inner⟩) trace) :
    F.network.Delivers (.found (.host .yellow n) port .default ⟨some outer, inner⟩)
      (.visit (.leaf p n) 10 :: trace) := by
  obtain ⟨gw, hfind⟩ : ∃ gw, Only (F.network.find (.host .yellow n) .default outer)
      (.via gw (some (p + 1))) := host_find_plane hF hn hp hgroups hx
  have hingress : F.network.ingress (.leaf p n) 10 = .default := ingress_hostPort hF .yellow
  rw [← hingress] at hrest
  exact Network.delivers_via_port hfind yellow_forwards
    (Network.delivers_leaving (peers_host hp hn .yellow) hrest)

/-- Every probe comes back to the interface of its EV, which alone has its inner destination. -/
theorem probe_delivers (F : Fabric) (hF : F.Fits) (tenants : List String) (color : Color)
    (htenant : colorName color ∈ tenants) (p s src dst : Nat) (hp : p < F.numPlanes)
    (hs : s < F.numSpines) (hsrc : src < F.numLeaves) (hdst : dst < F.numLeaves) :
    ∃ outerText innerText outer inner,
      (F.topo tenants).probeOuterDst (colorName color) p src dst s = .ok outerText ∧
      (F.topo tenants).probeEvAddr (colorName color) src p s = .ok innerText ∧
      Ipv6.ofText outerText = some outer ∧ Ipv6.ofText innerText = some inner ∧
      F.network.Delivers (.leaving (.host color src) (p + 1) ⟨some outer, inner⟩)
        (probePath color p s src dst) ∧
      ∀ color' n' dev, n' < F.numLeaves →
        (F.HasAddress color' n' dev inner ↔ color' = color ∧ n' = src ∧ dev = .eth (p + 1)) := by
  have hspines := hF.spines
  obtain ⟨outerText, hcall, outer, houterText, houter⟩ :=
    reads_probeOuterDst hF htenant hp hs hsrc hdst
  obtain ⟨inner, hinnerText, hinner⟩ :=
    reads_probeEvAddr color (Nat.lt_of_lt_of_le hsrc hF.leaves) (hF.lowByte_lt hp hs)
  have hlow : (p + 1) <<< 4 ||| s ≠ 1 := by
    rw [lowByte_eq (by omega)]
    omega
  have hown := host_find_probe hF hp hs hsrc hinner
  refine ⟨outerText, _, outer, inner, hcall, topo_probeEvAddr htenant hsrc hp hs, houterText,
    hinnerText, ?_, fun color' n' dev hn' => hasAddress_probe_iff hF hp hs hsrc hn' hinner⟩
  refine Network.delivers_leaving (peers_host hp hsrc color) ?_
  have hdeliver : F.network.Delivers
      (.found (.leaf p src) (s + 1) (hostTable color) ⟨none, inner⟩) _ :=
    leaf_deliver hF hp hsrc hinner hlow hown
  cases color with
  | green =>
    have h₁ := hextets_shift houter
    have h₂ := hextets_shift h₁
    have h₃ := hextets_shift h₂
    have h₄ := hextets_shift h₃
    exact leaf_uA hF hp hs hsrc houter (by omega) (spine_uA hF hp hs hdst h₁ (by omega)
      (leaf_uA hF hp hs hdst h₂ (by omega) (spine_uA hF hp hs hsrc h₃ (by omega)
        (leaf_green hF hp hsrc h₄ (by omega) hdeliver))))
  | yellow =>
    have h₁ := hextets_shift houter
    have h₂ := hextets_shift h₁
    have h₃ := hextets_shift h₂
    have h₄ := hextets_shift h₃
    have h₅ := hextets_shift h₄
    exact leaf_uA hF hp hs hsrc houter (by omega) (spine_uA hF hp hs hdst h₁ (by omega)
      (leaf_yellow_uA hF hp hdst h₂ (by omega) (yellow_turns hF hp hdst h₃ (by omega)
        (leaf_uA hF hp hs hdst h₃ (by omega) (spine_uA hF hp hs hsrc h₄ (by omega)
          (leaf_probe hF hp hsrc h₅ (by omega) hdeliver))))))

/-- At work on four planes of eight spines and sixteen leaves. -/
theorem probe_delivers_reference :
    let F : Fabric := ⟨4, 8, 16, false⟩
    ∃ outerText innerText outer inner,
      (F.topo ["green", "yellow"]).probeOuterDst "yellow" 3 2 15 5 = .ok outerText ∧
      (F.topo ["green", "yellow"]).probeEvAddr "yellow" 2 3 5 = .ok innerText ∧
      Ipv6.ofText outerText = some outer ∧ Ipv6.ofText innerText = some inner ∧
      F.network.Delivers (.leaving (.host .yellow 2) 4 ⟨some outer, inner⟩)
        [.visit (.leaf 3 2) 10, .visit (.spine 3 5) 3, .visit (.leaf 3 15) 6,
          .visit (.host .yellow 15) 4, .visit (.leaf 3 15) 10, .visit (.spine 3 5) 16,
          .visit (.leaf 3 2) 6, .decap (.leaf 3 2) .default, .visit (.host .yellow 2) 4,
          .deliver (.host .yellow 2) 4] ∧
      ∀ color' n' dev, n' < 16 →
        (F.HasAddress color' n' dev inner ↔ color' = .yellow ∧ n' = 2 ∧ dev = .eth 4) :=
  probe_delivers ⟨4, 8, 16, false⟩ ⟨by decide, by decide, by decide⟩ ["green", "yellow"] .yellow
    (by decide) 3 5 2 15 (by decide) (by decide) (by decide) (by decide)

end Fabric
end Srv6Mrc
