/-
  `srv6_mrc/topo.py`: whose address is it?

  Packets and returning probes are attributed by an address in them, which the daemon and the
  receiver read back.  A probe's address is read back for exactly the texts that denote one
  (`probe_addresses_decode`).  The inner address of a host is not: the reader takes sixteen hosts
  whatever the topology has, and never looks at the groups in the middle (`inner_addresses_decode`).
-/
import Srv6Mrc.Fabric.ProbeTrip
import Srv6Mrc.Lib.Outcome

namespace Srv6Mrc

open Py Fabric

/-! ## Groups of an address -/

/-- Eight groups. -/
theorem exists_groups (ip : Ipv6) :
    ∃ a b c d e f g h, ip.hextets = [a, b, c, d, e, f, g, h] := by
  obtain ⟨l, hlen, -⟩ := ip
  rcases l with _ | ⟨a, _ | ⟨b, _ | ⟨c, _ | ⟨d, _ | ⟨e, _ | ⟨f, _ | ⟨g, _ | ⟨h, _ | ⟨i, l⟩⟩⟩⟩⟩⟩⟩⟩⟩ <;>
    simp only [List.length_cons, List.length_nil] at hlen <;> first | omega | skip
  exact ⟨a, b, c, d, e, f, g, h, rfl⟩

/-- The groups of `.exploded` are those of an address without a scope. -/
theorem exploded_eq (s : String) :
    (IPv6Address.ofText s).bind IPv6Address.exploded = (Ipv6.ofText s).map Ipv6.hextets := by
  unfold Ipv6.ofText
  cases IPv6Address.ofText s with
  | none => rfl
  | some a =>
    obtain ⟨ip, scopeId⟩ := a
    cases scopeId <;> rfl

theorem reads_iff {s : String} {groups : List Nat} :
    Reads s groups ↔ (Ipv6.ofText s).map Ipv6.hextets = some groups := by
  unfold Reads
  rw [Option.map_eq_some_iff]

/-- Two texts of one address. -/
theorem Reads.same {s text : String} {groups : List Nat} (h : Reads text groups) :
    Reads s groups ↔ ∃ ip, Ipv6.ofText s = some ip ∧ Ipv6.ofText text = some ip := by
  obtain ⟨ip, htext, hgroups⟩ := h
  constructor
  · rintro ⟨ip', hs, hgroups'⟩
    exact ⟨ip', hs, htext.trans (congrArg some (Ipv6.eq_of_hextets (hgroups.trans hgroups'.symm)))⟩
  · rintro ⟨ip', hs, htext'⟩
    rw [htext] at htext'
    exact ⟨ip', hs, Option.some_inj.mp htext' ▸ hgroups⟩

theorem colorName_inj {color color' : Color} (h : colorName color = colorName color') :
    color = color' := by
  cases color <;> cases color' <;> first | rfl | exact absurd h (by decide)

/-! ## Probe addresses -/

namespace Topo

variable (T : Topo)

/-- `probe_inner_src`, with the texts of `PROBE_INNER_SRC_PLACEHOLDER`. -/
def probeInnerSrc (tenant : String) : Except TopoError String := do
  T.checkTenant tenant
  if tenant = "yellow" then return "2001:db8:cccc::ffff"
  else if tenant = "green" then return "2001:db8:bbbb::ffff"
  else throw (.noProbe tenant)

/-- The groups of a probe's address. -/
def probeEvGroups (color : Color) (hostId plane path : Nat) : List Nat :=
  [0x2001, 0xdb8, tenantGroup color, hostId, 0, 0, 0, (plane + 1) * 16 + path]

variable {T}

/-- What `probe_ev_addr` writes, and for which arguments. -/
theorem probeEvAddr_ok {tenant : String} {hostId plane path : Int} {text : String} :
    T.probeEvAddr tenant hostId plane path = .ok text ↔
      ∃ color, tenant = colorName color ∧ tenant ∈ T.tenants ∧
        ∃ h < T.numLeaves, ∃ p < T.numPlanes, ∃ s < T.numSpines,
          hostId = (h : Nat) ∧ plane = (p : Nat) ∧ path = (s : Nat) ∧
            text = Fabric.probeEvAddr color h p s := by
  unfold Topo.probeEvAddr
  constructor
  · intro hok
    obtain ⟨⟨⟩, htenant, hhost⟩ := Outcome.bind_ok.mp hok
    obtain ⟨h, hh, hplane⟩ := Outcome.bind_ok.mp hhost
    obtain ⟨p, hp, hspine⟩ := Outcome.bind_ok.mp hplane
    obtain ⟨s, hs, hwrite⟩ := Outcome.bind_ok.mp hspine
    obtain ⟨rfl, hlth⟩ := checkIndex_ok.mp hh
    obtain ⟨rfl, hltp⟩ := checkIndex_ok.mp hp
    obtain ⟨rfl, hlts⟩ := checkIndex_ok.mp hs
    have hmem := checkTenantIn_ok.mp htenant
    dsimp only at hwrite
    by_cases hy : tenant = "yellow"
    · rw [if_pos hy] at hwrite
      exact ⟨.yellow, hy, hmem, h, hlth, p, hltp, s, hlts, rfl, rfl, rfl,
        (Except.ok.inj hwrite).symm⟩
    · rw [if_neg hy] at hwrite
      by_cases hg : tenant = "green"
      · rw [if_pos hg] at hwrite
        exact ⟨.green, hg, hmem, h, hlth, p, hltp, s, hlts, rfl, rfl, rfl,
          (Except.ok.inj hwrite).symm⟩
      · rw [if_neg hg] at hwrite
        cases hwrite
  · rintro ⟨color, rfl, hmem, h, hh, p, hp, s, hs, rfl, rfl, rfl, rfl⟩
    rw [show T.checkTenant (colorName color) = .ok () from checkTenantIn_ok.mpr hmem,
      show T.checkHost h = .ok h from checkIndex_nat _ hh,
      show T.checkPlane p = .ok p from checkIndex_nat _ hp,
      show T.checkSpine s = .ok s from checkIndex_nat _ hs]
    cases color <;> rfl

/-- A probe's address, group by group. -/
theorem reads_probeEvGroups (color : Color) {h p s : Nat} (hh : h < 65536) (hp : p < 15)
    (hs : s < 16) : Reads (Fabric.probeEvAddr color h p s) (probeEvGroups color h p s) := by
  obtain ⟨htenant, hgroup⟩ := hextet_tenant color
  have hlow := lowByte_eq (p := p) hs
  exact reads_db8 _ _ _ (probeEvAddr_eq color h p s) htenant (hextet_toDigits hh)
    (hextet_toDigits (by omega)) hgroup (hexVal_toDigits h) ((hexVal_toDigits _).trans hlow)

/-- The low byte, as NIC and path. -/
theorem lowByte_parts (low : Nat) : (low >>> 4) &&& 0xf = low / 16 % 16 ∧ low &&& 0xf = low % 16 :=
  ⟨by rw [Nat.shiftRight_eq_div_pow]; exact Nat.and_two_pow_sub_one_eq_mod _ 4,
    Nat.and_two_pow_sub_one_eq_mod low 4⟩

/-- The checks of `probe_ev_from_inner_dst` behind the tenant's. -/
theorem probeEv_checks (hplanes : T.numPlanes ≤ 15) (hspines : T.numSpines ≤ 16)
    {a b d e f g low h p q : Nat} {t tenant : String} :
    (if a ≠ 0x2001 ∨ b ≠ 0xdb8 then none
      else if e ≠ 0 ∨ f ≠ 0 ∨ g ≠ 0 then none
      else if ¬ d < T.numLeaves then none
      else if low < 0x10 ∨ 0xff < low then none
      else if ¬ (1 ≤ low / 16 % 16 ∧ low / 16 % 16 ≤ T.numPlanes) then none
      else if ¬ low % 16 < T.numSpines then none
      else some (t, d, low / 16 % 16 - 1, low % 16)) = some (tenant, h, p, q) ↔
    (tenant = t ∧ h < T.numLeaves ∧ p < T.numPlanes ∧ q < T.numSpines) ∧
      a = 0x2001 ∧ b = 0xdb8 ∧ d = h ∧ e = 0 ∧ f = 0 ∧ g = 0 ∧ low = (p + 1) * 16 + q := by
  simp only [Option.ite_none_left_eq_some, Option.some.injEq, Prod.mk.injEq]
  constructor
  · rintro ⟨hblock, hmiddle, hleaf, hlow, hnic, hpath, rfl, rfl, rfl, rfl⟩
    refine ⟨⟨rfl, by omega, by omega, by omega⟩, by omega, by omega, rfl, by omega, by omega,
      by omega, by omega⟩
  · rintro ⟨⟨rfl, hh, hp, hq⟩, rfl, rfl, rfl, rfl, rfl, rfl, rfl⟩
    refine ⟨by omega, by omega, by omega, by omega, by omega, by omega, rfl, rfl, by omega,
      by omega⟩

/-- What `probe_ev_from_inner_dst` reads. -/
theorem probeEvFromInnerDst_iff (hplanes : T.numPlanes ≤ 15) (hspines : T.numSpines ≤ 16)
    {s : String} {tenant : String} {h p q : Nat} :
    T.probeEvFromInnerDst s = some (tenant, h, p, q) ↔
      ∃ color, (tenant = colorName color ∧ h < T.numLeaves ∧ p < T.numPlanes ∧ q < T.numSpines) ∧
        Reads s (probeEvGroups color h p q) := by
  unfold Topo.probeEvFromInnerDst
  simp only [reads_iff]
  rw [exploded_eq]
  cases hs : Ipv6.ofText s with
  | none =>
    constructor
    · intro hnone
      cases hnone
    · rintro ⟨color, -, hnone⟩
      cases hnone
  | some ip =>
    obtain ⟨a, b, c, d, e, f, g, low, hgroups⟩ := exists_groups ip
    obtain ⟨hnic, hpath⟩ := lowByte_parts low
    rw [Option.map_some, hgroups]
    simp only [Option.some.injEq, probeEvGroups, List.cons.injEq, and_true]
    rw [hnic, hpath]
    by_cases hyellow : c = 0xcccc
    · subst hyellow
      refine (probeEv_checks hplanes hspines).trans ?_
      constructor
      · rintro ⟨hin, ha, hb, hrest⟩
        exact ⟨.yellow, hin, ha, hb, rfl, hrest⟩
      · rintro ⟨color, hin, ha, hb, hc, hrest⟩
        obtain rfl : Color.yellow = color := tenantGroup_inj hc
        exact ⟨hin, ha, hb, hrest⟩
    · by_cases hgreen : c = 0xbbbb
      · subst hgreen
        refine (probeEv_checks hplanes hspines).trans ?_
        constructor
        · rintro ⟨hin, ha, hb, hrest⟩
          exact ⟨.green, hin, ha, hb, rfl, hrest⟩
        · rintro ⟨color, hin, ha, hb, hc, hrest⟩
          obtain rfl : Color.green = color := tenantGroup_inj hc
          exact ⟨hin, ha, hb, hrest⟩
      · rw [if_neg hyellow, if_neg hgreen]
        constructor
        · intro hnone
          split at hnone <;> cases hnone
        · rintro ⟨color, -, -, -, hc, -⟩
          cases color
          · exact absurd hc hgreen
          · exact absurd hc hyellow

/-! ## Inner addresses -/

/-- The groups of an address that `host_id_from_inner_addr` takes for a host's: it looks at neither
    of the middle three. -/
def innerGroups (color : Color) (hostId x y z : Nat) : List Nat :=
  [0x2001, 0xdb8, tenantGroup color, hostId, x, y, z, 2]

/-- What `inner_addr` writes for the two tenants. -/
theorem innerAddr_ok {color : Color} (hmem : colorName color ∈ T.tenants) {hostId : Int}
    {text : String} : T.innerAddr (colorName color) hostId = .ok text ↔
      ∃ h < T.numLeaves, hostId = (h : Nat) ∧ text = hostAnycastPrefix color h ++ "::2" := by
  have hwrite : T.innerAddr (colorName color) hostId
      = (T.checkHost hostId).bind fun h => .ok (hostAnycastPrefix color h ++ "::2") := by
    unfold innerAddr
    rw [show T.checkTenant (colorName color) = .ok () from checkTenantIn_ok.mpr hmem]
    cases color <;> rfl
  rw [hwrite]
  constructor
  · intro hok
    obtain ⟨h, hh, htext⟩ := Outcome.bind_ok.mp hok
    obtain ⟨rfl, hlt⟩ := checkIndex_ok.mp hh
    exact ⟨h, hlt, rfl, (Except.ok.inj htext).symm⟩
  · rintro ⟨h, hh, rfl, rfl⟩
    rw [show T.checkHost h = .ok h from checkIndex_nat _ hh]
    rfl

/-- An address of a host's /64, for any host that has one. -/
theorem reads_hostAddress (color : Color) {h : Nat} (hh : h < 65536) {last : List Char} {z : Nat}
    (hlast : Hextet last) (hz : hexVal last = z) {text : String}
    (htext : text.toList = (hostAnycastPrefix color h).toList ++ ':' :: ':' :: last) :
    Reads text [0x2001, 0xdb8, tenantGroup color, h, 0, 0, 0, z] := by
  obtain ⟨htenant, hgroup⟩ := hextet_tenant color
  exact reads_db8 _ _ last (hostAnycastPrefix_eq color h htext) htenant
    (hextet_padded (by omega) hh) hlast hgroup (hexVal_padded 2 h) hz

theorem reads_innerAddr (color : Color) {h : Nat} (hh : h < 65536) :
    Reads (hostAnycastPrefix color h ++ "::2") (innerGroups color h 0 0 0) :=
  reads_hostAddress color hh (show Hextet ['2'] by decide) rfl String.toList_append

theorem reads_gateway (color : Color) {h : Nat} (hh : h < 65536) :
    Reads (hostAnycastPrefix color h ++ "::1")
      [0x2001, 0xdb8, tenantGroup color, h, 0, 0, 0, 1] :=
  reads_hostAddress color hh (show Hextet ['1'] by decide) rfl String.toList_append

theorem reads_probeInnerSrc {tenant text : String} (h : T.probeInnerSrc tenant = .ok text) :
    ∃ color, Reads text [0x2001, 0xdb8, tenantGroup color, 0, 0, 0, 0, 0xffff] := by
  have hplaceholder : ∀ color, Reads (groupsText ["2001".toList, "db8".toList, tenantDigits color]
      ["ffff".toList]) [0x2001, 0xdb8, tenantGroup color, 0, 0, 0, 0, 0xffff] := by
    intro color
    obtain ⟨htenant, hgroup⟩ := hextet_tenant color
    have hread := reads_groups rfl (List.forall_mem_cons.mpr ⟨show Hextet "2001".toList by decide,
      List.forall_mem_cons.mpr ⟨show Hextet "db8".toList by decide,
        List.forall_mem_singleton.mpr htenant⟩⟩)
      (List.forall_mem_singleton.mpr (show Hextet "ffff".toList by decide)) (by simp)
    rw [← hgroup]
    exact hread
  unfold probeInnerSrc at h
  obtain ⟨⟨⟩, -, h⟩ := Outcome.bind_ok.mp h
  by_cases hy : tenant = "yellow"
  · rw [if_pos hy] at h
    obtain rfl := Except.ok.inj h
    exact ⟨.yellow, hplaceholder .yellow⟩
  · rw [if_neg hy] at h
    by_cases hg : tenant = "green"
    · rw [if_pos hg] at h
      obtain rfl := Except.ok.inj h
      exact ⟨.green, hplaceholder .green⟩
    · rw [if_neg hg] at h
      cases h

/-- What `host_id_from_inner_addr` reads. -/
theorem hostIdFromInnerAddr_iff {s tenant : String} {h : Nat} :
    hostIdFromInnerAddr s = some (tenant, h) ↔
      ∃ color x y z, tenant = colorName color ∧ h ≤ 15 ∧ Reads s (innerGroups color h x y z) := by
  unfold hostIdFromInnerAddr
  simp only [reads_iff]
  rw [exploded_eq]
  cases hs : Ipv6.ofText s with
  | none =>
    constructor
    · intro hnone
      cases hnone
    · rintro ⟨color, x, y, z, -, -, hnone⟩
      cases hnone
  | some ip =>
    obtain ⟨a, b, c, d, e, f, g, last, hgroups⟩ := exists_groups ip
    rw [Option.map_some, hgroups]
    simp only [Option.some.injEq, innerGroups, List.cons.injEq, and_true]
    have hchecks : ∀ color, c = tenantGroup color → last = 2 →
        ((if a ≠ 0x2001 ∨ b ≠ 0xdb8 then none
          else if d ≤ 15 then some (colorName color, d) else none) = some (tenant, h) ↔
        ∃ color x y z, tenant = colorName color ∧ h ≤ 15 ∧
          a = 0x2001 ∧ b = 0xdb8 ∧ c = tenantGroup color ∧ d = h ∧ e = x ∧ f = y ∧ g = z ∧
            last = 2) := by
      intro color hc hlast
      simp only [Option.ite_none_left_eq_some, Option.ite_none_right_eq_some, Option.some.injEq,
        Prod.mk.injEq]
      constructor
      · rintro ⟨hblock, hle, rfl, rfl⟩
        exact ⟨color, e, f, g, rfl, hle, by omega, by omega, hc, rfl, rfl, rfl, rfl, hlast⟩
      · rintro ⟨color', x, y, z, rfl, hle, rfl, rfl, hc', rfl, -⟩
        obtain rfl : color = color' := tenantGroup_inj (hc.symm.trans hc')
        exact ⟨by omega, hle, rfl, rfl⟩
    by_cases hgreen : c = 0xbbbb ∧ last = 2
    · rw [if_pos hgreen]
      exact hchecks .green hgreen.1 hgreen.2
    · rw [if_neg hgreen]
      by_cases hyellow : c = 0xcccc ∧ last = 2
      · rw [if_pos hyellow]
        exact hchecks .yellow hyellow.1 hyellow.2
      · rw [if_neg hyellow]
        constructor
        · intro hnone
          split at hnone <;> cases hnone
        · rintro ⟨color, x, y, z, -, -, -, -, hc, -, -, -, -, hlast⟩
          cases color
          · exact absurd ⟨hc, hlast⟩ hgreen
          · exact absurd ⟨hc, hlast⟩ hyellow

/-! ## Exactness -/

/-- Probe addresses, up to fifteen planes, sixteen spines and 65536 leaves: the daemon reads one back
    from a text if and only if the text denotes it; no two of them are the same; none is an inner
    address, a leaf's gateway or the placeholder; and none is read as a host. -/
theorem probe_addresses_decode (T : Topo) (htenants : ∀ color, colorName color ∈ T.tenants)
    (hplanes : T.numPlanes ≤ 15) (hspines : T.numSpines ≤ 16) (hleaves : T.numLeaves ≤ 65536) :
    (∀ (s tenant : String) (h p q : Nat), T.probeEvFromInnerDst s = some (tenant, h, p, q) ↔
      ∃ text, T.probeEvAddr tenant h p q = .ok text ∧
        ∃ ip, Ipv6.ofText s = some ip ∧ Ipv6.ofText text = some ip) ∧
    (∀ (tenant tenant' : String) (h p q h' p' q' : Int) (text text' : String),
      T.probeEvAddr tenant h p q = .ok text → T.probeEvAddr tenant' h' p' q' = .ok text' →
        Ipv6.ofText text = Ipv6.ofText text' → (tenant, h, p, q) = (tenant', h', p', q')) ∧
    (∀ (tenant : String) (h p q : Int) (text : String), T.probeEvAddr tenant h p q = .ok text →
      (∀ color n other, T.innerAddr (colorName color) n = .ok other →
        Ipv6.ofText text ≠ Ipv6.ofText other) ∧
      (∀ color, ∀ n < T.numLeaves,
        Ipv6.ofText text ≠ Ipv6.ofText (hostAnycastPrefix color n ++ "::1")) ∧
      ∀ tenant' other, T.probeInnerSrc tenant' = .ok other →
        Ipv6.ofText text ≠ Ipv6.ofText other) ∧
    ∀ s, T.probeEvFromInnerDst s ≠ none → hostIdFromInnerAddr s = none := by
  have hreads : ∀ color {h p q : Nat}, h < T.numLeaves → p < T.numPlanes → q < T.numSpines →
      Reads (Fabric.probeEvAddr color h p q) (probeEvGroups color h p q) :=
    fun color _ _ _ hh hp hq => reads_probeEvGroups color (by omega) (by omega) (by omega)
  have hdecode : ∀ (s tenant : String) (h p q : Nat),
      T.probeEvFromInnerDst s = some (tenant, h, p, q) ↔
        ∃ text, T.probeEvAddr tenant h p q = .ok text ∧
          ∃ ip, Ipv6.ofText s = some ip ∧ Ipv6.ofText text = some ip := by
    intro s tenant h p q
    rw [probeEvFromInnerDst_iff hplanes hspines]
    constructor
    · rintro ⟨color, ⟨rfl, hh, hp, hq⟩, hs⟩
      exact ⟨_, probeEvAddr_ok.mpr ⟨color, rfl, htenants color, h, hh, p, hp, q, hq, rfl, rfl, rfl,
        rfl⟩, (hreads color hh hp hq).same.mp hs⟩
    · rintro ⟨text, htext, hsame⟩
      obtain ⟨color, rfl, -, h', hh, p', hp, q', hq, hh', hp', hq', rfl⟩ := probeEvAddr_ok.mp htext
      obtain rfl : h = h' := Int.ofNat_inj.mp hh'
      obtain rfl : p = p' := Int.ofNat_inj.mp hp'
      obtain rfl : q = q' := Int.ofNat_inj.mp hq'
      exact ⟨color, ⟨rfl, hh, hp, hq⟩, (hreads color hh hp hq).same.mpr hsame⟩
  refine ⟨hdecode, ?_, ?_, ?_⟩
  · -- both are the plan's, so each is read as its own arguments
    intro tenant tenant' h p q h' p' q' text text' htext htext' heq
    obtain ⟨color, rfl, -, n, hn, i, hi, j, hj, rfl, rfl, rfl, rfl⟩ := probeEvAddr_ok.mp htext
    obtain ⟨color', rfl, -, n', hn', i', hi', j', hj', rfl, rfl, rfl, rfl⟩ :=
      probeEvAddr_ok.mp htext'
    obtain ⟨ip, hip, -⟩ := hreads color hn hi hj
    have hread := (hdecode (Fabric.probeEvAddr color n i j) (colorName color) n i j).mpr
      ⟨_, htext, ip, hip, hip⟩
    have hread' := (hdecode (Fabric.probeEvAddr color n i j) (colorName color') n' i' j').mpr
      ⟨_, htext', ip, hip, heq ▸ hip⟩
    have hinj := Option.some_inj.mp (hread.symm.trans hread')
    simp only [Prod.mk.injEq] at hinj ⊢
    exact ⟨hinj.1, by rw [hinj.2.1], by rw [hinj.2.2.1], by rw [hinj.2.2.2]⟩
  · intro tenant h p q text htext
    obtain ⟨color, rfl, -, n, hn, i, hi, j, hj, rfl, rfl, rfl, rfl⟩ := probeEvAddr_ok.mp htext
    have hprobe := hreads color hn hi hj
    refine ⟨fun color' n' other hother => ?_, fun color' n' hn' => ?_, fun tenant' other hother => ?_⟩
    · -- no host has the address
      obtain ⟨m, hm, -, rfl⟩ := (innerAddr_ok (htenants color')).mp hother
      refine hprobe.ne (reads_innerAddr color' (by omega)) fun heq => ?_
      simp only [probeEvGroups, innerGroups, List.cons.injEq] at heq
      omega
    · -- nor has a gateway
      refine hprobe.ne (reads_gateway color' (by omega)) fun heq => ?_
      simp only [probeEvGroups, List.cons.injEq] at heq
      omega
    · -- nor is it the source of the probes
      obtain ⟨color', hother⟩ := reads_probeInnerSrc hother
      refine hprobe.ne hother fun heq => ?_
      simp only [probeEvGroups, List.cons.injEq] at heq
      omega
  · intro s hs
    -- the last group of a host's address is 2, and a probe's is 16 at least
    obtain ⟨⟨tenant, h, p, q⟩, hprobe⟩ := Option.ne_none_iff_exists'.mp hs
    obtain ⟨color, -, hreadsProbe⟩ := (probeEvFromInnerDst_iff hplanes hspines).mp hprobe
    cases hhost : hostIdFromInnerAddr s with
    | none => rfl
    | some found =>
      obtain ⟨color', x, y, z, -, -, hreadsInner⟩ :=
        hostIdFromInnerAddr_iff.mp (hhost.trans rfl : _ = some (found.1, found.2))
      refine absurd rfl (hreadsProbe.ne hreadsInner fun heq => ?_)
      simp only [probeEvGroups, innerGroups, List.cons.injEq] at heq
      omega

/-- The largest topology that the plan of the probe addresses has room for. -/
def largest : Topo := ⟨15, 16, 65536, ["green", "yellow"]⟩

theorem probe_addresses_decode_largest :
    largest.probeEvFromInnerDst "2001:DB8:cccc:ffff:0::ff" = some ("yellow", 65535, 14, 15) :=
  ((probe_addresses_decode largest (fun color => by cases color <;> decide) (by decide) (by decide)
    (by decide)).1 _ "yellow" 65535 14 15).mpr
      ⟨"2001:db8:cccc:ffff::ff", by decide, ⟨[0x2001, 0xdb8, 0xcccc, 0xffff, 0, 0, 0, 0xff], rfl,
        by decide⟩, by decide, by decide⟩

variable (T) in
/-- `host_id_from_inner_addr` is right about a text: it finds a host if and only if the text denotes
    the inner address of that host. -/
def HostRight (s : String) : Prop :=
  ∀ (color : Color) (h : Nat), hostIdFromInnerAddr s = some (colorName color, h) ↔
    ∃ text, T.innerAddr (colorName color) h = .ok text ∧
      ∃ ip, Ipv6.ofText s = some ip ∧ Ipv6.ofText text = some ip

/-- Inner addresses, up to 65536 leaves: the reader is right about a text unless it denotes an
    address of the plan's shape for one of the first sixteen hosts that is not a host's, or a host's
    that is not one of the first sixteen.  So it reads back all hosts if and only if there are no
    more than sixteen, and some text it never reads right. -/
theorem inner_addresses_decode (T : Topo) (htenants : ∀ color, colorName color ∈ T.tenants)
    (hleaves : T.numLeaves ≤ 65536) :
    (∀ s, T.HostRight s ↔ ∀ color h x y z, Reads s (innerGroups color h x y z) →
      (h ≤ 15 ↔ h < T.numLeaves ∧ x = 0 ∧ y = 0 ∧ z = 0)) ∧
    ((∀ color (h : Nat) text, T.innerAddr (colorName color) h = .ok text →
      hostIdFromInnerAddr text = some (colorName color, h)) ↔ T.numLeaves ≤ 16) ∧
    ∃ s, ¬ T.HostRight s := by
  have hhost : ∀ (s : String) (color : Color) (h : Nat),
      (∃ text, T.innerAddr (colorName color) h = .ok text ∧
        ∃ ip, Ipv6.ofText s = some ip ∧ Ipv6.ofText text = some ip) ↔
      h < T.numLeaves ∧ Reads s (innerGroups color h 0 0 0) := by
    intro s color h
    constructor
    · rintro ⟨text, htext, hsame⟩
      obtain ⟨h', hh, heq, rfl⟩ := (innerAddr_ok (htenants color)).mp htext
      obtain rfl : h = h' := Int.ofNat_inj.mp heq
      exact ⟨hh, (reads_innerAddr color (by omega)).same.mpr hsame⟩
    · rintro ⟨hh, hs⟩
      exact ⟨_, (innerAddr_ok (htenants color)).mpr ⟨h, hh, rfl, rfl⟩,
        (reads_innerAddr color (by omega)).same.mp hs⟩
  have hgroups : ∀ {s : String} {color color' : Color} {h h' x y z x' y' z' : Nat},
      Reads s (innerGroups color h x y z) → Reads s (innerGroups color' h' x' y' z') →
        color = color' ∧ h = h' ∧ x = x' ∧ y = y' ∧ z = z' := by
    intro s color color' h h' x y z x' y' z' hs hs'
    have heq : innerGroups color h x y z = innerGroups color' h' x' y' z' := by
      by_contra hne
      exact hs.ne hs' hne rfl
    simp only [innerGroups, List.cons.injEq, true_and, and_true] at heq
    exact ⟨tenantGroup_inj heq.1, heq.2⟩
  have hright : ∀ s, T.HostRight s ↔ ∀ color h x y z, Reads s (innerGroups color h x y z) →
      (h ≤ 15 ↔ h < T.numLeaves ∧ x = 0 ∧ y = 0 ∧ z = 0) := by
    intro s
    constructor
    · intro hr color h x y z hs
      have hiff := (hr color h).trans (hhost s color h)
      rw [hostIdFromInnerAddr_iff] at hiff
      constructor
      · intro hle
        obtain ⟨hlt, hzero⟩ := hiff.mp ⟨color, x, y, z, rfl, hle, hs⟩
        obtain ⟨-, -, hx, hy, hz⟩ := hgroups hs hzero
        exact ⟨hlt, hx, hy, hz⟩
      · rintro ⟨hlt, rfl, rfl, rfl⟩
        obtain ⟨-, -, -, -, -, hle, -⟩ := hiff.mpr ⟨hlt, hs⟩
        exact hle
    · intro hall color h
      rw [hhost, hostIdFromInnerAddr_iff]
      constructor
      · rintro ⟨color', x, y, z, hname, hle, hs⟩
        obtain rfl := colorName_inj hname
        obtain ⟨hlt, rfl, rfl, rfl⟩ := (hall color h x y z hs).mp hle
        exact ⟨hlt, hs⟩
      · rintro ⟨hlt, hs⟩
        exact ⟨color, 0, 0, 0, rfl, (hall color h 0 0 0 hs).mpr ⟨hlt, rfl, rfl, rfl⟩, hs⟩
  refine ⟨hright, ⟨fun hall => ?_, fun hle color h text htext => ?_⟩, ?_⟩
  · by_contra hmany
    have hlt : 16 < T.numLeaves := by omega
    have htext : T.innerAddr (colorName .green) (16 : Nat) = .ok (hostAnycastPrefix .green 16 ++ "::2") :=
      (innerAddr_ok (htenants .green)).mpr ⟨16, hlt, rfl, rfl⟩
    obtain ⟨-, -, -, -, -, hle, -⟩ := hostIdFromInnerAddr_iff.mp (hall .green 16 _ htext)
    omega
  · obtain ⟨h', hh, heq, rfl⟩ := (innerAddr_ok (htenants color)).mp htext
    obtain rfl : h = h' := Int.ofNat_inj.mp heq
    exact hostIdFromInnerAddr_iff.mpr
      ⟨color, 0, 0, 0, rfl, by omega, reads_innerAddr color (by omega)⟩
  · -- the first host, with a group in the middle that nobody looks at
    have hs : Reads "2001:db8:bbbb:0:1::2" (innerGroups .green 0 1 0 0) :=
      ⟨⟨innerGroups .green 0 1 0 0, rfl, by decide⟩, by decide, rfl⟩
    refine ⟨"2001:db8:bbbb:0:1::2", fun hr => ?_⟩
    have hbad := ((hright _).mp hr .green 0 1 0 0 hs).mp (Nat.zero_le _)
    exact absurd hbad.2.1 Nat.one_ne_zero

theorem inner_addresses_decode_largest :
    ¬ ∀ color (h : Nat) text, largest.innerAddr (colorName color) h = .ok text →
      hostIdFromInnerAddr text = some (colorName color, h) := fun hall =>
  absurd ((inner_addresses_decode largest (fun color => by cases color <;> decide)
    (by decide)).2.1.mp hall) (by decide)

end Topo
end Srv6Mrc
