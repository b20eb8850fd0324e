/-
  `srv6_mrc/mrc/transport.py`: what `Srv6RawTransport` hands to its sockets.

  The probes of an EV to a peer differ in nothing but the payload, and having scapy build each of
  them keeps the emit thread from the interpreter.  So the constructor builds a template for every
  EV and peer, and `send_probe` writes into a copy of it.  What has no template, or not the length
  of one, goes the slow way.  Which way a probe went cannot be seen on the wire
  (`sendProbe_agrees`).
-/
import Srv6Mrc.Packet.Fast
import Srv6Mrc.Topo.Address
import Srv6Mrc.Wire.RoundTrip

namespace Srv6Mrc

open Py Wire Fabric

/-- `SPRAY_PROBE_PORT` -/
def sprayProbePort : Nat := 9998

/-- `SPRAY_REPORT_PORT` -/
def sprayReportPort : Nat := 9997

/-- `PROBE_PAYLOAD_LEN` -/
def probePayloadLen : Nat := calcsize probeFmt

/-- `self._raw_sockets[plane].sendto(bytes, (dst, 0, 0, 0))`: there is a socket for every plane that
    passes `_check_plane`. -/
structure RawSend where
  plane : Int
  bytes : List UInt8
  dst : String
  deriving DecidableEq

/-- The arguments of `send_probe`. -/
structure ProbeSend where
  plane : Int
  path : Int
  dstLeaf : Int
  payload : List UInt8
  deriving DecidableEq

/-- The entries of `_probe_templates`, by plane, path and peer: the bytes, and where they go. -/
abbrev ProbeTemplates : Type := Int × Int × Int → Option (List UInt8 × String)

/-- `Srv6RawTransport`, less its sockets. -/
structure Srv6RawTransport where
  topo : Topo
  tenant : String
  myId : Int
  sidMode : String
  probeInnerSrc : String
  lossInnerSrc : String
  probeTemplates : ProbeTemplates
  probeFastPathMisses : Nat

namespace Srv6RawTransport

variable (T : Topo) (S : Scapy)

/-! ## The constructor -/

/-- The body of the innermost loop of `_prewarm_probe_templates`. -/
def warmLeaf (tenant : String) (myId : Int) (innerSrc : String) (plane path : Nat) (dstInner : String)
    (cache : ProbeTemplates) (dstLeaf : Nat) : Except BuildError ProbeTemplates :=
  -- a host does not probe itself
  if (dstLeaf : Int) = myId then return cache
  else do
    let outerDst ← liftTopo (T.probeOuterDst tenant plane myId dstLeaf path)
    let tpl ← buildOuterTemplate S innerSrc outerDst innerSrc dstInner sprayProbePort
      sprayReportPort probePayloadLen
    return Function.update cache (plane, path, dstLeaf) (some (tpl, outerDst))

/-- `_prewarm_probe_templates` -/
def prewarm (tenant : String) (myId : Int) (innerSrc : String) : Except BuildError ProbeTemplates :=
  (List.range T.numPlanes).foldlM (fun cache (plane : Nat) =>
    (List.range T.numSpines).foldlM (fun cache (path : Nat) => do
      let dstInner ← liftTopo (T.probeEvAddr tenant myId plane path)
      (List.range T.numLeaves).foldlM (warmLeaf T S tenant myId innerSrc plane path dstInner) cache)
      cache)
    (fun _ => none)

/-- `__init__` -/
def new (tenant : String) (myId : Int) (isSender : Bool) (sidMode : String) :
    Except BuildError Srv6RawTransport := do
  let innerSrc ← liftTopo (T.probeInnerSrc tenant)
  let lossInnerSrc ← liftTopo (T.innerAddr tenant myId)
  let templates ← (if isSender then prewarm T S tenant myId innerSrc else .ok fun _ => none)
  return ⟨T, tenant, myId, sidMode, innerSrc, lossInnerSrc, templates, 0⟩

/-! ## Sending -/

variable (x : Srv6RawTransport)

/-- `_send_probe_slow` -/
def sendProbeSlow (c : ProbeSend) : Except BuildError RawSend := do
  let outerDst ← liftTopo (x.topo.probeOuterDst x.tenant c.plane x.myId c.dstLeaf c.path)
  let dstInner ← liftTopo (x.topo.probeEvAddr x.tenant x.myId c.plane c.path)
  return ⟨c.plane, S.encapsulated x.probeInnerSrc outerDst x.probeInnerSrc dstInner sprayProbePort
    sprayReportPort c.payload, outerDst⟩

/-- The lookup of `send_probe`: a template is for one length only. -/
def cached (c : ProbeSend) : Option (List UInt8 × String) :=
  match x.probeTemplates (c.plane, c.path, c.dstLeaf) with
  | none => none
  | some entry => if c.payload.length ≠ probePayloadLen then none else some entry

/-- `send_probe` -/
def sendProbe (c : ProbeSend) : Except BuildError RawSend × Srv6RawTransport :=
  match x.cached c with
  | none =>
    (x.sendProbeSlow S c, { x with probeFastPathMisses := x.probeFastPathMisses + 1 })
  | some (template, outerDst) =>
    let pkt := setSlice template payloadOffset (payloadOffset + c.payload.length) c.payload
    (.ok ⟨c.plane, udp6ChecksumInplace pkt c.payload.length, outerDst⟩, x)

/-- Calls of `send_probe`, one after the other: what each hands on, and the transport after them. -/
def sendProbes (x : Srv6RawTransport) : List ProbeSend →
    List (Except BuildError RawSend) × Srv6RawTransport
  | [] => ([], x)
  | c :: cs =>
    let (o, x') := x.sendProbe S c
    let (os, x'') := x'.sendProbes cs
    (o :: os, x'')

/-! ## The templates -/

section Templates

variable {T : Topo} {S : Scapy} {tenant innerSrc : String} {myId : Int}

/-- The EVs and peers that have a template. -/
def Warmed (T : Topo) (myId : Int) (key : Int × Int × Int) : Prop :=
  (∃ plane < T.numPlanes, key.1 = (plane : Nat)) ∧ (∃ path < T.numSpines, key.2.1 = (path : Nat)) ∧
    (∃ leaf < T.numLeaves, key.2.2 = (leaf : Nat)) ∧ key.2.2 ≠ myId

instance : DecidablePred (Warmed T myId) := fun key =>
  decidable_of_iff ((0 ≤ key.1 ∧ key.1 < T.numPlanes) ∧ (0 ≤ key.2.1 ∧ key.2.1 < T.numSpines) ∧
      (0 ≤ key.2.2 ∧ key.2.2 < T.numLeaves) ∧ key.2.2 ≠ myId) <| by
    have hin : ∀ (n : Nat) (v : Int), (0 ≤ v ∧ v < n) ↔ ∃ k < n, v = (k : Nat) := fun n v =>
      ⟨fun h => ⟨v.toNat, by omega, by omega⟩, fun ⟨k, hk, hv⟩ => by omega⟩
    unfold Warmed
    rw [hin, hin, hin]

/-- An entry is what the constructor would build for its key. -/
def RightEntry (T : Topo) (S : Scapy) (tenant : String) (myId : Int) (innerSrc : String)
    (key : Int × Int × Int) (entry : List UInt8 × String) : Prop :=
  ∃ dstInner, T.probeEvAddr tenant myId key.1 key.2.1 = .ok dstInner ∧
    T.probeOuterDst tenant key.1 myId key.2.2 key.2.1 = .ok entry.2 ∧
    buildOuterTemplate S innerSrc entry.2 innerSrc dstInner sprayProbePort sprayReportPort
      probePayloadLen = .ok entry.1

/-- From one cache to another: all that is new is right, nothing goes, and these keys are there. -/
def Grows (T : Topo) (S : Scapy) (tenant : String) (myId : Int) (innerSrc : String)
    (keys : Int × Int × Int → Prop) (cache cache' : ProbeTemplates) : Prop :=
  (∀ key entry, cache' key = some entry →
    cache key = some entry ∨ keys key ∧ RightEntry T S tenant myId innerSrc key entry) ∧
  ∀ key, cache key ≠ none ∨ keys key → cache' key ≠ none

theorem liftTopo_ok {α : Type} {x : Except TopoError α} {a : α} :
    liftTopo x = .ok a ↔ x = .ok a := by
  cases x with
  | ok b => rw [show liftTopo (.ok b) = .ok b from rfl, Except.ok.injEq, Except.ok.injEq]
  | error err => constructor <;> intro h <;> cases h

/-- A loop over caches: what its rounds add, all of it. -/
theorem grows_foldlM {α : Type} {f : ProbeTemplates → α → Except BuildError ProbeTemplates}
    {keys : α → Int × Int × Int → Prop} {xs : List α}
    (hround : ∀ a ∈ xs, ∀ cache cache', f cache a = .ok cache' →
      Grows T S tenant myId innerSrc (keys a) cache cache')
    {cache cache' : ProbeTemplates} (h : xs.foldlM f cache = .ok cache') :
    Grows T S tenant myId innerSrc (fun key => ∃ a ∈ xs, keys a key) cache cache' := by
  induction xs generalizing cache with
  | nil =>
    obtain rfl := Except.ok.inj h
    exact ⟨fun _ _ hkey => Or.inl hkey, fun _ hkey => hkey.elim id fun ⟨_, ha, _⟩ =>
      absurd ha List.not_mem_nil⟩
  | cons a xs ih =>
    rw [List.foldlM_cons] at h
    obtain ⟨mid, hmid, hrest⟩ := Outcome.bind_ok.mp h
    obtain ⟨hsound, hall⟩ := hround a List.mem_cons_self cache mid hmid
    obtain ⟨hsound', hall'⟩ := ih (fun b hb => hround b (List.mem_cons_of_mem a hb)) hrest
    constructor
    · intro key entry hkey
      rcases hsound' key entry hkey with hkey | ⟨⟨b, hb, hkeys⟩, hright⟩
      · rcases hsound key entry hkey with hkey | ⟨hkeys, hright⟩
        · exact Or.inl hkey
        · exact Or.inr ⟨⟨a, List.mem_cons_self, hkeys⟩, hright⟩
      · exact Or.inr ⟨⟨b, List.mem_cons_of_mem a hb, hkeys⟩, hright⟩
    · rintro key (hkey | ⟨b, hb, hkeys⟩)
      · exact hall' key (Or.inl (hall key (Or.inl hkey)))
      · rcases List.mem_cons.mp hb with rfl | hb
        · exact hall' key (Or.inl (hall key (Or.inr hkeys)))
        · exact hall' key (Or.inr ⟨b, hb, hkeys⟩)

/-- The body of the innermost loop adds the entry of its key, if the peer is another host. -/
theorem grows_warmLeaf {plane path leaf : Nat} {dstInner : String}
    (hinner : T.probeEvAddr tenant myId plane path = .ok dstInner) {cache cache' : ProbeTemplates}
    (h : warmLeaf T S tenant myId innerSrc plane path dstInner cache leaf = .ok cache') :
    Grows T S tenant myId innerSrc
      (fun key => key = ((plane : Int), (path : Int), (leaf : Int)) ∧ (leaf : Int) ≠ myId)
      cache cache' := by
  unfold warmLeaf at h
  split_ifs at h with hself
  · obtain rfl := Except.ok.inj h
    exact ⟨fun _ _ hkey => Or.inl hkey, fun _ hkey => hkey.elim id fun h => absurd hself h.2⟩
  · obtain ⟨outerDst, houter, h⟩ := Outcome.bind_ok.mp h
    obtain ⟨tpl, htpl, h⟩ := Outcome.bind_ok.mp h
    obtain rfl := Except.ok.inj h
    constructor
    · intro key entry hkey
      by_cases hsame : key = ((plane : Int), (path : Int), (leaf : Int))
      · subst hsame
        rw [Function.update_self] at hkey
        obtain rfl := Option.some.inj hkey
        exact Or.inr ⟨⟨rfl, hself⟩, dstInner, hinner, liftTopo_ok.mp houter, htpl⟩
      · rw [Function.update_of_ne hsame] at hkey
        exact Or.inl hkey
    · intro key hkey
      by_cases hsame : key = ((plane : Int), (path : Int), (leaf : Int))
      · subst hsame
        rw [Function.update_self]
        exact Option.some_ne_none _
      · rw [Function.update_of_ne hsame]
        exact hkey.resolve_right fun h => hsame h.1

/-- The templates after the constructor: of all EVs and peers, and right. -/
theorem prewarm_ok {cache : ProbeTemplates} (h : prewarm T S tenant myId innerSrc = .ok cache) :
    (∀ key entry, cache key = some entry → RightEntry T S tenant myId innerSrc key entry) ∧
      ∀ key, cache key ≠ none ↔ Warmed T myId key := by
  unfold prewarm at h
  obtain ⟨hsound, hall⟩ := grows_foldlM (fun plane _ _ _ hplane =>
    grows_foldlM (fun path _ _ _ hpath => by
      obtain ⟨dstInner, hinner, hloop⟩ := Outcome.bind_ok.mp hpath
      exact grows_foldlM (fun leaf _ _ _ hleaf => grows_warmLeaf (liftTopo_ok.mp hinner) hleaf) hloop)
      hplane) h
  have hkeys : ∀ key : Int × Int × Int, (∃ plane ∈ List.range T.numPlanes,
      ∃ path ∈ List.range T.numSpines, ∃ leaf ∈ List.range T.numLeaves,
        key = ((plane : Int), (path : Int), (leaf : Int)) ∧ (leaf : Int) ≠ myId) ↔
      Warmed T myId key := by
    rintro ⟨a, b, c⟩
    simp only [List.mem_range, Prod.mk.injEq, Warmed]
    constructor
    · rintro ⟨p, hp, s, hs, l, hl, ⟨rfl, rfl, rfl⟩, hne⟩
      exact ⟨⟨p, hp, rfl⟩, ⟨s, hs, rfl⟩, ⟨l, hl, rfl⟩, hne⟩
    · rintro ⟨⟨p, hp, rfl⟩, ⟨s, hs, rfl⟩, ⟨l, hl, rfl⟩, hne⟩
      exact ⟨p, hp, s, hs, l, hl, ⟨rfl, rfl, rfl⟩, hne⟩
  constructor
  · intro key entry hkey
    rcases hsound key entry hkey with hnone | ⟨-, hright⟩
    · cases hnone
    · exact hright
  · intro key
    rw [← hkeys key]
    constructor
    · intro hne
      obtain ⟨entry, hkey⟩ := Option.ne_none_iff_exists'.mp hne
      rcases hsound key entry hkey with hnone | ⟨hin, -⟩
      · cases hnone
      · exact hin
    · exact fun hin => hall key (Or.inr hin)

/-! ## One way or the other -/

variable {x : Srv6RawTransport}

/-- What the constructor makes of its arguments. -/
theorem new_ok {isSender : Bool} {sidMode : String} (h : new T S tenant myId isSender sidMode = .ok x) :
    (x.topo = T ∧ x.tenant = tenant ∧ x.myId = myId ∧ x.probeFastPathMisses = 0) ∧
      T.probeInnerSrc tenant = .ok x.probeInnerSrc ∧
      (∀ key entry, x.probeTemplates key = some entry →
        RightEntry T S tenant myId x.probeInnerSrc key entry) ∧
      ∀ key, x.probeTemplates key ≠ none ↔ isSender = true ∧ Warmed T myId key := by
  unfold new at h
  obtain ⟨innerSrc, hinnerSrc, h⟩ := Outcome.bind_ok.mp h
  obtain ⟨lossInnerSrc, -, h⟩ := Outcome.bind_ok.mp h
  obtain ⟨templates, htemplates, h⟩ := Outcome.bind_ok.mp h
  obtain rfl := Except.ok.inj h
  refine ⟨⟨rfl, rfl, rfl, rfl⟩, liftTopo_ok.mp hinnerSrc, ?_⟩
  cases isSender with
  | true =>
    obtain ⟨hright, hkeys⟩ := prewarm_ok htemplates
    exact ⟨hright, fun key => (hkeys key).trans (by simp)⟩
  | false =>
    obtain rfl := Except.ok.inj htemplates
    exact ⟨fun _ _ hkey => absurd hkey.symm (Option.some_ne_none _), fun _ => by simp⟩

/-- Written into a template, a payload of its length gives the packet of scapy. -/
theorem sendProbe_fst {inetPton : String → List UInt8} (hS : S.Conforms inetPton)
    (hx : ∀ key entry, x.probeTemplates key = some entry →
      RightEntry x.topo S x.tenant x.myId x.probeInnerSrc key entry) (c : ProbeSend) :
    (x.sendProbe S c).1 = x.sendProbeSlow S c := by
  unfold sendProbe
  cases hcached : x.cached c with
  | none => rfl
  | some entry =>
    obtain ⟨template, outerDst⟩ := entry
    unfold cached at hcached
    cases hentry : x.probeTemplates (c.plane, c.path, c.dstLeaf) with
    | none =>
      rw [hentry] at hcached
      cases hcached
    | some entry =>
      rw [hentry] at hcached
      dsimp only at hcached
      split_ifs at hcached with hlen
      obtain rfl := Option.some.inj hcached
      rw [not_not] at hlen
      have hshort : c.payload.length < 0x10000 - 48 := by
        rw [hlen]
        decide
      obtain ⟨dstInner, hinner, houter, htpl⟩ := hx _ _ hentry
      rw [← hlen, buildOuterTemplate_eq _ _ _ _ _ _ hS _ hshort] at htpl
      have hset := setSlice_payload x.probeInnerSrc outerDst x.probeInnerSrc dstInner sprayProbePort
        sprayReportPort hS [] (List.replicate c.payload.length 0) [] c.payload payloadOffset
        (payloadOffset + c.payload.length) rfl (by rw [List.length_replicate])
        (by rw [List.length_replicate])
      simp only [List.nil_append, List.append_nil] at hset
      have hsum := checksum_inplace x.probeInnerSrc outerDst x.probeInnerSrc dstInner sprayProbePort
        sprayReportPort hS c.payload hshort
      have htemplate : packetWith inetPton x.probeInnerSrc outerDst x.probeInnerSrc dstInner
          sprayProbePort sprayReportPort 0 (List.replicate c.payload.length 0) = template :=
        Except.ok.inj htpl
      unfold sendProbeSlow
      rw [houter, hinner]
      dsimp only
      rw [← htemplate, hset, hsum]
      rfl

/-- No call changes more than the number of misses. -/
theorem sendProbe_snd (c : ProbeSend) : (x.sendProbe S c).2 =
    { x with probeFastPathMisses := x.probeFastPathMisses + if x.cached c = none then 1 else 0 } := by
  unfold sendProbe
  cases x.cached c with
  | none => rfl
  | some entry => rfl

theorem cached_eq_none {c : ProbeSend} : x.cached c = none ↔
    ¬ (x.probeTemplates (c.plane, c.path, c.dstLeaf) ≠ none ∧ c.payload.length = probePayloadLen) := by
  unfold cached
  cases x.probeTemplates (c.plane, c.path, c.dstLeaf) with
  | none => simp
  | some entry =>
    by_cases hlen : c.payload.length = probePayloadLen <;> simp [hlen]

/-- Any calls: what goes out is what the slow path makes, and the misses are counted. -/
theorem sendProbes_eq {inetPton : String → List UInt8} (hS : S.Conforms inetPton)
    (hx : ∀ key entry, x.probeTemplates key = some entry →
      RightEntry x.topo S x.tenant x.myId x.probeInnerSrc key entry) (cs : List ProbeSend) :
    x.sendProbes S cs = (cs.map (x.sendProbeSlow S), { x with
      probeFastPathMisses := x.probeFastPathMisses + cs.countP fun c => x.cached c = none }) := by
  induction cs generalizing x with
  | nil => rfl
  | cons c cs ih =>
    have hrest := @ih (x.sendProbe S c).2 (by rw [sendProbe_snd]; exact hx)
    have hmisses : ∀ n, x.probeFastPathMisses + (if x.cached c = none then 1 else 0) + n =
        x.probeFastPathMisses + (n + if x.cached c = none then 1 else 0) := fun n => by omega
    unfold sendProbes
    dsimp only
    rw [hrest, sendProbe_fst hS hx, sendProbe_snd, List.map_cons, List.countP_cons]
    simp only [decide_eq_true_eq]
    rw [← hmisses]
    rfl

/-! ## Which hosts have a transport -/

theorem probeInnerSrc_ok : (∃ text, T.probeInnerSrc tenant = .ok text) ↔
    ∃ color, tenant = colorName color ∧ tenant ∈ T.tenants := by
  constructor
  · rintro ⟨text, h⟩
    unfold Topo.probeInnerSrc at h
    obtain ⟨⟨⟩, htenant, h⟩ := Outcome.bind_ok.mp h
    have hmem := checkTenantIn_ok.mp htenant
    split_ifs at h with hy hg
    · exact ⟨.yellow, hy, hmem⟩
    · exact ⟨.green, hg, hmem⟩
  · rintro ⟨color, rfl, hmem⟩
    unfold Topo.probeInnerSrc
    rw [show T.checkTenant (colorName color) = .ok () from checkTenantIn_ok.mpr hmem]
    cases color <;> exact ⟨_, rfl⟩

theorem probeOuterDst_ok {color : Color} (hmem : colorName color ∈ T.tenants) {p src dst s : Nat}
    (hp : p < T.numPlanes) (hsrc : src < T.numLeaves) (hdst : dst < T.numLeaves)
    (hs : s < T.numSpines) : ∃ text, T.probeOuterDst (colorName color) p src dst s = .ok text := by
  unfold Topo.probeOuterDst
  rw [show T.checkTenant (colorName color) = .ok () from checkTenantIn_ok.mpr hmem,
    show T.checkPlane p = .ok p from checkIndex_nat _ hp,
    show T.checkHost src = .ok src from checkIndex_nat _ hsrc,
    show T.checkHost dst = .ok dst from checkIndex_nat _ hdst,
    show T.checkSpine s = .ok s from checkIndex_nat _ hs]
  cases color <;> exact ⟨_, rfl⟩

/-- A loop whose rounds all return, returns. -/
theorem foldlM_returns {α β ε : Type} {f : β → α → Except ε β} {xs : List α}
    (h : ∀ a ∈ xs, ∀ b, ∃ b', f b a = .ok b') (b : β) : ∃ b', xs.foldlM f b = .ok b' := by
  induction xs generalizing b with
  | nil => exact ⟨b, rfl⟩
  | cons a xs ih =>
    obtain ⟨mid, hmid⟩ := h a List.mem_cons_self b
    obtain ⟨b', hb'⟩ := ih (fun a' ha' => h a' (List.mem_cons_of_mem a ha')) mid
    exact ⟨b', by rw [List.foldlM_cons, hmid]; exact hb'⟩

theorem prewarm_returns {inetPton : String → List UInt8} (hS : S.Conforms inetPton) {color : Color}
    (hmem : colorName color ∈ T.tenants) {n : Nat} (hn : n < T.numLeaves) :
    ∃ cache, prewarm T S (colorName color) n innerSrc = .ok cache := by
  unfold prewarm
  refine foldlM_returns (fun plane hplane cache => foldlM_returns (fun path hpath cache => ?_) _) _
  rw [List.mem_range] at hplane hpath
  have hinner : T.probeEvAddr (colorName color) n plane path
      = .ok (Fabric.probeEvAddr color n plane path) :=
    Topo.probeEvAddr_ok.mpr ⟨color, rfl, hmem, n, hn, plane, hplane, path, hpath, rfl, rfl, rfl, rfl⟩
  dsimp only
  rw [hinner]
  refine foldlM_returns (fun leaf hleaf cache => ?_) _
  obtain ⟨outerDst, houter⟩ := probeOuterDst_ok hmem hplane hn (List.mem_range.mp hleaf) hpath
  unfold warmLeaf
  split_ifs with hself
  · exact ⟨cache, rfl⟩
  · have htpl := buildOuterTemplate_eq innerSrc outerDst innerSrc
      (Fabric.probeEvAddr color n plane path) sprayProbePort sprayReportPort hS probePayloadLen
      (by decide)
    exact ⟨_, Outcome.bind_ok.mpr ⟨outerDst, liftTopo_ok.mpr houter,
      Outcome.bind_ok.mpr ⟨_, htpl, rfl⟩⟩⟩

/-- The constructor returns for the hosts of a tenant that has probes. -/
theorem new_returns {inetPton : String → List UInt8} (hS : S.Conforms inetPton) {isSender : Bool}
    {sidMode : String} : (∃ x, new T S tenant myId isSender sidMode = .ok x) ↔
      (∃ color, tenant = colorName color ∧ tenant ∈ T.tenants) ∧ 0 ≤ myId ∧ myId < T.numLeaves := by
  constructor
  · rintro ⟨x, h⟩
    unfold new at h
    obtain ⟨innerSrc, hinnerSrc, h⟩ := Outcome.bind_ok.mp h
    obtain ⟨lossInnerSrc, hloss, h⟩ := Outcome.bind_ok.mp h
    obtain ⟨color, rfl, hmem⟩ := probeInnerSrc_ok.mp ⟨innerSrc, liftTopo_ok.mp hinnerSrc⟩
    obtain ⟨n, hn, rfl, -⟩ := (Topo.innerAddr_ok hmem).mp (liftTopo_ok.mp hloss)
    exact ⟨⟨color, rfl, hmem⟩, by omega, by omega⟩
  · rintro ⟨⟨color, rfl, hmem⟩, hpos, hlt⟩
    obtain ⟨n, rfl⟩ := Int.eq_ofNat_of_zero_le hpos
    have hn : n < T.numLeaves := by omega
    obtain ⟨innerSrc, hinnerSrc⟩ := probeInnerSrc_ok.mpr ⟨color, rfl, hmem⟩
    have hloss : T.innerAddr (colorName color) n = .ok (hostAnycastPrefix color n ++ "::2") :=
      (Topo.innerAddr_ok hmem).mpr ⟨n, hn, rfl, rfl⟩
    obtain ⟨templates, htemplates⟩ : ∃ templates, (if isSender then
        prewarm T S (colorName color) n innerSrc else .ok fun _ => none) = .ok templates := by
      cases isSender with
      | false => exact ⟨_, rfl⟩
      | true => exact prewarm_returns hS hmem hn
    exact ⟨_, Outcome.bind_ok.mpr ⟨innerSrc, liftTopo_ok.mpr hinnerSrc,
      Outcome.bind_ok.mpr ⟨_, liftTopo_ok.mpr hloss, Outcome.bind_ok.mpr ⟨templates, htemplates, rfl⟩⟩⟩⟩

/-- Every host of a tenant with probes has a transport, and what it sends in any run of calls, or
    raises, is what the slow path does with the same arguments; it counts the calls that went that
    way, which are those of a receiver, outside the grid, to the host itself and of another length. -/
theorem sendProbe_agrees {inetPton : String → List UInt8} (hS : S.Conforms inetPton) (T : Topo)
    (tenant : String) (myId : Int) (isSender : Bool) (sidMode : String) :
    ((∃ x, new T S tenant myId isSender sidMode = .ok x) ↔
      (∃ color, tenant = colorName color ∧ tenant ∈ T.tenants) ∧ 0 ≤ myId ∧ myId < T.numLeaves) ∧
    ∀ x, new T S tenant myId isSender sidMode = .ok x → ∀ cs,
      (x.sendProbes S cs).1 = cs.map (x.sendProbeSlow S) ∧
      (x.sendProbes S cs).2.probeFastPathMisses = cs.countP fun c =>
        ¬ (isSender = true ∧ Warmed T myId (c.plane, c.path, c.dstLeaf) ∧
          c.payload.length = probePayloadLen) := by
  refine ⟨new_returns hS, fun x hx cs => ?_⟩
  obtain ⟨⟨rfl, rfl, rfl, hzero⟩, -, hright, hkeys⟩ := new_ok hx
  rw [sendProbes_eq hS hright]
  refine ⟨rfl, ?_⟩
  dsimp only
  rw [hzero, Nat.zero_add]
  refine List.countP_congr fun c _ => ?_
  rw [decide_eq_true_eq, decide_eq_true_eq, cached_eq_none, hkeys, and_assoc]

/-- A probe with a template, one to the host itself and one that is too short. -/
theorem sendProbe_agrees_three :
    let T : Topo := ⟨4, 4, 8, ["green", "yellow"]⟩
    let S := rfcScapy inetPton6
    (∃ x, new T S "yellow" 2 true "uA" = .ok x) ∧
      ∀ x, new T S "yellow" 2 true "uA" = .ok x → (x.sendProbes S [⟨1, 3, 5, List.replicate 10 0⟩,
        ⟨1, 3, 2, List.replicate 10 0⟩, ⟨0, 0, 1, [0xA5]⟩]).2.probeFastPathMisses = 2 := by
  intro T S
  obtain ⟨hnew, hsends⟩ :=
    sendProbe_agrees (rfcScapy_conforms length_inetPton6) T "yellow" 2 true "uA"
  exact ⟨hnew.mpr ⟨⟨.yellow, rfl, by decide⟩, by decide, by decide⟩,
    fun x hx => (hsends x hx _).2.trans (by decide)⟩

end Templates

end Srv6RawTransport
end Srv6Mrc
