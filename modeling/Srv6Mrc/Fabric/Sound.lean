/-
  When the lab that the generator writes is not broken.

  The generator takes any three numbers and checks none.  It writes a plane, a spine or a leaf with
  one digit into an address, it starts the management addresses of spines, leaves and hosts at 10, 50
  and 200, and it puts the hosts on the ports after the eighth spine's.  So the lab is sound for
  exactly the numbers that leave this room (`sound_iff`).
-/
import Mathlib.Tactic.IntervalCases
import Srv6Mrc.Fabric.Ends

namespace Srv6Mrc
namespace Fabric

open Py Net

variable (F : Fabric)

/-! ## What is emitted -/

/-- The files of the switches of a plane. -/
def planeFiles (p : Nat) : List (ConfigDb × FrrConf) :=
  (List.range F.numSpines).map (fun s => (F.spineConfigDb p s, F.spineFrr p s))
  ++ (List.range F.numLeaves).map fun l => (F.leafConfigDb p l, F.leafFrr p l)

def InterfaceKey.prefixes : InterfaceKey → List String
  | .ipv6 _ text => [text]
  | _ => []

def Behavior.addresses : Behavior → List String
  | .uA _ nexthop => [nexthop]
  | _ => []

def ExecCmd.prefixes : ExecCmd → List String
  | .addrAdd text _ => [text]
  | .sysctlForwarding => []
  | .routeVia text _ _ => [text]
  | .routeDT6 text _ => [text]

def ExecCmd.addresses : ExecCmd → List String
  | .routeVia _ gateway _ => [gateway]
  | _ => []

/-- The IPv6 prefixes and SIDs of a switch. -/
def filePrefixes (files : ConfigDb × FrrConf) : List String :=
  (files.1.loopbackInterface ++ files.1.interface.map Prod.fst).flatMap InterfaceKey.prefixes
  ++ files.2.staticSids.map Prod.fst ++ files.2.staticRoutes.map Prod.fst ++ [files.2.locator]

/-- The IPv6 addresses of a switch that stand alone. -/
def fileAddresses (files : ConfigDb × FrrConf) : List String :=
  files.2.staticSids.flatMap (fun line => line.2.addresses) ++ files.2.staticRoutes.map Prod.snd
  ++ [files.2.sourceAddress]

/-- Six groups of two hexadecimal digits. -/
def ValidMac (text : String) : Prop :=
  (text.toList.splitOn ':').length = 6 ∧
    ∀ part ∈ text.toList.splitOn ':', IsHex part ∧ part.length = 2

/-- A lab that is not broken. -/
structure Sound : Prop where
  /-- Every end of a link is in one link. -/
  endpoints : (F.links.flatMap fun (a, b) => [endpointText a, endpointText b]).Nodup
  mgmt : ∀ node ∈ F.nodes, ∃ n, ipv4OfText node.2.toList = some [172, 20, 18, n]
  mgmtDistinct : (F.nodes.map Prod.snd).Nodup
  prefixes : ∀ p < F.numPlanes, ∀ files ∈ F.planeFiles p, ∀ text ∈ filePrefixes files,
    (Prefix.ofText text).isSome
  addresses : ∀ p < F.numPlanes, ∀ files ∈ F.planeFiles p, ∀ text ∈ fileAddresses files,
    (Ipv6.ofText text).isSome
  hostPrefixes : ∀ color, ∀ n < F.numLeaves, ∀ cmd ∈ F.hostExec color n, ∀ text ∈ cmd.prefixes,
    (Prefix.ofText text).isSome
  hostAddresses : ∀ color, ∀ n < F.numLeaves, ∀ cmd ∈ F.hostExec color n, ∀ text ∈ cmd.addresses,
    (Ipv6.ofText text).isSome
  macs : ∀ p < F.numPlanes, ∀ files ∈ F.planeFiles p, ValidMac files.1.mac
  /-- No interface of a leaf has the address of an uplink and of a host's port. -/
  ports : ∀ p < F.numPlanes, ∀ l < F.numLeaves, ∀ port, ∀ s < F.numSpines, ∀ color,
    (.ipv6 port (F.p2pPrefix s l ++ "::1/127"), none) ∈ (F.leafConfigDb p l).interface →
      (.ipv6 port (hostAnycastPrefix color l ++ "::1/64"), none)
        ∉ (F.leafConfigDb p l).interface
  /-- Two switches of a plane have no locator and no loopback in common. -/
  locators : ∀ p < F.numPlanes, ∀ a ∈ F.planeFiles p, ∀ b ∈ F.planeFiles p,
    a.2.hostname ≠ b.2.hostname → Prefix.ofText a.2.locator ≠ Prefix.ofText b.2.locator ∧
      Ipv6.ofText a.2.sourceAddress ≠ Ipv6.ofText b.2.sourceAddress ∧
      ∀ text, .ipv4 .loopback0 text ∈ a.1.loopbackInterface →
        .ipv4 .loopback0 text ∉ b.1.loopbackInterface

/-- The numbers that the texts, the ports and the management addresses have room for. -/
structure HasRoom : Prop where
  planes : F.numPlanes ≤ 16
  spines : F.numSpines ≤ 8
  leaves : F.numLeaves ≤ 16
  spineMgmt : F.numPlanes * F.numSpines ≤ 40
  leafMgmt : F.numPlanes * F.numLeaves ≤ 150

variable {F}

/-- With room for all hosts the numbers fit. -/
theorem HasRoom.fits (h : F.HasRoom) : F.Fits := ⟨h.planes, h.spines, h.leaves⟩

/-! ## Management addresses -/

/-- A list of pairs has as many entries as there are pairs. -/
theorem length_pairs {α : Type} (m n : Nat) (f : Nat → Nat → α) :
    ((List.range m).flatMap fun i => (List.range n).map (f i)).length = m * n := by
  simp [List.length_flatMap]

/-- The last numbers of the management addresses. -/
def mgmtNumbers (F : Fabric) : List Nat :=
  List.range' 10 (F.numPlanes * F.numSpines) ++ List.range' 50 (F.numPlanes * F.numLeaves)
  ++ List.range' 200 (2 * F.numLeaves) ++ if F.visibility then [250, 251, 252] else []

/-- The management addresses are numbered one after the other. -/
theorem numbered_snd (start : Nat) (nodes : List Node) :
    (numbered start nodes).map Prod.snd = (List.range' start nodes.length).map mgmtText := by
  unfold numbered
  rw [List.map_map, ← List.zipIdx_map_snd start nodes, List.map_map]
  rfl

theorem nodes_snd : F.nodes.map Prod.snd = F.mgmtNumbers.map mgmtText := by
  have hspines : F.spines.length = F.numPlanes * F.numSpines := length_pairs _ _ _
  have hleaves : F.leaves.length = F.numPlanes * F.numLeaves := length_pairs _ _ _
  have hhosts : F.hosts.length = 2 * F.numLeaves := by
    simp [hosts]
    omega
  unfold nodes mgmtNumbers
  rw [List.map_append, List.map_append, List.map_append, numbered_snd, numbered_snd, numbered_snd,
    hspines, hleaves, hhosts, List.map_append, List.map_append, List.map_append]
  cases F.visibility with
  | false => rfl
  | true => rfl

/-- Different numbers make different management addresses. -/
theorem mgmtText_injective : Function.Injective mgmtText :=
  fun _ _ h => toString_inj (append_left_inj h)

/-- The numbers are different exactly if the three blocks do not overlap. -/
theorem mgmtDistinct_iff (hp : 0 < F.numPlanes) (hl : 0 < F.numLeaves) (hleaves : F.numLeaves ≤ 16) :
    (F.nodes.map Prod.snd).Nodup ↔
      F.numPlanes * F.numSpines ≤ 40 ∧ F.numPlanes * F.numLeaves ≤ 150 := by
  rw [nodes_snd, List.nodup_map_iff mgmtText_injective]
  have hpos : 0 < F.numPlanes * F.numLeaves := Nat.mul_pos hp hl
  generalize hspine : F.numPlanes * F.numSpines = a
  generalize hleaf : F.numPlanes * F.numLeaves = b at hpos
  unfold mgmtNumbers
  rw [hspine, hleaf]
  simp only [List.nodup_append, List.mem_append, List.mem_range'_1]
  constructor
  · rintro ⟨⟨⟨-, -, hspineLeaf⟩, -, hhost⟩, -⟩
    constructor
    · by_contra hlt
      exact hspineLeaf 50 (by omega) 50 (by omega) rfl
    · by_contra hlt
      exact hhost 200 (Or.inr (by omega)) 200 (by omega) rfl
  · rintro ⟨ha, hb⟩
    refine ⟨⟨⟨List.nodup_range', List.nodup_range', fun x hx y hy => by omega⟩, List.nodup_range',
      fun x hx y hy => by omega⟩, ?_, fun x hx y hy => ?_⟩
    · cases F.visibility <;> decide
    · have hy : 250 ≤ y := by
        cases hvisibility : F.visibility with
        | false =>
          rw [hvisibility] at hy
          cases hy
        | true =>
          rw [hvisibility] at hy
          simp at hy
          omega
      omega

theorem splitOn_mgmtText (n : Nat) :
    (mgmtText n).toList.splitOn '.'
      = ["172".toList, "20".toList, "18".toList, Nat.toDigits 10 n] := by
  have hdot : '.' ∉ Nat.toDigits 10 n := by
    intro hmem
    have := Nat.isDigit_of_mem_toDigits (by omega) (by omega) hmem
    cases this
  have hjoin : (mgmtText n).toList
      = ['.'].intercalate ["172".toList, "20".toList, "18".toList, Nat.toDigits 10 n] := by
    simp [mgmtText]
  rw [hjoin]
  refine List.splitOn_intercalate _ (fun part hpart => ?_) (List.cons_ne_nil _ _)
  simp only [List.mem_cons, List.not_mem_nil, or_false] at hpart
  rcases hpart with rfl | rfl | rfl | rfl
  · decide
  · decide
  · decide
  · exact hdot

/-- A number is written without a leading zero. -/
theorem head_toDigits {n : Nat} (hn : 0 < n) : (Nat.toDigits 10 n).head? ≠ some '0' := by
  induction n using Nat.strongRecOn with
  | ind n ih =>
    rw [Nat.toDigits_eq_if (by omega)]
    split
    · rename_i hlt
      interval_cases n <;> decide
    · rw [List.head?_append_of_ne_nil _ Nat.toDigits_ne_nil]
      exact ih (n / 10) (by omega) (by omega)

/-- The digits of a byte are read as it. -/
theorem parseOctet_toDigits {n : Nat} (hn : n < 256) : parseOctet (Nat.toDigits 10 n) = some n := by
  have hdigits : (Nat.toDigits 10 n).all Char.isDigit = true :=
    List.all_eq_true.mpr fun c hc => Nat.isDigit_of_mem_toDigits (by omega) (by omega) hc
  have hlen : (Nat.toDigits 10 n).length ≤ 3 :=
    (Nat.length_toDigits_le_iff (by omega) (by omega)).mpr (by omega)
  unfold parseOctet
  rw [if_neg Nat.toDigits_ne_nil, if_neg (not_not.mpr hdigits), if_neg (by omega), if_neg,
    Nat.ofDigitChars_ten_toDigits, if_neg (by omega)]
  rintro ⟨hne, hhead⟩
  rcases Nat.eq_zero_or_pos n with rfl | hpos
  · exact hne rfl
  · exact head_toDigits hpos hhead

/-- With room every management address is valid. -/
theorem mgmt_valid (h : F.HasRoom) :
    ∀ node ∈ F.nodes, ∃ n, ipv4OfText node.2.toList = some [172, 20, 18, n] := by
  have hleaves := h.leaves
  have hspine := h.spineMgmt
  have hleaf := h.leafMgmt
  intro node hnode
  have hmem : node.2 ∈ F.mgmtNumbers.map mgmtText := nodes_snd ▸ List.mem_map_of_mem hnode
  obtain ⟨n, hn, htext⟩ := List.mem_map.mp hmem
  have hlt : n < 256 := by
    unfold mgmtNumbers at hn
    simp only [List.mem_append, List.mem_range'_1] at hn
    rcases hn with ((hn | hn) | hn) | hn
    · omega
    · omega
    · omega
    · split at hn
      · simp at hn
        omega
      · cases hn
  refine ⟨n, ?_⟩
  rw [← htext]
  unfold ipv4OfText
  rw [splitOn_mgmtText, if_neg (by simp)]
  simp only [List.mapM_cons, List.mapM_nil, parseOctet_toDigits hlt]
  rfl

/-! ## Links -/

theorem colon_not_mem_nodeName (node : Node) : ':' ∉ (nodeName node).toList := by
  rw [toList_nodeName]
  cases node with
  | spine plane spine =>
    simp only [nameHead, nameTail, String.toList_append, List.mem_append, List.mem_cons, not_or]
    exact ⟨⟨by decide, not_mem_digits rfl plane⟩, by decide, by decide, not_mem_decPad rfl 2 spine⟩
  | leaf plane leaf =>
    simp only [nameHead, nameTail, String.toList_append, List.mem_append, List.mem_cons, not_or]
    exact ⟨⟨by decide, not_mem_digits rfl plane⟩, by decide, by decide, not_mem_decPad rfl 2 leaf⟩
  | host color n =>
    simp only [nameHead, nameTail, String.toList_append, List.mem_append, List.mem_cons, not_or]
    refine ⟨?_, by decide, by decide, not_mem_decPad rfl 2 n⟩
    cases color <;> decide

/-- Different endpoints have different texts. -/
theorem endpointText_injective : Function.Injective endpointText := by
  rintro ⟨node, k⟩ ⟨node', k'⟩ h
  have hsplit : ∀ (node : Node) (k : Nat), (endpointText (node, k)).toList
      = (nodeName node).toList ++ ':' :: ("eth" ++ toString k).toList := by
    intro node k
    show (nodeName node ++ ":eth" ++ toString k).toList = _
    simp only [String.toList_append, List.append_assoc]
    rfl
  have hcolon : ':' ∉ ("eth" ++ toString k).toList := by
    simp only [String.toList_append, List.mem_append, not_or]
    exact ⟨by decide, not_mem_digits rfl k⟩
  have hparts := congrArg String.toList h
  rw [hsplit, hsplit, List.append_cons_inj_of_notMem (colon_not_mem_nodeName node) hcolon] at hparts
  have hk : "eth" ++ toString k = "eth" ++ toString k' := String.toList_injective hparts.2.2
  rw [nodeName_injective (String.toList_injective hparts.1), toString_inj (append_left_inj hk)]

/-- Rows that have no element in common, as a range of rows. -/
theorem nodup_flatMap_range {α : Type} {n : Nat} {f : Nat → List α} (hrow : ∀ i < n, (f i).Nodup)
    (hdisjoint : ∀ i j a, a ∈ f i → a ∈ f j → i = j) : ((List.range n).flatMap f).Nodup := by
  refine List.nodup_flatMap.mpr ⟨fun i hi => hrow i (List.mem_range.mp hi), ?_⟩
  refine List.nodup_range.pairwise_of_forall_ne fun i _ j _ hne => ?_
  exact fun a hi hj => hne (hdisjoint i j a hi hj)

theorem nodup_links : F.links.Nodup := by
  unfold links
  refine List.nodup_append.mpr ⟨?_, ?_, ?_⟩
  · refine nodup_flatMap_range (fun p _ => nodup_flatMap_range (fun s _ => ?_) ?_) ?_
    · refine List.Nodup.map (fun l l' h => ?_) List.nodup_range
      cases h
      rfl
    · intro s s' link hs hs'
      obtain ⟨l, -, rfl⟩ := List.mem_map.mp hs
      obtain ⟨l', -, h⟩ := List.mem_map.mp hs'
      cases h
      rfl
    · intro p p' link hp hp'
      obtain ⟨s, -, hs⟩ := List.mem_flatMap.mp hp
      obtain ⟨l, -, rfl⟩ := List.mem_map.mp hs
      obtain ⟨s', -, hs'⟩ := List.mem_flatMap.mp hp'
      obtain ⟨l', -, h⟩ := List.mem_map.mp hs'
      cases h
      rfl
  · refine nodup_flatMap_range (fun p _ => nodup_flatMap_range (fun n _ => by simp) ?_) ?_
    · intro n n' link hn hn'
      simp only [List.mem_cons, List.not_mem_nil, or_false] at hn hn'
      rcases hn with rfl | rfl <;> rcases hn' with h | h <;> cases h <;> rfl
    · intro p p' link hp hp'
      obtain ⟨n, -, hn⟩ := List.mem_flatMap.mp hp
      obtain ⟨n', -, hn'⟩ := List.mem_flatMap.mp hp'
      simp only [List.mem_cons, List.not_mem_nil, or_false] at hn hn'
      rcases hn with rfl | rfl <;> rcases hn' with h | h <;> cases h <;> rfl
  · rintro a ha b hb rfl
    obtain ⟨p, -, hp⟩ := List.mem_flatMap.mp ha
    obtain ⟨s, -, hs⟩ := List.mem_flatMap.mp hp
    obtain ⟨l, -, rfl⟩ := List.mem_map.mp hs
    obtain ⟨p', -, hp'⟩ := List.mem_flatMap.mp hb
    obtain ⟨n', -, hn'⟩ := List.mem_flatMap.mp hp'
    simp only [List.mem_cons, List.not_mem_nil, or_false] at hn'
    rcases hn' with h | h <;> cases h

/-- Links with an end in common are one link. -/
theorem links_disjoint (hspines : F.numSpines ≤ 8) {link link' : (Node × Nat) × (Node × Nat)}
    (hlink : link ∈ F.links) (hlink' : link' ∈ F.links) {a : Node × Nat}
    (ha : a = link.1 ∨ a = link.2) (ha' : a = link'.1 ∨ a = link'.2) : link = link' := by
  obtain ⟨x, y⟩ := link
  obtain ⟨x', y'⟩ := link'
  rcases mem_links.mp hlink with ⟨p, hp, s, hs, l, hl, rfl, rfl⟩ |
    ⟨p, hp, n, hn, ⟨rfl, rfl⟩ | ⟨rfl, rfl⟩⟩ <;>
  rcases mem_links.mp hlink' with ⟨p', hp', s', hs', l', hl', rfl, rfl⟩ |
    ⟨p', hp', n', hn', ⟨rfl, rfl⟩ | ⟨rfl, rfl⟩⟩ <;>
  rcases ha with rfl | rfl <;> rcases ha' with h | h <;> simp at h ⊢ <;> omega

/-- Up to eight spines no endpoint is in two links. -/
theorem endpoints_nodup (hspines : F.numSpines ≤ 8) :
    (F.links.flatMap fun (a, b) => [endpointText a, endpointText b]).Nodup := by
  have hmap : (F.links.flatMap fun (a, b) => [endpointText a, endpointText b])
      = (F.links.flatMap fun link => [link.1, link.2]).map endpointText := by
    rw [List.map_flatMap]
    rfl
  rw [hmap, List.nodup_map_iff endpointText_injective]
  refine List.nodup_flatMap.mpr ⟨fun link hlink => ?_, ?_⟩
  · obtain ⟨x, y⟩ := link
    rcases mem_links.mp hlink with ⟨p, hp, s, hs, l, hl, rfl, rfl⟩ |
      ⟨p, hp, n, hn, ⟨rfl, rfl⟩ | ⟨rfl, rfl⟩⟩ <;> simp
  · refine nodup_links.pairwise_of_forall_ne fun link hlink link' hlink' hne a ha ha' => hne ?_
    simp only [List.mem_cons, List.not_mem_nil, or_false] at ha ha'
    exact links_disjoint hspines hlink hlink' ha ha'

/-! ## Texts that are read -/

section Texts

variable (hF : F.Fits) {p : Nat} (hp : p < F.numPlanes)
include hF hp

/-- The prefixes of a leaf's files are valid. -/
theorem leaf_prefixes {l : Nat} (hl : l < F.numLeaves) :
    ∀ text ∈ filePrefixes (F.leafConfigDb p l, F.leafFrr p l), (Prefix.ofText text).isSome := by
  have hp16 : p < 16 := Nat.lt_of_lt_of_le hp hF.planes
  have hl16 : l < 16 := Nat.lt_of_lt_of_le hl hF.leaves
  have hspines := hF.spines
  have hleaves := hF.leaves
  intro text htext
  simp only [filePrefixes, List.mem_append, List.mem_flatMap, List.mem_map, List.mem_singleton]
    at htext
  rcases htext with ((⟨key, hkey, htext⟩ | ⟨line, hline, rfl⟩) | ⟨line, hline, rfl⟩) | rfl
  · cases key with
    | port _ => cases htext
    | ipv4 _ _ => cases htext
    | ipv6 port text' =>
      rw [List.mem_singleton.mp htext]
      have hmem : ∃ v, (InterfaceKey.ipv6 port text', v) ∈ (F.leafConfigDb p l).interface := by
        rcases hkey with hkey | ⟨⟨key, v⟩, hentry, rfl⟩
        · refine ⟨none, ?_⟩
          simp only [leafConfigDb, List.mem_append, List.mem_map]
          exact Or.inl (Or.inl ⟨_, hkey, rfl⟩)
        · exact ⟨v, hentry⟩
      obtain ⟨v, hentry⟩ := hmem
      obtain ⟨hextets, len, hread, -⟩ := leafAddress_of_mem hF hp hl hentry
      exact hread.isSome
  · simp only [leafFrr, List.mem_append, List.mem_cons, List.mem_map, List.mem_range,
      List.not_mem_nil, or_false] at hline
    rcases hline with (rfl | ⟨s, hs, rfl⟩) | rfl | rfl | rfl
    · exact (readsPrefix_leafLocator hp16 hl16).isSome
    · exact (readsPrefix_leafUaSid hp16 (by omega)).isSome
    · exact (readsPrefix_greenUdtSid hp16).isSome
    · exact (readsPrefix_leafHostUaSid hp16).isSome
    · exact (readsPrefix_probeDfffSid hp16).isSome
  · simp only [leafFrr, List.mem_append, List.mem_cons, List.mem_map, List.mem_range,
      List.mem_flatMap, List.mem_filter, decide_eq_true_eq, List.not_mem_nil, or_false] at hline
    rcases hline with (⟨s, hs, rfl⟩ | ⟨other, ⟨hother, hne⟩, s, hs, rfl⟩) | rfl
    · exact (readsPrefix_spineLocator hp16 (by omega)).isSome
    · exact (readsPrefix_leafLocator hp16 (by omega)).isSome
    · exact (readsPrefix_yellowUdtSid hp16).isSome
  · exact (readsPrefix_leafLocator hp16 hl16).isSome

/-- The addresses of a leaf's files are valid. -/
theorem leaf_addresses {l : Nat} (hl : l < F.numLeaves) :
    ∀ text ∈ fileAddresses (F.leafConfigDb p l, F.leafFrr p l), (Ipv6.ofText text).isSome := by
  have hp16 : p < 16 := Nat.lt_of_lt_of_le hp hF.planes
  have hl16 : l < 16 := Nat.lt_of_lt_of_le hl hF.leaves
  intro text htext
  simp only [fileAddresses, List.mem_append, List.mem_flatMap, List.mem_map, List.mem_singleton]
    at htext
  rcases htext with (⟨line, hline, htext⟩ | ⟨line, hline, rfl⟩) | rfl
  · simp only [leafFrr, List.mem_append, List.mem_cons, List.mem_map, List.mem_range,
      List.not_mem_nil, or_false] at hline
    rcases hline with (rfl | ⟨s, hs, rfl⟩) | rfl | rfl | rfl
    · cases htext
    · rw [List.mem_singleton.mp htext]
      exact (reads_p2pSpine (hF.linkIdx_lt hs hl)).isSome
    · cases htext
    · rw [List.mem_singleton.mp htext]
      exact (reads_hostNexthop .yellow hl16).isSome
    · cases htext
  · simp only [leafFrr, List.mem_append, List.mem_cons, List.mem_map, List.mem_range,
      List.mem_flatMap, List.mem_filter, decide_eq_true_eq, List.not_mem_nil, or_false] at hline
    rcases hline with (⟨s, hs, rfl⟩ | ⟨other, -, s, hs, rfl⟩) | rfl
    · exact (reads_p2pSpine (hF.linkIdx_lt hs hl)).isSome
    · exact (reads_p2pSpine (hF.linkIdx_lt hs hl)).isSome
    · exact (reads_hostNexthop .yellow hl16).isSome
  · exact (reads_leafLoopback hp16 hl16).isSome

/-- The prefixes of a spine's files are valid. -/
theorem spine_prefixes {s : Nat} (hs : s < F.numSpines) :
    ∀ text ∈ filePrefixes (F.spineConfigDb p s, F.spineFrr p s), (Prefix.ofText text).isSome := by
  have hp16 : p < 16 := Nat.lt_of_lt_of_le hp hF.planes
  have hs16 : s < 16 := Nat.lt_of_lt_of_le hs (Nat.le_trans hF.spines (by omega))
  have hleaves := hF.leaves
  intro text htext
  simp only [filePrefixes, List.mem_append, List.mem_flatMap, List.mem_map, List.mem_singleton]
    at htext
  rcases htext with ((⟨key, hkey, htext⟩ | ⟨line, hline, rfl⟩) | ⟨line, hline, rfl⟩) | rfl
  · simp only [spineConfigDb, loopbackKeys, List.map_cons, List.map_nil, List.mem_append,
      List.mem_cons, List.mem_flatMap, List.mem_range, List.not_mem_nil, or_false] at hkey
    have hkeys : key = .port .loopback0 ∨ key = .ipv4 .loopback0 (spineLoopbackV4 p s ++ "/32") ∨
        key = .ipv6 .loopback0 (spineLoopback p s ++ "/128") ∨ ∃ l < F.numLeaves,
          key = .port (spineDownlinkEth l) ∨
          key = .ipv6 (spineDownlinkEth l) (F.p2pPrefix s l ++ "::0/127") := by
      rcases hkey with (rfl | rfl | rfl) | ⟨entry, (rfl | rfl | rfl) | ⟨l, hl, rfl | rfl⟩, rfl⟩
      · exact Or.inl rfl
      · exact Or.inr (Or.inl rfl)
      · exact Or.inr (Or.inr (Or.inl rfl))
      · exact Or.inl rfl
      · exact Or.inr (Or.inl rfl)
      · exact Or.inr (Or.inr (Or.inl rfl))
      · exact Or.inr (Or.inr (Or.inr ⟨l, hl, Or.inl rfl⟩))
      · exact Or.inr (Or.inr (Or.inr ⟨l, hl, Or.inr rfl⟩))
    rcases hkeys with rfl | rfl | rfl | ⟨l, hl, rfl | rfl⟩
    · cases htext
    · cases htext
    · rw [List.mem_singleton.mp htext]
      exact (reads_spineLoopback hp16 hs16).slash128.isSome
    · cases htext
    · rw [List.mem_singleton.mp htext]
      exact (readsPrefix_p2pSpine (hF.linkIdx_lt hs hl)).isSome
  · simp only [spineFrr, List.mem_append, List.mem_cons, List.mem_map, List.mem_range,
      List.not_mem_nil, or_false] at hline
    rcases hline with rfl | ⟨l, hl, rfl⟩
    · exact (readsPrefix_spineLocator hp16 hs16).isSome
    · exact (readsPrefix_spineUaSid hp16 (by omega)).isSome
  · simp only [spineFrr, List.mem_map, List.mem_range] at hline
    obtain ⟨l, hl, rfl⟩ := hline
    exact (readsPrefix_leafLocator hp16 (by omega)).isSome
  · exact (readsPrefix_spineLocator hp16 hs16).isSome

/-- The addresses of a spine's files are valid. -/
theorem spine_addresses {s : Nat} (hs : s < F.numSpines) :
    ∀ text ∈ fileAddresses (F.spineConfigDb p s, F.spineFrr p s), (Ipv6.ofText text).isSome := by
  have hp16 : p < 16 := Nat.lt_of_lt_of_le hp hF.planes
  have hs16 : s < 16 := Nat.lt_of_lt_of_le hs (Nat.le_trans hF.spines (by omega))
  intro text htext
  simp only [fileAddresses, List.mem_append, List.mem_flatMap, List.mem_map, List.mem_singleton]
    at htext
  rcases htext with (⟨line, hline, htext⟩ | ⟨line, hline, rfl⟩) | rfl
  · simp only [spineFrr, List.mem_append, List.mem_cons, List.mem_map, List.mem_range,
      List.not_mem_nil, or_false] at hline
    rcases hline with rfl | ⟨l, hl, rfl⟩
    · cases htext
    · rw [List.mem_singleton.mp htext]
      exact (reads_p2pLeaf (hF.linkIdx_lt hs hl)).isSome
  · simp only [spineFrr, List.mem_map, List.mem_range] at hline
    obtain ⟨l, hl, rfl⟩ := hline
    exact (reads_p2pLeaf (hF.linkIdx_lt hs hl)).isSome
  · exact (reads_spineLoopback hp16 hs16).isSome

end Texts

/-- The files of a plane are those of its spines and its leaves. -/
theorem mem_planeFiles {p : Nat} {files : ConfigDb × FrrConf} :
    files ∈ F.planeFiles p ↔ (∃ s < F.numSpines, files = (F.spineConfigDb p s, F.spineFrr p s)) ∨
      ∃ l < F.numLeaves, files = (F.leafConfigDb p l, F.leafFrr p l) := by
  simp only [planeFiles, List.mem_append, List.mem_map, List.mem_range, eq_comm]

section Hosts

variable (hF : F.Fits) {color : Color} {n : Nat} (hn : n < F.numLeaves)
include hF hn

/-- The prefixes of a host's commands are valid. -/
theorem host_prefixes : ∀ cmd ∈ F.hostExec color n, ∀ text ∈ cmd.prefixes,
    (Prefix.ofText text).isSome := by
  have hn16 : n < 16 := Nat.lt_of_lt_of_le hn hF.leaves
  intro cmd hcmd text htext
  rcases mem_hostExec hcmd with ⟨p, hp, rfl⟩ | ⟨-, rfl | rfl⟩ | ⟨p, hp, s, hs, rfl⟩ |
    ⟨p, hp, rfl⟩ | rfl | ⟨rfl, p, hp, rfl⟩
  · rw [List.mem_singleton.mp htext]
    exact (reads_hostAnycastAddr color hn16).slash64.isSome
  · rw [List.mem_singleton.mp htext]
    exact (reads_hostAnycastAddr color hn16).slash128.isSome
  · cases htext
  · rw [List.mem_singleton.mp htext]
    exact (reads_probeEvAddr color hn16 (hF.lowByte_lt hp hs)).slash128.isSome
  · rw [List.mem_singleton.mp htext]
    exact (readsPrefix_planeAggregate (Nat.lt_of_lt_of_le hp hF.planes)).isSome
  · rw [List.mem_singleton.mp htext]
    exact (readsPrefix_tenantPrefix color).isSome
  · rw [List.mem_singleton.mp htext]
    exact (readsPrefix_yellowUdtSid (Nat.lt_of_lt_of_le hp hF.planes)).isSome

/-- The addresses of a host's commands are valid. -/
theorem host_addresses : ∀ cmd ∈ F.hostExec color n, ∀ text ∈ cmd.addresses,
    (Ipv6.ofText text).isSome := by
  have hn16 : n < 16 := Nat.lt_of_lt_of_le hn hF.leaves
  intro cmd hcmd text htext
  rcases mem_hostExec hcmd with ⟨p, hp, rfl⟩ | ⟨-, rfl | rfl⟩ | ⟨p, hp, s, hs, rfl⟩ |
    ⟨p, hp, rfl⟩ | rfl | ⟨rfl, p, hp, rfl⟩
  · cases htext
  · cases htext
  · cases htext
  · cases htext
  · rw [List.mem_singleton.mp htext]
    exact (reads_hostGateway color hn16).isSome
  · rw [List.mem_singleton.mp htext]
    exact (reads_hostGateway color hn16).isSome
  · cases htext

end Hosts

/-- A MAC of the generator: one digit of the plane and one of the switch. -/
theorem validMac {start : String} {kind : List Char}
    (hstart : start.toList = "02:42:ac:".toList ++ kind ++ [':'])
    (hkind : IsHex kind ∧ kind.length = 2) {m n : Nat} (hm : m < 16) (hn : n < 16) :
    ValidMac (start ++ hex m ++ hex n ++ ":01") := by
  have hdigits : IsHex (Nat.toDigits 16 m ++ Nat.toDigits 16 n) ∧
      (Nat.toDigits 16 m ++ Nat.toDigits 16 n).length = 2 := by
    refine ⟨isHex_append.mpr ⟨isHex_toDigits m, isHex_toDigits n⟩, ?_⟩
    rw [List.length_append, length_toDigits_one hm, length_toDigits_one hn]
  generalize hparts : ["02".toList, "42".toList, "ac".toList, kind,
    Nat.toDigits 16 m ++ Nat.toDigits 16 n, "01".toList] = parts
  have hall : ∀ part ∈ parts, IsHex part ∧ part.length = 2 := by
    intro part hpart
    rw [← hparts] at hpart
    simp only [List.mem_cons, List.not_mem_nil, or_false] at hpart
    rcases hpart with rfl | rfl | rfl | rfl | rfl | rfl
    · decide
    · decide
    · decide
    · exact hkind
    · exact hdigits
    · decide
  have htext : (start ++ hex m ++ hex n ++ ":01").toList = [':'].intercalate parts := by
    rw [← hparts, String.toList_append, String.toList_append, String.toList_append, hstart]
    simp
  have hsplit : (start ++ hex m ++ hex n ++ ":01").toList.splitOn ':' = parts := by
    rw [htext]
    refine List.splitOn_intercalate _
      (fun part hpart => not_mem_of_isHex (by decide) (hall part hpart).1) ?_
    rw [← hparts]
    exact List.cons_ne_nil _ _
  unfold ValidMac
  rw [hsplit]
  exact ⟨by rw [← hparts]; rfl, hall⟩

/-- The MAC addresses of a plane are valid. -/
theorem macs_valid (hF : F.Fits) {p : Nat} (hp : p < F.numPlanes) {files : ConfigDb × FrrConf}
    (hfiles : files ∈ F.planeFiles p) : ValidMac files.1.mac := by
  have hp16 : p < 16 := Nat.lt_of_lt_of_le hp hF.planes
  rcases mem_planeFiles.mp hfiles with ⟨s, hs, rfl⟩ | ⟨l, hl, rfl⟩
  · exact validMac (show "02:42:ac:11:".toList = "02:42:ac:".toList ++ "11".toList ++ [':'] from rfl)
      (by decide) hp16
      (Nat.lt_of_lt_of_le hs (Nat.le_trans hF.spines (by omega)))
  · exact validMac (show "02:42:ac:12:".toList = "02:42:ac:".toList ++ "12".toList ++ [':'] from rfl)
      (by decide) hp16
      (Nat.lt_of_lt_of_le hl hF.leaves)

/-! ## Ports and locators -/

/-- A leaf has its uplinks and its hosts on different ports. -/
theorem ports_apart (hF : F.Fits) {p l s : Nat} (hp : p < F.numPlanes) (hl : l < F.numLeaves)
    (hs : s < F.numSpines) {color : Color} {port : Port}
    (huplink : (InterfaceKey.ipv6 port (F.p2pPrefix s l ++ "::1/127"), none)
      ∈ (F.leafConfigDb p l).interface) :
    (InterfaceKey.ipv6 port (hostAnycastPrefix color l ++ "::1/64"), none)
      ∉ (F.leafConfigDb p l).interface := by
  intro hhost
  have hl16 : l < 16 := Nat.lt_of_lt_of_le hl hF.leaves
  have hloopback := (reads_leafLoopback (Nat.lt_of_lt_of_le hp hF.planes) hl16).slash128
  have hp2p : ∀ {s}, s < F.numSpines → ReadsPrefix (F.p2pPrefix s l ++ "::1/127") _ 127 :=
    fun hs => readsPrefix_p2pLeaf (hF.linkIdx_lt hs hl)
  -- The length tells the texts apart, so the port is both an uplink's and a host's.
  have hport : ∃ s' < F.numSpines, port = leafUplinkEth s' := by
    rcases mem_leaf_ipv6 huplink with ⟨-, h⟩ | ⟨s', hs', hport, -⟩ | ⟨-, h⟩ | ⟨-, h⟩
    · exact absurd ((hp2p hs).len_unique (h ▸ hloopback)) (by omega)
    · exact ⟨s', hs', hport⟩
    · exact absurd ((hp2p hs).len_unique (h ▸ readsPrefix_hostGateway .green hl16)) (by omega)
    · exact absurd ((hp2p hs).len_unique (h ▸ readsPrefix_hostGateway .yellow hl16)) (by omega)
  have hspines := hF.spines
  obtain ⟨s', hs', rfl⟩ := hport
  have hgateway := readsPrefix_hostGateway color hl16
  rcases mem_leaf_ipv6 hhost with ⟨h, -⟩ | ⟨s'', hs'', -, h⟩ | ⟨h, -⟩ | ⟨h, -⟩
  · cases h
  · exact absurd (hgateway.len_unique (h ▸ hp2p hs'')) (by omega)
  · injection h with h
    omega
  · injection h with h
    omega

/-- Two switches of a plane have different locators and loopbacks. -/
theorem locators_distinct (hF : F.Fits) {p : Nat} (hp : p < F.numPlanes) {a b : ConfigDb × FrrConf}
    (ha : a ∈ F.planeFiles p) (hb : b ∈ F.planeFiles p) (hne : a.2.hostname ≠ b.2.hostname) :
    Prefix.ofText a.2.locator ≠ Prefix.ofText b.2.locator ∧
      Ipv6.ofText a.2.sourceAddress ≠ Ipv6.ofText b.2.sourceAddress := by
  have hp16 : p < 16 := Nat.lt_of_lt_of_le hp hF.planes
  have hspines := hF.spines
  have hleaves := hF.leaves
  rcases mem_planeFiles.mp ha with ⟨s, hs, rfl⟩ | ⟨l, hl, rfl⟩ <;>
    rcases mem_planeFiles.mp hb with ⟨s', hs', rfl⟩ | ⟨l', hl', rfl⟩
  · have hss : s ≠ s' := fun h => hne (by rw [h])
    exact ⟨(readsPrefix_spineLocator hp16 (by omega)).ne (readsPrefix_spineLocator hp16 (by omega))
        (by simpa using hss),
      (reads_spineLoopback hp16 (by omega)).ne (reads_spineLoopback hp16 (by omega))
        (by simpa using hss)⟩
  · exact ⟨(readsPrefix_spineLocator hp16 (by omega)).ne (readsPrefix_leafLocator hp16 (by omega))
        (by simp; omega),
      (reads_spineLoopback hp16 (by omega)).ne (reads_leafLoopback hp16 (by omega))
        (by simp; omega)⟩
  · exact ⟨(readsPrefix_leafLocator hp16 (by omega)).ne (readsPrefix_spineLocator hp16 (by omega))
        (by simp; omega),
      (reads_leafLoopback hp16 (by omega)).ne (reads_spineLoopback hp16 (by omega))
        (by simp; omega)⟩
  · have hll : l ≠ l' := fun h => hne (by rw [h])
    exact ⟨(readsPrefix_leafLocator hp16 (by omega)).ne (readsPrefix_leafLocator hp16 (by omega))
        (by simpa using hll),
      (reads_leafLoopback hp16 (by omega)).ne (reads_leafLoopback hp16 (by omega))
        (by simpa using hll)⟩

/-- Two switches of a plane have different IPv4 loopbacks. -/
theorem loopbacksV4_distinct {p : Nat} {a b : ConfigDb × FrrConf} (ha : a ∈ F.planeFiles p)
    (hb : b ∈ F.planeFiles p) (hne : a.2.hostname ≠ b.2.hostname) {text : String}
    (htext : InterfaceKey.ipv4 .loopback0 text ∈ a.1.loopbackInterface) :
    InterfaceKey.ipv4 .loopback0 text ∉ b.1.loopbackInterface := by
  intro htext'
  rcases mem_planeFiles.mp ha with ⟨s, hs, rfl⟩ | ⟨l, hl, rfl⟩ <;>
    rcases mem_planeFiles.mp hb with ⟨s', hs', rfl⟩ | ⟨l', hl', rfl⟩ <;>
    simp only [spineConfigDb, leafConfigDb, loopbackKeys, List.mem_cons, InterfaceKey.ipv4.injEq,
      reduceCtorEq, List.not_mem_nil, or_false, false_or, true_and] at htext htext'
  · have h := append_right_inj (htext.symm.trans htext')
    have hss := toString_inj (append_left_inj h)
    exact hne (by rw [show s = s' by omega])
  · have h := congrArg String.toList (htext.symm.trans htext')
    simp [spineLoopbackV4, leafLoopbackV4] at h
  · have h := congrArg String.toList (htext.symm.trans htext')
    simp [spineLoopbackV4, leafLoopbackV4] at h
  · have h := append_right_inj (htext.symm.trans htext')
    have hll := toString_inj (append_left_inj h)
    exact hne (by rw [show l = l' by omega])

/-! ## Exactly when -/

/-- A number of two digits after three fixed ones is no group. -/
theorem not_isSome_of_long {text : String} {slot : List Char} {p : Nat}
    (htext : text = groupsText ["fc00".toList, digits "000" p, slot] [] ++ "/48")
    (hslot : IsHex slot ∧ slot ≠ []) (hlong : 4 < (digits "000" p).length ∨ 4 < slot.length) :
    ¬ (Prefix.ofText text).isSome := by
  have hplane : IsHex (digits "000" p) ∧ digits "000" p ≠ [] :=
    ⟨isHex_append.mpr ⟨by decide, isHex_toDigits p⟩,
      List.append_ne_nil_of_right_ne_nil _ Nat.toDigits_ne_nil⟩
  have hparts : ∀ part ∈ ["fc00".toList, digits "000" p, slot], IsHex part ∧ part ≠ [] := by
    intro part hpart
    simp only [List.mem_cons, List.not_mem_nil, or_false] at hpart
    rcases hpart with rfl | rfl | rfl
    · decide
    · exact hplane
    · exact hslot
  have hnone : Ipv6.ofText (groupsText ["fc00".toList, digits "000" p, slot] []) = none := by
    rcases hlong with hlong | hlong
    · exact Ipv6.ofText_groups_long hparts (List.forall_mem_nil _) (by simp)
        (Or.inl (List.mem_cons_of_mem _ List.mem_cons_self)) hlong
    · exact Ipv6.ofText_groups_long hparts (List.forall_mem_nil _) (by simp)
        (Or.inl (List.mem_cons_of_mem _ (List.mem_cons_of_mem _ List.mem_cons_self))) hlong
  have hslash : '/' ∉ (groupsText ["fc00".toList, digits "000" p, slot] []).toList := by
    unfold groupsText
    rw [String.toList_ofList]
    refine not_mem_join (by decide) (by decide) fun part hpart => ?_
    rcases List.mem_append.mp hpart with hpart | hpart
    · rw [sideParts, if_neg (List.cons_ne_nil _ _)] at hpart
      exact (hparts part hpart).1
    · rcases List.mem_cons.mp hpart with rfl | hpart
      · exact isHex_nil
      · rw [sideParts, if_pos rfl, List.mem_singleton] at hpart
        rw [hpart]
        exact isHex_nil
  rw [htext, Prefix.ofText_append hslash (show "/48".toList = '/' :: ['4', '8'] from rfl) (by decide)
    (by decide), hnone]
  exact Bool.false_ne_true

/-- A fabric with room for all is sound. -/
theorem sound_of_hasRoom (h : F.HasRoom) (hp : 0 < F.numPlanes) (hl : 0 < F.numLeaves) :
    F.Sound where
  endpoints := endpoints_nodup h.spines
  mgmt := mgmt_valid h
  mgmtDistinct := (mgmtDistinct_iff hp hl h.leaves).mpr ⟨h.spineMgmt, h.leafMgmt⟩
  prefixes := by
    intro p hp files hfiles
    rcases mem_planeFiles.mp hfiles with ⟨s, hs, rfl⟩ | ⟨l, hl, rfl⟩
    · exact spine_prefixes h.fits hp hs
    · exact leaf_prefixes h.fits hp hl
  addresses := by
    intro p hp files hfiles
    rcases mem_planeFiles.mp hfiles with ⟨s, hs, rfl⟩ | ⟨l, hl, rfl⟩
    · exact spine_addresses h.fits hp hs
    · exact leaf_addresses h.fits hp hl
  hostPrefixes := fun _ _ hn => host_prefixes h.fits hn
  hostAddresses := fun _ _ hn => host_addresses h.fits hn
  macs := fun _ hp _ hfiles => macs_valid h.fits hp hfiles
  ports := fun _ hp _ hl _ _ hs _ huplink => ports_apart h.fits hp hl hs huplink
  locators := by
    intro p hp a ha b hb hne
    obtain ⟨hlocator, hloopback⟩ := locators_distinct h.fits hp ha hb hne
    exact ⟨hlocator, hloopback, fun _ htext => loopbacksV4_distinct ha hb hne htext⟩

theorem hasRoom_of_sound (h : F.Sound) (hp : 0 < F.numPlanes) (hs : 0 < F.numSpines)
    (hl : 0 < F.numLeaves) : F.HasRoom := by
  have hplanes : F.numPlanes ≤ 16 := by
    by_contra hlt
    have hfiles : (F.spineConfigDb 16 0, F.spineFrr 16 0) ∈ F.planeFiles 16 :=
      mem_planeFiles.mpr (Or.inl ⟨0, hs, rfl⟩)
    refine not_isSome_of_long (spineLocator_eq 16 0) (by decide) (Or.inl (by decide))
      (h.prefixes 16 (by omega) _ hfiles _ ?_)
    exact List.mem_append_right _ (List.mem_singleton_self _)
  have hleaves : F.numLeaves ≤ 16 := by
    by_contra hlt
    have hfiles : (F.spineConfigDb 0 0, F.spineFrr 0 0) ∈ F.planeFiles 0 :=
      mem_planeFiles.mpr (Or.inl ⟨0, hs, rfl⟩)
    refine not_isSome_of_long (spineUaSid_eq 0 16) (by decide) (Or.inr (by decide))
      (h.prefixes 0 hp _ hfiles _ ?_)
    simp only [filePrefixes, spineFrr, List.mem_append, List.map_append, List.mem_map, List.mem_range]
    exact Or.inl (Or.inl (Or.inr (Or.inr ⟨_, ⟨16, by omega, rfl⟩, rfl⟩)))
  have hspines : F.numSpines ≤ 8 := by
    by_contra hlt
    refine h.ports 0 hp 0 hl (.ethernet 32) 8 (by omega) .green ?_ ?_
    · simp only [leafConfigDb, List.mem_append, List.mem_flatMap, List.mem_range]
      exact Or.inl (Or.inr ⟨8, by omega, List.mem_cons_of_mem _ (List.mem_singleton_self _)⟩)
    · simp [leafConfigDb]
  obtain ⟨hspineMgmt, hleafMgmt⟩ := (mgmtDistinct_iff hp hl hleaves).mp h.mgmtDistinct
  exact ⟨hplanes, hspines, hleaves, hspineMgmt, hleafMgmt⟩

/-- The lab is sound for exactly the numbers of planes, spines and leaves that there is room for. -/
theorem sound_iff (F : Fabric) (hp : 0 < F.numPlanes) (hs : 0 < F.numSpines)
    (hl : 0 < F.numLeaves) : F.Sound ↔ F.HasRoom :=
  ⟨fun h => hasRoom_of_sound h hp hs hl, fun h => sound_of_hasRoom h hp hl⟩

/-- At work on four planes of eight spines and sixteen leaves. -/
theorem sound_iff_reference : Sound ⟨4, 8, 16, false⟩ :=
  (sound_iff ⟨4, 8, 16, false⟩ (by decide) (by decide) (by decide)).mpr
    ⟨by decide, by decide, by decide, by decide, by decide⟩

/-- Six planes of eight spines and four leaves: spine 0 of plane 5 and leaf 0 of plane 0 are both
    `172.20.18.50`. -/
theorem sound_six_planes :
    ("p5-spine00", "172.20.18.50") ∈ nodes ⟨6, 8, 4, false⟩ ∧
      ("p0-leaf00", "172.20.18.50") ∈ nodes ⟨6, 8, 4, false⟩ ∧ ¬ Sound ⟨6, 8, 4, false⟩ := by
  refine ⟨by decide, by decide, fun h => ?_⟩
  have hroom := (hasRoom_of_sound h (by decide) (by decide) (by decide)).spineMgmt
  exact absurd hroom (by decide)

end Fabric
end Srv6Mrc
