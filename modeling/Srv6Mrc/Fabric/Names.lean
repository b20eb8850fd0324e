/-
  `generators/fabric.py`: names, ports and addresses.

  The helpers write a text from a plane, a spine or a leaf number, with no look at the number.  What
  the texts read as is the subject of `Fabric/Address.lean`; here only that the names of the nodes
  are different (`nodeName_injective`).
-/
import Srv6Mrc.Topo.Plan

namespace Srv6Mrc

open Py

/-- `NUM_PLANES`, `NUM_SPINES`, `NUM_LEAVES`, and `visibility.enabled` of the topo.yaml. -/
structure Fabric where
  numPlanes : Nat
  numSpines : Nat
  numLeaves : Nat
  visibility : Bool

/-- The two tenants, as the generator's loops have them. -/
inductive Color where
  | green | yellow
  deriving DecidableEq, Repr

/-- The nodes of the fabric. -/
inductive Node where
  | spine (plane spine : Nat)
  | leaf (plane leaf : Nat)
  | host (color : Color) (n : Nat)
  deriving DecidableEq, Repr

/-- An interface of a switch. -/
inductive Port where
  | loopback0
  | ethernet (n : Nat)
  deriving DecidableEq, Repr

/-- An interface of a host. -/
inductive Dev where
  | lo
  | eth (n : Nat)
  deriving DecidableEq, Repr

namespace Fabric

/-! ## Names and ports -/

/-- `spine_name` -/
def spineName (plane spine : Nat) : String := "p" ++ toString plane ++ "-spine" ++ decPad 2 spine

/-- `leaf_name` -/
def leafName (plane leaf : Nat) : String := "p" ++ toString plane ++ "-leaf" ++ decPad 2 leaf

/-- The name of a tenant. -/
def colorName : Color → String
  | .green => "green"
  | .yellow => "yellow"

/-- `f"{color}-host{n:02d}"` -/
def hostName (color : Color) (n : Nat) : String := colorName color ++ "-host" ++ decPad 2 n

def nodeName : Node → String
  | .spine plane spine => spineName plane spine
  | .leaf plane leaf => leafName plane leaf
  | .host color n => hostName color n

/-- `leaf_uplink_eth` -/
def leafUplinkEth (spine : Nat) : Port := .ethernet (spine * 4)

/-- `spine_downlink_eth` -/
def spineDownlinkEth (leaf : Nat) : Port := .ethernet (leaf * 4)

/-! No two nodes have one name: what stands before the hyphen tells switches of a plane and hosts of a
tenant, what stands after it the rest. -/

/-- Zeros in front hide no number. -/
theorem decPad_inj {width m n : Nat} (h : decPad width m = decPad width n) : m = n := by
  have hdigits := congrArg (fun text : String => Nat.ofDigitChars 10 text.toList 0) h
  have hpad : ∀ k, Nat.ofDigitChars 10 (decPad width k).toList 0 = k := by
    intro k
    rw [toList_decPad, List.leftpad, Nat.ofDigitChars_append, Nat.ofDigitChars_replicate_zero,
      Nat.mul_zero, Nat.ofDigitChars_ten_toDigits]
  simpa only [hpad] using hdigits

/-- Different numbers are printed differently. -/
theorem toString_inj {m n : Nat} (h : toString m = toString n) : m = n := by
  have hdigits : Nat.toDigits 10 m = Nat.toDigits 10 n := by
    simpa [Nat.toString_eq_ofList_toDigits] using congrArg String.toList h
  calc
    m = Nat.ofDigitChars 10 (Nat.toDigits 10 m) 0 := Nat.ofDigitChars_ten_toDigits.symm
    _ = Nat.ofDigitChars 10 (Nat.toDigits 10 n) 0 := by rw [hdigits]
    _ = n := Nat.ofDigitChars_ten_toDigits

/-- What is no digit is not printed for a number. -/
theorem not_mem_digits {c : Char} (hc : c.isDigit = false) (n : Nat) :
    c ∉ (toString n).toList := by
  intro hmem
  rw [Nat.toString_eq_ofList_toDigits, String.toList_ofList] at hmem
  rw [Nat.isDigit_of_mem_toDigits (by omega) (by omega) hmem] at hc
  cases hc

/-- Nor with zeros in front. -/
theorem not_mem_decPad {c : Char} (hc : c.isDigit = false) (width n : Nat) :
    c ∉ (decPad width n).toList := by
  intro hmem
  rw [toList_decPad] at hmem
  rcases List.mem_append.mp hmem with hmem | hmem
  · rw [List.eq_of_mem_replicate hmem] at hc
    cases hc
  · rw [Nat.isDigit_of_mem_toDigits (by omega) (by omega) hmem] at hc
    cases hc

/-- What stands before the hyphen of a name. -/
def nameHead : Node → String
  | .spine plane _ => "p" ++ toString plane
  | .leaf plane _ => "p" ++ toString plane
  | .host color _ => colorName color

/-- What stands after it. -/
def nameTail : Node → String
  | .spine _ spine => "spine" ++ decPad 2 spine
  | .leaf _ leaf => "leaf" ++ decPad 2 leaf
  | .host _ n => "host" ++ decPad 2 n

/-- A name is its head, a hyphen and its tail. -/
theorem toList_nodeName (node : Node) :
    (nodeName node).toList = (nameHead node).toList ++ '-' :: (nameTail node).toList := by
  cases node with
  | spine plane spine =>
    show ("p" ++ toString plane ++ "-spine" ++ decPad 2 spine).toList = _
    simp only [nameHead, nameTail, String.toList_append, List.append_assoc]
    rfl
  | leaf plane leaf =>
    show ("p" ++ toString plane ++ "-leaf" ++ decPad 2 leaf).toList = _
    simp only [nameHead, nameTail, String.toList_append, List.append_assoc]
    rfl
  | host color n =>
    show (colorName color ++ "-host" ++ decPad 2 n).toList = _
    simp only [nameHead, nameTail, String.toList_append, List.append_assoc]
    rfl

/-- The hyphen is the first one. -/
theorem hyphen_not_mem_nameHead (node : Node) : '-' ∉ (nameHead node).toList := by
  cases node with
  | spine plane _ =>
    simp only [nameHead, String.toList_append, List.mem_append, not_or]
    exact ⟨by decide, not_mem_digits rfl plane⟩
  | leaf plane _ =>
    simp only [nameHead, String.toList_append, List.mem_append, not_or]
    exact ⟨by decide, not_mem_digits rfl plane⟩
  | host color _ =>
    show '-' ∉ (colorName color).toList
    cases color <;> decide

/-- And the only one. -/
theorem hyphen_not_mem_nameTail (node : Node) : '-' ∉ (nameTail node).toList := by
  cases node with
  | spine _ spine =>
    simp only [nameTail, String.toList_append, List.mem_append, not_or]
    exact ⟨by decide, not_mem_decPad rfl 2 spine⟩
  | leaf _ leaf =>
    simp only [nameTail, String.toList_append, List.mem_append, not_or]
    exact ⟨by decide, not_mem_decPad rfl 2 leaf⟩
  | host _ n =>
    simp only [nameTail, String.toList_append, List.mem_append, not_or]
    exact ⟨by decide, not_mem_decPad rfl 2 n⟩

/-- With the same front, the ends are the same. -/
theorem append_left_inj {a b c : String} (h : a ++ b = a ++ c) : b = c := by
  have hlist := congrArg String.toList h
  rw [String.toList_append, String.toList_append] at hlist
  exact String.toList_injective (List.append_cancel_left hlist)

/-- With the same end, the fronts are the same. -/
theorem append_right_inj {a b c : String} (h : a ++ c = b ++ c) : a = b := by
  have hlist := congrArg String.toList h
  rw [String.toList_append, String.toList_append] at hlist
  exact String.toList_injective (List.append_cancel_right hlist)

/-- No two nodes have one name. -/
theorem nodeName_injective : Function.Injective nodeName := by
  intro a b h
  have hparts := congrArg String.toList h
  rw [toList_nodeName, toList_nodeName, List.append_cons_inj_of_notMem
    (hyphen_not_mem_nameHead a) (hyphen_not_mem_nameTail a)] at hparts
  have hhead : nameHead a = nameHead b := String.toList_injective hparts.1
  have htail : nameTail a = nameTail b := String.toList_injective hparts.2.2
  cases a with
  | spine plane spine =>
    cases b with
    | spine plane' spine' =>
      rw [toString_inj (append_left_inj hhead), decPad_inj (append_left_inj htail)]
    | leaf plane' leaf =>
      have hchars := congrArg String.toList htail
      simp [nameTail] at hchars
    | host color n =>
      have hchars := congrArg String.toList htail
      simp [nameTail] at hchars
  | leaf plane leaf =>
    cases b with
    | spine plane' spine =>
      have hchars := congrArg String.toList htail
      simp [nameTail] at hchars
    | leaf plane' leaf' =>
      rw [toString_inj (append_left_inj hhead), decPad_inj (append_left_inj htail)]
    | host color n =>
      have hchars := congrArg String.toList htail
      simp [nameTail] at hchars
  | host color n =>
    cases b with
    | spine plane' spine =>
      have hchars := congrArg String.toList htail
      simp [nameTail] at hchars
    | leaf plane' leaf =>
      have hchars := congrArg String.toList htail
      simp [nameTail] at hchars
    | host color' n' =>
      have hcolor : color = color' := by
        have hname : colorName color = colorName color' := hhead
        revert hname
        cases color <;> cases color' <;> decide
      rw [hcolor, decPad_inj (append_left_inj htail)]

/-! ## Addresses of a plane -/

/-- `plane_block_prefix` -/
def planeBlockPrefix (plane : Nat) : String := "fc00:000" ++ hex plane

/-- `plane_aggregate` -/
def planeAggregate (plane : Nat) : String := planeBlockPrefix plane ++ "::/32"

/-- `spine_locator` -/
def spineLocator (plane spine : Nat) : String :=
  planeBlockPrefix plane ++ ":1" ++ hex spine ++ "::/48"

/-- `spine_loopback` -/
def spineLoopback (plane spine : Nat) : String :=
  planeBlockPrefix plane ++ ":1" ++ hex spine ++ "::1"

/-- `spine_loopback_v4` -/
def spineLoopbackV4 (plane spine : Nat) : String :=
  "10.0." ++ toString plane ++ "." ++ toString (spine + 1)

/-- `leaf_locator` -/
def leafLocator (plane leaf : Nat) : String :=
  planeBlockPrefix plane ++ ":2" ++ hex leaf ++ "::/48"

/-- `leaf_loopback` -/
def leafLoopback (plane leaf : Nat) : String :=
  planeBlockPrefix plane ++ ":2" ++ hex leaf ++ "::1"

/-- `leaf_loopback_v4` -/
def leafLoopbackV4 (plane leaf : Nat) : String :=
  "10.1." ++ toString plane ++ "." ++ toString (leaf + 1)

/-- `leaf_ua_sid` -/
def leafUaSid (plane spine : Nat) : String :=
  planeBlockPrefix plane ++ ":f00" ++ hex spine ++ "::/48"

/-- `spine_ua_sid` -/
def spineUaSid (plane leaf : Nat) : String :=
  planeBlockPrefix plane ++ ":e00" ++ hex leaf ++ "::/48"

/-- `leaf_host_ua_sid` -/
def leafHostUaSid (plane ethPortNum : Nat) : String :=
  planeBlockPrefix plane ++ ":e" ++ hexPad 3 (ethPortNum / 4) ++ "::/48"

/-- `green_udt_sid` -/
def greenUdtSid (plane : Nat) : String := planeBlockPrefix plane ++ ":" ++ hexPad 4 0xd000 ++ "::/48"

/-- `yellow_udt_sid` -/
def yellowUdtSid (plane : Nat) : String := planeBlockPrefix plane ++ ":" ++ hexPad 4 0xd001 ++ "::/48"

/-- `probe_dfff_sid` -/
def probeDfffSid (plane : Nat) : String := planeBlockPrefix plane ++ ":dfff::/48"

/-! ## Addresses of a tenant -/

/-- `probe_ev_addr_green` and `probe_ev_addr_yellow` -/
def probeEvAddr (color : Color) (host plane path : Nat) : String :=
  let nic := plane + 1
  let lowByte := (nic <<< 4) ||| path
  match color with
  | .green => "2001:db8:bbbb:" ++ hex host ++ "::" ++ hex lowByte
  | .yellow => "2001:db8:cccc:" ++ hex host ++ "::" ++ hex lowByte

/-- `green_host_anycast_prefix` and `yellow_host_anycast_prefix` -/
def hostAnycastPrefix (color : Color) (host : Nat) : String :=
  match color with
  | .green => "2001:db8:bbbb:" ++ hexPad 2 host
  | .yellow => "2001:db8:cccc:" ++ hexPad 2 host

/-- `green_host_anycast_addr` and `yellow_host_anycast_addr` -/
def hostAnycastAddr (color : Color) (host : Nat) : String :=
  match color with
  | .green => "2001:db8:bbbb:" ++ hexPad 2 host ++ "::2"
  | .yellow => "2001:db8:cccc:" ++ hexPad 2 host ++ "::2"

/-- The `/48` of a tenant. -/
def tenantPrefix (color : Color) : String :=
  match color with
  | .green => "2001:db8:bbbb::/48"
  | .yellow => "2001:db8:cccc::/48"

/-! ## Links -/

variable (F : Fabric)

/-- `link_idx` -/
def linkIdx (spine leaf : Nat) : Nat := spine * F.numLeaves + leaf

/-- `p2p_prefix` -/
def p2pPrefix (spine leaf : Nat) : String := "2001:db8:fab:" ++ hexPad 4 (F.linkIdx spine leaf)

end Fabric
end Srv6Mrc
