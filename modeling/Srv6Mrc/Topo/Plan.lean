/-
  `srv6_mrc/topo.py`: the address plan.

  The module's globals come from the topo.yaml when it is imported: `Topo`.  Its functions check
  their arguments against these and write an address, part by part, with the numbers in it in
  hexadecimal.  Nothing keeps a number from needing more digits than the plan has room for; what the
  texts are as addresses is the subject of `Topo/Address.lean`.
-/
import Srv6Mrc.Lib.Ipv6
import Srv6Mrc.Policy.Spines

namespace Srv6Mrc

open Py

/-- `NUM_PLANES`, `NUM_SPINES`, `NUM_LEAVES` and `TENANTS`. -/
structure Topo where
  numPlanes : Nat
  numSpines : Nat
  numLeaves : Nat
  tenants : List String
  deriving DecidableEq

/-- The exceptions of `topo.py` and `topology.py`, with the values of their messages. -/
inductive TopoError where
  /-- `ValueError(f"tenant must be one of {TENANTS}, got {v!r}")` -/
  | tenant (tenants : List String) (got : String)
  /-- `ValueError(f"plane must be 0..{NUM_PLANES - 1}, got {v!r}")` -/
  | plane (numPlanes : Nat) (got : Int)
  /-- `ValueError(f"spine must be 0..{NUM_SPINES - 1}, got {v!r}")` -/
  | spine (numSpines : Nat) (got : Int)
  /-- `ValueError(f"host id must be 0..{NUM_LEAVES - 1}, got {v!r}")` -/
  | host (numLeaves : Nat) (got : Int)
  /-- `ValueError(f"sid_mode must be one of {SID_MODES}, got {v!r}")` -/
  | sidMode (got : String)
  /-- `NotImplementedError`: no stateless-probe address for the tenant. -/
  | noProbe (tenant : String)
  deriving DecidableEq, Repr

/-! ## Checks -/

/-- `_check_tenant`, of either module. -/
def checkTenantIn (tenants : List String) (v : String) : Except TopoError Unit :=
  if v ∈ tenants then .ok () else .error (.tenant tenants v)

/-- The number an index stands for, if it is in range. -/
def checkIndex (error : Nat → Int → TopoError) (size : Nat) (v : Int) : Except TopoError Nat :=
  if 0 ≤ v ∧ v < size then .ok v.toNat else .error (error size v)

/-- `_check_sid_mode`, of either module. -/
def checkSidMode (v : String) : Except TopoError Unit :=
  if v = "uA" ∨ v = "uN" then .ok () else .error (.sidMode v)

theorem checkTenantIn_ok {tenants : List String} {v : String} :
    checkTenantIn tenants v = .ok () ↔ v ∈ tenants := by
  unfold checkTenantIn
  split <;> simp_all

/-- The check passes the numbers below the size. -/
theorem checkIndex_ok {error : Nat → Int → TopoError} {size : Nat} {v : Int} {n : Nat} :
    checkIndex error size v = .ok n ↔ v = n ∧ n < size := by
  unfold checkIndex
  split
  · rw [Except.ok.injEq]
    omega
  · constructor
    · intro h
      cases h
    · rintro ⟨rfl, hlt⟩
      omega

/-- So it passes a natural number below it. -/
theorem checkIndex_nat (error : Nat → Int → TopoError) {size n : Nat} (h : n < size) :
    checkIndex error size n = .ok n := checkIndex_ok.mpr ⟨rfl, h⟩

theorem checkSidMode_ok {v : String} : checkSidMode v = .ok () ↔ v = "uA" ∨ v = "uN" := by
  unfold checkSidMode
  split <;> simp_all

/-! ## Functions that read no global -/

/-- `REFERENCE_PAIRS_SPINES`, and `_REFERENCE_PAIRS_4P_8X16` of `topology.py`. -/
def referencePairsSpines : List ((Int × Int) × Int) :=
  [((0, 15), 0), ((1, 14), 2), ((2, 13), 4), ((3, 12), 6),
   ((4, 11), 1), ((5, 10), 3), ((6, 9), 5), ((7, 8), 7)]

/-- `spine_for`, of either module: the table first, then the hash. -/
def spineForPair (table : List ((Int × Int) × Int)) (numLeaves numSpines : Nat)
    (srcId dstId : Int) : Int :=
  let (a, b) := if srcId < dstId then (srcId, dstId) else (dstId, srcId)
  match table.find? fun entry => entry.1 = (a, b) with
  | some entry => entry.2
  | none => (a * numLeaves + b) % numSpines

/-- `select_spines`, of either module. -/
def selectSpines (numSpines : Nat) (srcId dstId n : Int) : Except PolicyError (List Nat) :=
  if 1 ≤ n ∧ n ≤ numSpines then
    selectSpinesFromSeed numSpines
      (toString (min srcId dstId) ++ "|" ++ toString (max srcId dstId)) n.toNat
  else .error (.pathsPerPlane numSpines n)

/-- `host_id_from_inner_addr` -/
def hostIdFromInnerAddr (addr : String) : Option (String × Nat) :=
  match (IPv6Address.ofText addr).bind IPv6Address.exploded with
  | some [h₀, h₁, h₂, h₃, _, _, _, h₇] =>
    if h₀ ≠ 0x2001 ∨ h₁ ≠ 0x0db8 then none
    else
      let tenant : Option String :=
        if h₂ = 0xbbbb ∧ h₇ = 2 then some "green"
        else if h₂ = 0xcccc ∧ h₇ = 2 then some "yellow"
        else none
      match tenant with
      | none => none
      | some tenant => if h₃ ≤ 15 then some (tenant, h₃) else none
  | _ => none

namespace Topo

variable (T : Topo)

/-- `_check_tenant` -/
def checkTenant : String → Except TopoError Unit := checkTenantIn T.tenants

/-- `_check_plane` -/
def checkPlane : Int → Except TopoError Nat := checkIndex .plane T.numPlanes

/-- `_check_spine` -/
def checkSpine : Int → Except TopoError Nat := checkIndex .spine T.numSpines

/-- `_check_host` -/
def checkHost : Int → Except TopoError Nat := checkIndex .host T.numLeaves

/-! ## Spines -/

/-- `spine_for` -/
def spineFor : Int → Int → Int := spineForPair referencePairsSpines T.numLeaves T.numSpines

/-- `select_spines` -/
def selectSpines : Int → Int → Int → Except PolicyError (List Nat) :=
  Srv6Mrc.selectSpines T.numSpines

/-- `select_spines_for_addrs` -/
def selectSpinesForAddrs : String → String → Int → Except PolicyError (List Nat) :=
  Srv6Mrc.selectSpinesForAddrs T.numSpines

/-! ## Host addresses -/

/-- `green_anycast_addr` -/
def greenAnycastAddr (hostId : Int) : Except TopoError String := do
  let h ← T.checkHost hostId
  return "2001:db8:bbbb:" ++ hexPad 2 h ++ "::2"

/-- `yellow_anycast_addr` -/
def yellowAnycastAddr (hostId : Int) : Except TopoError String := do
  let h ← T.checkHost hostId
  return "2001:db8:cccc:" ++ hexPad 2 h ++ "::2"

/-- `inner_addr` -/
def innerAddr (tenant : String) (hostId : Int) : Except TopoError String := do
  T.checkTenant tenant
  if tenant = "green" then T.greenAnycastAddr hostId else T.yellowAnycastAddr hostId

/-- `leaf_gateway_addr` -/
def leafGatewayAddr (tenant : String) (plane hostId : Int) : Except TopoError String := do
  T.checkTenant tenant
  let p ← T.checkPlane plane
  let h ← T.checkHost hostId
  if tenant = "green" then return "2001:db8:bbbb:" ++ hexPad 2 h ++ "::1"
  else return "2001:db8:cccc:" ++ hex p ++ hexPad 2 h ++ "::1"

/-! ## Probe addresses -/

/-- `probe_ev_addr` -/
def probeEvAddr (tenant : String) (hostId plane path : Int) : Except TopoError String := do
  T.checkTenant tenant
  let h ← T.checkHost hostId
  let p ← T.checkPlane plane
  let s ← T.checkSpine path
  let nic := p + 1
  let lowByte := (nic <<< 4) ||| s
  if tenant = "yellow" then return "2001:db8:cccc:" ++ hex h ++ "::" ++ hex lowByte
  else if tenant = "green" then return "2001:db8:bbbb:" ++ hex h ++ "::" ++ hex lowByte
  else throw (.noProbe tenant)

/-- `probe_outer_dst` -/
def probeOuterDst (tenant : String) (plane srcLeaf dstLeaf path : Int) :
    Except TopoError String := do
  T.checkTenant tenant
  let p ← T.checkPlane plane
  let src ← T.checkHost srcLeaf
  let dst ← T.checkHost dstLeaf
  let s ← T.checkSpine path
  if tenant = "yellow" then
    return "fc00:000" ++ hex p ++ ":f00" ++ hex s ++ ":e00" ++ hex dst ++
      ":e009:f00" ++ hex s ++ ":e00" ++ hex src ++ ":dfff"
  else if tenant = "green" then
    return "fc00:000" ++ hex p ++ ":f00" ++ hex s ++ ":e00" ++ hex dst ++
      ":f00" ++ hex s ++ ":e00" ++ hex src ++ ":d000::"
  else throw (.noProbe tenant)

/-- `probe_ev_from_inner_dst` -/
def probeEvFromInnerDst (addr : String) : Option (String × Nat × Nat × Nat) :=
  match (IPv6Address.ofText addr).bind IPv6Address.exploded with
  | some [h₀, h₁, h₂, h₃, h₄, h₅, h₆, low] =>
    if h₀ ≠ 0x2001 ∨ h₁ ≠ 0x0db8 then none
    else
      let tenant : Option String :=
        if h₂ = 0xcccc then some "yellow" else if h₂ = 0xbbbb then some "green" else none
      match tenant with
      | none => none
      | some tenant =>
        if h₄ ≠ 0 ∨ h₅ ≠ 0 ∨ h₆ ≠ 0 then none
        else if ¬ h₃ < T.numLeaves then none
        else if low < 0x10 ∨ 0xff < low then none
        else
          let nic := (low >>> 4) &&& 0xf
          let path := low &&& 0xf
          if ¬ (1 ≤ nic ∧ nic ≤ T.numPlanes) then none
          else if ¬ path < T.numSpines then none
          else some (tenant, h₃, nic - 1, path)
  | _ => none

/-! ## Outer destinations -/

/-- `usid_outer_dst` -/
def usidOuterDst (tenant : String) (plane spine dstLeaf : Int) (sidMode : String := "uA") :
    Except TopoError String := do
  T.checkTenant tenant
  let p ← T.checkPlane plane
  let s ← T.checkSpine spine
  let l ← T.checkHost dstLeaf
  checkSidMode sidMode
  let (head, yellowTail) :=
    if sidMode = "uA" then
      ("fc00:000" ++ hex p ++ ":f00" ++ hex s ++ ":e00" ++ hex l, "e009:d001::")
    else ("fc00:000" ++ hex p ++ ":1" ++ hex s ++ ":2" ++ hex l, "d001::")
  if tenant = "green" then return head ++ ":d000::" else return head ++ ":" ++ yellowTail

end Topo
end Srv6Mrc
