/-
  The network that the generator's files make.

  The kernel of each node reads the addresses, routes and SIDs of its files: an address is the node's
  own and has a connected prefix, unless the prefix is the address alone; a `sid` line and a static
  route are entries of the default table; `eth(k+1)` of containerlab is `Ethernet(4k)` of a switch.
  What a switch has in `Vrf-green` is the interfaces with that `vrf_name`.
-/
import Srv6Mrc.Lib.Srv6
import Srv6Mrc.Fabric.Address
import Srv6Mrc.Fabric.Config

namespace Srv6Mrc

open Py Net

/-- The routing tables: the default one, which is table 0 of a host, and `Vrf-green`. -/
inductive Vrf where
  | default
  | green
  deriving DecidableEq, Repr

namespace Fabric

/-- `vrf {name}` of a SID, `vrf_name` of an interface. -/
def vrfOfName (name : String) : Option Vrf :=
  if name = "default" then some .default else if name = "Vrf-green" then some .green else none

/-- The `k` of containerlab's `eth{k}`. -/
def portNumber : Port → Option Nat
  | .loopback0 => none
  | .ethernet n => if n % 4 = 0 then some (n / 4 + 1) else none

/-- The `k` of `eth{k}`. -/
def devNumber : Dev → Option Nat
  | .lo => none
  | .eth k => some k

/-- The entries an address makes. -/
def addressRoutes (text : String) (port : Option Nat) : List (Route (Action Vrf)) :=
  match Prefix.ofText text with
  | none => []
  | some p =>
    ⟨⟨p.addr, 128⟩, .own⟩ ::
      match port with
      | none => []
      | some k => if p.len < 128 then [⟨p, .connected k⟩] else []

/-- The table an interface is in: its last assignment. -/
def ConfigDb.vrfOf (db : ConfigDb) (port : Port) : Vrf :=
  match db.interface.reverse.find? fun entry => entry.1 = .port port with
  | some (_, some name) => (vrfOfName name).getD .default
  | _ => .default

/-- The entries of the interfaces in a table. -/
def ConfigDb.routes (db : ConfigDb) (table : Vrf) : List (Route (Action Vrf)) :=
  db.interface.flatMap fun
    | (.ipv6 port text, _) =>
      if db.vrfOf port = table then addressRoutes text (portNumber port) else []
    | _ => []

def Behavior.action : Behavior → Option (Action Vrf)
  | .uN => some .uN
  | .uA port _ => (portNumber port).map .uA
  | .uDT6 name => (vrfOfName name).map .uDT6

/-- The entry of a `sid` line. -/
def sidRoute (line : String × Behavior) : Option (Route (Action Vrf)) :=
  match Prefix.ofText line.1, line.2.action with
  | some p, some action => some ⟨p, action⟩
  | _, _ => none

/-- The entry of an `ipv6 route`. -/
def staticRoute (line : String × String) : Option (Route (Action Vrf)) :=
  match Prefix.ofText line.1, Ipv6.ofText line.2 with
  | some p, some nexthop => some ⟨p, .via nexthop none⟩
  | _, _ => none

/-- The entries of a frr.conf. -/
def FrrConf.routes (frr : FrrConf) : List (Route (Action Vrf)) :=
  frr.staticSids.filterMap sidRoute ++ frr.staticRoutes.filterMap staticRoute

/-- The entries of a command on a host. -/
def ExecCmd.routes : ExecCmd → List (Route (Action Vrf))
  | .addrAdd text dev => addressRoutes text (devNumber dev)
  | .sysctlForwarding => []
  | .routeVia text gateway dev =>
    match Prefix.ofText text, Ipv6.ofText gateway with
    | some p, some nexthop => [⟨p, .via nexthop (devNumber dev)⟩]
    | _, _ => []
  | .routeDT6 text _ =>
    match Prefix.ofText text with
    | some p => [⟨p, .uDT6 .default⟩]
    | none => []

variable (F : Fabric)

/-- The tables of a switch. -/
def switchFib (db : ConfigDb) (frr : FrrConf) : Vrf → List (Route (Action Vrf))
  | .default => frr.routes ++ db.routes .default
  | .green => db.routes .green

def fib : Node → Vrf → List (Route (Action Vrf))
  | .spine p s, table => switchFib (F.spineConfigDb p s) (F.spineFrr p s) table
  | .leaf p l, table => switchFib (F.leafConfigDb p l) (F.leafFrr p l) table
  | .host color n, .default => (F.hostExec color n).flatMap ExecCmd.routes
  | .host _ _, .green => []

/-- The network of the fabric. -/
def network : Network Node Vrf where
  main := .default
  fib := F.fib
  ingress
    | .spine p s, k => (F.spineConfigDb p s).vrfOf (.ethernet (4 * (k - 1)))
    | .leaf p l, k => (F.leafConfigDb p l).vrfOf (.ethernet (4 * (k - 1)))
    | .host _ _, _ => .default
  forwards
    | .host color n => decide (.sysctlForwarding ∈ F.hostExec color n)
    | _ => true
  links := F.links

/-! ## Entries -/

section Entries

variable {text : String} {hextets : List Nat} {len : Nat}

/-- What a uA does with a port that is one. -/
theorem Behavior.action_uA {port : Port} {k : Nat} (h : portNumber port = some k)
    (nexthop : String) : (Behavior.uA port nexthop).action = some (.uA k) := by
  show (portNumber port).map Action.uA = _
  rw [h]
  rfl

theorem sidRoute_is (h : ReadsPrefix text hextets len) {behavior : Behavior} {action : Action Vrf}
    (haction : behavior.action = some action) :
    ∃ r, sidRoute (text, behavior) = some r ∧ r.Is hextets len action := by
  obtain ⟨ip, htext, hip⟩ := h
  refine ⟨⟨⟨ip, len⟩, action⟩, ?_, hip, rfl, rfl⟩
  unfold sidRoute
  rw [htext, haction]

theorem is_of_sidRoute (h : ReadsPrefix text hextets len) {behavior : Behavior} {action : Action Vrf}
    (haction : behavior.action = some action) {r : Route (Action Vrf)}
    (hr : sidRoute (text, behavior) = some r) : r.Is hextets len action := by
  obtain ⟨r', hr', his⟩ := sidRoute_is h haction
  rw [hr'] at hr
  cases hr
  exact his

theorem staticRoute_is (h : ReadsPrefix text hextets len) {nexthop : String} {ip : Ipv6}
    (hnexthop : Ipv6.ofText nexthop = some ip) :
    ∃ r, staticRoute (text, nexthop) = some r ∧ r.Is hextets len (.via ip none) := by
  obtain ⟨dest, htext, hdest⟩ := h
  refine ⟨⟨⟨dest, len⟩, .via ip none⟩, ?_, hdest, rfl, rfl⟩
  unfold staticRoute
  rw [htext, hnexthop]

theorem is_of_staticRoute (h : ReadsPrefix text hextets len) {nexthop : String} {ip : Ipv6}
    (hnexthop : Ipv6.ofText nexthop = some ip) {r : Route (Action Vrf)}
    (hr : staticRoute (text, nexthop) = some r) : r.Is hextets len (.via ip none) := by
  obtain ⟨r', hr', his⟩ := staticRoute_is h hnexthop
  rw [hr'] at hr
  cases hr
  exact his

/-- The entries of an address on a port of a link: its own and the ones of its prefix. -/
theorem mem_addressRoutes (h : ReadsPrefix text hextets len) {port : Option Nat}
    {r : Route (Action Vrf)} (hr : r ∈ addressRoutes text port) :
    r.Is hextets 128 .own ∨ len < 128 ∧ ∃ k, port = some k ∧ r.Is hextets len (.connected k) := by
  obtain ⟨ip, htext, hip⟩ := h
  unfold addressRoutes at hr
  rw [htext] at hr
  cases port with
  | none =>
    rw [List.mem_singleton.mp hr]
    exact Or.inl ⟨hip, rfl, rfl⟩
  | some k =>
    rcases List.mem_cons.mp hr with rfl | hr
    · exact Or.inl ⟨hip, rfl, rfl⟩
    · dsimp only at hr
      split at hr
      · rename_i hlen
        rw [List.mem_singleton.mp hr]
        exact Or.inr ⟨hlen, k, rfl, hip, rfl, rfl⟩
      · cases hr

theorem exists_own (h : ReadsPrefix text hextets len) (port : Option Nat) :
    ∃ r ∈ addressRoutes text port, r.Is hextets 128 .own := by
  obtain ⟨ip, htext, hip⟩ := h
  unfold addressRoutes
  rw [htext]
  exact ⟨_, List.mem_cons_self, hip, rfl, rfl⟩

theorem exists_connected (h : ReadsPrefix text hextets len) (k : Nat) (hlen : len < 128) :
    ∃ r ∈ addressRoutes text (some k), r.Is hextets len (.connected k) := by
  obtain ⟨ip, htext, hip⟩ := h
  unfold addressRoutes
  rw [htext]
  refine ⟨⟨⟨ip, len⟩, .connected k⟩, List.mem_cons_of_mem _ ?_, hip, rfl, rfl⟩
  dsimp only
  rw [if_pos hlen]
  exact List.mem_singleton_self _

/-- An interface whose assignments agree. -/
theorem ConfigDb.vrfOf_eq {db : ConfigDb} {port : Port} {value : Option String}
    (hmem : (.port port, value) ∈ db.interface)
    (hall : ∀ v, (.port port, v) ∈ db.interface → v = value) :
    db.vrfOf port = (value.bind vrfOfName).getD .default := by
  unfold ConfigDb.vrfOf
  cases hfind : db.interface.reverse.find? fun entry => entry.1 = .port port with
  | none =>
    have hne := List.find?_eq_none.mp hfind _ (List.mem_reverse.mpr hmem)
    exact absurd (decide_eq_true rfl) hne
  | some entry =>
    obtain ⟨key, v⟩ := entry
    have hpred := List.find?_some hfind
    have hkey : key = .port port := of_decide_eq_true hpred
    have hv := List.mem_reverse.mp (List.mem_of_find?_eq_some hfind)
    rw [hkey] at hv
    rw [← hall v hv]
    cases v <;> rfl

/-- A port without a table is in the default one. -/
theorem ConfigDb.vrfOf_default {db : ConfigDb} {port : Port}
    (hall : ∀ v, (.port port, v) ∈ db.interface → v = none) : db.vrfOf port = .default := by
  by_cases hmem : ∃ v, (InterfaceKey.port port, v) ∈ db.interface
  · obtain ⟨v, hv⟩ := hmem
    have hnone := hall v hv
    subst hnone
    exact ConfigDb.vrfOf_eq hv hall
  · unfold ConfigDb.vrfOf
    have hfind : (db.interface.reverse.find? fun entry => entry.1 = .port port) = none := by
      refine List.find?_eq_none.mpr fun entry hentry hkey => hmem ⟨entry.2, ?_⟩
      rw [← of_decide_eq_true hkey]
      exact List.mem_reverse.mp hentry
    rw [hfind]

end Entries

end Fabric
end Srv6Mrc
