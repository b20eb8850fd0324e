/-
  `generators/fabric.py`: what it writes.

  For each switch a config_db.json and a frr.conf, and the containerlab topology with its nodes and
  links.  A file is the list of its entries, in the order in which the writer makes them; what stands
  in an entry as an address is text.
-/
import Srv6Mrc.Fabric.Names

namespace Srv6Mrc
namespace Fabric

/-! ## config_db.json -/

/-- A key of `INTERFACE`. -/
inductive InterfaceKey where
  | port (port : Port)
  /-- `f"{port}|{address}/{length}"` -/
  | ipv4 (port : Port) (text : String)
  | ipv6 (port : Port) (text : String)
  deriving DecidableEq

structure ConfigDb where
  hostname : String
  mac : String
  loopbackInterface : List InterfaceKey
  /-- The assignments to `INTERFACE`, of which the last to a key is in the file, with the
      `vrf_name`. -/
  interface : List (InterfaceKey × Option String)

/-- The keys of `Loopback0`. -/
def loopbackKeys (ridV4 lo6 : String) : List InterfaceKey :=
  [.port .loopback0, .ipv4 .loopback0 (ridV4 ++ "/32"), .ipv6 .loopback0 (lo6 ++ "/128")]

variable (F : Fabric)

/-- `write_leaf_config_db` -/
def leafConfigDb (plane leaf : Nat) : ConfigDb :=
  let loopback := loopbackKeys (leafLoopbackV4 plane leaf) (leafLoopback plane leaf)
  let uplinks := (List.range F.numSpines).flatMap fun s =>
    [(.port (leafUplinkEth s), none),
     (.ipv6 (leafUplinkEth s) (F.p2pPrefix s leaf ++ "::1/127"), none)]
  let hostPorts :=
    [(.port (.ethernet 32), some "Vrf-green"),
     (.ipv6 (.ethernet 32) (hostAnycastPrefix .green leaf ++ "::1/64"), none),
     (.port (.ethernet 36), none),
     (.ipv6 (.ethernet 36) (hostAnycastPrefix .yellow leaf ++ "::1/64"), none)]
  { hostname := leafName plane leaf
    mac := "02:42:ac:12:" ++ Py.hex plane ++ Py.hex leaf ++ ":01"
    loopbackInterface := loopback
    interface := loopback.map (·, none) ++ uplinks ++ hostPorts }

/-- `write_spine_config_db` -/
def spineConfigDb (plane spine : Nat) : ConfigDb :=
  let loopback := loopbackKeys (spineLoopbackV4 plane spine) (spineLoopback plane spine)
  let downlinks := (List.range F.numLeaves).flatMap fun l =>
    [(.port (spineDownlinkEth l), none),
     (.ipv6 (spineDownlinkEth l) (F.p2pPrefix spine l ++ "::0/127"), none)]
  { hostname := spineName plane spine
    mac := "02:42:ac:11:" ++ Py.hex plane ++ Py.hex spine ++ ":01"
    loopbackInterface := loopback
    interface := loopback.map (·, none) ++ downlinks }

/-! ## frr.conf -/

inductive Behavior where
  | uN
  | uA (interface : Port) (nexthop : String)
  | uDT6 (vrf : String)

structure FrrConf where
  hostname : String
  /-- `ipv6 route {prefix} {nexthop}` -/
  staticRoutes : List (String × String)
  /-- `sid {prefix} locator MAIN behavior {behavior}` -/
  staticSids : List (String × Behavior)
  sourceAddress : String
  locator : String

/-- `write_leaf_frr` -/
def leafFrr (plane leaf : Nat) : FrrConf where
  hostname := leafName plane leaf
  staticSids :=
    [(leafLocator plane leaf, .uN)]
    ++ (List.range F.numSpines).map (fun s =>
        (leafUaSid plane s, .uA (leafUplinkEth s) (F.p2pPrefix s leaf ++ "::0")))
    ++ [(greenUdtSid plane, .uDT6 "Vrf-green"),
        (leafHostUaSid plane 36, .uA (.ethernet 36) (hostAnycastPrefix .yellow leaf ++ "::2")),
        (probeDfffSid plane, .uDT6 "default")]
  staticRoutes :=
    (List.range F.numSpines).map (fun s => (spineLocator plane s, F.p2pPrefix s leaf ++ "::0"))
    ++ ((List.range F.numLeaves).filter (· ≠ leaf)).flatMap (fun other =>
        (List.range F.numSpines).map fun s =>
          (leafLocator plane other, F.p2pPrefix s leaf ++ "::0"))
    ++ [(yellowUdtSid plane, hostAnycastPrefix .yellow leaf ++ "::2")]
  sourceAddress := leafLoopback plane leaf
  locator := leafLocator plane leaf

/-- `write_spine_frr` -/
def spineFrr (plane spine : Nat) : FrrConf where
  hostname := spineName plane spine
  staticSids :=
    [(spineLocator plane spine, .uN)]
    ++ (List.range F.numLeaves).map fun l =>
        (spineUaSid plane l, .uA (spineDownlinkEth l) (F.p2pPrefix spine l ++ "::1"))
  staticRoutes :=
    (List.range F.numLeaves).map fun l => (leafLocator plane l, F.p2pPrefix spine l ++ "::1")
  sourceAddress := spineLoopback plane spine
  locator := spineLocator plane spine

/-! ## topology.clab.yaml -/

/-- A command of a host's `exec`. -/
inductive ExecCmd where
  /-- `ip -6 addr add {prefix} dev {dev} nodad` -/
  | addrAdd (text : String) (dev : Dev)
  /-- `sysctl -w net.ipv6.conf.all.forwarding=1` -/
  | sysctlForwarding
  /-- `ip -6 route add {prefix} via {gateway} dev {dev}` -/
  | routeVia (text gateway : String) (dev : Dev)
  /-- `ip -6 route add {prefix} dev {dev} encap seg6local action End.DT6 table 0` -/
  | routeDT6 (text : String) (dev : Dev)
  deriving DecidableEq

/-- `exec` of a host, in `write_topology_yaml`. -/
def hostExec (color : Color) (n : Nat) : List ExecCmd :=
  let gw := hostAnycastPrefix color n ++ "::1"
  ((List.range F.numPlanes).map (fun p =>
      ExecCmd.addrAdd (hostAnycastAddr color n ++ "/64") (.eth (p + 1))) : List ExecCmd)
  ++ (if color = .yellow then
        [ExecCmd.addrAdd (hostAnycastAddr color n ++ "/128") .lo, .sysctlForwarding]
      else [])
  ++ (List.range F.numPlanes).flatMap (fun p => (List.range F.numSpines).map fun path =>
        ExecCmd.addrAdd (probeEvAddr color n p path ++ "/128") (.eth (p + 1)))
  ++ (List.range F.numPlanes).map (fun p => ExecCmd.routeVia (planeAggregate p) gw (.eth (p + 1)))
  ++ [ExecCmd.routeVia (tenantPrefix color) gw (.eth 1)]
  ++ (if color = .yellow then
        (List.range F.numPlanes).map fun p => ExecCmd.routeDT6 (yellowUdtSid p) (.eth (p + 1))
      else [])

/-- The spines, in the order of `write_topology_yaml`. -/
def spines : List Node :=
  (List.range F.numPlanes).flatMap fun p => (List.range F.numSpines).map fun s => .spine p s

def leaves : List Node :=
  (List.range F.numPlanes).flatMap fun p => (List.range F.numLeaves).map fun l => .leaf p l

def hosts : List Node :=
  [Color.green, Color.yellow].flatMap fun color =>
    (List.range F.numLeaves).map fun n => .host color n

/-- `f"{MGMT_SUBNET_BASE}.{mgmt}"` -/
def mgmtText (mgmt : Nat) : String := "172.20.18." ++ toString mgmt

/-- Nodes with the values of the counter `mgmt`. -/
def numbered (start : Nat) (nodes : List Node) : List (String × String) :=
  (nodes.zipIdx start).map fun (node, mgmt) => (nodeName node, mgmtText mgmt)

/-- The nodes with their `mgmt-ipv4`, in `write_topology_yaml`. -/
def nodes : List (String × String) :=
  numbered 10 F.spines ++ numbered 50 F.leaves ++ numbered 200 F.hosts
  ++ if F.visibility then
      [("srv6-scraper", "172.20.18.250"), ("srv6-prometheus", "172.20.18.251"),
       ("srv6-grafana", "172.20.18.252")]
    else []

/-- The links, in `write_topology_yaml`: nodes, and the number `k` of `eth{k}`. -/
def links : List ((Node × Nat) × (Node × Nat)) :=
  (List.range F.numPlanes).flatMap (fun p =>
    (List.range F.numSpines).flatMap fun s =>
      (List.range F.numLeaves).map fun l => ((Node.leaf p l, s + 1), (Node.spine p s, l + 1)))
  ++ (List.range F.numPlanes).flatMap fun p =>
    (List.range F.numLeaves).flatMap fun n =>
      [((Node.leaf p n, 9), (Node.host .green n, p + 1)),
       ((Node.leaf p n, 10), (Node.host .yellow n, p + 1))]

/-- `"{node}:eth{k}"`, one end of a link. -/
def endpointText (endpoint : Node × Nat) : String :=
  nodeName endpoint.1 ++ ":eth" ++ toString endpoint.2

end Fabric
end Srv6Mrc
