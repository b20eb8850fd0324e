/-
  SRv6 with micro SIDs: how a network of routers and hosts takes a packet.

  A micro-SID destination is a block of 32 bits and a row of slots of sixteen.  A node looks the
  destination up.  `uN` and `uA` take the first slot out and move the others up; `uA` also says
  through which port the packet leaves.  `uDT6` takes the outer header away and looks the inner
  destination up.  What the lookup finds may be one of several equal entries, so a state has a list
  of next ones, and a packet is delivered (`Delivers`) if at each state there is only one, up to a
  node that has the destination as its own.
-/
import Srv6Mrc.Lib.Route

namespace Net

open Py

/-- A packet: the destination of the header around it, if it has one, and its own. -/
structure Packet where
  outer : Option Ipv6
  inner : Ipv6

/-- What an entry of a routing table does. -/
inductive Action (Table : Type) where
  /-- An address of the node. -/
  | own
  /-- The addresses on a link. -/
  | connected (port : Nat)
  /-- A next hop, and the port to it if the entry has one. -/
  | via (nexthop : Ipv6) (port : Option Nat)
  | uN
  | uA (port : Nat)
  | uDT6 (table : Table)

structure Network (Node Table : Type) where
  /-- The table of all that is in no other. -/
  main : Table
  fib : Node → Table → List (Route (Action Table))
  /-- The table for what arrives at a port. -/
  ingress : Node → Nat → Table
  /-- Whether the node forwards what is not its own. -/
  forwards : Node → Bool
  /-- The two ends of each link. -/
  links : List ((Node × Nat) × (Node × Nat))

inductive State (Node Table : Type) where
  /-- At a node, looked up in a table; the port is the one of its arrival. -/
  | found (node : Node) (port : Nat) (table : Table) (packet : Packet)
  /-- Leaving through a port. -/
  | leaving (node : Node) (port : Nat) (packet : Packet)
  | delivered

inductive Event (Node Table : Type) where
  | visit (node : Node) (port : Nat)
  | decap (node : Node) (table : Table)
  | deliver (node : Node) (port : Nat)
  deriving DecidableEq

/-! ## Slots -/

/-- A shifted address has eight groups. -/
theorem length_shift (a : Ipv6) : (a.hextets.take 2 ++ a.hextets.drop 3 ++ [0]).length = 8 := by
  simp [a.length_eq]

theorem shift_lt (a : Ipv6) : ∀ h ∈ a.hextets.take 2 ++ a.hextets.drop 3 ++ [0], h < 65536 := by
  intro h hmem
  simp only [List.mem_append, List.mem_singleton] at hmem
  rcases hmem with (hmem | hmem) | rfl
  · exact a.lt h (List.mem_of_mem_take hmem)
  · exact a.lt h (List.mem_of_mem_drop hmem)
  · omega

/-- The first slot out, the others up. -/
def shift (a : Ipv6) : Ipv6 := ⟨_, length_shift a, shift_lt a⟩

/-- The slot behind the block goes, and a zero comes in at the end. -/
theorem hextets_shift {a : Ipv6} {b₀ b₁ slot : Nat} {slots : List Nat}
    (h : a.hextets = b₀ :: b₁ :: slot :: slots) : (shift a).hextets = b₀ :: b₁ :: slots ++ [0] := by
  show a.hextets.take 2 ++ a.hextets.drop 3 ++ [0] = _
  rw [h]
  rfl

/-- Where a packet goes. -/
def Packet.dst (p : Packet) : Ipv6 := p.outer.getD p.inner

/-! ## Steps -/

namespace Network

variable {Node Table : Type} (net : Network Node Table)

/-- What a table has for a destination, or else the main one. -/
def find (node : Node) (table : Table) (a : Ipv6) : List (Action Table) :=
  if lookup (net.fib node table) a = [] then lookup (net.fib node net.main) a
  else lookup (net.fib node table) a

/-- The ports through which a next hop is on link. -/
def onLink (node : Node) (table : Table) (nexthop : Ipv6) : List Nat :=
  (net.find node table nexthop).filterMap fun
    | .connected port => some port
    | _ => none

/-- The other ends of the links at a port. -/
def peers [DecidableEq Node] (node : Node) (port : Nat) : List (Node × Nat) :=
  net.links.flatMap fun (a, b) =>
    (if a = (node, port) then [b] else []) ++ if b = (node, port) then [a] else []

/-- Out of a port, if the node is one to forward. -/
def forward (node : Node) (p : Packet) (port : Nat) :
    List (List (Event Node Table) × State Node Table) :=
  if net.forwards node then [([], .leaving node port p)] else []

/-- What an action does with a packet; what it cannot be done to is lost. -/
def act (node : Node) (port : Nat) (table : Table) (p : Packet) :
    Action Table → List (List (Event Node Table) × State Node Table)
  | .own => [([.deliver node port], .delivered)]
  | .connected out => net.forward node p out
  | .via _ (some out) => net.forward node p out
  | .via nexthop none => (net.onLink node table nexthop).flatMap (net.forward node p)
  | .uN =>
    match p.outer with
    | none => []
    | some outer => [([], .found node port net.main ⟨some (shift outer), p.inner⟩)]
  | .uA out =>
    match p.outer with
    | none => []
    | some outer => net.forward node ⟨some (shift outer), p.inner⟩ out
  | .uDT6 table =>
    match p.outer with
    | none => []
    | some _ => [([.decap node table], .found node port table ⟨none, p.inner⟩)]

/-- The next states, with what happens on the way. -/
def next [DecidableEq Node] :
    State Node Table → List (List (Event Node Table) × State Node Table)
  | .found node port table p =>
    (net.find node table p.dst).flatMap (net.act node port table p)
  | .leaving node port p =>
    (net.peers node port).map fun (node', port') =>
      ([.visit node' port'], .found node' port' (net.ingress node' port') p)
  | .delivered => []

/-- At each state there is one thing that can happen, and in the end the packet is delivered. -/
inductive Delivers [DecidableEq Node] : State Node Table → List (Event Node Table) → Prop where
  | delivered : Delivers .delivered []
  | step {s s' events rest} : Only (net.next s) (events, s') → Delivers s' rest →
      Delivers s (events ++ rest)

/-! ## Rules

One for each action; with them a path is followed node by node. -/

variable {net}

/-- What is looked up in the table is found. -/
theorem find_of_lookup {node : Node} {table : Table} {a : Ipv6} {x : Action Table}
    (h : Only (lookup (net.fib node table) a) x) : Only (net.find node table a) x := by
  unfold find
  rw [if_neg h.1]
  exact h

/-- A miss in another table falls through to the main one. -/
theorem find_of_miss {node : Node} {table : Table} {a : Ipv6} {x : Action Table}
    (hmiss : lookup (net.fib node table) a = []) (h : Only (lookup (net.fib node net.main) a) x) :
    Only (net.find node table a) x := by
  unfold find
  rw [if_pos hmiss]
  exact h

theorem mem_peers [DecidableEq Node] {node node' : Node} {port port' : Nat} :
    (node', port') ∈ net.peers node port ↔
      ((node, port), (node', port')) ∈ net.links ∨ ((node', port'), (node, port)) ∈ net.links := by
  unfold peers
  simp only [List.mem_flatMap, List.mem_append]
  constructor
  · rintro ⟨⟨a, b⟩, hlink, hmem | hmem⟩
    · split at hmem
      · rename_i ha
        rw [List.mem_singleton.mp hmem, ← ha]
        exact Or.inl hlink
      · cases hmem
    · split at hmem
      · rename_i hb
        rw [List.mem_singleton.mp hmem, ← hb]
        exact Or.inr hlink
      · cases hmem
  · rintro (hlink | hlink)
    · exact ⟨_, hlink, Or.inl (by rw [if_pos rfl]; exact List.mem_singleton_self _)⟩
    · exact ⟨_, hlink, Or.inr (by rw [if_pos rfl]; exact List.mem_singleton_self _)⟩

theorem forward_only {node : Node} (h : net.forwards node = true) (p : Packet) (port : Nat) :
    Only (net.forward node p port) ([], .leaving node port p) := by
  unfold forward
  rw [if_pos h]
  exact only_singleton _

section Rules

variable [DecidableEq Node] {node : Node} {port : Nat} {table : Table} {p : Packet}
  {trace : List (Event Node Table)}

/-- A packet that is looked up goes on as the action says. -/
theorem delivers_found {x : Action Table} {events : List (Event Node Table)} {s' : State Node Table}
    (h : Only (net.find node table p.dst) x)
    (hact : Only (net.act node port table p x) (events, s')) (hrest : net.Delivers s' trace) :
    net.Delivers (.found node port table p) (events ++ trace) := by
  have hnext : Only (net.next (.found node port table p)) (events, s') := h.flatMap hact
  exact .step hnext hrest

/-- A packet that leaves is found at the peer. -/
theorem delivers_leaving {node' : Node} {port' : Nat} (h : Only (net.peers node port) (node', port'))
    (hrest : net.Delivers (.found node' port' (net.ingress node' port') p) trace) :
    net.Delivers (.leaving node port p) (.visit node' port' :: trace) := by
  have hnext : Only (net.next (.leaving node port p))
      ([.visit node' port'], .found node' port' (net.ingress node' port') p) := h.map _
  exact .step hnext hrest

/-- A packet for the node itself is delivered. -/
theorem delivers_own (h : Only (net.find node table p.dst) .own) :
    net.Delivers (.found node port table p) [.deliver node port] :=
  delivers_found h (only_singleton _) .delivered

/-- A packet for a connected subnet leaves by its port. -/
theorem delivers_connected {out : Nat} (h : Only (net.find node table p.dst) (.connected out))
    (hforwards : net.forwards node = true) (hrest : net.Delivers (.leaving node out p) trace) :
    net.Delivers (.found node port table p) trace :=
  delivers_found h (forward_only hforwards p out) hrest

/-- A packet for a next hop with a port leaves by it. -/
theorem delivers_via_port {nexthop : Ipv6} {out : Nat}
    (h : Only (net.find node table p.dst) (.via nexthop (some out)))
    (hforwards : net.forwards node = true) (hrest : net.Delivers (.leaving node out p) trace) :
    net.Delivers (.found node port table p) trace :=
  delivers_found h (forward_only hforwards p out) hrest

/-- A next hop that is on a link of the node. -/
theorem delivers_via {nexthop : Ipv6} {out : Nat}
    (h : Only (net.find node table p.dst) (.via nexthop none))
    (hlink : Only (net.find node table nexthop) (.connected out))
    (hforwards : net.forwards node = true) (hrest : net.Delivers (.leaving node out p) trace) :
    net.Delivers (.found node port table p) trace := by
  have hports : Only (net.onLink node table nexthop) out := hlink.filterMap rfl
  exact delivers_found h (hports.flatMap (forward_only hforwards p out)) hrest

theorem delivers_uN {outer inner : Ipv6} (h : Only (net.find node table outer) .uN)
    (hrest : net.Delivers (.found node port net.main ⟨some (shift outer), inner⟩) trace) :
    net.Delivers (.found node port table ⟨some outer, inner⟩) trace :=
  delivers_found (p := ⟨some outer, inner⟩) h (only_singleton _) hrest

/-- A uA shifts, and leaves by its port. -/
theorem delivers_uA {outer inner : Ipv6} {out : Nat}
    (h : Only (net.find node table outer) (.uA out)) (hforwards : net.forwards node = true)
    (hrest : net.Delivers (.leaving node out ⟨some (shift outer), inner⟩) trace) :
    net.Delivers (.found node port table ⟨some outer, inner⟩) trace :=
  delivers_found (p := ⟨some outer, inner⟩) h (forward_only hforwards _ out) hrest

/-- A uDT6 takes the outer header off, and looks up in its table. -/
theorem delivers_uDT6 {outer inner : Ipv6} {table' : Table}
    (h : Only (net.find node table outer) (.uDT6 table'))
    (hrest : net.Delivers (.found node port table' ⟨none, inner⟩) trace) :
    net.Delivers (.found node port table ⟨some outer, inner⟩) (.decap node table' :: trace) :=
  delivers_found (p := ⟨some outer, inner⟩) h (only_singleton _) hrest

end Rules
end Network
end Net
