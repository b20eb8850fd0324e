/-
  Networks with interfaces that are down.

  A link carries nothing when an interface at one of its ends is down; the tables of the nodes stay
  as they are.  A packet that is delivered over a path is delivered over the same path when no
  interface of the path is down, and else not at all (`delivers_cut_iff`).
-/
import Srv6Mrc.Lib.Srv6

namespace Net
namespace Network

variable {Node Table : Type}

/-- The network with the links of which both ends are up. -/
def cut (net : Network Node Table) (up : Node → Nat → Bool) : Network Node Table :=
  { net with links := net.links.filter fun (a, b) => up a.1 a.2 && up b.1 b.2 }

/-- Nothing is visited on the way to a port. -/
theorem not_visit_of_act {net : Network Node Table} {node node' : Node} {port port' : Nat} {table : Table} {p : Packet}
    {action : Action Table} {events : List (Event Node Table)} {s : State Node Table}
    (h : (events, s) ∈ net.act node port table p action) : .visit node' port' ∉ events := by
  have hforward : ∀ q out, (events, s) ∈ net.forward node q out → events = [] := by
    intro q out hmem
    unfold forward at hmem
    split at hmem
    · cases List.mem_singleton.mp hmem
      rfl
    · cases hmem
  have hnil : events = [] → .visit node' port' ∉ events := by
    rintro rfl
    exact List.not_mem_nil
  unfold act at h
  cases action with
  | own =>
    cases List.mem_singleton.mp h
    simp
  | connected out => exact hnil (hforward _ _ h)
  | via nexthop out =>
    cases out with
    | some out => exact hnil (hforward _ _ h)
    | none =>
      obtain ⟨out, -, hout⟩ := List.mem_flatMap.mp h
      exact hnil (hforward _ _ hout)
  | uN =>
    cases houter : p.outer with
    | none =>
      rw [houter] at h
      cases h
    | some outer =>
      rw [houter] at h
      cases List.mem_singleton.mp h
      exact List.not_mem_nil
  | uA out =>
    cases houter : p.outer with
    | none =>
      rw [houter] at h
      cases h
    | some outer =>
      rw [houter] at h
      exact hnil (hforward _ _ h)
  | uDT6 table' =>
    cases houter : p.outer with
    | none =>
      rw [houter] at h
      cases h
    | some outer =>
      rw [houter] at h
      cases List.mem_singleton.mp h
      simp

variable [DecidableEq Node] (net : Network Node Table)

/-- A port has at most one link. -/
def Wired : Prop :=
  ∀ node port, ∀ e ∈ net.peers node port, ∀ e' ∈ net.peers node port, e = e'

/-- The path has this interface: a packet arrives at it, or leaves by it. -/
def Crosses (path : List (Event Node Table)) (node : Node) (port : Nat) : Prop :=
  ∃ node' port', .visit node' port' ∈ path ∧
    ((node, port) = (node', port') ∨ (node, port) ∈ net.peers node' port')

/-- Every interface of the path is up. -/
def Clear (up : Node → Nat → Bool) (path : List (Event Node Table)) : Prop :=
  ∀ node port, net.Crosses path node port → up node port = true

variable {net} {up : Node → Nat → Bool}

theorem mem_peers_cut {node : Node} {port : Nat} {e : Node × Nat} :
    e ∈ (net.cut up).peers node port ↔
      e ∈ net.peers node port ∧ up node port = true ∧ up e.1 e.2 = true := by
  obtain ⟨node', port'⟩ := e
  rw [mem_peers, mem_peers]
  show _ ∈ net.links.filter _ ∨ _ ∈ net.links.filter _ ↔ _
  simp only [List.mem_filter, Bool.and_eq_true]
  constructor
  · rintro (⟨hlink, hup, hup'⟩ | ⟨hlink, hup', hup⟩)
    · exact ⟨Or.inl hlink, hup, hup'⟩
    · exact ⟨Or.inr hlink, hup, hup'⟩
  · rintro ⟨hlink | hlink, hup, hup'⟩
    · exact Or.inl ⟨hlink, hup, hup'⟩
    · exact Or.inr ⟨hlink, hup', hup⟩

theorem peers_symm {node node' : Node} {port port' : Nat}
    (h : (node', port') ∈ net.peers node port) : (node, port) ∈ net.peers node' port' :=
  mem_peers.mpr (mem_peers.mp h).symm

theorem clear_nil : net.Clear up [] := by
  rintro node port ⟨node', port', hmem, -⟩
  cases hmem

theorem clear_append {path path' : List (Event Node Table)} :
    net.Clear up (path ++ path') ↔ net.Clear up path ∧ net.Clear up path' := by
  constructor
  · intro h
    refine ⟨fun node port => ?_, fun node port => ?_⟩
    · rintro ⟨node', port', hmem, hcross⟩
      exact h node port ⟨node', port', List.mem_append_left _ hmem, hcross⟩
    · rintro ⟨node', port', hmem, hcross⟩
      exact h node port ⟨node', port', List.mem_append_right _ hmem, hcross⟩
  · rintro ⟨h, h'⟩ node port ⟨node', port', hmem, hcross⟩
    rcases List.mem_append.mp hmem with hmem | hmem
    · exact h node port ⟨node', port', hmem, hcross⟩
    · exact h' node port ⟨node', port', hmem, hcross⟩

theorem clear_of_not_visit {events : List (Event Node Table)}
    (h : ∀ node port, .visit node port ∉ events) : net.Clear up events := by
  rintro node port ⟨node', port', hmem, -⟩
  exact absurd hmem (h node' port')

/-- The link to an interface is crossed: both of its ends. -/
theorem clear_visit (hwired : net.Wired) {node node' : Node} {port port' : Nat}
    (h : (node', port') ∈ net.peers node port) :
    net.Clear up [.visit node' port'] ↔ up node port = true ∧ up node' port' = true := by
  have hback := peers_symm h
  constructor
  · intro hclear
    exact ⟨hclear node port ⟨node', port', List.mem_singleton_self _, Or.inr hback⟩,
      hclear node' port' ⟨node', port', List.mem_singleton_self _, Or.inl rfl⟩⟩
  · rintro ⟨hup, hup'⟩ node₀ port₀ ⟨node₁, port₁, hmem, hcross⟩
    cases List.mem_singleton.mp hmem
    rcases hcross with hsame | hpeer
    · cases hsame
      exact hup'
    · cases hwired node' port' _ hpeer _ hback
      exact hup

/-- A path that has one end of a link has the other. -/
theorem crosses_peer (hwired : net.Wired) {path : List (Event Node Table)} {node : Node}
    {port : Nat} {e : Node × Nat} (h : net.Crosses path node port) (he : e ∈ net.peers node port) :
    net.Crosses path e.1 e.2 := by
  obtain ⟨node', port', hmem, hsame | hpeer⟩ := h
  · cases hsame
    exact ⟨node, port, hmem, Or.inr he⟩
  · rw [hwired node port e he _ (peers_symm hpeer)]
    exact ⟨node', port', hmem, Or.inl rfl⟩

/-- What is visited is visited over a link. -/
theorem peer_of_visit {s : State Node Table} {path : List (Event Node Table)}
    (h : net.Delivers s path) {node : Node} {port : Nat} (hvisit : .visit node port ∈ path) :
    ∃ e, e ∈ net.peers node port := by
  induction h with
  | delivered => cases hvisit
  | @step s s' events rest hnext hrest ih =>
    rcases List.mem_append.mp hvisit with hvisit | hvisit
    · cases s with
      | delivered => exact absurd rfl hnext.1
      | found node' port' table p =>
        obtain ⟨action, -, hact⟩ := List.mem_flatMap.mp hnext.mem
        exact absurd hvisit (not_visit_of_act hact)
      | leaving node' port' p =>
        obtain ⟨e, hpeer, heq⟩ := List.mem_map.mp hnext.mem
        cases heq
        cases List.mem_singleton.mp hvisit
        exact ⟨_, peers_symm hpeer⟩
    · exact ih hvisit

/-- A path crosses only interfaces with a link. -/
theorem peer_of_crosses {s : State Node Table} {path : List (Event Node Table)}
    (h : net.Delivers s path) {node : Node} {port : Nat} (hcross : net.Crosses path node port) :
    ∃ e, e ∈ net.peers node port := by
  obtain ⟨node', port', hvisit, hsame | hpeer⟩ := hcross
  · cases hsame
    exact peer_of_visit h hvisit
  · exact ⟨_, peers_symm hpeer⟩

/-- There is one thing that can happen, so two that can are one. -/
theorem only_unique {α : Type} {l : List α} {a b : α} (ha : Only l a) (hb : Only l b) : a = b :=
  hb.2 a ha.mem

/-- Over a path, a packet is delivered as long as no interface of the path is down. -/
theorem delivers_cut_iff (hwired : net.Wired) {s : State Node Table}
    {path : List (Event Node Table)} (h : net.Delivers s path) (path' : List (Event Node Table)) :
    (net.cut up).Delivers s path' ↔ path' = path ∧ net.Clear up path := by
  induction h generalizing path' with
  | delivered =>
    constructor
    · intro hcut
      cases hcut with
      | delivered => exact ⟨rfl, clear_nil⟩
      | step hnext _ => exact absurd rfl hnext.1
    · rintro ⟨rfl, -⟩
      exact .delivered
  | @step s s' events rest hnext hrest ih =>
    cases s with
    | delivered => exact absurd rfl hnext.1
    | found node port table p =>
      -- a node acts as before, and visits nothing
      have hquiet : net.Clear up events := by
        refine clear_of_not_visit fun node' port' => ?_
        obtain ⟨action, -, hact⟩ := List.mem_flatMap.mp hnext.mem
        exact not_visit_of_act hact
      constructor
      · intro hcut
        cases hcut with
        | step hnext' hrest' =>
          cases only_unique hnext hnext'
          obtain ⟨rfl, hclear⟩ := (ih _).mp hrest'
          exact ⟨rfl, clear_append.mpr ⟨hquiet, hclear⟩⟩
      · rintro ⟨rfl, hclear⟩
        exact .step hnext ((ih rest).mpr ⟨rfl, (clear_append.mp hclear).2⟩)
    | leaving node port p =>
      -- a hop is there as long as both of its ends are up
      obtain ⟨⟨node', port'⟩, hpeer, heq⟩ := List.mem_map.mp hnext.mem
      cases heq
      constructor
      · intro hcut
        cases hcut with
        | step hnext' hrest' =>
          obtain ⟨e, hcutPeer, heq⟩ := List.mem_map.mp hnext'.mem
          obtain ⟨hpeer', hup, hup'⟩ := mem_peers_cut.mp hcutPeer
          cases hwired node port _ hpeer' _ hpeer
          cases heq
          obtain ⟨rfl, hclear⟩ := (ih _).mp hrest'
          exact ⟨rfl, clear_append.mpr ⟨(clear_visit hwired hpeer).mpr ⟨hup, hup'⟩, hclear⟩⟩
      · rintro ⟨rfl, hclear⟩
        obtain ⟨hfirst, hlast⟩ := clear_append.mp hclear
        obtain ⟨hup, hup'⟩ := (clear_visit hwired hpeer).mp hfirst
        have honly : Only ((net.cut up).peers node port) (node', port') :=
          only_of_mem (mem_peers_cut.mpr ⟨hpeer, hup, hup'⟩) fun e he =>
            hwired node port _ (mem_peers_cut.mp he).1 _ hpeer
        exact delivers_leaving honly ((ih rest).mpr ⟨rfl, hlast⟩)

end Network
end Net
