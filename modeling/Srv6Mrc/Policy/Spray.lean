/-
  `srv6_mrc/policy.py`: `EvSpray`, round-robin over the EVs of a flow.

  The planes turn over fastest: the index `seq % (planes * n)` is plane plus `planes` times the place
  of the spine in the flow's subset.  So a packet has a given EV exactly if its seq has a given
  residue (`pick_eq_iff`), and what holds of residues holds of EVs, in every window.
-/
import Srv6Mrc.Lib.Residues
import Srv6Mrc.Policy.Twin
import Srv6Mrc.Scenario.PolicySpec

namespace Srv6Mrc

namespace EvSpray

/-- `pick_ev` from the flow's spines on, over `numPlanes` planes. -/
def walkEv (numPlanes : Nat) (spines : List Nat) (seq : Int) : Except PolicyError (Nat × Nat) :=
  (fallback numPlanes spines seq).bind fun evIdx =>
    (index spines (evIdx / numPlanes % spines.length)).map fun spine => (evIdx % numPlanes, spine)

/-- `pick_ev`, in a topology of `numPlanes` planes: the EV, and the cache it leaves. -/
def pickEv (p : EvSpray) (numPlanes : Nat) (cache : SpineSubsets) (seq : Int) (flow : FlowKey) :
    Except PolicyError (Nat × Nat) × SpineSubsets :=
  let (spines, cache) := spinesForFlow p.numSpines p.pathsPerPlane.toNat cache flow
  (spines.bind fun spines => walkEv numPlanes spines seq, cache)

/-- The cache a policy has after picks for some flows. -/
def cacheAfter (p : EvSpray) (flows : List FlowKey) : SpineSubsets :=
  flows.foldl (fun cache flow => (spinesForFlow p.numSpines p.pathsPerPlane.toNat cache flow).2) []

variable (p : EvSpray)

theorem cacheAfter_coherent (flows : List FlowKey) :
    SpinesCoherent p.numSpines p.pathsPerPlane.toNat (p.cacheAfter flows) := by
  induction flows using List.reverseRecOn with
  | nil => exact fun _ h => absurd h List.not_mem_nil
  | append_singleton flows flow ih =>
    unfold cacheAfter
    rw [List.foldl_append]
    exact (spinesForFlow_eq ih flow).2

/-- The flow's subset: as many spines as asked for, all different. -/
theorem exists_spines (flow : FlowKey) :
    ∃ spines, selectSpinesForAddrs p.numSpines flow.srcAddr flow.dstAddr p.pathsPerPlane
        = .ok spines ∧ spines.length = p.pathsPerPlane ∧ spines.Nodup ∧
      ∀ spine ∈ spines, spine < p.numSpines :=
  selectSpinesForAddrs_ok p.in_range flow.srcAddr flow.dstAddr

/-- The cache is not observable. -/
theorem pickEv_eq {cache : SpineSubsets}
    (hcache : SpinesCoherent p.numSpines p.pathsPerPlane.toNat cache) (numPlanes : Nat) (seq : Int)
    {flow : FlowKey} {spines : List Nat}
    (hspines : selectSpinesForAddrs p.numSpines flow.srcAddr flow.dstAddr p.pathsPerPlane
      = .ok spines) :
    (p.pickEv numPlanes cache seq flow).1 = walkEv numPlanes spines seq ∧
      SpinesCoherent p.numSpines p.pathsPerPlane.toNat (p.pickEv numPlanes cache seq flow).2 := by
  have hcast : (p.pathsPerPlane.toNat : Int) = p.pathsPerPlane :=
    Int.toNat_of_nonneg (by have := p.in_range; omega)
  obtain ⟨hsel, hcache'⟩ := spinesForFlow_eq hcache flow
  refine ⟨?_, hcache'⟩
  show (spinesForFlow p.numSpines p.pathsPerPlane.toNat cache flow).1.bind
    (fun spines => walkEv numPlanes spines seq) = _
  rw [hsel, hcast, hspines, Outcome.ok_bind]

/-! ## Seqs and EVs -/

variable {numPlanes : Nat} {spines : List Nat}

/-- The residue of a seq, and the EV it stands for. -/
theorem walkEv_eq (hpos : 0 < numPlanes * spines.length) (seq : Int) :
    ∃ (r : Nat) (hr : r / numPlanes < spines.length),
      r = Residues.walk (numPlanes * spines.length) 0 1 seq ∧
      walkEv numPlanes spines seq = .ok (r % numPlanes, spines[r / numPlanes]) := by
  obtain ⟨hback, hlt⟩ := HealthAwareMrc.fallback_ok hpos seq
  have hr := Nat.div_lt_of_lt_mul hlt
  refine ⟨_, hr, ?_, ?_⟩
  · unfold Residues.walk
    rw [zero_add, mul_one]
  · unfold walkEv
    rw [hback, Outcome.ok_bind, Nat.mod_eq_of_lt hr, index_ok (List.getElem?_eq_getElem hr)]
    rfl

/-- A packet has an EV exactly if its seq has that EV's residue. -/
theorem walkEv_eq_iff (hnodup : spines.Nodup) {plane : Nat} (hplane : plane < numPlanes) {j : Nat}
    (hj : j < spines.length) (seq : Int) :
    walkEv numPlanes spines seq = .ok (plane, spines[j])
      ↔ Residues.walk (numPlanes * spines.length) 0 1 seq = plane + numPlanes * j := by
  have hpos : 0 < numPlanes * spines.length :=
    Nat.mul_pos (Nat.zero_lt_of_lt hplane) (Nat.zero_lt_of_lt hj)
  obtain ⟨r, hr, hwalk, hpick⟩ := walkEv_eq hpos seq
  rw [hpick, ← hwalk]
  constructor
  · intro h
    obtain ⟨hmod, hspine⟩ := Prod.mk.inj (Except.ok.inj h)
    have hdiv : r / numPlanes = j := (hnodup.getElem_inj_iff).mp hspine
    rw [← hmod, ← hdiv]
    exact (Nat.mod_add_div r numPlanes).symm
  · rintro rfl
    have hmod : (plane + numPlanes * j) % numPlanes = plane := by
      rw [Nat.add_mul_mod_self_left, Nat.mod_eq_of_lt hplane]
    have hdiv : (plane + numPlanes * j) / numPlanes = j := by
      rw [Nat.add_mul_div_left _ _ (Nat.zero_lt_of_lt hplane), Nat.div_eq_of_lt hplane, zero_add]
    simp only [hmod, hdiv]

/-- Packets of one EV have one residue. -/
theorem walk_eq_of_walkEv_eq (hnodup : spines.Nodup) (hpos : 0 < numPlanes * spines.length)
    {seq seq' : Int} (h : walkEv numPlanes spines seq = walkEv numPlanes spines seq') :
    Residues.walk (numPlanes * spines.length) 0 1 seq
      = Residues.walk (numPlanes * spines.length) 0 1 seq' := by
  obtain ⟨r, hr, hwalk, hpick⟩ := walkEv_eq hpos seq
  have hplane : r % numPlanes < numPlanes := Nat.mod_lt r (Nat.pos_of_mul_pos_right hpos)
  have hseq := (walkEv_eq_iff hnodup hplane hr seq).mp hpick
  have hseq' := (walkEv_eq_iff hnodup hplane hr seq').mp (h.symm.trans hpick)
  exact hseq.trans hseq'.symm

/-- The residue of an EV is one. -/
theorem residue_lt {plane j : Nat} (hplane : plane < numPlanes) (hj : j < spines.length) :
    plane + numPlanes * j < numPlanes * spines.length := by
  calc plane + numPlanes * j < numPlanes + numPlanes * j := Nat.add_lt_add_right hplane _
    _ = numPlanes * (j + 1) := by rw [Nat.mul_succ, Nat.add_comm]
    _ ≤ numPlanes * spines.length := Nat.mul_le_mul_left _ hj

/-- The plane of a packet is the residue of its seq modulo the planes. -/
theorem plane_eq {seq : Int} {ev : Nat × Nat} (h : walkEv numPlanes spines seq = .ok ev) :
    (ev.1 : Int) = seq % numPlanes := by
  have hpos : 0 < numPlanes * spines.length := by
    by_contra hzero
    unfold walkEv fallback at h
    rw [if_pos (by omega)] at h
    cases h
  have hplanes : 0 < numPlanes := Nat.pos_of_mul_pos_right hpos
  obtain ⟨r, hr, hwalk, hpick⟩ := walkEv_eq hpos seq
  cases hpick.symm.trans h
  have hcast := Residues.cast_walk hpos 0 1 seq
  rw [← hwalk, zero_add, mul_one] at hcast
  show ((r % numPlanes : Nat) : Int) = _
  rw [Int.natCast_mod, hcast, Nat.cast_mul, Int.emod_emod_of_dvd _ (Int.dvd_mul_right _ _)]

/-! ## Every EV evenly -/

/-- Round-robin, whatever the topology and whatever other flows the policy picks for in between.
    `planes * n` consecutive packets of a flow have each EV of its set once; over any interval no EV
    comes up twice more often than another; and two packets in a row have different planes if there
    are two. -/
theorem spray_even (p : EvSpray) (numPlanes : Nat) (flow : FlowKey) (flows : Int → List FlowKey) :
    ∃ spines, selectSpinesForAddrs p.numSpines flow.srcAddr flow.dstAddr p.pathsPerPlane
        = .ok spines ∧ spines.length = p.pathsPerPlane ∧ spines.Nodup ∧
      let pick := fun seq => (p.pickEv numPlanes (p.cacheAfter (flows seq)) seq flow).1
      (0 < numPlanes → ∀ seq, ∃ ev, pick seq = .ok ev ∧ ev.1 < numPlanes ∧ ev.2 ∈ spines) ∧
      (∀ start, ∀ plane < numPlanes, ∀ spine ∈ spines,
        ((Finset.Ico start (start + numPlanes * p.pathsPerPlane)).filter fun seq =>
          pick seq = .ok (plane, spine)).card = 1) ∧
      (∀ start stop, ∀ plane < numPlanes, ∀ spine ∈ spines, ∀ plane' < numPlanes,
        ∀ spine' ∈ spines,
        ((Finset.Ico start stop).filter fun seq => pick seq = .ok (plane, spine)).card
          ≤ ((Finset.Ico start stop).filter fun seq => pick seq = .ok (plane', spine')).card + 1) ∧
      (2 ≤ numPlanes → ∀ seq ev ev', pick seq = .ok ev → pick (seq + 1) = .ok ev' →
        ev.1 ≠ ev'.1) := by
  obtain ⟨spines, hsel, hlen, hnodup, -⟩ := p.exists_spines flow
  refine ⟨spines, hsel, hlen, hnodup, ?_⟩
  intro pick
  have hwalk : ∀ seq, pick seq = walkEv numPlanes spines seq := fun seq =>
    (p.pickEv_eq (p.cacheAfter_coherent (flows seq)) numPlanes seq hsel).1
  have hspines : 0 < spines.length := by
    have := p.in_range
    omega
  have hone : IsCoprime (1 : Int) (numPlanes * spines.length : Nat) := isCoprime_one_left
  -- the packets with an EV are those with its residue
  have hfilter : ∀ (start stop : Int), ∀ plane < numPlanes, ∀ j, ∀ hj : j < spines.length,
      (Finset.Ico start stop).filter (fun seq => pick seq = .ok (plane, spines[j]))
        = (Finset.Ico start stop).filter fun seq =>
            Residues.walk (numPlanes * spines.length) 0 1 seq = plane + numPlanes * j :=
    fun start stop plane hplane j hj => Finset.filter_congr fun seq _ => by
      rw [hwalk, walkEv_eq_iff hnodup hplane hj]
  refine ⟨fun hplanes seq => ?_, fun start plane hplane spine hspine => ?_,
    fun start stop plane hplane spine hspine plane' hplane' spine' hspine' => ?_,
    fun hplanes seq ev ev' hev hev' => ?_⟩
  · obtain ⟨r, hr, -, hpick⟩ := walkEv_eq (Nat.mul_pos hplanes hspines) seq
    exact ⟨_, (hwalk seq).trans hpick, Nat.mod_lt _ hplanes, List.getElem_mem hr⟩
  · obtain ⟨j, hj, rfl⟩ := List.getElem_of_mem hspine
    have hstop : start + numPlanes * p.pathsPerPlane
        = start + (numPlanes * spines.length : Nat) := by rw [Nat.cast_mul, hlen]
    rw [hstop, hfilter _ _ plane hplane j hj]
    exact Residues.card_eq_one (Nat.mul_pos (Nat.zero_lt_of_lt hplane) hspines) hone 0 start
      (residue_lt hplane hj)
  · obtain ⟨j, hj, rfl⟩ := List.getElem_of_mem hspine
    obtain ⟨j', hj', rfl⟩ := List.getElem_of_mem hspine'
    rw [hfilter _ _ plane hplane j hj, hfilter _ _ plane' hplane' j' hj']
    exact Residues.count_le_succ (Nat.mul_pos (Nat.zero_lt_of_lt hplane) hspines) hone 0 start stop
      (residue_lt hplane hj) (residue_lt hplane' hj')
  · have h := plane_eq ((hwalk seq).symm.trans hev)
    have h' := plane_eq ((hwalk (seq + 1)).symm.trans hev')
    intro heq
    rw [heq, h'] at h
    have hdvd : (numPlanes : Int) ∣ 1 := by
      have hsub := Int.ModEq.dvd (h.symm : seq ≡ seq + 1 [ZMOD numPlanes])
      rwa [add_sub_cancel_left] at hsub
    have hle := Int.le_of_dvd one_pos hdvd
    omega

/-- Four packets of a flow over two planes and two of three spines, from any start. -/
theorem spray_even_twoPlanes :
    let p : EvSpray := ⟨2, 3, by decide⟩
    ∃ spines, selectSpinesForAddrs 3 "a" "b" 2 = .ok spines ∧ ∀ start : Int,
      ((Finset.Ico start (start + 2 * 2)).filter fun seq =>
        (p.pickEv 2 (p.cacheAfter []) seq ⟨"a", "b", 1, 2⟩).1 = .ok (1, spines.headD 0)).card
        = 1 := by
  intro p
  obtain ⟨spines, hsel, hlen, -, -, hcard, -⟩ := spray_even p 2 ⟨"a", "b", 1, 2⟩ fun _ => []
  have hlen' : (spines.length : Int) = 2 := hlen
  refine ⟨spines, hsel, fun start => ?_⟩
  refine hcard start 1 (by decide) _ ?_
  cases spines with
  | nil => cases hlen'
  | cons spine spines => exact List.mem_cons_self ..

end EvSpray

end Srv6Mrc
