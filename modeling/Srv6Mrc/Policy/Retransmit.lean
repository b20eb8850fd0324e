/-
  `srv6_mrc/runner.py`: `pick_other_ev` and `retransmit_nacked`, the EV of a retransmit.

  A NACKed packet is to go out on another EV than the one it was trimmed on.  The sender asks its
  policy for the next seqs, eight at most, and takes the first EV that is another one.

  The round-robin changes the EV with every seq.  For the weighted draw the points of five seqs in a
  row leave no gap of a third of the unit interval, modulo one (`five_apart`), and an EV has no piece
  of more than two thirds if another one is usable: the heaviest weighs twice the lightest.
-/
import Srv6Mrc.Policy.Exact
import Srv6Mrc.Policy.FlowFloor
import Srv6Mrc.Policy.Spray
import Srv6Mrc.Trim.Nack

namespace Srv6Mrc

open Quantile Normalise

/-! ## The loop -/

section Loop

variable {σ ε : Type}

/-- Tries from a seq on, `n` of them before the last one, whose EV is taken whatever it is. -/
def tries (pick : σ → Int → Except ε (Nat × Nat) × σ) (avoid : Int × Int) :
    Nat → Int → σ → Except ε (Nat × Nat) × σ
  | 0, seq, st => pick st seq
  | n + 1, seq, st =>
    match pick st seq with
    | (.error err, st) => (.error err, st)
    | (.ok ev, st) =>
      if ((ev.1 : Int), (ev.2 : Int)) ≠ avoid then (.ok ev, st)
      else tries pick avoid n (seq + 1) st

/-- `pick_other_ev`: eight tries, from the next seq on. -/
def pickOtherEv (pick : σ → Int → Except ε (Nat × Nat) × σ) (st : σ) (seq : Int)
    (avoid : Int × Int) : Except ε (Nat × Nat) × σ :=
  tries pick avoid 7 (seq + 1) st

/-- `retransmit_nacked`: the seq and the EV of each packet that it emits. -/
def retransmitNacked (pick : σ → Int → Except ε (Nat × Nat) × σ) :
    σ → List NackRequest → Except ε (List (Int × Nat × Nat)) × σ
  | st, [] => (.ok [], st)
  | st, r :: requests =>
    match pickOtherEv pick st r.seq (r.plane, r.path) with
    | (.error err, st) => (.error err, st)
    | (.ok ev, st) =>
      let (rest, st) := retransmitNacked pick st requests
      (rest.map ((r.seq, ev) :: ·), st)

variable {pick : σ → Int → Except ε (Nat × Nat) × σ}

/-- A policy whose picks depend on the seq only: if one of the seqs has another EV, the tries end with
    the EV of one that has. -/
theorem tries_other {Ok : σ → Prop} {evAt : Int → Nat × Nat}
    (hpick : ∀ st seq, Ok st → (pick st seq).1 = .ok (evAt seq) ∧ Ok (pick st seq).2)
    {avoid : Int × Int} {n : Nat} {seq : Int} {st : σ} (hst : Ok st)
    (hother : ∃ k ≤ n, (((evAt (seq + k)).1 : Int), ((evAt (seq + k)).2 : Int)) ≠ avoid) :
    (∃ k ≤ n, (tries pick avoid n seq st).1 = .ok (evAt (seq + k)) ∧
      (((evAt (seq + k)).1 : Int), ((evAt (seq + k)).2 : Int)) ≠ avoid) ∧
      Ok (tries pick avoid n seq st).2 := by
  induction n generalizing seq st with
  | zero =>
    obtain ⟨k, hk, hne⟩ := hother
    obtain rfl : k = 0 := by omega
    obtain ⟨hev, hok⟩ := hpick st seq hst
    refine ⟨⟨0, le_rfl, ?_, hne⟩, hok⟩
    rw [Nat.cast_zero, add_zero]
    exact hev
  | succ n ih =>
    obtain ⟨hev, hok⟩ := hpick st seq hst
    unfold tries
    generalize pick st seq = r at hev hok ⊢
    obtain ⟨r, st'⟩ := r
    obtain rfl : r = .ok (evAt seq) := hev
    dsimp only
    by_cases hne : (((evAt seq).1 : Int), ((evAt seq).2 : Int)) ≠ avoid
    · rw [if_pos hne]
      refine ⟨⟨0, Nat.zero_le _, ?_⟩, hok⟩
      rw [Nat.cast_zero, add_zero]
      exact ⟨rfl, hne⟩
    · -- the first seq has the EV to avoid, so it is one of the others that has another
      rw [if_neg hne]
      have hshift : ∀ k : Nat, seq + 1 + (k : Int) = seq + (k + 1 : Nat) := fun k => by
        rw [Nat.cast_succ, add_comm (k : Int) 1, ← add_assoc]
      obtain ⟨k, hk, hk'⟩ := hother
      obtain ⟨k, rfl⟩ : ∃ j, k = j + 1 := by
        cases k with
        | zero =>
          rw [Nat.cast_zero, add_zero] at hk'
          exact absurd hk' hne
        | succ j => exact ⟨j, rfl⟩
      rw [← hshift] at hk'
      obtain ⟨⟨j, hj, htried⟩, hok'⟩ := ih hok ⟨k, by omega, hk'⟩
      rw [hshift] at htried
      exact ⟨⟨j + 1, by omega, htried⟩, hok'⟩

/-- An EV for a retransmit of a seq: one of the flow's, what the policy picks for one of the next
    eight seqs, and not the one to avoid. -/
def Other (pick : σ → Int → Except ε (Nat × Nat) × σ) (evs : List (Nat × Nat)) (st : σ) (seq : Int)
    (avoid : Int × Int) (ev : Nat × Nat) : Prop :=
  ev ∈ evs ∧ (∃ k : Nat, 1 ≤ k ∧ k ≤ 8 ∧ (pick st (seq + k)).1 = .ok ev) ∧
    ((ev.1 : Int), (ev.2 : Int)) ≠ avoid

/-- Retransmits by a policy go out on other EVs of the flow than they were trimmed on: one, and a
    queue of them. -/
structure Elsewhere (pick : σ → Int → Except ε (Nat × Nat) × σ) (evs : List (Nat × Nat)) (st : σ) :
    Prop where
  one : ∀ seq avoid, ∃ ev, (pickOtherEv pick st seq avoid).1 = .ok ev ∧
    Other pick evs st seq avoid ev
  queue : ∀ requests, ∃ sent, (retransmitNacked pick st requests).1 = .ok sent ∧
    List.Forall₂ (fun r packet => packet.1 = r.seq ∧
      Other pick evs st r.seq (r.plane, r.path) packet.2) requests sent

/-- The tries of one retransmit, in any state that the policy can be in. -/
theorem pickOtherEv_other {evs : List (Nat × Nat)} {Ok : σ → Prop} {evAt : Int → Nat × Nat}
    (hpick : ∀ st seq, Ok st → (pick st seq).1 = .ok (evAt seq) ∧ Ok (pick st seq).2)
    (hevs : ∀ seq, evAt seq ∈ evs)
    (hother : ∀ (seq : Int) (avoid : Int × Int), ∃ k ≤ 7,
      (((evAt (seq + (k : Nat))).1 : Int), ((evAt (seq + (k : Nat))).2 : Int)) ≠ avoid)
    {st st' : σ} (hst : Ok st) (hst' : Ok st') (seq : Int) (avoid : Int × Int) :
    (∃ ev, (pickOtherEv pick st' seq avoid).1 = .ok ev ∧ Other pick evs st seq avoid ev) ∧
      Ok (pickOtherEv pick st' seq avoid).2 := by
  obtain ⟨⟨k, hk, hev, hne⟩, hok⟩ := tries_other hpick hst' (hother (seq + 1) avoid)
  refine ⟨⟨_, hev, hevs _, ⟨k + 1, by omega, by omega, ?_⟩, hne⟩, hok⟩
  rw [Nat.cast_succ, add_comm (k : Int) 1, ← add_assoc]
  exact (hpick st _ hst).1

theorem elsewhere {evs : List (Nat × Nat)} (Ok : σ → Prop) (evAt : Int → Nat × Nat)
    (hpick : ∀ st seq, Ok st → (pick st seq).1 = .ok (evAt seq) ∧ Ok (pick st seq).2)
    (hevs : ∀ seq, evAt seq ∈ evs)
    (hother : ∀ (seq : Int) (avoid : Int × Int), ∃ k ≤ 7,
      (((evAt (seq + (k : Nat))).1 : Int), ((evAt (seq + (k : Nat))).2 : Int)) ≠ avoid)
    {st : σ} (hst : Ok st) : Elsewhere pick evs st where
  one seq avoid := (pickOtherEv_other hpick hevs hother hst hst seq avoid).1
  queue requests := by
    -- the state changes from one request to the next
    suffices hany : ∀ st', Ok st' → ∃ sent, (retransmitNacked pick st' requests).1 = .ok sent ∧
        List.Forall₂ (fun r packet => packet.1 = r.seq ∧
          Other pick evs st r.seq (r.plane, r.path) packet.2) requests sent from hany st hst
    induction requests with
    | nil => exact fun st' _ => ⟨[], rfl, List.Forall₂.nil⟩
    | cons r requests ih =>
      intro st' hst'
      obtain ⟨⟨ev, hev, hnew⟩, hok⟩ :=
        pickOtherEv_other hpick hevs hother hst hst' r.seq (r.plane, r.path)
      obtain ⟨sent, hsent, hall⟩ := ih _ hok
      refine ⟨(r.seq, ev) :: sent, ?_, List.Forall₂.cons ⟨rfl, hnew⟩ hall⟩
      unfold retransmitNacked
      generalize pickOtherEv pick st' r.seq (r.plane, r.path) = tried at hev hsent ⊢
      obtain ⟨tried, st''⟩ := tried
      obtain rfl : tried = .ok ev := hev
      dsimp only at hsent ⊢
      rw [hsent]
      rfl

end Loop

/-! ## The weighted draw -/

/-- One seq on, the point moves by the golden ratio. -/
theorem drawBits_succ (seq : Int) (flow : FlowKey) :
    (drawBits (seq + 1) flow : Int) = drawBits seq flow + 0x9E3779B97F4A7C15 ∨
      (drawBits (seq + 1) flow : Int) = drawBits seq flow + 0x9E3779B97F4A7C15 - 2 ^ 64 := by
  have hg : (goldenGamma : Int) = 0x9E3779B97F4A7C15 := rfl
  unfold drawBits
  rw [hg]
  omega

/-- Two of five points in a row are two thirds apart. -/
theorem five_apart (seq : Int) (flow : FlowKey) :
    ∃ j : Nat, j ≤ 4 ∧ ∃ k : Nat, k ≤ 4 ∧
      2 * 2 ^ 64 ≤ 3 * ((drawBits (seq + j) flow : Int) - drawBits (seq + k) flow) := by
  let x : Nat → Int := fun k => drawBits (seq + k) flow
  have hx : ∀ k, x k < 2 ^ 64 := fun k => by
    show (drawBits (seq + k) flow : Int) < _
    exact_mod_cast drawBits_lt (seq + k) flow
  have hstep : ∀ k, x (k + 1) = x k + 0x9E3779B97F4A7C15 ∨
      x (k + 1) = x k + 0x9E3779B97F4A7C15 - 2 ^ 64 := by
    intro k
    have h := drawBits_succ (seq + k) flow
    rwa [add_assoc, ← Nat.cast_succ] at h
  by_contra hnear
  push Not at hnear
  have hclose : ∀ j k, j ≤ 4 → k ≤ 4 → 3 * (x j - x k) < 2 * 2 ^ 64 := fun j k hj hk =>
    hnear j hj k hk
  -- Around the circle they come in the order 0, 2, 4, 1, 3.  Wherever it is cut, the points next to
  -- the cut are too far apart.
  have h30 := hclose 3 0 (by omega) (by omega)
  have h13 := hclose 1 3 (by omega) (by omega)
  have h41 := hclose 4 1 (by omega) (by omega)
  have h24 := hclose 2 4 (by omega) (by omega)
  have h02 := hclose 0 2 (by omega) (by omega)
  have h1 : x 1 = _ ∨ x 1 = _ := hstep 0
  have h2 : x 2 = _ ∨ x 2 = _ := hstep 1
  have h3 : x 3 = _ ∨ x 3 = _ := hstep 2
  have h4 : x 4 = _ ∨ x 4 = _ := hstep 3
  have hlt := hx 0
  have hlow : 0 ≤ x 0 := Int.natCast_nonneg _
  omega

/-- An index with at most two thirds of the weight is not drawn five times in a row. -/
theorem exists_other {ws : List ℚ} (hws : ∀ w ∈ ws, 0 ≤ w) (hsum : 0 < ws.sum) {n : Nat}
    (hn : n < ws.length) (hshare : 3 * ws[n] ≤ 2 * ws.sum) (seq : Int) (flow : FlowKey) :
    ∃ k : Nat, k ≤ 4 ∧ weightedPick (F := Exact) (seq + k) flow (buildCdf ws) ≠ n := by
  by_contra hsame
  push Not at hsame
  have hpiece : ∀ k : Nat, k ≤ 4 → InPiece ws n (drawBits (seq + k) flow / 2 ^ 64) := fun k hk =>
    ((weightedPick_eq_iff hws hsum (seq + k) flow n).mp (hsame k hk)).2
  obtain ⟨j, hj, k, hk, hfar⟩ := five_apart seq flow
  have hnear := sub_lt_of_inPiece hn (hpiece j hj) (hpiece k hk)
  have htwo : ws[n] / ws.sum ≤ 2 / 3 := by
    rw [div_le_div_iff₀ hsum three_pos]
    linarith
  have hfar' : (2 * 2 ^ 64 : ℚ) ≤ 3 * ((drawBits (seq + j) flow : ℚ) - drawBits (seq + k) flow) := by
    exact_mod_cast hfar
  rw [← sub_div, div_lt_iff₀ (by positivity)] at hnear
  linarith

/-! ## Two usable EVs -/

namespace HealthAwareMrc

variable {live : HealthAwareMrc}

/-- Two EVs of the flow's set are not ASSUMED_BAD. -/
def TwoUsable (live : HealthAwareMrc) (s : live.table.Store) (flow : FlowKey) : Prop :=
  ∃ e e', e ≠ e' ∧ live.OfFlow flow e ∧ live.OfFlow flow e' ∧
    (s.evs live.tenant e).state ≠ .assumedBad ∧ (s.evs live.tenant e').state ≠ .assumedBad

/-- No EV weighs more than twice a usable one. -/
theorem stateWeight_le_two_mul {st st' : EVState} (h : st' ≠ .assumedBad) :
    stateWeight st ≤ 2 * stateWeight st' := by
  have hone : stateWeight st ≤ 1 := by
    cases st <;> norm_num [stateWeight]
  have hhalf : 1 ≤ 2 * stateWeight st' := by
    cases st' <;> simp_all [stateWeight]
  exact hone.trans hhalf

/-- An EV of the flow's set is one of the pairs that a pick decodes to. -/
theorem mem_pairs {flow : FlowKey} {spines : List Nat} (hspines : live.spinesOf flow = .ok spines)
    {e : live.table.EV} (he : live.OfFlow flow e) :
    ((e.1 : Nat), (e.2 : Nat)) ∈ List.range live.table.numPlanes ×ˢ spines := by
  obtain ⟨spines', hspines', hmem⟩ := he
  cases hspines.symm.trans hspines'
  exact List.mem_product.mpr ⟨List.mem_range.mpr e.1.isLt, hmem⟩

/-- With two usable EVs, no EV of the flow has more than two thirds of its weight. -/
theorem share_le {cb : Option (EVStateTable.TransitionCb live.table)}
    {calls : List EVStateTable.Call} {s : live.table.Store} (hs : live.table.AtPoint cb calls s)
    {flow : FlowKey} {spines : List Nat} (hspines : live.spinesOf flow = .ok spines)
    (htwo : live.TwoUsable s flow) {flat : List ℚ}
    (hmap : flat.map some = (List.range live.table.numPlanes ×ˢ spines).map fun ev =>
      entry (s.weightsCache live.tenant) ev.1 ev.2)
    (hws : ∀ w ∈ flat, 0 ≤ w) :
    (∃ w ∈ flat, 0 < w) ∧ ∀ n, ∀ hn : n < flat.length, 3 * flat[n] ≤ 2 * flat.sum := by
  have htotal : 0 < live.table.totalWeight live.tenant s := hs.totalWeight_pos live.tenant
  -- the weight gathered at the index of an EV
  have hat : ∀ (e : live.table.EV) (m : Nat),
      (List.range live.table.numPlanes ×ˢ spines)[m]? = some ((e.1 : Nat), (e.2 : Nat)) →
      flat[m]? = some (stateWeight (s.evs live.tenant e).state
        / live.table.totalWeight live.tenant s) := by
    intro e m hm
    have hentry := entry_of_flat hmap hm
    rw [hs.entry_weightsCache live.tenant_mem e] at hentry
    obtain ⟨w, hw, hsome⟩ := Option.map_eq_some_iff.mp hentry
    rw [hw]
    exact hsome
  -- a usable EV has a positive weight, at some index
  have husable : ∀ e : live.table.EV, live.OfFlow flow e →
      (s.evs live.tenant e).state ≠ .assumedBad →
      ∃ (m : Nat) (hm : m < flat.length), 0 < flat[m] ∧
        (List.range live.table.numPlanes ×ˢ spines)[m]? = some ((e.1 : Nat), (e.2 : Nat)) ∧
        ∀ st, stateWeight st / live.table.totalWeight live.tenant s ≤ 2 * flat[m] := by
    intro e he hne
    obtain ⟨m, hm⟩ := List.mem_iff_getElem?.mp (mem_pairs hspines he)
    obtain ⟨hlt, hflat⟩ := List.getElem?_eq_some_iff.mp (hat e m hm)
    refine ⟨m, hlt, ?_, hm, fun st => ?_⟩
    · rw [hflat]
      refine div_pos (lt_of_le_of_ne (EVStateTable.stateWeight_nonneg _) fun h0 => ?_) htotal
      exact hne (EVStateTable.stateWeight_eq_zero.mp h0.symm)
    · rw [hflat, ← mul_div_assoc]
      exact div_le_div_of_nonneg_right (stateWeight_le_two_mul hne) htotal.le
  obtain ⟨e, e', hdiff, he, he', hgood, hgood'⟩ := htwo
  obtain ⟨m, hm, hpos, hget, hle⟩ := husable e he hgood
  obtain ⟨m', hm', -, hget', hle'⟩ := husable e' he' hgood'
  have hsum : 0 < flat.sum := sum_pos_of_mem hws (List.getElem_mem hm) hpos
  refine ⟨⟨_, List.getElem_mem hm, hpos⟩, fun n hn => ?_⟩
  -- the EV at the index
  have hlen : flat.length = (List.range live.table.numPlanes ×ˢ spines).length := by
    have hcong := congrArg List.length hmap
    rwa [List.length_map, List.length_map] at hcong
  obtain ⟨c, hc⟩ : ∃ c : live.table.EV,
      (List.range live.table.numPlanes ×ˢ spines)[n]? = some ((c.1 : Nat), (c.2 : Nat)) := by
    obtain ⟨qs, hqs, -⟩ := live.exists_spines flow
    cases hspines.symm.trans hqs
    obtain ⟨ev, hev⟩ : ∃ ev, (List.range live.table.numPlanes ×ˢ qs.map Fin.val)[n]? = some ev :=
      ⟨_, List.getElem?_eq_getElem (hlen ▸ hn)⟩
    rw [← map_evsOver, List.getElem?_map] at hev
    obtain ⟨c, hc, -⟩ := Option.map_eq_some_iff.mp hev
    refine ⟨c, ?_⟩
    rw [← map_evsOver, List.getElem?_map, hc]
    rfl
  have hweight := hat c n hc
  rw [List.getElem?_eq_getElem hn] at hweight
  by_cases hcm : n = m
  · -- the index of the first usable EV: the other is elsewhere
    subst hcm
    have hne : n ≠ m' := by
      rintro rfl
      obtain ⟨hplane, hpath⟩ := Prod.mk.inj (Option.some.inj (hget.symm.trans hget'))
      exact hdiff (Prod.ext (Fin.ext hplane) (Fin.ext hpath))
    have hboth := getElem_add_getElem_le hws hsum hn hm' hne
    have hhalf := hle' (s.evs live.tenant c).state
    rw [← Option.some.inj hweight] at hhalf
    linarith
  · have hboth := getElem_add_getElem_le hws hsum hn hm hcm
    have hhalf := hle (s.evs live.tenant c).state
    rw [← Option.some.inj hweight] at hhalf
    linarith

/-- A policy that draws from the table's grid retransmits elsewhere. -/
theorem drawn_elsewhere {σ : Type} {pick : σ → Int → Except PolicyError (Nat × Nat) × σ}
    (Ok : σ → Prop) {cb : Option (EVStateTable.TransitionCb live.table)}
    {calls : List EVStateTable.Call} {s : live.table.Store} (hs : live.table.AtPoint cb calls s)
    {flow : FlowKey} {spines : List Nat} (hspines : live.spinesOf flow = .ok spines)
    (htwo : live.TwoUsable s flow)
    (hpick : ∀ st seq, Ok st → (∃ ev, (pick st seq).1 = .ok ev ∧
      Drawn (s.weightsCache live.tenant) live.table.numPlanes spines seq flow ev) ∧
      Ok (pick st seq).2) {st : σ} (hst : Ok st) :
    Elsewhere pick (List.range live.table.numPlanes ×ˢ spines) st := by
  obtain ⟨⟨ev, hev, -, -, flat, hflat, hmap, -⟩, -⟩ := hpick st 0 hst
  have hfresh : EVStateTable.WeightsFresh s :=
    hs.inv (EVStateTable.fresh_after cb calls) EVStateTable.fresh_writeInv
  have hws : ∀ w ∈ flat, 0 ≤ w := by
    intro w hw
    obtain ⟨row, hrow, hw⟩ := flatWeights_mem hflat w hw
    rw [hfresh live.tenant live.tenant_mem] at hrow
    exact EVStateTable.gridWeights_nonneg _ row hrow w hw
  obtain ⟨hsome, hshare⟩ := share_le hs hspines htwo hmap hws
  have hsum : 0 < flat.sum := by
    obtain ⟨w, hw, hw0⟩ := hsome
    exact sum_pos_of_mem hws hw hw0
  let pairs := List.range live.table.numPlanes ×ˢ spines
  let drawn : Int → Nat := fun seq => weightedPick (F := Exact) seq flow (buildCdf flat)
  -- the pair at the index drawn
  have hat : ∀ st seq, Ok st →
      ∃ ev, (pick st seq).1 = .ok ev ∧ pairs[drawn seq]? = some ev := by
    intro st seq hok
    obtain ⟨⟨ev, hev, -, -, flat', hflat', -, hpos⟩, -⟩ := hpick st seq hok
    cases hflat.symm.trans hflat'
    exact ⟨ev, hev, (hpos hsome).1⟩
  have hnodup : pairs.Nodup := by
    obtain ⟨qs, hqs, -, hnd⟩ := live.exists_spines flow
    cases hspines.symm.trans hqs
    exact List.nodup_range.product (hnd.map Fin.val_injective)
  refine elsewhere Ok (fun seq => (pairs[drawn seq]?).getD (0, 0)) (fun st seq hok => ?_)
    (fun seq => ?_) (fun seq avoid => ?_) hst
  · obtain ⟨ev, hev, hget⟩ := hat st seq hok
    refine ⟨?_, (hpick st seq hok).2⟩
    rw [hev, hget]
    rfl
  · obtain ⟨ev, -, hget⟩ := hat st seq hst
    rw [hget]
    exact List.mem_of_getElem? hget
  · -- one index is not drawn five times in a row
    by_contra hsame
    push Not at hsame
    obtain ⟨hlt, -⟩ := (weightedPick_eq_iff hws hsum seq flow _).mp rfl
    obtain ⟨k, hk, hne⟩ := exists_other hws hsum hlt (hshare _ hlt) seq flow
    obtain ⟨ev₀, -, hget₀⟩ := hat st seq hst
    obtain ⟨ev, -, hget⟩ := hat st (seq + k) hst
    have h₀ := hsame 0 (by omega)
    have h := hsame k (by omega)
    rw [Nat.cast_zero, add_zero, hget₀, Option.getD_some] at h₀
    rw [hget, Option.getD_some, ← h₀] at h
    obtain ⟨hplane, hpath⟩ := Prod.mk.inj h
    have heq : ev = ev₀ := Prod.ext (by exact_mod_cast hplane) (by exact_mod_cast hpath)
    rw [heq] at hget
    obtain ⟨hlt₀, hget₀⟩ := List.getElem?_eq_some_iff.mp hget₀
    obtain ⟨hlt₁, hget⟩ := List.getElem?_eq_some_iff.mp hget
    exact hne ((hnodup.getElem_inj_iff).mp (hget.trans hget₀.symm))

end HealthAwareMrc

/-! ## Elsewhere -/

open MrcSnapshot in
/-- A retransmit goes out on another EV of the flow than the packet was trimmed on: under the
    round-robin over two EVs or more, and in exact arithmetic under both health-aware policies, for a
    flow that has two EVs that are not ASSUMED_BAD.  The grid is the one published at any point of
    any run of a table; the snapshot policy has loaded it after any history. -/
theorem retransmits_elsewhere :
    (∀ (p : EvSpray) (numPlanes : Nat), 2 ≤ numPlanes * p.pathsPerPlane →
      ∀ (flows : List FlowKey) (flow : FlowKey), ∃ spines,
        selectSpinesForAddrs p.numSpines flow.srcAddr flow.dstAddr p.pathsPerPlane = .ok spines ∧
        Elsewhere (fun cache seq => p.pickEv numPlanes cache seq flow)
          (List.range numPlanes ×ˢ spines) (p.cacheAfter flows)) ∧
    ∀ (live : HealthAwareMrc) (cb : Option (EVStateTable.TransitionCb live.table))
      (calls : List EVStateTable.Call) (s : live.table.Store), live.table.AtPoint cb calls s →
      ∀ flow : FlowKey, live.TwoUsable s flow → ∃ spines, live.spinesOf flow = .ok spines ∧
        let evs := List.range live.table.numPlanes ×ˢ spines
        (∀ flows : List FlowKey,
          Elsewhere (fun cache seq => live.pickEv Exact s cache seq flow) evs
            (live.cacheAfter flows)) ∧
        ∀ (wgridId : Nat) (history : List (Call Exact)),
          let st := live.twin.after (live.twin.start Exact wgridId) history
          live.wgrid Exact s = .ok st.wgrid →
          Elsewhere (fun st seq => live.twin.pickEv st seq flow) evs st := by
  refine ⟨fun p numPlanes htwo flows flow => ?_, fun live cb calls s hs flow htwo => ?_⟩
  · obtain ⟨spines, hsel, hlen, hnodup, -⟩ := p.exists_spines flow
    have hpos : 0 < numPlanes * spines.length := by
      rw [← hlen] at htwo
      have h : (2 : Int) ≤ (numPlanes * spines.length : Nat) := by exact_mod_cast htwo
      omega
    have hat : ∀ seq, ∃ ev, EvSpray.walkEv numPlanes spines seq = .ok ev ∧
        ev ∈ List.range numPlanes ×ˢ spines := fun seq => by
      obtain ⟨r, hr, -, hpick⟩ := EvSpray.walkEv_eq hpos seq
      have hplane : r % numPlanes < numPlanes := Nat.mod_lt r (Nat.pos_of_mul_pos_right hpos)
      exact ⟨_, hpick, List.mem_product.mpr ⟨List.mem_range.mpr hplane, List.getElem_mem hr⟩⟩
    choose evAt hevAt hmem using hat
    refine ⟨spines, hsel, elsewhere (SpinesCoherent p.numSpines p.pathsPerPlane.toNat) evAt
      (fun cache seq hok => ?_) hmem (fun seq avoid => ?_) (p.cacheAfter_coherent flows)⟩
    · obtain ⟨hpick, hok'⟩ := p.pickEv_eq hok numPlanes seq hsel
      exact ⟨hpick.trans (hevAt seq), hok'⟩
    · -- the next two seqs have different residues
      by_contra hsame
      push Not at hsame
      have h₀ := hsame 0 (by omega)
      have h₁ := hsame 1 (by omega)
      rw [Nat.cast_zero, add_zero] at h₀
      rw [Nat.cast_one, ← h₀] at h₁
      obtain ⟨hplane, hpath⟩ := Prod.mk.inj h₁
      have heq : evAt (seq + 1) = evAt seq :=
        Prod.ext (by exact_mod_cast hplane) (by exact_mod_cast hpath)
      have hwalk := EvSpray.walk_eq_of_walkEv_eq hnodup hpos
        ((hevAt (seq + 1)).trans ((congrArg Except.ok heq).trans (hevAt seq).symm))
      have hmod := (Residues.walk_eq_iff hpos isCoprime_one_left 0 (seq + 1) seq).mp hwalk
      have hdvd := hmod.symm.dvd
      rw [add_sub_cancel_left] at hdvd
      have hle := Int.le_of_dvd one_pos hdvd
      rw [Nat.cast_mul, hlen] at hle
      omega
  · obtain ⟨qs, hqs, -, -⟩ := live.exists_spines flow
    refine ⟨_, hqs, fun flows => ?_, fun wgridId history => ?_⟩
    · refine HealthAwareMrc.drawn_elsewhere
        (SpinesCoherent live.table.numPaths live.pathsPerPlane) hs hqs htwo
        (fun cache seq hok => ⟨?_, (HealthAwareMrc.pickEv_eq hok s seq flow).2⟩)
        (live.cacheAfter_coherent flows)
      exact HealthAwareMrc.pickEv_drawn hs hok seq flow hqs
    · intro st hgrid
      have hfresh : EVStateTable.WeightsFresh s :=
        hs.inv (EVStateTable.fresh_after cb calls) EVStateTable.fresh_writeInv
      have hnonneg : ∀ row ∈ s.weightsCache live.tenant, ∀ w ∈ row, 0 ≤ w := by
        rw [hfresh live.tenant live.tenant_mem]
        exact EVStateTable.gridWeights_nonneg _
      have hst : st.wgrid = s.weightsCache live.tenant := by
        rw [live.wgrid_eq s, HealthAwareMrc.map_ofRat] at hgrid
        exact (Except.ok.inj hgrid).symm
      have hcoh : Coherent live.twin (live.twin.start Exact wgridId) := coherent_start wgridId
      refine HealthAwareMrc.drawn_elsewhere (fun st : MrcSnapshot.Store Exact =>
        Coherent live.twin st ∧ live.twin.Shaped st.wgrid ∧
          st.wgrid = s.weightsCache live.tenant) hs hqs htwo (fun st seq hok => ?_)
        ⟨coherent_after hcoh history,
          shaped_after hcoh (shaped_start wgridId) history, hst⟩
      obtain ⟨hcoh, hshaped, hst⟩ := hok
      obtain ⟨-, hcoh', hkept, -⟩ := MrcSnapshot.pickEv_eq hcoh seq flow
      refine ⟨?_, hcoh', hkept.symm ▸ hshaped, hkept.trans hst⟩
      exact MrcSnapshot.pickEv_drawn hcoh hshaped hst hnonneg live.table.numPlanes_pos seq flow hqs

/-- Two paths of three, and a NACK for a packet trimmed on the first. -/
theorem retransmits_elsewhere_twoOfThree :
    let p : EvSpray := ⟨2, 3, by decide⟩
    let s := twoOfThree.table.after none []
    (∃ ev, (pickOtherEv (fun cache seq => p.pickEv 1 cache seq oneFlow) (p.cacheAfter []) 5
      (0, 0)).1 = .ok ev ∧ ev ∈ List.range 1 ×ˢ [0, 1] ∧ ((ev.1 : Int), (ev.2 : Int)) ≠ (0, 0)) ∧
    (∃ ev, (pickOtherEv (fun cache seq => twoOfThree.pickEv Exact s cache seq oneFlow)
      (twoOfThree.cacheAfter []) 5 (0, 0)).1 = .ok ev ∧ ev ∈ List.range 1 ×ˢ [0, 1] ∧
      ((ev.1 : Int), (ev.2 : Int)) ≠ (0, 0)) := by
  intro p s
  obtain ⟨hspray, haware⟩ := retransmits_elsewhere
  have hspines : twoOfThree.spinesOf oneFlow = .ok [0, 1] := by decide
  have htwo : twoOfThree.TwoUsable s oneFlow :=
    ⟨((0 : Fin 1), (0 : Fin 3)), ((0 : Fin 1), (1 : Fin 3)), by decide,
      ⟨_, hspines, by decide⟩, ⟨_, hspines, by decide⟩, by decide, by decide⟩
  obtain ⟨spines, hsel, helsewhere⟩ := hspray p 1 (by decide) [] oneFlow
  cases hspines.symm.trans hsel
  obtain ⟨spines', hsel', hlive, -⟩ := haware twoOfThree none [] s (Or.inl rfl) oneFlow htwo
  cases hspines.symm.trans hsel'
  obtain ⟨ev, hev, hmem, -, hne⟩ := helsewhere.one 5 (0, 0)
  obtain ⟨ev', hev', hmem', -, hne'⟩ := (hlive []).one 5 (0, 0)
  exact ⟨⟨ev, hev, hmem, hne⟩, ev', hev', hmem', hne'⟩

end Srv6Mrc
