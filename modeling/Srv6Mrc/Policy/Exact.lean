/-
  The weighted draw in exact arithmetic.

  With rational weights and a unit interval that is not rounded, the thresholds of `_build_cdf` are
  the running shares of the weights (`buildCdf_eq`), so `_weighted_pick` returns the weight in whose
  piece the point of the packet lies (`weightedPick_eq_iff`).  The golden ratio is odd: the points of
  2^64 consecutive packets are the multiples of 2^-64, each of them once.

  In the EV policies the weights are gathered plane by plane, and the index that is drawn decodes to
  the EV whose weight it is (`draw_drawn`).
-/
import Mathlib.Data.Rat.Floor
import Srv6Mrc.Lib.Quantile
import Srv6Mrc.Lib.Residues
import Srv6Mrc.Policy.Refresh
import Srv6Mrc.Policy.Twin

namespace Srv6Mrc

open Quantile Normalise Py

/-- Numbers that are not rounded. -/
def Exact : Type := ℚ

instance : Floats Exact where
  zero := (0 : ℚ)
  one := (1 : ℚ)
  add := fun x y : ℚ => x + y
  div := fun x y : ℚ => x / y
  sum := fun xs : List ℚ => xs.sum
  lt := fun x y : ℚ => x < y
  le := fun x y : ℚ => x ≤ y
  unit x := (x / 2 ^ 64 : ℚ)
  ofRat := id
  sum_weights ws _ := by
    show decide ((ws.map (id : ℚ → ℚ)).sum ≤ 0) = !decide (0 < (ws.map (id : ℚ → ℚ)).sum)
    rw [← decide_not]
    exact decide_eq_decide.mpr not_lt.symm

instance : Builtins Exact := inferInstanceAs (Builtins ℚ)

/-! ## The thresholds -/

theorem cumulate_eq (total cum : ℚ) (ws : List ℚ) :
    cumulate (F := Exact) total cum ws
      = (List.range ws.length).map fun i => cum + (ws.take (i + 1)).sum / total := by
  induction ws generalizing cum with
  | nil => rfl
  | cons w ws ih =>
    have htail := ih (cum + w / total)
    rw [List.length_cons, List.range_succ_eq_map, List.map_cons, List.map_map]
    show (cum + w / total) :: cumulate (F := Exact) total (cum + w / total) ws = _
    refine congrArg₂ List.cons ?_ (htail.trans (List.map_congr_left fun i _ => ?_))
    · rw [List.take_succ_cons, List.take_zero, List.sum_singleton]
    · show _ = cum + ((w :: ws).take (i + 1 + 1)).sum / total
      rw [List.take_succ_cons, List.sum_cons, add_div, add_assoc]

/-- The last threshold is one even before it is set. -/
theorem buildCdf_eq {ws : List ℚ} (hsum : 0 < ws.sum) :
    buildCdf (F := Exact) ws = thresholds ws := by
  have hlen : 0 < ws.length := List.length_pos_of_ne_nil fun h => by
    rw [h, List.sum_nil] at hsum
    exact lt_irrefl _ hsum
  have hcdf : cumulate (F := Exact) ws.sum (0 : ℚ) ws = thresholds ws := by
    rw [cumulate_eq]
    exact List.map_congr_left fun i _ => zero_add _
  have hlast : (thresholds ws).length - 1 < (thresholds ws).length := by
    rw [length_thresholds]
    omega
  have hone : (thresholds ws)[(thresholds ws).length - 1] = 1 := by
    rw [getElem_thresholds]
    exact share_of_length_le hsum.ne' (by rw [length_thresholds]; omega)
  show (cumulate (F := Exact) ws.sum (0 : ℚ) ws).set
    ((cumulate (F := Exact) ws.sum (0 : ℚ) ws).length - 1) (1 : ℚ) = _
  rw [hcdf]
  calc (thresholds ws).set ((thresholds ws).length - 1) 1
      = (thresholds ws).set ((thresholds ws).length - 1)
          (thresholds ws)[(thresholds ws).length - 1] := by rw [hone]
    _ = thresholds ws := List.set_getElem_self hlast

/-! ## The points -/

theorem drawBits_eq (seq : Int) (flow : FlowKey) :
    drawBits seq flow = Residues.walk (2 ^ 64) flow.hash5 goldenGamma seq := by
  unfold drawBits Residues.walk
  rw [Nat.cast_pow, Nat.cast_ofNat]

theorem coprime_gamma : IsCoprime (goldenGamma : Int) (2 ^ 64 : Nat) :=
  Nat.isCoprime_iff_coprime.mpr (Nat.Coprime.pow_right 64 (by decide))

theorem drawBits_lt (seq : Int) (flow : FlowKey) : drawBits seq flow < 2 ^ 64 := by
  rw [drawBits_eq]
  exact Residues.walk_lt (Nat.two_pow_pos 64) _ _ _

/-- The draw is the weight in whose piece the point lies. -/
theorem weightedPick_eq_iff {ws : List ℚ} (hws : ∀ w ∈ ws, 0 ≤ w) (hsum : 0 < ws.sum) (seq : Int)
    (flow : FlowKey) (i : Nat) :
    weightedPick (F := Exact) seq flow (buildCdf ws) = i
      ↔ i < ws.length ∧ InPiece ws i (drawBits seq flow / 2 ^ 64) := by
  have hu : (0 : ℚ) ≤ drawBits seq flow / 2 ^ 64 := by positivity
  have hone : (drawBits seq flow / 2 ^ 64 : ℚ) < 1 := by
    rw [div_lt_one (by positivity)]
    exact_mod_cast drawBits_lt seq flow
  obtain ⟨j, hfind, hj⟩ := exists_findIdx hws hsum hu hone
  have hpick : weightedPick (F := Exact) seq flow (buildCdf ws) = j := by
    have hfind' : (buildCdf (F := Exact) ws).findIdx? (fun threshold =>
        Floats.lt (Floats.unit (drawBits seq flow)) threshold) = some j := by
      rw [buildCdf_eq hsum]
      exact hfind
    unfold weightedPick
    rw [hfind']
  rw [hpick]
  constructor
  · rintro rfl
    exact hj
  · intro hi
    exact Option.some.inj (hfind.symm.trans ((findIdx_thresholds hws hu i).mpr hi))

/-- Over a full period each index is drawn as often as there are points in its piece. -/
theorem card_weightedPick {ws : List ℚ} (hws : ∀ w ∈ ws, 0 ≤ w) (hsum : 0 < ws.sum)
    (flow : FlowKey) (start : Int) (i : Nat) :
    (((Finset.Ico start (start + 2 ^ 64)).filter fun seq =>
        weightedPick (F := Exact) seq flow (buildCdf ws) = i).card : Int)
      = ⌈2 ^ 64 * share ws (i + 1)⌉ - ⌈2 ^ 64 * share ws i⌉ := by
  by_cases hi : i < ws.length
  · have hfilter : (Finset.Ico start (start + 2 ^ 64)).filter (fun seq =>
          weightedPick (F := Exact) seq flow (buildCdf ws) = i)
        = (Finset.Ico start (start + (2 ^ 64 : Nat))).filter fun seq =>
            InPiece ws i (Residues.walk (2 ^ 64) flow.hash5 goldenGamma seq / (2 ^ 64 : Nat)) := by
      rw [Nat.cast_pow, Nat.cast_ofNat]
      refine Finset.filter_congr fun seq _ => ?_
      rw [weightedPick_eq_iff hws hsum, drawBits_eq]
      exact ⟨fun h => h.2, fun h => ⟨hi, h⟩⟩
    rw [hfilter, Residues.card_window (Nat.two_pow_pos 64) coprime_gamma _ start
      fun x : Nat => InPiece ws i (x / (2 ^ 64 : Nat)),
      card_inPiece hws hsum (Nat.two_pow_pos 64) i, Nat.cast_pow, Nat.cast_ofNat]
  · have hnone : (Finset.Ico start (start + 2 ^ 64)).filter (fun seq =>
        weightedPick (F := Exact) seq flow (buildCdf ws) = i) = ∅ := by
      refine Finset.filter_eq_empty_iff.mpr fun seq _ h => ?_
      exact hi ((weightedPick_eq_iff hws hsum seq flow i).mp h).1
    rw [hnone, share_of_length_le hsum.ne' (by omega), share_of_length_le hsum.ne' (by omega),
      sub_self, Finset.card_empty, Nat.cast_zero]

/-! ## The EVs -/

/-- A pick over some spines of a grid: a plane, and one of the spines.  If a weight of theirs is
    positive, it is the pair at the index drawn from the weights, and that pair's is. -/
def Drawn (wgrid : List (List ℚ)) (numPlanes : Nat) (spines : List Nat) (seq : Int)
    (flow : FlowKey) (ev : Nat × Nat) : Prop :=
  ev.1 < numPlanes ∧ ev.2 ∈ spines ∧
  ∃ flat, flatWeights wgrid numPlanes spines = .ok flat ∧
    flat.map some = (List.range numPlanes ×ˢ spines).map (fun ev => entry wgrid ev.1 ev.2) ∧
    ((∃ w ∈ flat, 0 < w) →
      (List.range numPlanes ×ˢ spines)[weightedPick (F := Exact) seq flow (buildCdf flat)]?
        = some ev ∧
      ∃ w, entry wgrid ev.1 ev.2 = some w ∧ 0 < w)

namespace HealthAwareMrc

/-- The weight that was gathered for an index is that of the EV there. -/
theorem entry_of_flat {wgrid : List (List ℚ)} {numPlanes : Nat} {spines : List Nat} {flat : List ℚ}
    (hmap : flat.map some
      = (List.range numPlanes ×ˢ spines).map fun ev => entry wgrid ev.1 ev.2)
    {n : Nat} {ev : Nat × Nat} (hev : (List.range numPlanes ×ˢ spines)[n]? = some ev) :
    flat[n]?.map some = some (entry wgrid ev.1 ev.2) := by
  rw [← List.getElem?_map, hmap, List.getElem?_map, hev]
  rfl

/-- A pick from a grid of exact weights. -/
theorem draw_drawn {wgrid : List (List ℚ)} {numPlanes : Nat} {spines : List Nat}
    (hrow : ∀ plane < numPlanes, ∃ row, wgrid[plane]? = some row ∧
      ∀ spine ∈ spines, spine < row.length)
    (hnonneg : ∀ row ∈ wgrid, ∀ w ∈ row, 0 ≤ w) (hpos : 0 < numPlanes * spines.length) (seq : Int)
    (flow : FlowKey) :
    ∃ ev, draw (F := Exact) wgrid numPlanes spines seq flow = .ok ev ∧
      Drawn wgrid numPlanes spines seq flow ev := by
  obtain ⟨flat, hflat, hmap⟩ := flatWeights_entries hrow
  have hdraw := draw_eq_of_flat (F := Exact) hflat seq flow
  have hlen : flat.length = numPlanes * spines.length := by
    have hcong := congrArg List.length hmap
    rwa [List.length_map, List.length_map, List.length_product, List.length_range] at hcong
  have hws : ∀ w ∈ flat, 0 ≤ w := by
    intro w hw
    obtain ⟨row, hr, hw⟩ := flatWeights_mem hflat w hw
    exact hnonneg row hr w hw
  by_cases hsum : flat.sum ≤ 0
  · -- no weight is positive: the round-robin
    have hle : Floats.le (Floats.sum (F := Exact) flat) (Floats.zero : Exact) = true :=
      decide_eq_true hsum
    obtain ⟨hback, hidx⟩ := fallback_ok hpos seq
    obtain ⟨ev, hget, hdecode, -, hspine⟩ := decodeEv_eq hidx
    refine ⟨ev, ?_, ?_, List.mem_of_getElem? hspine, flat, hflat, hmap, ?_⟩
    · rw [hdraw, if_pos hle, hback, Outcome.ok_bind]
      exact hdecode
    · exact List.mem_range.mp (List.mem_product.mp (List.mem_of_getElem? hget)).1
    · rintro ⟨w, hw, hw0⟩
      exact absurd (sum_pos_of_mem hws hw hw0) (not_lt.mpr hsum)
  · have hle : ¬ Floats.le (Floats.sum (F := Exact) flat) (Floats.zero : Exact) = true :=
      fun h => hsum (of_decide_eq_true h)
    obtain ⟨hlt, hpiece⟩ := (weightedPick_eq_iff hws (not_le.mp hsum) seq flow _).mp rfl
    obtain ⟨ev, hget, hdecode, -, hspine⟩ := decodeEv_eq (hlen ▸ hlt)
    refine ⟨ev, ?_, ?_, List.mem_of_getElem? hspine, flat, hflat, hmap, fun _ => ⟨hget, ?_⟩⟩
    · rw [hdraw, if_neg hle]
      exact hdecode
    · exact List.mem_range.mp (List.mem_product.mp (List.mem_of_getElem? hget)).1
    · have hentry := entry_of_flat hmap hget
      rw [List.getElem?_eq_getElem hlt] at hentry
      exact ⟨_, (Option.some.inj hentry).symm, pos_of_inPiece (not_le.mp hsum) hlt hpiece⟩

/-- The table's grid is not rounded. -/
theorem map_ofRat (weights : List (List ℚ)) :
    (weights.map fun row => row.map (Floats.ofRat : ℚ → Exact)) = weights := by
  show (weights.map fun row => row.map id) = weights
  simp

/-- A pick of the live policy, at any point of any run of its table and whatever its cache. -/
theorem pickEv_drawn {live : HealthAwareMrc} {cb : Option (EVStateTable.TransitionCb live.table)}
    {calls : List EVStateTable.Call} {s : live.table.Store} (hs : live.table.AtPoint cb calls s)
    {cache : SpineSubsets}
    (hcache : SpinesCoherent live.table.numPaths live.pathsPerPlane cache) (seq : Int)
    (flow : FlowKey) {spines : List Nat}
    (hspines : selectSpinesForAddrs live.table.numPaths flow.srcAddr flow.dstAddr
      live.pathsPerPlane = .ok spines) :
    ∃ ev, (live.pickEv Exact s cache seq flow).1 = .ok ev ∧
      Drawn (s.weightsCache live.tenant) live.table.numPlanes spines seq flow ev := by
  have hfresh : EVStateTable.WeightsFresh s :=
    hs.inv (EVStateTable.fresh_after cb calls) EVStateTable.fresh_writeInv
  have hcovers : live.table.Covers (s.weightsCache live.tenant) := by
    rw [hfresh live.tenant live.tenant_mem]
    exact EVStateTable.gridWeights_covers _
  have hnonneg : ∀ row ∈ s.weightsCache live.tenant, ∀ w ∈ row, 0 ≤ w := by
    rw [hfresh live.tenant live.tenant_mem]
    exact EVStateTable.gridWeights_nonneg _
  obtain ⟨spines', hsel, hlen, -, hlt⟩ := spinesOfFlow_ok live.paths_pos live.paths_le flow
  cases hspines.symm.trans hsel
  have hpos : 0 < live.table.numPlanes * spines.length :=
    Nat.mul_pos live.table.numPlanes_pos (hlen ▸ live.paths_pos)
  obtain ⟨ev, hdraw, hdrawn⟩ := draw_drawn (fun plane hplane =>
    ⟨_, List.getElem?_eq_getElem (hcovers.planes ▸ hplane), fun spine hspine => by
      rw [hcovers.paths _ (List.getElem_mem _)]
      exact hlt spine hspine⟩) hnonneg hpos seq flow
  refine ⟨ev, ?_, hdrawn⟩
  rw [(pickEv_eq hcache s seq flow).1, hspines, Outcome.ok_bind, map_ofRat]
  exact hdraw

end HealthAwareMrc

/-! ## The snapshot policy -/

namespace MrcSnapshot

variable {F : Type} {M : MrcSnapshot}

variable (M) in
/-- A grid with a weight for each EV. -/
structure Shaped (wgrid : List (List F)) : Prop where
  planes : wgrid.length = M.nPlanes
  paths : ∀ row ∈ wgrid, row.length = M.nSpines

variable [Floats F]

theorem shaped_start (wgridId : Nat) : M.Shaped (M.start F wgridId).wgrid where
  planes := List.length_replicate
  paths row hrow := by rw [List.eq_of_mem_replicate hrow, List.length_replicate]

variable [Builtins F]

/-- No call leaves a grid of another shape. -/
theorem shaped_call {st : Store F} (hcoh : Coherent M st) (h : M.Shaped st.wgrid) (c : Call F) :
    M.Shaped (M.call st c).2.wgrid := by
  cases c with
  | pick seq flow =>
    show M.Shaped (M.pickEv st seq flow).2.wgrid
    rw [(pickEv_eq hcoh seq flow).2.2.1]
    exact h
  | refresh stat loaded newId =>
    show M.Shaped (M.refreshOnce st stat loaded newId).2.wgrid
    by_cases hnew : ∃ mtime, Newer st stat mtime
    · obtain ⟨mtime, hnew⟩ := hnew
      rw [refreshOnce_newer hnew]
      rcases finish_cases M (statted st stat).1 mtime loaded newId with
        ⟨wgrid, hload, -, hgrid, -⟩ | ⟨e, -, -, hgrid, -⟩
      · obtain ⟨data, -, hread⟩ := Outcome.bind_eq_ok.mp hload
        obtain ⟨-, -, -, -, -, -, hplanes, hpaths, -⟩ := wgridFromSnapshot_ok.mp hread
        rw [hgrid]
        exact ⟨hplanes, hpaths⟩
      · rw [hgrid, (statted_store st stat).1]
        exact h
    · rw [refreshOnce_old (not_exists.mp hnew), (statted_store st stat).1]
      exact h

theorem shaped_after {st : Store F} (hcoh : Coherent M st) (h : M.Shaped st.wgrid)
    (history : List (Call F)) : M.Shaped (M.after st history).wgrid := by
  induction history generalizing st with
  | nil => exact h
  | cons c history ih => exact ih (call_eq hcoh c).2.1 (shaped_call hcoh h c)

/-- A pick of the snapshot policy from a grid without negative weights. -/
theorem pickEv_drawn {st : Store Exact} (hcoh : Coherent M st) (hshaped : M.Shaped st.wgrid)
    {wgrid : List (List ℚ)} (hgrid : st.wgrid = wgrid) (hnonneg : ∀ row ∈ wgrid, ∀ w ∈ row, 0 ≤ w)
    (hplanes : 0 < M.nPlanes) (seq : Int) (flow : FlowKey) {spines : List Nat}
    (hspines : selectSpinesForAddrs M.nSpines flow.srcAddr flow.dstAddr M.pathsPerPlane
      = .ok spines) :
    ∃ ev, (M.pickEv st seq flow).1 = .ok ev ∧ Drawn wgrid M.nPlanes spines seq flow ev := by
  obtain ⟨spines', hsel, hlen, -, hlt⟩ := spinesOfFlow_ok M.paths_pos M.paths_le flow
  cases hspines.symm.trans hsel
  have hpos : 0 < M.nPlanes * spines.length :=
    Nat.mul_pos hplanes (hlen ▸ M.paths_pos)
  have hrows : wgrid.length = M.nPlanes := by
    rw [← hshaped.planes, hgrid]
    rfl
  have hcols : ∀ row ∈ wgrid, row.length = M.nSpines := fun row hrow =>
    hshaped.paths row (hgrid.symm ▸ hrow)
  obtain ⟨ev, hdraw, hdrawn⟩ := HealthAwareMrc.draw_drawn (fun plane hplane =>
    ⟨_, List.getElem?_eq_getElem (hrows ▸ hplane), fun spine hspine => by
      rw [hcols _ (List.getElem_mem _)]
      exact hlt spine hspine⟩) hnonneg hpos seq flow
  refine ⟨ev, ?_, hdrawn⟩
  rw [HealthAwareMrc.snapshot_pickEv hcoh hnonneg
    (hgrid.trans (HealthAwareMrc.map_ofRat wgrid).symm), hspines, Outcome.ok_bind, hgrid]
  exact hdraw

end MrcSnapshot

/-! ## Exact proportions -/

open MrcSnapshot in
/-- The weighted draw, in exact arithmetic.  No index of weight zero is drawn, and over 2^64
    consecutive packets each index is drawn as many times as there are multiples of 2^-64 in its
    piece of the unit interval.  The EV policies draw the pair at the index: the live one at every
    point of every run of its table, the snapshot one after every history that left it a grid
    without negative weights. -/
theorem weighted_draws :
    (∀ (flow : FlowKey) (weights : List ℚ), weights ≠ [] → (∀ w ∈ weights, 0 ≤ w) →
      0 < weights.sum →
      (∀ seq : Int, ∃ w, weights[weightedPick (F := Exact) seq flow (buildCdf weights)]? = some w ∧
        0 < w) ∧
      ∀ (start : Int) (i : Nat),
        (((Finset.Ico start (start + 2 ^ 64)).filter fun seq =>
            weightedPick (F := Exact) seq flow (buildCdf weights) = i).card : Int)
          = ⌈2 ^ 64 * share weights (i + 1)⌉ - ⌈2 ^ 64 * share weights i⌉) ∧
    (∀ (live : HealthAwareMrc) (cb : Option (EVStateTable.TransitionCb live.table))
      (calls : List EVStateTable.Call) (s : live.table.Store), live.table.AtPoint cb calls s →
      ∀ (flows : List FlowKey) (seq : Int) (flow : FlowKey),
        ∃ (wgrid : List (List ℚ)) (spines : List Nat) (ev : Nat × Nat),
          live.table.weightsEv live.tenant s = .ok wgrid ∧
          selectSpinesForAddrs live.table.numPaths flow.srcAddr flow.dstAddr live.pathsPerPlane
            = .ok spines ∧
          (live.pickEv Exact s (live.cacheAfter flows) seq flow).1 = .ok ev ∧
          Drawn wgrid live.table.numPlanes spines seq flow ev) ∧
    ∀ (M : MrcSnapshot) (wgridId : Nat) (history : List (Call Exact)), 0 < M.nPlanes →
      let st := M.after (M.start Exact wgridId) history
      ∀ wgrid : List (List ℚ), st.wgrid = wgrid → (∀ row ∈ wgrid, ∀ w ∈ row, 0 ≤ w) →
        ∀ (seq : Int) (flow : FlowKey), ∃ (spines : List Nat) (ev : Nat × Nat),
          selectSpinesForAddrs M.nSpines flow.srcAddr flow.dstAddr M.pathsPerPlane = .ok spines ∧
          (M.pickEv st seq flow).1 = .ok ev ∧ Drawn wgrid M.nPlanes spines seq flow ev := by
  refine ⟨fun flow weights _ hws hsum => ⟨fun seq => ?_, card_weightedPick hws hsum flow⟩,
    fun live cb calls s hs flows seq flow => ?_, fun M wgridId history hplanes => ?_⟩
  · obtain ⟨hlt, hpiece⟩ := (weightedPick_eq_iff hws hsum seq flow _).mp rfl
    exact ⟨_, List.getElem?_eq_getElem hlt, pos_of_inPiece hsum hlt hpiece⟩
  · obtain ⟨spines, hsel, -⟩ := spinesOfFlow_ok live.paths_pos live.paths_le flow
    obtain ⟨ev, hpick, hdrawn⟩ :=
      HealthAwareMrc.pickEv_drawn hs (live.cacheAfter_coherent flows) seq flow hsel
    refine ⟨_, spines, ev, ?_, hsel, hpick, hdrawn⟩
    unfold EVStateTable.weightsEv
    rw [EVStateTable.checkTenant_none.mpr live.tenant_mem]
  · intro st wgrid hgrid hnonneg seq flow
    have hcoh : Coherent M (M.start Exact wgridId) := coherent_start wgridId
    obtain ⟨spines, hsel, -⟩ := spinesOfFlow_ok M.paths_pos M.paths_le flow
    obtain ⟨ev, hpick, hdrawn⟩ := pickEv_drawn (coherent_after hcoh history)
      (shaped_after hcoh (shaped_start wgridId) history) hgrid hnonneg hplanes seq flow hsel
    exact ⟨spines, ev, hsel, hpick, hdrawn⟩

/-- Of the weights 1, 0 and 2 the last is drawn for two thirds of 2^64 packets, the middle one for
    none; and one path of three demoted, some EV is drawn in either policy. -/
theorem weighted_draws_oneFlow :
    (((Finset.Ico (5 : Int) (5 + 2 ^ 64)).filter fun seq =>
        weightedPick (F := Exact) seq oneFlow (buildCdf ([1, 0, 2] : List ℚ)) = 2).card : Int)
      = ⌈2 ^ 64 * share ([1, 0, 2] : List ℚ) (2 + 1)⌉ - ⌈2 ^ 64 * share ([1, 0, 2] : List ℚ) 2⌉ ∧
    (∃ ev, (twoOfThree.pickEv Exact (twoOfThree.table.after none
        [.probeSent "green" 0 1, .probeSent "green" 0 1, .probeSent "green" 0 1, .tick "green"])
      (twoOfThree.cacheAfter []) 5 oneFlow).1 = .ok ev) ∧
    ∃ ev, (twoOfThree.twin.pickEv (twoOfThree.twin.after (twoOfThree.twin.start Exact 0) []) 5
      oneFlow).1 = .ok ev := by
  obtain ⟨hdraws, hlive, hsnap⟩ := weighted_draws
  obtain ⟨-, hcount⟩ := hdraws oneFlow [1, 0, 2] (List.cons_ne_nil _ _)
    (by decide +kernel) (by decide +kernel)
  obtain ⟨-, -, ev, -, -, hev, -⟩ := hlive twoOfThree none _ _ (Or.inl rfl) [] 5 oneFlow
  obtain ⟨-, ev', -, hev', -⟩ := hsnap twoOfThree.twin 0 [] twoOfThree.table.numPlanes_pos
    [List.replicate 3 ((1 : ℚ) / (1 * 3 : Nat))] rfl (by decide +kernel) 5 oneFlow
  exact ⟨hcount 5 2, ⟨ev, hev⟩, ev', hev'⟩

end Srv6Mrc
