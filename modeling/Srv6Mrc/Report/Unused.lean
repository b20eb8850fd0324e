/-
  `srv6_mrc/report.py`: the EV column of the report, and the EVs it lists as unused.

  A sender writes its counts under keys like `P1:S3`, and MRC its table as a document; the report
  reads from either which EVs of a flow are in use, and lists the rest of the grid.  What it reads is
  what was written (`mem_usedEvsFromCounts`, `activeEvsFromMrc_snapshot`).  But its grid has the first
  spines of a plane, and a flow's own spines are drawn: the list is the flow's own exactly if every EV
  that only one of the two has is in use (`unused_listed_iff`).
-/
import Srv6Mrc.Fabric.Names
import Srv6Mrc.Lib.Reprint
import Srv6Mrc.Policy.Document
import Srv6Mrc.Policy.Doubles
import Srv6Mrc.Report.Merge
import Srv6Mrc.Send.Balance
import Srv6Mrc.Topo.Subsets

namespace Srv6Mrc

open Py

/-! ## Writing -/

/-- The key of an EV in `SenderResult.to_dict`. -/
def evKey (ev : Nat × Nat) : String := "P" ++ toString ev.1 ++ ":S" ++ toString ev.2

/-- The `per_ev_sent` of `SenderResult.to_dict`, in the order of the EVs. -/
def perEvDict (counts : Dict (Nat × Nat) Nat) : List (String × Int) :=
  (counts.entries.mergeSort fun a b => a.1.1 < b.1.1 ∨ a.1.1 = b.1.1 ∧ a.1.2 ≤ b.1.2).map
    fun entry => (evKey entry.1, (entry.2 : Int))

/-! ## Reading -/

/-- `k.split(":", 1)`, `none` if there is no second part. -/
def splitColon (cs : List Char) : Option (List Char × List Char) :=
  if ':' ∈ cs then some (cs.takeWhile (· ≠ ':'), (cs.dropWhile (· ≠ ':')).tail) else none

/-- `int(part.lstrip(letter))` -/
def intBehind (letter : Char) (part : List Char) : Option Int :=
  intOfText (String.ofList (part.dropWhile (· = letter)))

/-- The EV of a key, `none` for a malformed one. -/
def evOfKey (key : String) : Option (Int × Int) := do
  let (pPart, sPart) ← splitColon key.toList
  let p ← intBehind 'P' pPart
  let s ← intBehind 'S' sPart
  return (p, s)

/-- `_used_evs_from_counts` -/
def usedEvsFromCounts (perEvSent : List (String × Int)) : Finset (Int × Int) :=
  (perEvSent.filterMap fun (key, n) => if n ≤ 0 then none else evOfKey key).toFinset

section Mrc

variable {F : Type} [Builtins F] [Floats F]

/-- The EV of a record, if its weight is positive, and what raises. -/
def weightedEv (rec : Json F) : Except Exc (Option (Int × Int)) := do
  let weight ← match ← rec.get "weight" with
    | some weight => weight.toFloat
    | none => .ok Floats.zero
  if Floats.lt Floats.zero weight then
    let plane ← (← rec.item "plane").toInt
    let path ← (← rec.item "path").toInt
    return some (plane, path)
  else return none

/-- The turn of the loop for a record. -/
def activeEv (rec : Json F) : Except Exc (Option (Int × Int)) :=
  match weightedEv rec with
  | .error err => if err.caught [.typeError, .valueError, .keyError] then .ok none else .error err
  | .ok ev => .ok ev

/-- `_active_evs_from_mrc`, of the dict that the record has, or none. -/
def activeEvsFromMrc (mrc : Option (List (String × Json F))) (tenant : String) :
    Except Exc (Option (Finset (Int × Int))) :=
  match (mrc.getD []).find? fun entry => entry.1 = "ev_state" with
  | some (_, .obj evState) =>
    match Json.field "tenants" evState with
    | some (.obj tenants) =>
      match Json.field tenant tenants with
      | some (.arr records) =>
        (records.mapM activeEv).map fun evs => some (evs.filterMap id).toFinset
      | _ => .ok none
    | _ => .ok none
  | _ => .ok none

/-! ## The column -/

/-- The EVs of a grid that are not in use: `_missing_evs`. -/
def missingEvs (used : Finset (Int × Int)) (topologyDims : Nat × Nat) : List (Nat × Nat) :=
  ((List.range topologyDims.1).flatMap fun p => (List.range topologyDims.2).map fun s => (p, s)).filter
    fun ev => ((ev.1 : Int), (ev.2 : Int)) ∉ used

/-- What `render_ascii` shows of the EVs of a flow. -/
structure EvColumn where
  /-- `evs_str` -/
  text : String
  /-- The list behind `! unused EVs`, empty if there is no such line. -/
  unused : List String
  deriving DecidableEq

/-- `f"p{p}-spine{s:02d}"` -/
def unusedName (ev : Nat × Nat) : String := "p" ++ toString ev.1 ++ "-spine" ++ decPad 2 ev.2

/-- The EVs that are listed, of those in use, for a flow with such counts. -/
def listedEvs (perEvSent : List (String × Int)) (active : Finset (Int × Int)) :
    Option (Nat × Nat) → List (Nat × Nat)
  | none => []
  | some dims =>
    if perEvSent ≠ [] ∧ active.card < dims.1 * dims.2 then missingEvs active dims else []

/-- The column of `render_ascii`. -/
def evColumn (perEvSent : List (String × Int)) (mrc : Option (List (String × Json F)))
    (tenant : String) (topologyDims : Option (Nat × Nat)) : Except Exc EvColumn :=
  (activeEvsFromMrc mrc tenant).map fun found =>
    let active := found.getD (usedEvsFromCounts perEvSent)
    { text :=
        if active.card = 0 ∧ perEvSent = [] then "-"
        else match topologyDims with
          | none => toString active.card
          | some dims => toString active.card ++ "/" ++ toString (dims.1 * dims.2)
      unused := (listedEvs perEvSent active topologyDims).map unusedName }

end Mrc

/-! ## What is read of the counts -/

/-- An EV as a pair of ints. -/
def intEv (ev : Nat × Nat) : Int × Int := (ev.1, ev.2)

/-- EVs as integers are different if they are. -/
theorem intEv_inj {ev ev' : Nat × Nat} : intEv ev = intEv ev' ↔ ev = ev' := by
  simp [intEv, Prod.ext_iff]

/-- Different EVs have different names in the list. -/
theorem unusedName_injective : Function.Injective unusedName := by
  intro ev ev' h
  have hnode : Fabric.nodeName (.spine ev.1 ev.2) = Fabric.nodeName (.spine ev'.1 ev'.2) := h
  obtain ⟨hp, hs⟩ := Node.spine.inj (Fabric.nodeName_injective hnode)
  exact Prod.ext hp hs

/-- A number behind its letter. -/
theorem intBehind_toString {letter : Char} (hletter : letter.isDigit = false) {n : Nat}
    (hn : n < 10 ^ maxStrDigits) :
    intBehind letter (letter :: (toString n).toList) = some (n : Int) := by
  have hdrop : (letter :: (toString n).toList).dropWhile (· = letter) = (decPad 0 n).toList := by
    rw [List.dropWhile_cons_of_pos (by simp), toList_decPad]
    have hdigits : (toString n).toList = Nat.toDigits 10 n := String.toList_ofList
    rw [hdigits, show (Nat.toDigits 10 n).leftpad 0 '0' = Nat.toDigits 10 n by simp [List.leftpad]]
    obtain ⟨c, cs, hcs⟩ := List.exists_cons_of_ne_nil (Nat.toDigits_ne_nil (b := 10) (n := n))
    have hc : c.isDigit := Nat.isDigit_of_mem_toDigits (by omega) (by omega)
      (hcs ▸ List.mem_cons_self)
    rw [hcs, List.dropWhile_cons_of_neg]
    rw [decide_eq_true_iff]
    rintro rfl
    rw [hc] at hletter
    cases hletter
  unfold intBehind
  rw [hdrop, String.ofList_toList]
  exact intOfText_decPad (Nat.zero_le _) hn

/-- A text is split at its first colon. -/
theorem splitColon_append {as : List Char} (h : ':' ∉ as) (bs : List Char) :
    splitColon (as ++ ':' :: bs) = some (as, bs) := by
  have hbefore : ∀ c ∈ as, decide (c ≠ ':') = true := fun c hc =>
    decide_eq_true fun heq => h (heq ▸ hc)
  unfold splitColon
  rw [if_pos (List.mem_append_right as List.mem_cons_self), List.takeWhile_append_of_pos hbefore,
    List.dropWhile_append_of_pos hbefore, List.takeWhile_cons_of_neg (by simp),
    List.dropWhile_cons_of_neg (by simp), List.append_nil, List.tail_cons]

/-- A key, read back. -/
theorem evOfKey_evKey {ev : Nat × Nat} (hp : ev.1 < 10 ^ maxStrDigits)
    (hs : ev.2 < 10 ^ maxStrDigits) : evOfKey (evKey ev) = some (intEv ev) := by
  have hkey : (evKey ev).toList
      = ('P' :: (toString ev.1).toList) ++ ':' :: 'S' :: (toString ev.2).toList := by
    simp [evKey]
  have hcolon : ':' ∉ 'P' :: (toString ev.1).toList := by
    rw [List.mem_cons, not_or]
    refine ⟨by decide, fun hmem => ?_⟩
    have hdigits : (toString ev.1).toList = Nat.toDigits 10 ev.1 := String.toList_ofList
    rw [hdigits] at hmem
    exact absurd (Nat.isDigit_of_mem_toDigits (by omega) (by omega) hmem) (by decide)
  have hsplit : splitColon (evKey ev).toList
      = some ('P' :: (toString ev.1).toList, 'S' :: (toString ev.2).toList) := by
    rw [hkey]
    exact splitColon_append hcolon _
  unfold evOfKey
  rw [hsplit]
  simp only [Option.bind_eq_bind, Option.bind_some]
  rw [intBehind_toString (by decide) hp, intBehind_toString (by decide) hs]
  rfl

section Counts

variable {counts : Dict (Nat × Nat) Nat} {evs : List (Nat × Nat)}

/-- The entries of a tally, and what is written of them. -/
theorem mem_perEvDict (h : Dict.Tallies counts evs) {key : String} {n : Int} :
    (key, n) ∈ perEvDict counts ↔ ∃ ev ∈ evs, key = evKey ev ∧ n = counts.tally ev := by
  have hmem : ∀ ev k, (ev, k) ∈ counts.entries ↔ ev ∈ evs ∧ k = counts.tally ev := by
    intro ev k
    constructor
    · intro hentry
      have hfind : counts.get ev = some k := Dict.find_of_mem counts.nodup hentry
      refine ⟨(h.keys ev).mp (List.mem_map_of_mem hentry), ?_⟩
      rw [Dict.tally, hfind, Option.getD_some]
    · rintro ⟨hev, rfl⟩
      obtain ⟨k, hfind⟩ := Option.isSome_iff_exists.mp (Dict.get_isSome.mpr ((h.keys ev).mpr hev))
      rw [Dict.tally, hfind, Option.getD_some]
      exact Dict.mem_of_find hfind
  unfold perEvDict
  rw [List.mem_map]
  constructor
  · rintro ⟨⟨ev, k⟩, hentry, heq⟩
    obtain ⟨hev, rfl⟩ := (hmem ev k).mp (List.mem_mergeSort.mp hentry)
    obtain ⟨rfl, rfl⟩ := Prod.mk.inj heq
    exact ⟨ev, hev, rfl, rfl⟩
  · rintro ⟨ev, hev, rfl, rfl⟩
    exact ⟨(ev, counts.tally ev), List.mem_mergeSort.mpr ((hmem ev _).mpr ⟨hev, rfl⟩), rfl⟩

/-- The EVs in use are those that were counted. -/
theorem mem_usedEvsFromCounts (h : Dict.Tallies counts evs)
    (hsmall : ∀ ev ∈ evs, ev.1 < 10 ^ maxStrDigits ∧ ev.2 < 10 ^ maxStrDigits)
    {ev : Int × Int} :
    ev ∈ usedEvsFromCounts (perEvDict counts) ↔ ∃ ev' ∈ evs, intEv ev' = ev := by
  unfold usedEvsFromCounts
  rw [List.mem_toFinset, List.mem_filterMap]
  constructor
  · rintro ⟨⟨key, n⟩, hmem, hread⟩
    obtain ⟨ev', hev', rfl, rfl⟩ := (mem_perEvDict h).mp hmem
    dsimp only at hread
    split at hread
    · cases hread
    · rw [evOfKey_evKey (hsmall ev' hev').1 (hsmall ev' hev').2] at hread
      exact ⟨ev', hev', Option.some_inj.mp hread⟩
  · rintro ⟨ev', hev', rfl⟩
    refine ⟨(evKey ev', counts.tally ev'), (mem_perEvDict h).mpr ⟨ev', hev', rfl, rfl⟩, ?_⟩
    have hpos : 0 < counts.tally ev' := by
      rw [h.tally_eq]
      exact List.countP_pos_iff.mpr ⟨ev', hev', decide_eq_true rfl⟩
    dsimp only
    rw [if_neg (by omega)]
    exact evOfKey_evKey (hsmall ev' hev').1 (hsmall ev' hev').2

/-- So they are the EVs of the packets. -/
theorem usedEvsFromCounts_eq (h : Dict.Tallies counts evs)
    (hsmall : ∀ ev ∈ evs, ev.1 < 10 ^ maxStrDigits ∧ ev.2 < 10 ^ maxStrDigits) :
    usedEvsFromCounts (perEvDict counts) = evs.toFinset.image intEv := by
  ext ev
  rw [mem_usedEvsFromCounts h hsmall, Finset.mem_image]
  simp only [List.mem_toFinset]

/-- Nothing is written if nothing was counted. -/
theorem perEvDict_eq_nil (h : Dict.Tallies counts evs) : perEvDict counts = [] ↔ evs = [] := by
  constructor
  · intro hnil
    refine List.eq_nil_iff_forall_not_mem.mpr fun ev hev => ?_
    have hmem : (evKey ev, (counts.tally ev : Int)) ∈ perEvDict counts :=
      (mem_perEvDict h).mpr ⟨ev, hev, rfl, rfl⟩
    rw [hnil] at hmem
    exact absurd hmem List.not_mem_nil
  · rintro rfl
    refine List.eq_nil_iff_forall_not_mem.mpr fun ⟨key, n⟩ hmem => ?_
    obtain ⟨ev, hev, -⟩ := (mem_perEvDict h).mp hmem
    exact absurd hev List.not_mem_nil

end Counts

/-! ## What is read of the table -/

namespace EVStateTable

variable {F : Type} [Builtins F] [Floats F] {T : EVStateTable}

/-- The EVs that MRC holds above weight zero. -/
def activeEvs (s : T.Store) (tenant : String) : Finset (Int × Int) :=
  ((T.cells.filter fun e => (s.evs tenant e).state ≠ .assumedBad).map
    fun e => intEv ((e.1 : Nat), (e.2 : Nat))).toFinset

/-- An EV is active if it is not ASSUMED_BAD. -/
theorem mem_activeEvs {s : T.Store} {tenant : String} {ev : Nat × Nat} :
    intEv ev ∈ activeEvs s tenant ↔
      ∃ e : T.EV, ((e.1 : Nat), (e.2 : Nat)) = ev ∧ (s.evs tenant e).state ≠ .assumedBad := by
  simp only [activeEvs, List.mem_toFinset, List.mem_map, List.mem_filter, mem_cells, true_and,
    decide_eq_true_eq, intEv_inj, and_comm]

/-- There are as many active EVs as the floor counts. -/
theorem card_activeEvs (s : T.Store) (tenant : String) :
    (activeEvs s tenant).card = T.usable tenant s := by
  have hinj : Function.Injective fun e : T.EV => intEv ((e.1 : Nat), (e.2 : Nat)) := by
    intro e e' h
    obtain ⟨hp, hq⟩ := Prod.mk.inj (intEv_inj.mp h)
    exact Prod.ext (Fin.ext hp) (Fin.ext hq)
  rw [activeEvs, List.toFinset_card_of_nodup ((nodup_cells.filter _).map hinj), List.length_map,
    usable, List.countP_eq_length_filter]

/-- The record of an EV, read back. -/
theorem activeEv_recordJson (e : T.EV) (r : EVRecord) {weight : ℚ}
    (hpositive : Floats.lt (Floats.zero : F) (Floats.ofRat weight) = decide (0 < weight)) :
    activeEv (T.recordJson e r weight : Json F)
      = .ok (if 0 < weight then some (intEv ((e.1 : Nat), (e.2 : Nat))) else none) := by
  have hread : weightedEv (T.recordJson e r weight : Json F)
      = if Floats.lt (Floats.zero : F) (Floats.ofRat weight) then
          .ok (some (intEv ((e.1 : Nat), (e.2 : Nat)))) else .ok none := rfl
  unfold activeEv
  rw [hread, hpositive]
  by_cases hpos : 0 < weight
  · rw [if_pos (decide_eq_true hpos), if_pos hpos]
  · rw [if_neg (by simpa using hpos), if_neg hpos]

/-- No EV weighs more than 1. -/
theorem totalWeight_le (tenant : String) (s : T.Store) :
    T.totalWeight tenant s ≤ (T.numPlanes * T.numPaths : ℕ) := by
  have hone : ∀ w ∈ T.cells.map fun c => stateWeight (s.evs tenant c).state, w ≤ (1 : ℚ) := by
    intro w hw
    obtain ⟨c, -, rfl⟩ := List.mem_map.mp hw
    cases (s.evs tenant c).state <;> norm_num [stateWeight]
  have hsum := List.sum_le_card_nsmul _ _ hone
  rwa [List.length_map, length_cells, nsmul_eq_mul, mul_one] at hsum

/-- The weight that is published for an EV. -/
theorem weightOf_eq {cb : Option (TransitionCb T)} {calls : List Call} {s : T.Store}
    (hs : T.AtPoint cb calls s) {tenant : String} (hmem : tenant ∈ T.tenants) (e : T.EV) :
    weightOf (s.weightsCache tenant) e
      = stateWeight (s.evs tenant e).state / T.totalWeight tenant s := by
  unfold weightOf
  rw [hs.entry_weightsCache hmem e, Option.getD_some]

/-- It is above zero for the EVs that are not ASSUMED_BAD. -/
theorem weightOf_pos {cb : Option (TransitionCb T)} {calls : List Call} {s : T.Store}
    (hs : T.AtPoint cb calls s) {tenant : String} (hmem : tenant ∈ T.tenants) (e : T.EV) :
    0 < weightOf (s.weightsCache tenant) e ↔ (s.evs tenant e).state ≠ .assumedBad := by
  rw [weightOf_eq hs hmem, div_pos_iff_of_pos_right (hs.totalWeight_pos tenant),
    (stateWeight_nonneg _).lt_iff_ne', Ne, stateWeight_eq_zero]

/-- The weights that are published for a tenant are told from zero after their rounding. -/
def WeightsTold (F : Type) [Floats F] (s : T.Store) (tenant : String) : Prop :=
  ∀ e : T.EV, Floats.lt (Floats.zero : F) (Floats.ofRat (weightOf (s.weightsCache tenant) e))
    = decide (0 < weightOf (s.weightsCache tenant) e)

/-- What the report reads of a snapshot: the EVs that are not ASSUMED_BAD. -/
theorem activeEvsFromMrc_snapshot {cb : Option (TransitionCb T)} {calls : List Call} {s : T.Store}
    (hs : T.AtPoint cb calls s) {tenant : String} (hmem : tenant ∈ T.tenants)
    (htold : WeightsTold F s tenant) {doc : Json F} (hdoc : T.snapshot s = .ok doc)
    (rest : List (String × Json F)) :
    activeEvsFromMrc (some (("ev_state", doc) :: rest)) tenant = .ok (some (activeEvs s tenant)) := by
  have hfresh : WeightsFresh s := hs.inv (fresh_after cb calls) fresh_writeInv
  have hcovers : ∀ t ∈ T.tenants, T.Covers (s.weightsCache t) := fun t ht => by
    rw [hfresh t ht]
    exact gridWeights_covers _
  obtain rfl : document F s = doc := Except.ok.inj ((snapshot_ok hcovers).symm.trans hdoc)
  have hread : ∀ e ∈ T.cells,
      activeEv (T.recordJson e (s.evs tenant e) (weightOf (s.weightsCache tenant) e) : Json F)
        = .ok (if (s.evs tenant e).state ≠ .assumedBad then
            some (intEv ((e.1 : Nat), (e.2 : Nat))) else none) := by
    intro e _
    rw [activeEv_recordJson e _ (htold e)]
    simp only [weightOf_pos hs hmem e]
  have hfield := field_map (F := F) (List.mem_eraseDups.mpr hmem) fun t =>
    .arr (T.cells.map fun e => T.recordJson e (s.evs t e) (weightOf (s.weightsCache t) e))
  unfold activeEvsFromMrc document
  simp only [Option.getD_some, List.find?_cons, decide_true]
  have htenants : Json.field "tenants" [("config", T.configJson), ("num_planes", .int T.numPlanes),
      ("num_paths", .int T.numPaths), ("tenants", .obj (T.tenants.eraseDups.map fun t =>
        (t, (.arr (T.cells.map fun e =>
          T.recordJson e (s.evs t e) (weightOf (s.weightsCache t) e)) : Json F))))]
      = some (.obj (T.tenants.eraseDups.map fun t => (t, .arr (T.cells.map fun e =>
          T.recordJson e (s.evs t e) (weightOf (s.weightsCache t) e))))) := by
    simp [Json.field]
  rw [htenants]
  dsimp only
  rw [hfield]
  dsimp only
  rw [List.mapM_map, Function.comp_def, Outcome.mapM_ok hread]
  show Except.ok (some (List.filterMap id (T.cells.map _)).toFinset) = _
  rw [List.filterMap_map]
  refine congrArg (fun evs : List (Int × Int) => Except.ok (some evs.toFinset)) ?_
  rw [← List.filterMap_eq_map, List.filterMap_filter]
  refine List.filterMap_congr fun e _ => ?_
  by_cases hbad : (s.evs tenant e).state = .assumedBad <;> simp [hbad]

end EVStateTable

/-! ## The lists compared -/

/-- The EVs of a flow: all planes, and its own spines. -/
def ownEvs (planes : Nat) (spines : List Nat) : Finset (Nat × Nat) :=
  Finset.range planes ×ˢ spines.toFinset

/-- A flow's own EVs: on every plane, its spines. -/
theorem mem_ownEvs {planes : Nat} {spines : List Nat} {ev : Nat × Nat} :
    ev ∈ ownEvs planes spines ↔ ev.1 < planes ∧ ev.2 ∈ spines := by
  rw [ownEvs, Finset.mem_product, Finset.mem_range, List.mem_toFinset]

/-- They are at most as many as planes and spines. -/
theorem card_ownEvs_le (planes : Nat) (spines : List Nat) :
    (ownEvs planes spines).card ≤ planes * spines.length := by
  rw [ownEvs, Finset.card_product, Finset.card_range]
  exact Nat.mul_le_mul_left _ (List.toFinset_card_le spines)

/-- An EV of the grid is missing if it is not used. -/
theorem mem_missingEvs {used : Finset (Int × Int)} {dims ev : Nat × Nat} :
    ev ∈ missingEvs used dims ↔ (ev.1 < dims.1 ∧ ev.2 < dims.2) ∧ intEv ev ∉ used := by
  obtain ⟨p, s⟩ := ev
  unfold missingEvs
  simp [intEv]

/-- The two lists are the same if and only if each EV that only one of them has is in use; and where
    nothing is listed, if the whole of the flow's own set is. -/
theorem listed_own_iff (perEvSent : List (String × Int)) (active : Finset (Int × Int))
    (planes m : Nat) (spines : List Nat) :
    (∀ ev, ev ∈ listedEvs perEvSent active (some (planes, m)) ↔
      ev ∈ ownEvs planes spines ∧ intEv ev ∉ active) ↔
    if perEvSent ≠ [] ∧ active.card < planes * m then
      ∀ p < planes, ∀ s, intEv (p, s) ∈ active ∨ (s < m ↔ s ∈ spines)
    else ∀ ev ∈ ownEvs planes spines, intEv ev ∈ active := by
  unfold listedEvs
  dsimp only
  by_cases hlisted : perEvSent ≠ [] ∧ active.card < planes * m
  · rw [if_pos hlisted, if_pos hlisted]
    simp only [mem_missingEvs, mem_ownEvs]
    constructor
    · intro h p hp s
      have hev := h (p, s)
      by_cases hin : intEv (p, s) ∈ active
      · exact Or.inl hin
      · refine Or.inr ⟨fun hlt => ?_, fun hmem => ?_⟩
        · exact (hev.mp ⟨⟨hp, hlt⟩, hin⟩).1.2
        · exact (hev.mpr ⟨⟨hp, hmem⟩, hin⟩).1.2
    · rintro h ⟨p, s⟩
      constructor
      · rintro ⟨⟨hp, hlt⟩, hout⟩
        exact ⟨⟨hp, ((h p hp s).resolve_left hout).mp hlt⟩, hout⟩
      · rintro ⟨⟨hp, hmem⟩, hout⟩
        exact ⟨⟨hp, ((h p hp s).resolve_left hout).mpr hmem⟩, hout⟩
  · rw [if_neg hlisted, if_neg hlisted]
    constructor
    · intro h ev hev
      by_contra hout
      exact absurd ((h ev).mpr ⟨hev, hout⟩) List.not_mem_nil
    · intro h ev
      constructor
      · intro hmem
        exact absurd hmem List.not_mem_nil
      · rintro ⟨hev, hout⟩
        exact absurd (h ev hev) hout

theorem mem_map_unusedName {evs : List (Nat × Nat)} {ev : Nat × Nat} :
    unusedName ev ∈ evs.map unusedName ↔ ev ∈ evs :=
  List.mem_map_of_injective unusedName_injective

/-! ## A run of the sender -/

namespace Sender

variable {S : SendSetup}

/-- A retransmit has one of the policy's answers. -/
theorem otherEv_answer {P : Nat × Nat → Prop} (hev : S.evAware = true) {answers : Nat → Nat × Nat}
    (h : ∀ k, P (answers k)) (r : NackRequest) : P (S.otherEv answers r) := by
  have hpick : ∀ k seq, S.picks answers k seq = (.ok (answers k), k + 1) := fun k seq => by
    unfold SendSetup.picks SendSetup.evOf
    rw [if_pos hev]
  have htries : ∀ (avoid : Int × Int) (n : Nat) (seq : Int) (k : Nat),
      ∃ j, (tries (S.picks answers) avoid n seq k).1 = .ok (answers j) := by
    intro avoid n
    induction n with
    | zero => exact fun seq k => ⟨k, by rw [tries, hpick]⟩
    | succ n ih =>
      intro seq k
      rw [tries, hpick]
      dsimp only
      split
      · exact ⟨k, rfl⟩
      · exact ih (seq + 1) (k + 1)
  obtain ⟨j, hj⟩ := htries (r.plane, r.path) 7 (r.seq + 1) 0
  have hother : S.otherEv answers r = answers j := by
    unfold SendSetup.otherEv pickOtherEv
    split
    rename_i ev hok
    exact Except.ok.inj (hok.symm.trans hj)
  rw [hother]
  exact h j

/-- A move adds no call, or one for an answer of the policy. -/
theorem step_progress {P : Nat × Nat → Prop} (hev : S.evAware = true) (x : Sender) (m : SendMove)
    (h : ∀ answers hits fails, m = .go answers hits fails → ∀ k, P (answers k)) :
    ∀ call ∈ (x.step S m).progress, call ∈ x.progress ∨ P call.2 := by
  have hemit : ∀ seq ev fresh hit fails, P ev →
      ∀ call ∈ (x.emit S seq ev fresh hit fails).1.progress, call ∈ x.progress ∨ P call.2 := by
    intro seq ev fresh hit fails hP call hcall
    rcases x.emit_cases seq ev fresh hit fails with ⟨-, hx⟩ | ⟨-, hx⟩
    · rw [hx] at hcall
      exact Or.inl hcall
    · rw [hx] at hcall
      rcases List.mem_append.mp hcall with hcall | hcall
      · exact Or.inl hcall
      · rw [List.mem_singleton.mp hcall]
        exact Or.inr hP
  intro call hcall
  unfold step at hcall
  cases m with
  | nack request => exact Or.inl hcall
  | leave drain =>
    dsimp only at hcall
    split at hcall <;> exact Or.inl hcall
  | go answers hits fails =>
    have hanswers := h answers hits fails rfl
    -- an EV-aware sender takes the policy's answer
    have hfirst : P (S.evOf (answers 0)) := by
      unfold SendSetup.evOf
      rw [if_pos hev]
      exact hanswers 0
    dsimp only at hcall
    split at hcall
    · split at hcall <;> exact Or.inl hcall
    · exact Or.inl hcall
    · split at hcall
      · exact hemit _ _ _ _ _ (otherEv_answer hev hanswers _) call hcall
      · exact Or.inl hcall
    · split at hcall
      · split at hcall
        · exact hemit _ _ _ _ _ hfirst call hcall
        · unfold sendPlain at hcall
          split at hcall
          · exact Or.inl hcall
          · rcases List.mem_append.mp hcall with hcall | hcall
            · exact Or.inl hcall
            · rw [List.mem_singleton.mp hcall]
              exact Or.inr hfirst
      · exact Or.inl hcall
    · exact Or.inl hcall

/-- Every packet that is counted has an answer of the policy. -/
theorem progress_run {P : Nat × Nat → Prop} (hev : S.evAware = true) {moves : List SendMove}
    (h : ∀ answers hits fails, .go answers hits fails ∈ moves → ∀ k, P (answers k)) :
    ∀ call ∈ (run S moves).progress, P call.2 := by
  induction moves using List.reverseRecOn with
  | nil => exact List.forall_mem_nil _
  | append_singleton moves m ih =>
    intro call hcall
    rw [run_snoc] at hcall
    have hlast : ∀ answers hits fails, m = .go answers hits fails → ∀ k, P (answers k) :=
      fun answers hits fails hm =>
        h answers hits fails (List.mem_append_right _ (List.mem_singleton.mpr hm.symm))
    rcases (run S moves).step_progress hev m hlast call hcall with hold | hP
    · exact ih (fun answers hits fails hm => h answers hits fails (List.mem_append_left _ hm))
        call hold
    · exact hP

end Sender

/-! ## The list of a flow -/

/-- A flow without MRC, after any run of its sender: the column counts the EVs that a packet was
    counted on, and the names that are listed are those of the flow's own EVs without one if and
    only if every EV that only one of the lists has got a packet.  If the flow has all the spines,
    that is so as soon as it has sent anything. -/
theorem unused_listed_iff {F : Type} [Builtins F] [Floats F] (S : SendSetup) (hev : S.evAware = true)
    (hplanes : S.numPlanes ≤ 10 ^ maxStrDigits) {numSpines : Nat}
    (hdigits : numSpines ≤ 10 ^ maxStrDigits) {srcAddr dstAddr : String} {n : Int}
    {spines : List Nat} (hspines : selectSpinesForAddrs numSpines srcAddr dstAddr n = .ok spines)
    (moves : List SendMove)
    (hown : ∀ answers hits fails, .go answers hits fails ∈ moves →
      ∀ k, answers k ∈ ownEvs S.numPlanes spines) (tenant : String) (m : Nat) :
    let x := Sender.run S moves
    let own := ownEvs S.numPlanes spines
    let sent (ev : Nat × Nat) : Prop := ∃ call ∈ x.progress, call.2 = ev
    let used := (x.progress.map Prod.snd).toFinset
    ∃ col, evColumn (perEvDict x.perEvSent) (none : Option (List (String × Json F))) tenant
        (some (S.numPlanes, m)) = .ok col ∧
      col.text = (if x.progress = [] then "-"
        else toString used.card ++ "/" ++ toString (S.numPlanes * m)) ∧
      ((∀ ev, unusedName ev ∈ col.unused ↔ ev ∈ own ∧ ¬ sent ev) ↔
        if x.progress ≠ [] ∧ used.card < S.numPlanes * m then
          ∀ p < S.numPlanes, ∀ s, sent (p, s) ∨ (s < m ↔ s ∈ spines)
        else ∀ ev ∈ own, sent ev) ∧
      (n = numSpines → m = numSpines → x.progress ≠ [] →
        ∀ ev, unusedName ev ∈ col.unused ↔ ev ∈ own ∧ ¬ sent ev) := by
  intro x own sent used
  have hbalanced : Sender.Balanced S x := Sender.balanced_run moves
  have htallies := hbalanced.evs hev
  have hsubsets := selectSpinesForAddrs_subsets numSpines
  have hinOwn : ∀ call ∈ x.progress, call.2 ∈ own := Sender.progress_run hev hown
  have hsmall : ∀ ev ∈ x.progress.map Prod.snd,
      ev.1 < 10 ^ maxStrDigits ∧ ev.2 < 10 ^ maxStrDigits := by
    intro ev hmem
    obtain ⟨call, hcall, rfl⟩ := List.mem_map.mp hmem
    obtain ⟨hp, hs⟩ := mem_ownEvs.mp (hinOwn call hcall)
    exact ⟨hp.trans_le hplanes, (hsubsets.lt hspines _ hs).trans_le hdigits⟩
  have hinj : Function.Injective intEv := fun _ _ h => intEv_inj.mp h
  have hcounts : usedEvsFromCounts (perEvDict x.perEvSent) = used.image intEv :=
    usedEvsFromCounts_eq htallies hsmall
  have hused : ∀ ev, ev ∈ used ↔ sent ev := fun ev => List.mem_toFinset.trans List.mem_map
  have hactive : ∀ ev, intEv ev ∈ usedEvsFromCounts (perEvDict x.perEvSent) ↔ sent ev := by
    intro ev
    rw [hcounts, hinj.mem_finset_image]
    exact hused ev
  have hcard : (usedEvsFromCounts (perEvDict x.perEvSent)).card = used.card := by
    rw [hcounts]
    exact Finset.card_image_of_injective used hinj
  have hnil : perEvDict x.perEvSent = [] ↔ x.progress = [] := by
    rw [perEvDict_eq_nil htallies, List.map_eq_nil_iff]
  have hzero : used.card = 0 ↔ x.progress = [] := by
    rw [Finset.card_eq_zero, List.toFinset_eq_empty_iff, List.map_eq_nil_iff]
  have hlisted : (∀ ev, ev ∈ listedEvs (perEvDict x.perEvSent)
      (usedEvsFromCounts (perEvDict x.perEvSent)) (some (S.numPlanes, m)) ↔ ev ∈ own ∧ ¬ sent ev) ↔
      if x.progress ≠ [] ∧ used.card < S.numPlanes * m then
        ∀ p < S.numPlanes, ∀ s, sent (p, s) ∨ (s < m ↔ s ∈ spines)
      else ∀ ev ∈ own, sent ev := by
    have hiff := listed_own_iff (perEvDict x.perEvSent) (usedEvsFromCounts (perEvDict x.perEvSent))
      S.numPlanes m spines
    simp only [hactive, hcard, Ne, hnil] at hiff
    exact hiff
  refine ⟨_, rfl, ?_, ?_, fun hn hm hne => ?_⟩
  · show (if (usedEvsFromCounts (perEvDict x.perEvSent)).card = 0 ∧ perEvDict x.perEvSent = [] then "-"
      else toString (usedEvsFromCounts (perEvDict x.perEvSent)).card ++ "/" ++ _) = _
    simp only [hcard, hnil, hzero, and_self]
  · simp only [mem_map_unusedName, Option.getD_none]
    exact hlisted
  · simp only [mem_map_unusedName, Option.getD_none]
    refine hlisted.mpr ?_
    subst hn hm
    have hperm := hsubsets.whole srcAddr dstAddr spines hspines
    split
    · intro p _ s
      refine Or.inr ?_
      rw [hperm.mem_iff, List.mem_range]
    · rename_i hmany
      -- as many EVs as the flow has
      have hsub : used ⊆ own := by
        intro ev hmem
        obtain ⟨call, hcall, rfl⟩ := (hused ev).mp hmem
        exact hinOwn call hcall
      have hle : own.card ≤ S.numPlanes * spines.length := card_ownEvs_le S.numPlanes spines
      rw [hperm.length_eq, List.length_range] at hle
      have hall : used = own := Finset.eq_of_subset_of_card_le hsub
        (hle.trans (not_lt.mp fun hlt => hmany ⟨hne, hlt⟩))
      intro ev hmem
      rw [← hall] at hmem
      exact (hused ev).mp hmem

/-- One plane of three spines, of which a flow has the last two: after a packet on one of them the
    first is listed, that is none of its own. -/
theorem unused_listed_iff_foreign :
    let S : SendSetup := ⟨1, 3, true, 0, none⟩
    let x := Sender.run S [.go (fun _ => (0, 2)) false false, .go (fun _ => (0, 2)) false false]
    ∃ col, evColumn (perEvDict x.perEvSent) (none : Option (List (String × Json ℚ))) "green"
        (some (1, 2)) = .ok col ∧ col.text = "1/2" ∧
      ¬ ∀ ev, unusedName ev ∈ col.unused ↔
        ev ∈ ownEvs 1 [2, 1] ∧ ¬ ∃ call ∈ x.progress, call.2 = ev := by
  intro S x
  have hspines : selectSpinesForAddrs 3 "2001:db8:bbbb::2" "2001:db8:bbbb:1::2" 2 = .ok [2, 1] := by
    decide +kernel
  have hone : ∀ k, 1 ≤ 10 ^ k := fun k => Nat.one_le_pow _ _ (by omega)
  obtain ⟨col, hcol, htext, hlisted, -⟩ := unused_listed_iff (F := ℚ) S rfl (hone _)
    (Nat.le_self_pow (by decide) 3 |>.trans (Nat.pow_le_pow_left (by omega) _)) hspines
    [.go (fun _ => (0, 2)) false false, .go (fun _ => (0, 2)) false false] (by
      intro answers hits fails hmem k
      simp only [List.mem_cons, SendMove.go.injEq, List.not_mem_nil, or_false, or_self] at hmem
      rw [hmem.1]
      show (0, 2) ∈ ownEvs 1 [2, 1]
      decide) "green" 2
  refine ⟨col, hcol, htext.trans (by decide), fun hall => ?_⟩
  have hcond := hlisted.mp hall
  rw [if_pos (by decide)] at hcond
  rcases hcond 0 (by decide) 0 with hsent | hown
  · exact absurd hsent (by decide)
  · exact absurd (hown.mp (by decide)) (by decide)

/-- In doubles every weight above zero is told from it, in a table of up to `2 ^ 64` EVs. -/
theorem EVStateTable.weightsTold_double {T : EVStateTable} {cb : Option T.TransitionCb}
    {calls : List EVStateTable.Call} {s : T.Store} (hs : T.AtPoint cb calls s) {tenant : String}
    (hmem : tenant ∈ T.tenants) (hsize : T.numPlanes * T.numPaths ≤ 2 ^ 64) :
    EVStateTable.WeightsTold Binary64 s tenant := by
  intro e
  have htotal := hs.totalWeight_pos tenant
  have hraw := stateWeight_nonneg (s.evs tenant e).state
  have hle : T.totalWeight tenant s ≤ 2 ^ 64 :=
    (EVStateTable.totalWeight_le tenant s).trans (by exact_mod_cast hsize)
  rw [weightOf_eq hs hmem]
  show Binary64.lt .zero (.round _) = _
  rw [Bool.eq_iff_iff, Binary64.round_pos (div_nonneg hraw htotal.le), decide_eq_true_iff]
  constructor
  · exact fun hlt => (zpow_pos two_pos _).trans hlt
  · intro hpos
    have hhalf : 1 / 2 ≤ stateWeight (s.evs tenant e).state := by
      have hne := (div_pos_iff_of_pos_right htotal).mp hpos
      revert hne
      cases (s.evs tenant e).state with
      | good =>
        intro _
        norm_num [stateWeight]
      | unknown => exact fun _ => le_rfl
      | assumedBad => exact fun hne => absurd hne (lt_irrefl _)
    calc (2 : ℚ) ^ (-1075 : ℤ) < 2 ^ (-65 : ℤ) := zpow_lt_zpow_right₀ one_lt_two (by decide)
      _ = 1 / 2 / 2 ^ 64 := by norm_num
      _ ≤ stateWeight (s.evs tenant e).state / T.totalWeight tenant s :=
        div_le_div₀ hraw hhalf htotal hle

/-- A flow with MRC: the column counts the EVs of the table that are not ASSUMED_BAD, and the names
    that are listed are those of the flow's own EVs that are if and only if every EV that only one of
    the lists has is not. -/
theorem unused_listed_mrc_iff {F : Type} [Builtins F] [Floats F] (T : EVStateTable)
    (cb : Option T.TransitionCb) (calls : List EVStateTable.Call) (s : T.Store)
    (hs : T.AtPoint cb calls s) (tenant : String) (hmem : tenant ∈ T.tenants)
    (htold : EVStateTable.WeightsTold F s tenant) (doc : Json F) (hdoc : T.snapshot s = .ok doc)
    (rest : List (String × Json F)) (perEvSent : List (String × Int)) (m : Nat) (spines : List Nat) :
    let own := ownEvs T.numPlanes spines
    let active (ev : Nat × Nat) : Prop :=
      ∃ e : T.EV, ((e.1 : Nat), (e.2 : Nat)) = ev ∧ (s.evs tenant e).state ≠ .assumedBad
    let usable := T.usable tenant s
    ∃ col, evColumn perEvSent (some (("ev_state", doc) :: rest)) tenant (some (T.numPlanes, m))
        = .ok col ∧
      col.text = toString usable ++ "/" ++ toString (T.numPlanes * m) ∧
      ((∀ ev, unusedName ev ∈ col.unused ↔ ev ∈ own ∧ ¬ active ev) ↔
        if perEvSent ≠ [] ∧ usable < T.numPlanes * m then
          ∀ p < T.numPlanes, ∀ s, active (p, s) ∨ (s < m ↔ s ∈ spines)
        else ∀ ev ∈ own, active ev) := by
  intro own active usable
  have hactive : ∀ ev, intEv ev ∈ EVStateTable.activeEvs s tenant ↔ active ev :=
    fun ev => EVStateTable.mem_activeEvs
  have hcard : (EVStateTable.activeEvs s tenant).card = usable := EVStateTable.card_activeEvs s tenant
  have hpos : usable ≠ 0 := by
    have hfloor := hs.inv (EVStateTable.floor_after cb calls) EVStateTable.floor_writeInv tenant
    have hone := EVStateTable.one_le_minActive (T := T)
    omega
  have hread := EVStateTable.activeEvsFromMrc_snapshot hs hmem htold hdoc rest
  unfold evColumn
  rw [hread]
  refine ⟨_, rfl, ?_, ?_⟩
  · dsimp only
    rw [Option.getD_some, hcard, if_neg fun h => hpos h.1]
  · have hiff := listed_own_iff perEvSent (EVStateTable.activeEvs s tenant) T.numPlanes m spines
    simp only [hactive, hcard] at hiff
    simp only [mem_map_unusedName, Option.getD_some]
    exact hiff

/-- Three paths, of which MRC has demoted the second; the flow has them all, and that one is listed. -/
theorem unused_listed_mrc_iff_demoted :
    let T := EVStateTable.threePaths {} (by decide)
    let s := T.after none
      [.probeSent "green" 0 1, .probeSent "green" 0 1, .probeSent "green" 0 1, .tick "green"]
    ∃ doc col, T.snapshot s = .ok doc ∧
      evColumn [("P0:S0", 1)] (some [("ev_state", (doc : Json Binary64))]) "green" (some (1, 3))
        = .ok col ∧
      col.text = "2/3" ∧ "p0-spine01" ∈ col.unused := by
  intro T s
  have hs : T.AtPoint none
      [.probeSent "green" 0 1, .probeSent "green" 0 1, .probeSent "green" 0 1, .tick "green"] s :=
    Or.inl rfl
  have hdoc : T.snapshot s = .ok (EVStateTable.document Binary64 s) :=
    EVStateTable.snapshot_ok fun t ht => by
      rw [EVStateTable.fresh_after none _ t ht]
      exact EVStateTable.gridWeights_covers _
  have htold := EVStateTable.weightsTold_double hs (List.mem_singleton_self "green")
    ((show T.numPlanes * T.numPaths ≤ 2 ^ 2 by decide).trans
      (Nat.pow_le_pow_right (by omega) (by omega)))
  obtain ⟨col, hcol, htext, hlisted⟩ := unused_listed_mrc_iff T none _ s hs "green"
    (List.mem_singleton_self _) htold _ hdoc [] [("P0:S0", 1)] 3 [0, 1, 2]
  have husable : T.usable "green" s = 2 := by decide +kernel
  rw [husable] at htext hlisted
  refine ⟨_, col, hdoc, hcol, htext.trans (by decide), ?_⟩
  have hall := hlisted.mpr (by
    rw [if_pos (by decide)]
    intro p _ q
    refine Or.inr ?_
    simp only [List.mem_cons, List.not_mem_nil, or_false]
    omega)
  exact (hall (0, 1)).mpr ⟨by decide, by decide +kernel⟩

end Srv6Mrc
