/-
  When `validate` does what it promises.

  `validate` should raise a `ScenarioError` or return a scenario that is sound.  Nothing checks the
  texts of rates and durations against zero, nor a duration against infinity, nor the hosts of a
  named set, and some values make the validator fall over before it has an error for them.  The
  condition names these: what comes first in the document decides.
-/
import Srv6Mrc.Scenario.Sound

namespace Srv6Mrc

open Py

/-! ## What `validate` returns -/

/-- What a document is read as. -/
structure ScenarioOf (T : Topo) (doc : Yaml) (s : Scenario) : Prop where
  flows : ∃ d, doc = .dict d ∧ List.Forall₂ (FlowOf T) (items (field "flows" d)) s.flows
  faults : ∀ fault ∈ s.faults, fault.Sound T
  mrc : ∀ m ∈ s.mrc, m.Sound
  paths : ∀ n ∈ s.pathsPerPlane, 1 ≤ n ∧ n ≤ T.numSpines
  sid : ∀ m ∈ s.sid, m ∈ sidModes
  transport : ∀ t ∈ s.transport, t ∈ transports
  trim : ∀ t ∈ s.trim, t.Sound
  trim_mrc : s.trim.isSome → s.mrc.isSome

section Validate

variable {T : Topo}

/-- The flows are a list, and there is one. -/
theorem follows_flowItems {v : Yaml} :
    Follows (flowItems v) [Look.plain (!(items v).isEmpty)] fun xs => xs = items v := by
  cases v with
  | list xs => exact follows_require.map fun _ _ => rfl
  | null | bool | int | float | str | dict => exact follows_complain

theorem follows_faultItems {d : Entries} :
    Follows (faultItems (Yaml.get "faults" d)) [Look.plain (isList (faultsOf d))]
      fun xs => xs = items (faultsOf d) := by
  unfold faultItems faultsOf
  cases Yaml.get "faults" d with
  | none => exact .one rfl fun _ h => (Except.ok.inj h).symm
  | some v =>
    dsimp only
    split_ifs
    · cases v with
      | list xs => exact .one rfl fun _ h => (Except.ok.inj h).symm
      | null | bool | int | float | str | dict => exact follows_complain
    · exact .one rfl fun _ h => (Except.ok.inj h).symm

/-- A block that is not there is not looked at. -/
theorem follows_optionally {α : Type} {value : Option Yaml} {f : Yaml → Except Raised α}
    {looks : Yaml → List Look} {P : α → Prop} (h : ∀ v, Follows (f v) (looks v) P) :
    Follows (optionally value f) (blockLooks looks value)
      fun r => r.isSome = value.isSome ∧ ∀ a ∈ r, P a := by
  cases value with
  | none => exact .ok ⟨rfl, fun _ ha => nomatch ha⟩
  | some v => exact (h v).map fun a ha => ⟨rfl, fun b hb => Option.some_inj.mp hb ▸ ha⟩

/-- `validate` comes to what the first value that is not accepted comes to. -/
theorem validate_follows (doc : Yaml) :
    Follows (validate T doc) (looks T doc) (ScenarioOf T doc) := by
  cases doc with
  | dict d =>
    refine follows_requireKeys.bind fun _ hkeys => ?_
    refine (follows_requireStr (hkeys "name" (by decide))).next fun _ _ => ?_
    refine follows_optStr.next fun _ _ => ?_
    refine (follows_item (hkeys "flows" (by decide))).bind fun _ hflows => ?_
    rw [hflows]
    refine follows_flowItems.next fun _ hitems => ?_
    rw [hitems]
    refine (Follows.enumerate fun _ _ => follows_validateFlow).bind fun flows hflows => ?_
    refine follows_faultItems.next fun _ hitems => ?_
    rw [hitems]
    refine (Follows.enumerate_all fun _ _ => follows_validateFault).bind fun faults hfaults => ?_
    refine follows_validateReport.bind fun _ _ => ?_
    refine (follows_optionally fun _ => follows_validateMrc).bind fun mrc hmrc => ?_
    refine follows_validatePathsPerPlane.bind fun paths hpaths => ?_
    refine follows_validateChoice.bind fun sid hsid => ?_
    refine follows_validateChoice.bind fun transport htransport => ?_
    refine (follows_optionally fun _ => follows_validateTrim).bind fun trim htrim => ?_
    have hblocks : ((Yaml.get "trim" d).isNone || (Yaml.get "mrc" d).isSome) =
        (trim.isNone || mrc.isSome) := by
      rw [hmrc.1, ← Option.not_isSome, ← htrim.1, Option.not_isSome]
    rw [hblocks]
    refine follows_require.map fun _ hneeds => ?_
    refine ⟨⟨d, rfl, hflows⟩, hfaults.2, hmrc.2, hpaths, hsid, htransport, htrim.2, fun hsome => ?_⟩
    rcases Bool.or_eq_true_iff.mp hneeds with hnone | hm
    · exact absurd hsome (by simpa using hnone)
    · exact hm
  | null | bool | int | float | str | list => exact follows_complain

end Validate

/-! ## Texts of rates and durations -/

/-- Not all digits of a rate are zeros. -/
def RateFits (v : Yaml) : Prop :=
  match v with
  | .str s => ∀ digits ∈ rateMatch s, ∃ c ∈ digits, digit c ≠ some 0
  | _ => True

/-- What rounds to more than zero: half of the smallest double, and about five hundred times as much
    if a division by a thousand comes after. -/
def leastDuration (milliseconds : Bool) : ℚ :=
  if milliseconds then 1001 / 2 * 2 ^ (-1074 : ℤ) else 2 ^ (-1075 : ℤ)

/-- A duration is neither too small nor too large for a double. -/
def DurationFits (v : Yaml) : Prop :=
  match v with
  | .str s => ∀ m ∈ durationMatch s, leastDuration m.milliseconds < decimal m.whole m.fraction ∧
      decimal m.whole m.fraction < 2 ^ 1024 - 2 ^ 970
  | .float x => x ≠ .infinity false
  | _ => True

/-- A rate is positive exactly if it fits. -/
theorem rateOf_pos {v : Yaml} {n : Int} (h : RateOf v n) : 1 ≤ n ↔ RateFits v := by
  cases v with
  | str s =>
    obtain ⟨digits, hm, rfl⟩ := h
    have hfits : RateFits (.str s) ↔ ∃ c ∈ digits, digit c ≠ some 0 := by
      simp [RateFits, hm]
    have hzeros : digitsVal digits = 0 ↔ ∀ c ∈ digits, digit c = some 0 := by
      rw [digitsVal_eq_zero]
      refine forall₂_congr fun c hc => ?_
      obtain ⟨d, hd⟩ := Option.isSome_iff_exists.mp ((rateMatch_digits hm).2 c hc)
      rw [hd, Option.getD_some, Option.some_inj]
    rw [hfits, ← not_iff_not]
    push Not
    rw [← hzeros]
    omega
  | null | bool | int | float | list | dict => exact iff_of_true h.2 trivial

/-- A number without a sign is not negative. -/
theorem decimal_nonneg (whole fraction : List Char) : 0 ≤ decimal whole fraction := by
  unfold decimal
  positivity

/-- A duration is finite and positive exactly if it fits. -/
theorem durationOf_sound {v : Yaml} {x : Binary64} (h : DurationOf v x) :
    (x.isFinite ∧ Binary64.zero.lt x) ↔ DurationFits v := by
  cases v with
  | str s =>
    obtain ⟨m, hm, rfl⟩ := h
    have hnonneg := decimal_nonneg m.whole m.fraction
    have hfits : DurationFits (.str s) ↔ leastDuration m.milliseconds < decimal m.whole m.fraction ∧
        decimal m.whole m.fraction < 2 ^ 1024 - 2 ^ 970 := by
      simp [DurationFits, hm]
    rw [hfits, and_comm]
    unfold leastDuration
    cases m.milliseconds with
    | true => exact and_congr (Binary64.div_thousand_pos hnonneg) (Binary64.isFinite_div_thousand hnonneg)
    | false =>
      have hfinite := Binary64.isFinite_round (q := decimal m.whole m.fraction)
      rw [abs_of_nonneg hnonneg] at hfinite
      exact and_congr (Binary64.round_pos hnonneg) hfinite
  | float y =>
    obtain ⟨rfl, hpos⟩ := h
    rw [and_iff_left hpos]
    cases x with
    | finite q => exact iff_of_true rfl (fun h => nomatch h)
    | infinity negative =>
      cases negative with
      | true => exact absurd hpos (by decide)
      | false => exact iff_of_false (by decide) fun h => h rfl
    | nan => exact absurd hpos (by decide)
  | bool | int =>
    obtain ⟨n, -, hpos, hrange, rfl⟩ := h
    exact iff_of_true ⟨Binary64.isFinite_round_int.mpr hrange, Binary64.round_int_pos hpos⟩ trivial
  | null | list | dict =>
    obtain ⟨n, hn, -⟩ := h
    exact nomatch hn

/-! ## Named sets -/

section Named

variable (T : Topo)

/-- The names of the sets, and what each needs to be one of pairs of hosts: its tenant, and this
    number of leaves. -/
def namedNeeds : List (String × String × Nat) :=
  [("green-pairs-8", "green", 16), ("yellow-pairs-8", "yellow", 16), ("green-pairs-4", "green", 8),
   ("yellow-pairs-4", "yellow", 8), ("green-00-15", "green", 16), ("yellow-00-15", "yellow", 16)] ++
  T.tenants.flatMap fun tenant =>
    [(tenant ++ "-all-to-all", tenant, 2), (tenant ++ "-ring", tenant, 2),
     (tenant ++ "-pairs", tenant, 2)]

/-- What the set of a name needs. -/
def namedNeed (name : String) : Option (String × Nat) :=
  ((namedNeeds T).reverse.find? fun entry => entry.1 = name).map Prod.snd

/-- A list of pairs is checked when it is read.  A named set is not: its tenant has to be one of the
    topology, which has to be large enough. -/
def PairsFit (v : Yaml) : Prop :=
  match v with
  | .str name => ∀ need ∈ namedNeed T name, need.1 ∈ T.tenants ∧ need.2 ≤ T.numLeaves
  | _ => True

/-- Pairs of hosts there are, and at least one. -/
def PairsSound (pairs : List FlowPair) : Prop := pairs ≠ [] ∧ ∀ p ∈ pairs, p.Sound T

variable {T}

/-- A fixed set needs its tenant, and one more leaf than its largest host id. -/
theorem flowPairs_sound {tenant : String} {pairs : List (Int × Int)} {leaves : Nat}
    (hbelow : ∀ p ∈ pairs, 0 ≤ p.1 ∧ p.1 < leaves ∧ 0 ≤ p.2 ∧ p.2 < leaves ∧ p.1 ≠ p.2)
    (hlast : ∃ p ∈ pairs, p.1 + 1 = leaves ∨ p.2 + 1 = leaves) :
    PairsSound T (flowPairs tenant pairs) ↔ tenant ∈ T.tenants ∧ leaves ≤ T.numLeaves := by
  have hforall : (∀ p ∈ flowPairs tenant pairs, p.Sound T) ↔
      ∀ p ∈ pairs, FlowPair.Sound T ⟨tenant, p.1, p.2⟩ := List.forall_mem_map
  obtain ⟨last, hmem, hlast⟩ := hlast
  constructor
  · rintro ⟨-, hall⟩
    have hsound := hforall.mp hall last hmem
    refine ⟨hsound.tenant_mem, ?_⟩
    have hsrc := hsound.src_range.2
    have hdst := hsound.dst_range.2
    dsimp only at hsrc hdst
    omega
  · rintro ⟨htenant, hleaves⟩
    refine ⟨List.ne_nil_of_mem (List.mem_map_of_mem hmem), hforall.mpr fun p hp => ?_⟩
    obtain ⟨hsrc, hsrc', hdst, hdst', hne⟩ := hbelow p hp
    exact ⟨htenant, ⟨hsrc, by dsimp only; omega⟩, ⟨hdst, by dsimp only; omega⟩, hne⟩

theorem mem_allToAllPairs {tenant : String} {p : FlowPair} : p ∈ allToAllPairs T tenant ↔
    ∃ i j : Nat, i < T.numLeaves ∧ j < T.numLeaves ∧ i ≠ j ∧ p = ⟨tenant, i, j⟩ := by
  simp only [allToAllPairs, List.mem_flatMap, List.mem_map, List.mem_filter, List.mem_range,
    decide_eq_true_eq]
  constructor
  · rintro ⟨i, hi, j, ⟨hj, hne⟩, rfl⟩
    exact ⟨i, j, hi, hj, hne, rfl⟩
  · rintro ⟨i, j, hi, hj, hne, rfl⟩
    exact ⟨i, hi, j, ⟨hj, hne⟩, rfl⟩

/-- There are pairs if there are two hosts. -/
theorem allToAllPairs_sound {tenant : String} (htenant : tenant ∈ T.tenants) :
    PairsSound T (allToAllPairs T tenant) ↔ 2 ≤ T.numLeaves := by
  constructor
  · rintro ⟨hne, -⟩
    obtain ⟨p, hp⟩ := List.exists_mem_of_ne_nil _ hne
    obtain ⟨i, j, hi, hj, hij, -⟩ := mem_allToAllPairs.mp hp
    omega
  · intro hleaves
    have hfirst : (⟨tenant, (0 : Nat), (1 : Nat)⟩ : FlowPair) ∈ allToAllPairs T tenant :=
      mem_allToAllPairs.mpr ⟨0, 1, by omega, by omega, by omega, rfl⟩
    refine ⟨List.ne_nil_of_mem hfirst, fun p hp => ?_⟩
    obtain ⟨i, j, hi, hj, hij, rfl⟩ := mem_allToAllPairs.mp hp
    exact ⟨htenant, ⟨by simp, by simpa using hi⟩, ⟨by simp, by simpa using hj⟩, by simpa using hij⟩

/-- On one leaf the only host is its own neighbour. -/
theorem ringPairs_sound {tenant : String} (htenant : tenant ∈ T.tenants) :
    PairsSound T (ringPairs T tenant) ↔ 2 ≤ T.numLeaves := by
  constructor
  · rintro ⟨hne, hall⟩
    have hpos : 0 < T.numLeaves := by
      by_contra hzero
      exact hne (by simp [ringPairs, Nat.eq_zero_of_not_pos hzero])
    by_contra hone
    have honly : (⟨tenant, (0 : Nat), ((0 : Nat) + 1 : Int) % T.numLeaves⟩ : FlowPair) ∈
        ringPairs T tenant := List.mem_map.mpr ⟨0, List.mem_range.mpr hpos, rfl⟩
    apply (hall _ honly).src_ne_dst
    rw [show T.numLeaves = 1 by omega]
    rfl
  · intro hleaves
    refine ⟨by simp [ringPairs]; omega, fun p hp => ?_⟩
    obtain ⟨i, hi, rfl⟩ := List.mem_map.mp hp
    rw [List.mem_range] at hi
    have hpos : (0 : Int) < T.numLeaves := by omega
    refine ⟨htenant, ⟨by simp, by simpa using hi⟩,
      ⟨Int.emod_nonneg _ hpos.ne', Int.emod_lt_of_pos _ hpos⟩, fun heq => ?_⟩
    dsimp only at heq
    rcases Nat.lt_or_ge (i + 1) T.numLeaves with hlt | hge
    · rw [Int.emod_eq_of_lt (by omega) (by omega)] at heq
      omega
    · rw [show ((i : Int) + 1) = T.numLeaves by omega, Int.emod_self] at heq
      omega

/-- So it is with pairs of one another. -/
theorem mirrorPairs_sound {tenant : String} (htenant : tenant ∈ T.tenants) :
    PairsSound T (mirrorPairs T tenant) ↔ 2 ≤ T.numLeaves := by
  unfold PairsSound mirrorPairs
  rw [List.forall_mem_map]
  constructor
  · rintro ⟨hne, -⟩
    by_contra hsmall
    exact hne (by rw [Nat.div_eq_of_lt (by omega)]; rfl)
  · intro hleaves
    refine ⟨by simp; omega, fun i hi => ?_⟩
    rw [List.mem_range] at hi
    exact ⟨htenant, ⟨by simp, by dsimp only; omega⟩, ⟨by dsimp only; omega, by dsimp only; omega⟩,
      by dsimp only; omega⟩

/-- The sets and their needs are in the same order. -/
theorem namedNeeds_sound : List.Forall₂ (fun set need => set.1 = need.1 ∧
    (PairsSound T set.2 ↔ need.2.1 ∈ T.tenants ∧ need.2.2 ≤ T.numLeaves))
    (namedPairSets T) (namedNeeds T) := by
  have hpairs8 : ∀ tenant, PairsSound T (flowPairs tenant referencePairs8) ↔
      tenant ∈ T.tenants ∧ 16 ≤ T.numLeaves := fun _ => flowPairs_sound (by decide) (by decide)
  have hpairs4 : ∀ tenant, PairsSound T (flowPairs tenant referencePairs4) ↔
      tenant ∈ T.tenants ∧ 8 ≤ T.numLeaves := fun _ => flowPairs_sound (by decide) (by decide)
  have hsingle : ∀ tenant, PairsSound T (flowPairs tenant [(0, 15)]) ↔
      tenant ∈ T.tenants ∧ 16 ≤ T.numLeaves := fun _ => flowPairs_sound (by decide) (by decide)
  refine List.rel_append ?_ ?_
  · exact .cons ⟨rfl, hpairs8 _⟩ (.cons ⟨rfl, hpairs8 _⟩ (.cons ⟨rfl, hpairs4 _⟩
      (.cons ⟨rfl, hpairs4 _⟩ (.cons ⟨rfl, hsingle _⟩ (.cons ⟨rfl, hsingle _⟩ .nil)))))
  · have htenants : ∀ tenants : List String, (∀ t ∈ tenants, t ∈ T.tenants) → List.Forall₂
        (fun (set : String × List FlowPair) (need : String × String × Nat) => set.1 = need.1 ∧
          (PairsSound T set.2 ↔ need.2.1 ∈ T.tenants ∧ need.2.2 ≤ T.numLeaves))
        (tenants.flatMap fun tenant => [(tenant ++ "-all-to-all", allToAllPairs T tenant),
          (tenant ++ "-ring", ringPairs T tenant), (tenant ++ "-pairs", mirrorPairs T tenant)])
        (tenants.flatMap fun tenant => [(tenant ++ "-all-to-all", tenant, 2),
          (tenant ++ "-ring", tenant, 2), (tenant ++ "-pairs", tenant, 2)]) := by
      intro tenants hmem
      induction tenants with
      | nil => exact .nil
      | cons tenant tenants ih =>
        rw [List.forall_mem_cons] at hmem
        obtain ⟨htenant, hrest⟩ := hmem
        refine .cons ⟨rfl, ?_⟩ (.cons ⟨rfl, ?_⟩ (.cons ⟨rfl, ?_⟩ (ih hrest)))
        · rw [and_iff_right htenant, allToAllPairs_sound htenant]
        · rw [and_iff_right htenant, ringPairs_sound htenant]
        · rw [and_iff_right htenant, mirrorPairs_sound htenant]
    exact htenants T.tenants fun _ h => h

/-- What is found on one side is found on the other. -/
theorem find?_forall₂ {α β : Type} {R : α → β → Prop} {p : α → Bool} {q : β → Bool}
    {as : List α} {bs : List β} (h : List.Forall₂ R as bs) (hpq : ∀ a b, R a b → p a = q b) {a : α}
    (ha : as.find? p = some a) : ∃ b, bs.find? q = some b ∧ R a b := by
  induction h with
  | nil => exact nomatch ha
  | @cons x y _ _ hxy _ ih =>
    rw [List.find?_cons] at ha ⊢
    rw [← hpq x y hxy]
    cases hp : p x with
    | true =>
      rw [hp] at ha
      exact ⟨y, rfl, Option.some_inj.mp ha ▸ hxy⟩
    | false =>
      rw [hp] at ha
      exact ih ha

/-- The pairs that are resolved are sound exactly if they fit. -/
theorem pairsOf_sound {v : Yaml} {pairs : List FlowPair} (h : PairsOf T v pairs) :
    PairsSound T pairs ↔ PairsFit T v := by
  cases v with
  | str name =>
    obtain ⟨set, hset, rfl⟩ := Option.map_eq_some_iff.mp h
    obtain ⟨need, hneed, -, hsound⟩ := find?_forall₂
      (q := fun entry => decide (entry.1 = name)) (List.forall₂_reverse_iff.mpr namedNeeds_sound)
      (fun a b hab => by rw [hab.1]) hset
    have hfits : PairsFit T (.str name) ↔ need.2.1 ∈ T.tenants ∧ need.2.2 ≤ T.numLeaves := by
      simp [PairsFit, namedNeed, hneed]
    rw [hfits, hsound]
  | null | bool | int | float | list | dict => exact iff_of_true h trivial

end Named

/-! ## Whole documents -/

section Settled

variable (T : Topo)

/-- What a flow of a scenario promises. -/
structure FlowSpec.Sound (flow : FlowSpec) : Prop where
  pairs : PairsSound T flow.pairs
  rate : 1 ≤ flow.ratePps
  duration : flow.durationS.isFinite ∧ Binary64.zero.lt flow.durationS

/-- What a scenario promises. -/
structure Scenario.Sound (s : Scenario) : Prop where
  flows : ∀ flow ∈ s.flows, flow.Sound T
  faults : ∀ fault ∈ s.faults, fault.Sound T
  paths : ∀ n ∈ s.pathsPerPlane, 1 ≤ n ∧ n ≤ T.numSpines
  sid : ∀ m ∈ s.sid, m ∈ sidModes
  transport : ∀ t ∈ s.transport, t ∈ transports
  trim : ∀ t ∈ s.trim, t.Sound
  mrc : ∀ m ∈ s.mrc, m.Sound

/-- `validate` raises a `ScenarioError`, or returns a scenario that keeps its promises. -/
def Settles (doc : Yaml) : Prop :=
  match validate T doc with
  | .ok s => s.Sound T
  | .error (.scenarioError _ _) => True
  | .error (.builtin _) => False

/-- A flow that `validate` has no complaint about is sound. -/
def FlowFits (v : Yaml) : Prop :=
  ∀ d, v = .dict d → PairsFit T (field "pairs" d) ∧ RateFits (field "rate" d) ∧
    DurationFits (field "duration" d)

/-- `doc["flows"]`, as far as there are flows. -/
def flowsOf (doc : Yaml) : List Yaml :=
  match doc with
  | .dict d => items (field "flows" d)
  | _ => []

variable {T}

/-- A flow is sound exactly if it fits. -/
theorem flowOf_sound {v : Yaml} {flow : FlowSpec} (h : FlowOf T v flow) :
    flow.Sound T ↔ FlowFits T v := by
  obtain ⟨d, rfl, hpairs, -, -, hrate, hduration⟩ := h.dict
  have hfits : FlowFits T (.dict d) ↔ PairsFit T (field "pairs" d) ∧ RateFits (field "rate" d) ∧
      DurationFits (field "duration" d) :=
    ⟨fun h => h d rfl, fun h e he => by cases he; exact h⟩
  rw [hfits, ← pairsOf_sound hpairs, ← rateOf_pos hrate, ← durationOf_sound hduration]
  exact ⟨fun h => ⟨h.pairs, h.rate, h.duration⟩, fun h => ⟨h.1, h.2.1, h.2.2⟩⟩

theorem flows_sound {vs : List Yaml} {flows : List FlowSpec} (h : List.Forall₂ (FlowOf T) vs flows) :
    (∀ flow ∈ flows, flow.Sound T) ↔ ∀ v ∈ vs, FlowFits T v := by
  induction h with
  | nil => exact iff_of_true (fun _ h => absurd h List.not_mem_nil) fun _ h => absurd h List.not_mem_nil
  | cons hflow _ ih => rw [List.forall_mem_cons, List.forall_mem_cons, flowOf_sound hflow, ih]

/-- What is returned for a document is sound if its flows fit. -/
theorem scenarioOf_sound {doc : Yaml} {s : Scenario} (h : ScenarioOf T doc s) :
    s.Sound T ↔ ∀ v ∈ flowsOf doc, FlowFits T v := by
  obtain ⟨d, rfl, hflows⟩ := h.flows
  rw [flowsOf, ← flows_sound hflows]
  exact ⟨fun hs => hs.flows,
    fun hall => ⟨hall, h.faults, h.paths, h.sid, h.transport, h.trim, h.mrc⟩⟩

/-- What is settled is decided by the looks, and by what the flows say. -/
theorem settles_iff_judge (doc : Yaml) : Settles T doc ↔ judge (looks T doc) ≠ .escape ∧
    (judge (looks T doc) = .accept → ∀ v ∈ flowsOf doc, FlowFits T v) := by
  obtain ⟨houtcome, hreturns⟩ := validate_follows (T := T) doc
  rw [← houtcome]
  unfold Settles
  cases hv : validate T doc with
  | ok s =>
    dsimp only [outcome]
    rw [scenarioOf_sound (hreturns s hv)]
    exact ⟨fun h => ⟨by decide, fun _ => h⟩, fun h => h.2 rfl⟩
  | error e =>
    cases e with
    | scenarioError => exact iff_of_true trivial ⟨(fun h => nomatch h), (fun h => nomatch h)⟩
    | builtin e => exact iff_of_false id fun h => h.1 rfl

theorem verdict_eq_accept {r : Look} : Judged.verdict r = .accept ↔ r.accepted := by
  rw [verdict_eq]
  cases r.accepted <;> cases r.upsets <;> decide

theorem verdict_eq_escape {r : Look} :
    Judged.verdict r = .escape ↔ r.accepted = false ∧ r.upsets := by
  rw [verdict_eq]
  cases r.accepted <;> cases r.upsets <;> decide

/-- `validate` does what it promises if the first value it does not accept does not upset it, and,
    where it accepts all, the flows fit. -/
theorem validate_settles (T : Topo) (doc : Yaml) : Settles T doc ↔
    (∀ before r after, looks T doc = before ++ r :: after → (∀ s ∈ before, s.accepted) →
      r.accepted = false → r.upsets = false) ∧
    ((∀ r ∈ looks T doc, r.accepted) → ∀ v ∈ flowsOf doc, FlowFits T v) := by
  rw [settles_iff_judge, judge_eq_accept]
  simp only [verdict_eq_accept]
  refine and_congr_left fun _ => ?_
  rw [Ne, judge_eq_escape]
  simp only [verdict_eq_accept, verdict_eq_escape]
  constructor
  · intro hnone before r after heq hall hr
    by_contra hups
    exact hnone ⟨before, r, after, heq, hall, hr, Bool.of_not_eq_false hups⟩
  · rintro hups ⟨before, r, after, heq, hall, hr, hup⟩
    exact Bool.false_ne_true ((hups before r after heq hall hr).symm.trans hup)

/-- A rate of zero packets is taken. -/
theorem not_settles_zero_rate : ¬ Settles ⟨4, 8, 16, ["green", "yellow"]⟩
    (.dict [(.str "name", .str "idle"), (.str "flows", .list [.dict
      [(.str "pairs", .str "green-pairs-8"), (.str "policy", .str "round_robin"),
       (.str "rate", .str "0pps"), (.str "duration", .str "30s")]])]) := by
  rw [settles_iff_judge]
  rintro ⟨-, hfits⟩
  obtain ⟨-, hrate, -⟩ := hfits (by decide) _ (List.mem_singleton_self _) _ rfl
  obtain ⟨c, hc, hdigit⟩ := hrate ['0'] (by decide)
  rw [List.mem_singleton.mp hc] at hdigit
  exact hdigit (by decide)

end Settled

end Srv6Mrc
