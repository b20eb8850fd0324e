/-
  `validate` follows its looks, and what it then returns.

  One lemma for each function of the validator says which looks it follows and how the value it
  returns is related to the value it was given.  Most of what a scenario promises is part of that
  relation.  The rest is in the texts of rates and durations and in the named sets, where what is
  returned is not checked again: there the relation only says what it is.
-/
import Srv6Mrc.Scenario.Looks

namespace Srv6Mrc

open Py

/-! ## Single checks -/

section Checks

variable {α : Type} {P : α → Prop} {path : String} {msg : Complaint}

/-- The verdict of one look. -/
theorem verdict_eq (r : Look) : Judged.verdict r =
    if r.accepted then .accept else if r.upsets then .escape else .refuse := rfl

/-- A complaint is a look that refuses. -/
theorem follows_complain :
    Follows (complain path msg : Except Raised α) [Look.plain false] P :=
  .one rfl fun _ ha => nomatch ha

/-- Printing comes first. -/
theorem outcome_complainOf {v : Yaml} : outcome (complainOf v path msg : Except Raised α) =
    if v.printable = false then .escape else .refuse := by
  unfold complainOf
  cases v.printable <;> rfl

/-- A complaint gives no value. -/
theorem complainOf_ne_ok {v : Yaml} {a : α} : (complainOf v path msg : Except Raised α) ≠ .ok a := by
  unfold complainOf
  cases v.printable <;> exact fun h => nomatch h

/-- So is one that shows the value; showing it may raise. -/
theorem follows_complainOf {v : Yaml} :
    Follows (complainOf v path msg : Except Raised α) [Look.shown false v] P := by
  refine .one ?_ fun _ ha => absurd ha complainOf_ne_ok
  rw [outcome_complainOf, verdict_eq]
  simp [Look.accepted, Look.upsets]

/-- A check is one look. -/
theorem follows_require {ok : Bool} :
    Follows (require ok path msg) [Look.plain ok] fun _ => ok := by
  cases ok with
  | true => exact .one rfl fun _ _ => rfl
  | false => exact follows_complain

/-- So is a check whose message shows the value. -/
theorem follows_requireOf {ok : Bool} {v : Yaml} :
    Follows (requireOf ok v path msg) [Look.shown ok v] fun _ => ok := by
  cases ok with
  | true => exact .one rfl fun _ _ => rfl
  | false => exact follows_complainOf

end Checks

/-- A key that is there can be looked up. -/
theorem item_eq {d : Entries} {key : String} (h : (Yaml.get key d).isSome) :
    item d key = .ok (field key d) := by
  obtain ⟨v, hv⟩ := Option.isSome_iff_exists.mp h
  unfold item field
  rw [hv]
  rfl

/-- Looking up a key that is there is no look of its own. -/
theorem follows_item {d : Entries} {key : String} (h : item d key = .ok (field key d)) :
    Follows (item d key) ([] : List Look) fun v => v = field key d := by
  rw [h]
  exact .ok rfl

/-- The keys that are required are there. -/
theorem follows_requireKeys {d : Entries} {path : String} {required optional : List String} :
    Follows (requireKeys d path required optional) [Look.keys d required optional]
      fun _ => ∀ key ∈ required, item d key = .ok (field key d) := by
  have hmissing : (missingKeys d required).isEmpty →
      ∀ key ∈ required, item d key = .ok (field key d) := by
    intro h key hkey
    refine item_eq ?_
    by_contra hnone
    have : key ∈ missingKeys d required := List.mem_filter.mpr ⟨hkey, by simpa using hnone⟩
    rw [List.isEmpty_iff.mp h] at this
    exact List.not_mem_nil this
  unfold requireKeys
  dsimp only
  cases hm : (missingKeys d required).isEmpty with
  | false =>
    refine .one ?_ fun _ ha => nomatch ha
    simp [verdict_eq, Look.accepted, Look.upsets, hm, complain, outcome, OwnError.own]
  | true =>
    cases he : (extraKeys d (required ++ optional)).isEmpty with
    | true => exact .one (by simp [verdict_eq, Look.accepted, hm, he, outcome]) fun _ _ => hmissing hm
    | false =>
      refine .one ?_ fun a ha => ?_
      · cases hs : Key.sortable (extraKeys d (required ++ optional)) <;>
          cases hp : (extraKeys d (required ++ optional)).all Key.printable <;>
          simp [verdict_eq, Look.accepted, Look.upsets, hm, he, hs, hp, complain, outcome,
            OwnError.own]
      · exact hmissing hm

/-! ## Fields -/

section Fields

variable {T : Topo} {d : Entries} {path leaf : String}

/-- `_require_str` looks whether it is a text. -/
theorem follows_requireStr (h : item d leaf = .ok (field leaf d)) :
    Follows (requireStr d path leaf) [Look.plain (isText (field leaf d))]
      fun s => field leaf d = .str s := by
  unfold requireStr
  rw [h]
  dsimp only [bind, Except.bind]
  generalize field leaf d = v
  cases v with
  | str s => exact follows_require.map fun _ _ => rfl
  | null | bool | int | float | list | dict => exact follows_complain

/-- `_opt_str` looks at the text, or at the default. -/
theorem follows_optStr {default : String} :
    Follows (optStr d path leaf default)
      [Look.plain (isTextWith (fun _ => true) ((Yaml.get leaf d).getD (.str default)))]
      fun _ => True := by
  unfold optStr
  generalize (Yaml.get leaf d).getD (.str default) = v
  cases v with
  | str s => exact .one rfl fun _ _ => trivial
  | null | bool | int | float | list | dict => exact follows_complain

/-- `_require_choice` looks whether it is one of the choices. -/
theorem follows_requireChoice {choices : List String} (h : item d leaf = .ok (field leaf d)) :
    Follows (requireChoice d path leaf choices)
      [Look.shown (isOneOf choices (field leaf d)) (field leaf d)] fun s => s ∈ choices := by
  unfold requireChoice
  rw [h]
  dsimp only [bind, Except.bind]
  generalize field leaf d = v
  cases v with
  | str s => exact follows_requireOf.map fun _ hok => of_decide_eq_true hok
  | null | bool | int | float | list | dict => exact follows_complainOf

/-- `_require_host_id` looks whether it is the number of a host. -/
theorem follows_requireHostId (h : item d leaf = .ok (field leaf d)) :
    Follows (requireHostId T d path leaf)
      [Look.shown (isHostId T (field leaf d)) (field leaf d)]
      fun n => (field leaf d).intValue = some n ∧ 0 ≤ n ∧ n < T.numLeaves := by
  unfold requireHostId isHostId
  rw [h]
  dsimp only [bind, Except.bind]
  cases hv : (field leaf d).intValue with
  | some n => exact follows_requireOf.map fun _ hok => ⟨rfl, of_decide_eq_true hok⟩
  | none => exact follows_complainOf

end Fields

/-! ## Rates and durations -/

/-- What a rate is read as. -/
def RateOf (v : Yaml) (n : Int) : Prop :=
  match v with
  | .str s => ∃ digits, rateMatch s = some digits ∧ n = digitsVal digits
  | v => v.intValue = some n ∧ 0 < n

/-- What a duration is read as. -/
def DurationOf (v : Yaml) (x : Binary64) : Prop :=
  match v with
  | .str s => ∃ m, durationMatch s = some m ∧
      x = if m.milliseconds then (Binary64.round (decimal m.whole m.fraction)).div 1000
        else .round (decimal m.whole m.fraction)
  | .float y => x = y ∧ Binary64.zero.lt y
  | v => ∃ n : Int, v.intValue = some n ∧ 0 < n ∧ n.natAbs < floatRange ∧ x = .round n

/-- What the rate's expression matches are digits. -/
theorem rateMatch_digits {s : String} {digits : List Char} (h : rateMatch s = some digits) :
    Digits digits := by
  unfold rateMatch at h
  dsimp only at h
  split_ifs at h with hne
  cases h
  exact ⟨hne.1, fun c hc => List.mem_takeWhile_imp hc⟩

/-- `parse_rate` is the look at a rate. -/
theorem follows_parseRate {v : Yaml} {path : String} :
    Follows (parseRate v path) [Look.rate v] (RateOf v) := by
  unfold parseRate
  cases v with
  | str s =>
    dsimp only
    cases hm : rateMatch s with
    | none =>
      refine .one ?_ fun _ ha => absurd ha complainOf_ne_ok
      simp [outcome_complainOf, verdict_eq, Look.accepted, Look.upsets, hm, Yaml.printable]
    | some digits =>
      dsimp only
      rw [intOfText_digits (rateMatch_digits hm)]
      split_ifs with hlen
      · refine .one ?_ fun n hn => ⟨digits, hm, (Except.ok.inj hn).symm⟩
        simp [outcome, verdict_eq, Look.accepted, hm, hlen]
      · refine .one ?_ fun _ hn => nomatch hn
        simp [outcome, OwnError.own, verdict_eq, Look.accepted, Look.upsets, hm, hlen]
  | bool b =>
    cases b with
    | true => exact .one rfl fun n hn => ⟨congrArg some (Except.ok.inj hn), Except.ok.inj hn ▸ one_pos⟩
    | false => exact .one rfl fun _ ha => nomatch ha
  | int n =>
    dsimp only [Yaml.intValue]
    split_ifs with hpos
    · refine .one ?_ fun n hn => ⟨congrArg some (Except.ok.inj hn), Except.ok.inj hn ▸ hpos⟩
      simp [outcome, verdict_eq, Look.accepted, Yaml.intValue, hpos]
    · refine .one ?_ fun _ ha => absurd ha complainOf_ne_ok
      simp [outcome_complainOf, verdict_eq, Look.accepted, Look.upsets, Yaml.intValue, hpos]
  | null | float | list | dict =>
    refine .one ?_ fun _ ha => absurd ha complainOf_ne_ok
    simp [outcome_complainOf, verdict_eq, Look.accepted, Look.upsets, Yaml.intValue]

/-- What the duration's expression matches are digits, before and after the point. -/
theorem durationMatch_digits {s : String} {m : DurationMatch} (h : durationMatch s = some m) :
    Digits m.whole ∧ (m.fraction = [] ∨ Digits m.fraction) := by
  unfold durationMatch at h
  dsimp only at h
  split_ifs at h with hne
  cases h
  refine ⟨⟨hne.1, fun c hc => List.mem_takeWhile_imp hc⟩, ?_⟩
  unfold fractionOf
  split
  · split_ifs with hempty
    · exact .inl rfl
    · exact .inr ⟨hempty, fun c hc => List.mem_takeWhile_imp hc⟩
  · exact .inl rfl

/-- The number of a duration is always a float. -/
theorem floatOfText_number {s : String} {m : DurationMatch} (h : durationMatch s = some m) :
    floatOfText m.number = some (.round (decimal m.whole m.fraction)) := by
  obtain ⟨hwhole, hfraction⟩ := durationMatch_digits h
  unfold DurationMatch.number
  rcases hfraction with hempty | hdigits
  · rw [if_pos hempty, hempty, floatOfText_digits hwhole]
  · rw [if_neg hdigits.1, floatOfText_decimal hwhole hdigits]

/-- `parse_duration` is the look at a duration. -/
theorem follows_parseDuration {v : Yaml} {path : String} :
    Follows (parseDuration v path) [Look.duration v] (DurationOf v) := by
  unfold parseDuration
  cases v with
  | str s =>
    dsimp only
    cases hm : durationMatch s with
    | none =>
      refine .one ?_ fun _ ha => absurd ha complainOf_ne_ok
      -- a text that is no duration
      simp [outcome_complainOf, verdict_eq, Look.accepted, Look.upsets, hm, Yaml.printable,
        Yaml.intValue]
    | some m =>
      dsimp only
      rw [floatOfText_number hm]
      -- a text with a number and a unit
      refine .one ?_ fun x hx => ⟨m, hm, (Except.ok.inj hx).symm⟩
      simp [outcome, verdict_eq, Look.accepted, hm]
  | float x =>
    dsimp only
    split_ifs with hpos
    · refine .one ?_ fun y hy => ⟨(Except.ok.inj hy).symm, hpos⟩
      simp [outcome, verdict_eq, Look.accepted, hpos]
    · refine .one ?_ fun _ ha => absurd ha complainOf_ne_ok
      simp [outcome_complainOf, verdict_eq, Look.accepted, Look.upsets, hpos, Yaml.printable,
        Yaml.intValue]
  | bool b =>
    cases b with
    | true =>
      -- `True` is one second, and `False` is refused
      dsimp only [Yaml.intValue]
      rw [if_pos (by decide), Yaml.floatOfInt, Binary64.ofInt_eq, if_pos (by decide +kernel)]
      exact .one (by decide +kernel) fun x hx =>
        ⟨1, rfl, one_pos, by decide +kernel, (Except.ok.inj hx).symm⟩
    | false => exact .one rfl fun _ ha => nomatch ha
  | int n =>
    dsimp only [Yaml.intValue]
    split_ifs with hpos
    · rw [Yaml.floatOfInt, Binary64.ofInt_eq]
      split_ifs with hrange
      · -- an integer in the range of a double
        refine .one ?_ fun x hx => ⟨n, rfl, hpos, hrange, (Except.ok.inj hx).symm⟩
        simp [outcome, Except.mapError, verdict_eq, Look.accepted, Yaml.intValue, hpos, hrange]
      · refine .one ?_ fun _ hx => nomatch hx
        simp [outcome, Except.mapError, OwnError.own, verdict_eq, Look.accepted, Look.upsets,
          Yaml.intValue, hpos, hrange]
    · refine .one ?_ fun _ ha => absurd ha complainOf_ne_ok
      simp [outcome_complainOf, verdict_eq, Look.accepted, Look.upsets, Yaml.intValue, hpos]
  | null | list | dict =>
    refine .one ?_ fun _ ha => absurd ha complainOf_ne_ok
    simp [outcome_complainOf, verdict_eq, Look.accepted, Look.upsets, Yaml.intValue]

/-! ## Policies -/

instance : OwnError SpecError where own := SpecError.isValueError

section Policies

variable {T : Topo} {path : String}

/-- `float(v)`: a number out of range, or no number at all, is no `ValueError`. -/
theorem toFloat_cases (v : Yaml) : (∃ x, v.toFloat = .ok x) ∧ (Look.number v).accepted ∨
    ∃ e, v.toFloat = .error e ∧ (Look.number v).accepted = false ∧
      (Look.number v).upsets = !e.caught [.valueError] := by
  cases v with
  | null | list | dict => exact .inr ⟨.typeError, rfl, rfl, rfl⟩
  | float x => exact .inl ⟨⟨x, rfl⟩, rfl⟩
  | bool b =>
    refine .inl ⟨⟨.round (b.toNat : Int), ?_⟩, rfl⟩
    have hrange : (b.toNat : Int).natAbs < floatRange := by cases b <;> decide +kernel
    rw [Yaml.toFloat, Yaml.floatOfInt, Binary64.ofInt_eq, if_pos hrange]
  | int n =>
    by_cases hrange : n.natAbs < floatRange
    · refine .inl ⟨⟨.round n, ?_⟩, by simp [Look.accepted, hrange]⟩
      rw [Yaml.toFloat, Yaml.floatOfInt, Binary64.ofInt_eq, if_pos hrange]
    · refine .inr ⟨.overflowError, ?_, by simp [Look.accepted, hrange], rfl⟩
      rw [Yaml.toFloat, Yaml.floatOfInt, Binary64.ofInt_eq, if_neg hrange]
  | str s =>
    cases hs : floatOfText s with
    | some x => exact .inl ⟨⟨x, by rw [Yaml.toFloat, hs]⟩, by rw [Look.accepted, hs]; rfl⟩
    | none => exact .inr ⟨.valueError, by rw [Yaml.toFloat, hs], by rw [Look.accepted, hs]; rfl, rfl⟩

/-- `int(v)` -/
theorem toInt_cases (v : Yaml) : (∃ n, v.toInt = .ok n) ∧ (Look.integer v).accepted ∨
    ∃ e, v.toInt = .error e ∧ (Look.integer v).accepted = false ∧
      (Look.integer v).upsets = !e.caught [.valueError] := by
  cases v with
  | null | list | dict => exact .inr ⟨.typeError, rfl, rfl, rfl⟩
  | bool b => exact .inl ⟨⟨b.toNat, rfl⟩, rfl⟩
  | int n => exact .inl ⟨⟨n, rfl⟩, rfl⟩
  | float x =>
    cases x with
    | finite q => exact .inl ⟨⟨_, rfl⟩, rfl⟩
    | infinity negative => exact .inr ⟨.overflowError, rfl, rfl, rfl⟩
    | nan => exact .inr ⟨.valueError, rfl, rfl, rfl⟩
  | str s =>
    cases hs : intOfText s with
    | some n => exact .inl ⟨⟨n, by rw [Yaml.toInt, hs]⟩, by rw [Look.accepted, hs]; rfl⟩
    | none => exact .inr ⟨.valueError, by rw [Yaml.toInt, hs], by rw [Look.accepted, hs]; rfl, rfl⟩

/-- A conversion follows the look at its value, if it raises what upsets that look. -/
theorem follows_builtin {α : Type} {x : Except Exc α} {r : Look}
    (h : (∃ a, x = .ok a) ∧ r.accepted ∨
      ∃ e, x = .error e ∧ r.accepted = false ∧ r.upsets = !e.caught [.valueError]) :
    Follows (builtin x) [r] fun a => x = .ok a := by
  rcases h with ⟨⟨a, rfl⟩, hok⟩ | ⟨e, rfl, hok, hups⟩
  · refine .one ?_ fun b hb => by rw [Except.ok.inj hb]
    rw [verdict_eq, if_pos hok]
    rfl
  · refine .one ?_ fun _ hb => nomatch hb
    cases hc : e.caught [.valueError] <;>
      simp [verdict_eq, hok, hups, hc, builtin, Except.mapError, outcome, OwnError.own,
        SpecError.isValueError]

/-- Iterating is one look: what is not iterable upsets it. -/
theorem follows_iterate {v : Yaml} :
    Follows (builtin v.iterate) [Look.iterable v] fun xs => xs = elements v := by
  refine (follows_builtin ?_).mono fun xs (hxs : v.iterate = .ok xs) => by
    rw [elements, hxs]
    rfl
  cases v with
  | null | bool | int | float => exact .inr ⟨.typeError, rfl, rfl, rfl⟩
  | str s => exact .inl ⟨⟨_, rfl⟩, rfl⟩
  | list items => exact .inl ⟨⟨_, rfl⟩, rfl⟩
  | dict entries => exact .inl ⟨⟨_, rfl⟩, rfl⟩

/-- The weights of a weighted policy are one look. -/
theorem follows_weights {numPlanes : Nat} {weights : List Binary64} :
    Follows (Weighted.new numPlanes weights) [Look.plain (isWeights numPlanes weights)]
      fun p => p.weights = weights := by
  unfold Weighted.new isWeights
  split_ifs with hlen hneg hsum
  · exact .one (by simp [verdict_eq, Look.accepted, Look.upsets, hlen, outcome, OwnError.own,
      SpecError.isValueError]) fun _ hp => nomatch hp
  · rw [not_not] at hlen
    refine .one ?_ fun p hp => by rw [← Except.ok.inj hp]
    simp [verdict_eq, Look.accepted, hlen, hneg, hsum, outcome]
  · exact .one (by simp [verdict_eq, Look.accepted, Look.upsets, hsum, outcome, OwnError.own,
      SpecError.isValueError]) fun _ hp => nomatch hp
  · exact .one (by simp [verdict_eq, Look.accepted, Look.upsets, hneg, outcome, OwnError.own,
      SpecError.isValueError]) fun _ hp => nomatch hp

/-- A `ValueError` of a policy's spec is a refusal. -/
theorem follows_raiseSpec {α : Type} {printable : Bool} {err : SpecError} {P : α → Prop}
    (h : err.isValueError) :
    Follows (raiseSpec printable err : Except SpecError α) [Look.plain false] P := by
  cases printable with
  | true => exact .one (by simp [raiseSpec, outcome, OwnError.own, h, verdict_eq, Look.accepted, Look.upsets]) fun _ hp => nomatch hp
  | false => exact .one rfl fun _ hp => nomatch hp

/-- The fan-out of a policy is one look. -/
theorem follows_fanOut {numSpines : Nat} {n : Int} :
    Follows (EvSpray.new numSpines n) [Look.plain (isFanOut numSpines n)]
      fun p => p.pathsPerPlane = resolvePaths numSpines n := by
  unfold EvSpray.new isFanOut
  split_ifs with h
  · refine .one ?_ fun p hp => by rw [← Except.ok.inj hp]
    simp [verdict_eq, Look.accepted, h, outcome]
  · rw [show (decide _ && decide _) = false from by simpa using h]
    exact follows_raiseSpec rfl

/-- The weights are the items as floats. -/
theorem forall₂_toFloat {items : List Yaml} {weights : List Binary64}
    (h : List.Forall₂ (fun x w => x.toFloat = .ok w) items weights) :
    items.filterMap (fun x => x.toFloat.toOption) = weights := by
  induction h with
  | nil => rfl
  | cons hx _ ih => rw [List.filterMap_cons, hx, ← ih]; rfl

/-- Reading the weights looks at the list, and then at each number. -/
theorem follows_weightsOf {value : Yaml} :
    Follows (weightsOf value)
      ([Look.iterable value] ++ (elements value).flatMap fun x => [Look.number x])
      fun weights => (elements value).filterMap (fun x => x.toFloat.toOption) = weights := by
  refine follows_iterate.bind fun items hitems => ?_
  subst hitems
  exact (Follows.mapM fun x _ => follows_builtin (toFloat_cases x)).mono fun _ => forall₂_toFloat

/-- `policy_from_spec` makes the looks of a policy. -/
theorem follows_policyFromSpec {spec : Yaml} :
    Follows (policyFromSpec T spec) (policyLooks T spec) fun _ => True := by
  have hbad : Follows (raiseSpec spec.printable (.badSpec spec) : Except SpecError SpecPolicy)
      [Look.plain false] fun _ => True := follows_raiseSpec rfl
  cases spec with
  | null | bool | int | float | list => exact hbad
  | str s =>
    unfold policyFromSpec policyLooks
    dsimp only
    split_ifs with hround hhash hspray hmrc
    · exact .one (by simp [hround, verdict_eq, Look.accepted, outcome]) fun _ _ => trivial
    · exact .one (by simp [hhash, verdict_eq, Look.accepted, outcome]) fun _ _ => trivial
    · rw [hspray]
      exact follows_fanOut.except_map fun _ _ => trivial
    · exact .one (by simp [hmrc, verdict_eq, Look.accepted, outcome]) fun _ _ => trivial
    · refine .one ?_ fun _ hp => nomatch hp
      simp [hround, hhash, hspray, hmrc, verdict_eq, Look.accepted, Look.upsets, outcome,
        OwnError.own, SpecError.isValueError]
  | dict entries =>
    rcases entries with _ | ⟨⟨kind, value⟩, _ | ⟨entry, entries⟩⟩
    · exact hbad
    · unfold policyFromSpec policyLooks
      dsimp only
      split_ifs with hweighted hspray hmrc
      · rw [← List.append_assoc]
        refine follows_weightsOf.bind fun weights hweights => ?_
        rw [hweights]
        exact follows_weights.except_map fun _ _ => trivial
      · refine (follows_builtin (toInt_cases value)).bind fun n hn => ?_
        rw [hn]
        exact follows_fanOut.except_map fun _ _ => trivial
      · exact (follows_builtin (toInt_cases value)).map fun _ _ => trivial
      · exact follows_raiseSpec rfl
    · exact hbad

/-- Checking a policy makes these looks, and what passes is a policy. -/
theorem follows_checkPolicy {spec : Yaml} :
    Follows (checkPolicy T spec path) (policyLooks T spec)
      fun _ => ∃ p, policyFromSpec T spec = .ok p := by
  have h : Follows (policyFromSpec T spec) (policyLooks T spec) fun _ => True :=
    follows_policyFromSpec
  refine ⟨?_, ?_⟩
  · rw [← h.outcome_eq]
    unfold checkPolicy
    cases policyFromSpec T spec with
    | ok p => rfl
    | error err =>
      dsimp only
      split_ifs with hvalue
      · simp [outcome, complain, OwnError.own, hvalue]
      · cases err with
        | builtin e => simp [outcome, OwnError.own, hvalue]
        | _ => exact absurd rfl hvalue
  · intro _ hok
    unfold checkPolicy at hok
    cases hp : policyFromSpec T spec with
    | ok p => exact ⟨p, rfl⟩
    | error err =>
      rw [hp] at hok
      dsimp only at hok
      split_ifs at hok
      · exact nomatch hok
      · cases err <;> exact nomatch hok

/-- The label of a mapping with one key has the label of its value in it. -/
theorem policyLabel_isSome (spec : Yaml) : (policyLabel spec).toOption.isSome = labelPrints spec := by
  fun_induction policyLabel spec with
  | case1 s => rfl
  | case2 key hkey items => rw [labelPrints, hkey]; rfl
  | case3 key hkey v hlist ih =>
    have hprints : labelPrints (.dict [(key, v)]) = labelPrints v := by
      rw [labelPrints, hkey, Bool.true_and]
      exact hlist
    rw [hprints, ← ih]
    cases policyLabel v <;> rfl
  | case4 key v hkey =>
    rw [labelPrints.eq_def]
    dsimp only
    rw [Bool.eq_false_of_not_eq_true hkey]
    rfl
  | case5 spec hstr hdict hprint =>
    rw [labelPrints, hprint]
    · rfl
    · exact hstr
    · exact hdict
  | case6 spec hstr hdict hprint =>
    rw [labelPrints, Bool.eq_false_of_not_eq_true hprint]
    · rfl
    · exact hstr
    · exact hdict

/-- Making the label is one more look. -/
theorem follows_policyLabel {spec : Yaml} :
    Follows ((policyLabel spec).mapError Raised.builtin) [Look.label spec] fun _ => True := by
  have h := policyLabel_isSome spec
  refine .one ?_ fun _ _ => trivial
  cases hl : policyLabel spec with
  | ok label =>
    rw [hl] at h
    simp [← h, verdict_eq, Look.accepted, outcome, Except.mapError, Except.toOption]
  | error e =>
    rw [hl] at h
    simp [← h, verdict_eq, Look.accepted, Look.upsets, outcome, Except.mapError, Except.toOption,
      OwnError.own]

end Policies

/-! ## Pairs and flows -/

/-- A known tenant, and two hosts there are. -/
structure FlowPair.Sound (T : Topo) (p : FlowPair) : Prop where
  tenant_mem : p.tenant ∈ T.tenants
  src_range : 0 ≤ p.src ∧ p.src < T.numLeaves
  dst_range : 0 ≤ p.dst ∧ p.dst < T.numLeaves
  src_ne_dst : p.src ≠ p.dst

/-- What pairs are read as: a list is checked, a named set is not. -/
def PairsOf (T : Topo) (v : Yaml) (pairs : List FlowPair) : Prop :=
  match v with
  | .str name => namedPairs T name = some pairs
  | _ => pairs ≠ [] ∧ ∀ p ∈ pairs, p.Sound T

/-- What a flow is read as. -/
structure FlowOf (T : Topo) (v : Yaml) (flow : FlowSpec) : Prop where
  dict : ∃ d, v = .dict d ∧ PairsOf T (field "pairs" d) flow.pairs ∧
    (∃ p, policyFromSpec T (field "policy" d) = .ok p) ∧ flow.policySpec = field "policy" d ∧
    RateOf (field "rate" d) flow.ratePps ∧ DurationOf (field "duration" d) flow.durationS

section Flows

variable {T : Topo} {path : String}

/-- A pair is looked at as a pair, and comes out sound. -/
theorem follows_validatePair {v : Yaml} :
    Follows (validatePair T v path) (pairLooks T v) fun p => p.Sound T := by
  cases v with
  | dict d =>
    refine follows_requireKeys.bind fun _ hkeys => ?_
    refine (follows_requireChoice (hkeys "tenant" (by decide))).bind fun tenant htenant => ?_
    refine (follows_requireHostId (hkeys "src" (by decide))).bind fun src hsrc => ?_
    refine (follows_requireHostId (hkeys "dst" (by decide))).bind fun dst hdst => ?_
    have hne : decide ((field "src" d).intValue ≠ (field "dst" d).intValue) = decide (src ≠ dst) := by
      rw [hsrc.1, hdst.1]
      exact decide_eq_decide.mpr (not_congr Option.some_inj)
    rw [hne]
    exact follows_require.map fun _ h => ⟨htenant, hsrc.2, hdst.2, of_decide_eq_true h⟩
  | null | bool | int | float | str | list => exact follows_complain

/-- A text or a list of pairs comes out as the pairs it stands for. -/
theorem follows_resolvePairs {v : Yaml} :
    Follows (resolvePairs T v path) (pairsLooks T v) (PairsOf T v) := by
  cases v with
  | str name =>
    unfold resolvePairs pairsLooks
    dsimp only
    cases hnamed : namedPairs T name with
    | some pairs => exact .one rfl fun _ h => by rw [PairsOf, hnamed, Except.ok.inj h]
    | none => exact follows_complain
  | list entries =>
    have hentries : Follows (entries.zipIdx.mapM fun entry =>
          validatePair T entry.1 (indexed path entry.2))
        (entries.flatMap (pairLooks T)) _ := .enumerate_all fun _ _ => follows_validatePair
    refine follows_require.bind fun _ hne => hentries.mono fun pairs hpairs => ⟨fun hnil => ?_, hpairs.2⟩
    have hlen := hpairs.1
    rw [hnil, eq_comm, List.length_nil, List.length_eq_zero_iff] at hlen
    rw [hlen] at hne
    exact absurd hne (by decide)
  | null | bool | int | float | dict => exact follows_complain

/-- A flow comes out with the pairs, the rate and the duration that it says. -/
theorem follows_validateFlow {v : Yaml} :
    Follows (validateFlow T v path) (flowLooks T v) (FlowOf T v) := by
  cases v with
  | dict d =>
    refine follows_requireKeys.bind fun _ hkeys => ?_
    refine (follows_item (hkeys "pairs" (by decide))).bind fun _ hpairs => ?_
    rw [hpairs]
    refine follows_resolvePairs.bind fun pairs hpairs => ?_
    refine (follows_item (hkeys "policy" (by decide))).bind fun _ hpolicy => ?_
    rw [hpolicy]
    refine follows_checkPolicy.bind fun _ hok => ?_
    refine (follows_item (hkeys "rate" (by decide))).bind fun _ hrate => ?_
    rw [hrate]
    refine follows_parseRate.bind fun rate hrate => ?_
    refine (follows_item (hkeys "duration" (by decide))).bind fun _ hduration => ?_
    rw [hduration]
    refine follows_parseDuration.bind fun duration hduration => ?_
    exact follows_policyLabel.map fun _ _ => ⟨d, rfl, hpairs, hok, rfl, hrate, hduration⟩
  | null | bool | int | float | str | list => exact follows_complain

end Flows

/-! ## Faults, report and single values -/

/-- The target and the spec parse. -/
structure FaultSpec.Sound (T : Topo) (fault : FaultSpec) : Prop where
  kind_eq : fault.kind = "netem"
  target_parses : isTarget T fault.target
  spec_parses : isNetemSpec fault.spec

section Singles

variable {T : Topo} {path : String} {value : Option Yaml}

/-- A text that is parsed, and not used. -/
theorem follows_parsed {α : Type} {x : Except NetemError α} {ok : Bool}
    (h : x.toOption.isSome = ok) : Follows (parsed x path) [Look.plain ok] fun _ => ok := by
  subst h
  cases x with
  | ok a => exact .one rfl fun _ _ => rfl
  | error e => exact .one rfl fun _ ha => nomatch ha

/-- A text is looked at itself. -/
theorem isTextWith_str {ok : String → Bool} {s : String} : isTextWith ok (.str s) = ok s := rfl

/-- A fault comes out with a target and a spec that parse. -/
theorem follows_validateFault {v : Yaml} :
    Follows (validateFault T v path) (faultLooks T v) fun fault => fault.Sound T := by
  cases v with
  | dict d =>
    refine follows_requireKeys.bind fun _ hkeys => ?_
    refine (follows_requireStr (hkeys "kind" (by decide))).bind fun kind hkind => ?_
    rw [hkind, show isOneOf ["netem"] (.str kind) = decide (kind = "netem") from
      decide_eq_decide.mpr List.mem_singleton]
    refine follows_require.bind fun _ hnetem => ?_
    refine (follows_requireStr (hkeys "target" (by decide))).bind fun target htarget => ?_
    refine (follows_requireStr (hkeys "spec" (by decide))).bind fun spec hspec => ?_
    rw [htarget, hspec, isTextWith_str, isTextWith_str]
    have htarget : Follows (parsed (parseTarget T target) (dotted path "target"))
        [Look.plain (isTarget T target)] fun _ => isTarget T target := follows_parsed rfl
    have hspec : Follows (parsed (normalizeSpec spec) (dotted path "spec"))
        [Look.plain (isNetemSpec spec)] fun _ => isNetemSpec spec := follows_parsed rfl
    exact htarget.bind fun _ htarget =>
      hspec.map fun _ hspec => ⟨of_decide_eq_true hnetem, htarget, hspec⟩
  | null | bool | int | float | str | list => exact follows_complain

/-- A report is looked at, and nothing is said of it. -/
theorem follows_validateReport :
    Follows (validateReport value path) (reportLooks value) fun _ => True := by
  unfold validateReport reportLooks
  cases value.getD .null with
  | null => exact .ok trivial
  | dict d =>
    refine follows_requireKeys.bind fun _ _ => ?_
    unfold field
    generalize (Yaml.get "out" d).getD .null = out
    cases out with
    | null | str => exact .one rfl fun _ _ => trivial
    | bool | int | float | list | dict => exact follows_complain
  | bool | int | float | str | list => exact follows_complain

/-- A number of paths that passes is one of a plane's. -/
theorem follows_validatePathsPerPlane :
    Follows (validatePathsPerPlane T value path) (pathsPerPlaneLooks T value)
      fun n => ∀ k ∈ n, 1 ≤ k ∧ k ≤ T.numSpines := by
  unfold validatePathsPerPlane pathsPerPlaneLooks
  cases value.getD .null with
  | null => exact .ok fun _ hk => nomatch hk
  | int n => exact follows_requireOf.map fun _ h k hk => Option.some_inj.mp hk ▸ of_decide_eq_true h
  | bool | float | str | list | dict => exact follows_complain

/-- A choice that passes is one of the choices. -/
theorem follows_validateChoice {choices : List String} :
    Follows (validateChoice choices value path) (choiceLooks choices value)
      fun s => ∀ k ∈ s, k ∈ choices := by
  unfold validateChoice choiceLooks
  cases value.getD .null with
  | null => exact .ok fun _ hk => nomatch hk
  | str s => exact follows_requireOf.map fun _ h k hk => Option.some_inj.mp hk ▸ of_decide_eq_true h
  | bool | int | float | list | dict => exact follows_complainOf

/-- `float(v)` of a number, which the caller has seen it is. -/
theorem follows_ratio {v : Yaml} {expected : String} :
    Follows (ratio v path expected) (ratioLooks v) fun x => isRatio x := by
  have hconv : (∃ n, v = .int n) ∨ (∃ x, v = .float x) →
      Follows (v.toFloat.mapError Raised.builtin) [Look.number v] fun x => v.toFloat = .ok x := by
    intro hv
    rcases toFloat_cases v with ⟨⟨x, hx⟩, hok⟩ | ⟨e, he, hok, hups⟩
    · rw [hx]
      exact .one (by simp [verdict_eq, hok, outcome, Except.mapError]) fun y hy => by
        rw [Except.ok.inj hy]
    · have hupset : (Look.number v).upsets := by
        rcases hv with ⟨n, rfl⟩ | ⟨x, rfl⟩
        · rfl
        · exact absurd he (by simp [Yaml.toFloat])
      rw [he]
      exact .one (by simp [verdict_eq, hok, hupset, outcome, Except.mapError, OwnError.own])
        fun _ hy => nomatch hy
  cases v with
  | int n =>
    refine (hconv (.inl ⟨n, rfl⟩)).bind fun x hx => ?_
    rw [hx]
    exact follows_requireOf.map fun _ h => h
  | float y =>
    refine (hconv (.inr ⟨y, rfl⟩)).bind fun x hx => ?_
    rw [hx]
    exact follows_requireOf.map fun _ h => h
  | null | bool | str | list | dict => exact follows_complainOf

end Singles

/-! ## The mrc and trim blocks -/

/-- Each field in its range. -/
structure MrcSpec.Sound (spec : MrcSpec) : Prop where
  ints_range : ∀ entry ∈ spec.ints, entry.1 ∈ mrcPositiveIntFields ∧ 1 ≤ entry.2 ∨
    entry.1 ∈ mrcNonNegativeIntFields ∧ 0 ≤ entry.2
  ratios_range : ∀ entry ∈ spec.ratios, entry.1 ∈ mrcRatioFields ∧ isRatio entry.2

/-- What the fields of a `TrimSpec` do not promise already. -/
structure TrimSpec.Sound (spec : TrimSpec) : Prop where
  planes_nonneg : ∀ plane ∈ spec.planes, 0 ≤ plane
  evs_nonneg : ∀ ev ∈ spec.evs, 0 ≤ ev.1 ∧ 0 ≤ ev.2
  seed_nonneg : 0 ≤ spec.seed

section Blocks

variable {path : String}

/-- The entries that are given are among the names. -/
theorem mem_given {d : Entries} {names : List String} {entry : String × Yaml}
    (h : entry ∈ given d names) : entry.1 ∈ names := by
  obtain ⟨name, hname, hget⟩ := List.mem_filterMap.mp h
  obtain ⟨v, -, rfl⟩ := Option.map_eq_some_iff.mp hget
  exact hname

/-- Fields checked one by one: what is returned of each has the field's name. -/
theorem follows_given {α : Type} {d : Entries} {names : List String}
    {f : String × Yaml → Except Raised (String × α)} {looks : Yaml → List Look} {P : α → Prop}
    (h : ∀ entry, Follows (f entry) (looks entry.2) fun r => r.1 = entry.1 ∧ P r.2) :
    Follows ((given d names).mapM f) ((given d names).flatMap fun entry => looks entry.2)
      fun rs => ∀ r ∈ rs, r.1 ∈ names ∧ P r.2 := by
  refine (Follows.mapM fun entry _ => h entry).mono fun rs hrs => ?_
  have hnames : ∀ entry ∈ given d names, entry.1 ∈ names := fun _ => mem_given
  clear h
  generalize given d names = entries at hrs hnames
  induction hrs with
  | nil => exact fun _ hr => absurd hr List.not_mem_nil
  | cons hr _ ih =>
    rw [List.forall_mem_cons] at hnames ⊢
    exact ⟨⟨hr.1 ▸ hnames.1, hr.2⟩, ih hnames.2⟩

/-- An integer setting that passes is its least value at least. -/
theorem follows_mrcInt {least : Int} {expected : String} (entry : String × Yaml) :
    Follows (mrcInt path least expected entry) (mrcIntLooks least entry.2)
      fun r => r.1 = entry.1 ∧ least ≤ r.2 := by
  unfold mrcInt mrcIntLooks
  cases entry.2.strictInt with
  | some n => exact follows_requireOf.map fun _ h => ⟨rfl, of_decide_eq_true h⟩
  | none => exact follows_complainOf

/-- A ratio that passes is between 0 and 1. -/
theorem follows_mrcRatio (entry : String × Yaml) :
    Follows (mrcRatio path entry) (ratioLooks entry.2) fun r => r.1 = entry.1 ∧ isRatio r.2 :=
  follows_ratio.map fun _ h => ⟨rfl, h⟩

/-- The `mrc` block comes out sound. -/
theorem follows_validateMrc {v : Yaml} :
    Follows (validateMrc v path) (mrcLooks v) MrcSpec.Sound := by
  have hempty : MrcSpec.Sound {} :=
    ⟨fun _ h => absurd h List.not_mem_nil, fun _ h => absurd h List.not_mem_nil⟩
  cases v with
  | null => exact .ok hempty
  | dict d =>
    refine follows_requireKeys.bind fun _ _ => ?_
    refine (follows_given follows_mrcInt).bind fun positive hpositive => ?_
    refine (follows_given follows_mrcInt).bind fun nonNegative hnonNegative => ?_
    refine (follows_given (P := fun x => isRatio x) follows_mrcRatio).map fun ratios hratios =>
      ⟨fun entry hentry => ?_, hratios⟩
    exact (List.mem_append.mp hentry).imp (hpositive entry) (hnonNegative entry)
  | bool | int | float | str | list => exact follows_complain

/-- A trim mode that passes is one of the modes. -/
theorem follows_trimMode {v : Yaml} :
    Follows (trimMode v path) [Look.plain (isOneOf trimModes v)] fun mode => mode ∈ trimModes := by
  cases v with
  | str s => exact follows_require.map fun _ h => of_decide_eq_true h
  | null | bool | int | float | list | dict => exact follows_complain

/-- A list of natural numbers is read as such, and none is left out. -/
theorem strictInt_of_isNatural {items : List Yaml} (h : items.all isNatural) :
    (∀ n ∈ items.filterMap Yaml.strictInt, 0 ≤ n) ∧
      (items.filterMap Yaml.strictInt).length = items.length := by
  induction items with
  | nil => exact ⟨fun _ hn => absurd hn List.not_mem_nil, rfl⟩
  | cons v items ih =>
    rw [List.all_cons, Bool.and_eq_true] at h
    obtain ⟨n, hn, hpos⟩ := (Option.any_eq_true _ _).mp h.1
    rw [List.filterMap_cons, hn]
    exact ⟨List.forall_mem_cons.mpr ⟨of_decide_eq_true hpos, (ih h.2).1⟩,
      congrArg (· + 1) (ih h.2).2⟩

/-- A list that passes has no negative number. -/
theorem follows_ints {v : Yaml} :
    Follows (ints v path) [Look.plain (isNaturals v)] fun ns => ∀ n ∈ ns, 0 ≤ n := by
  cases v with
  | list items => exact follows_require.map fun _ h => (strictInt_of_isNatural h).1
  | null | bool | int | float | str | dict => exact follows_complain

/-- Both checks of an entry have the one error. -/
theorem follows_trimEv {v : Yaml} :
    Follows (trimEv v path) [Look.plain (isEv v)] fun ev => 0 ≤ ev.1 ∧ 0 ≤ ev.2 := by
  cases v with
  | list items =>
    unfold trimEv ints isEv require
    dsimp only
    cases hall : items.all isNatural with
    | false => exact follows_complain
    | true =>
      obtain ⟨hnonneg, hlen⟩ := strictInt_of_isNatural hall
      rw [← hlen, Bool.true_and]
      dsimp only [bind, Except.bind]
      generalize items.filterMap Yaml.strictInt = ns at hnonneg
      rcases ns with _ | ⟨plane, _ | ⟨spine, _ | ⟨third, rest⟩⟩⟩
      · exact follows_complain
      · exact follows_complain
      · refine .one rfl fun ev hev => ?_
        rw [← Except.ok.inj hev]
        exact ⟨hnonneg plane (by simp), hnonneg spine (by simp)⟩
      · exact follows_complain
  | null | bool | int | float | str | dict => exact follows_complain

/-- A setting of the trim block that passes is not negative, its default included. -/
theorem follows_trimNatural {d : Entries} {key : String} {default : Int} :
    Follows (trimNatural d path key default)
      [Look.plain (isNatural ((Yaml.get key d).getD (.int default)))] fun n => 0 ≤ n := by
  unfold trimNatural isNatural
  cases ((Yaml.get key d).getD (.int default)).strictInt with
  | some n => exact follows_require.map fun _ h => of_decide_eq_true h
  | none => exact follows_complain

/-- What the validator has seen is what `TrimSpec` asks for. -/
theorem TrimSpec.new_ok {rate : Binary64} {mode : String} {planes : List Int}
    {evs : List (Int × Int)} {seed maxRetransmits : Int} (hrate : isRatio rate)
    (hmode : mode ∈ trimModes) (hmax : 0 ≤ maxRetransmits) :
    TrimSpec.new rate mode planes evs seed maxRetransmits =
      .ok ⟨rate, mode, planes, evs, seed, maxRetransmits, hrate, hmode, hmax⟩ := by
  rw [TrimSpec.new, dif_pos hrate, dif_pos hmode, dif_pos hmax]

/-- The `trim` block comes out sound. -/
theorem follows_validateTrim {v : Yaml} :
    Follows (validateTrim v path) (trimLooks v) TrimSpec.Sound := by
  cases v with
  | dict d =>
    refine follows_requireKeys.bind fun _ hkeys => ?_
    refine (follows_item (hkeys "rate" (by decide))).bind fun _ hrate => ?_
    rw [hrate]
    refine follows_ratio.bind fun rate hrate => ?_
    refine follows_trimMode.bind fun mode hmode => ?_
    refine follows_ints.bind fun planes hplanes => ?_
    generalize (Yaml.get "evs" d).getD (.list []) = evsRaw
    cases evsRaw with
    | list evsRaw =>
      have hevs : Follows (evsRaw.zipIdx.mapM fun ev =>
            trimEv ev.1 (indexed (dotted path "evs") ev.2))
          (evsRaw.flatMap fun ev => [Look.plain (isEv ev)]) _ := .enumerate_all fun _ _ => follows_trimEv
      refine hevs.bind fun evs hevs => ?_
      refine follows_trimNatural.bind fun seed hseed => ?_
      refine follows_trimNatural.last fun maxRetransmits hmax => ?_
      rw [TrimSpec.new_ok hrate hmode hmax]
      exact .ok ⟨hplanes, hevs.2, hseed⟩
    | null | bool | int | float | str | dict => exact follows_complain
  | null | bool | int | float | str | list => exact follows_complain

end Blocks

end Srv6Mrc
