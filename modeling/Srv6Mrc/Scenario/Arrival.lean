/-
  Which policies arrive at the sender as they left the scenario.

  A number is written as a text that is read back as the same number, so that nothing is lost on the
  way.  But a boolean among the weights is written as `True`, which no float is, and there is no text
  for a mapping of `health_aware_mrc`.
-/
import Srv6Mrc.Scenario.Cli
import Srv6Mrc.Scenario.Settled

namespace Srv6Mrc

open Py

/-! ## What arrives -/

/-- The same kind of policy, with the same weights or the same number of paths. -/
def Arrives (p : SpecPolicy) (live : LivePolicy) : Prop :=
  match p, live with
  | .roundRobin, .spec .roundRobin => True
  | .hash5Tuple, .spec .hash5Tuple => True
  | .weighted p, .spec (.weighted q) => q.weights = p.weights
  | .evSpray p, .spec (.evSpray q) => q.pathsPerPlane = p.pathsPerPlane
  | .healthAwareMrc factory, .healthAwareMrc q => (q.pathsPerPlane : Int) = factory.pathsPerPlane
  | _, _ => False

/-- A boolean. -/
def isBool (v : Yaml) : Bool :=
  match v with
  | .bool _ => true
  | _ => false

/-- A policy of the scenario that has a text: no number of paths for `health_aware_mrc`, no boolean
    among the weights, no integer that is too long.  The bare `health_aware_mrc` needs an EV. -/
def CliFits (T : Topo) (spec : Yaml) : Prop :=
  match spec with
  | .str s => s = "health_aware_mrc" → 1 ≤ T.numPlanes ∧ 1 ≤ T.numSpines
  | .dict [(key, value)] =>
    key ≠ .str "health_aware_mrc" ∧
      (key = .str "weighted" → ∀ x ∈ elements value, isBool x = false) ∧
      (key = .str "ev_spray" → ∀ n, value.toInt = .ok n → printableInt n)
  | _ => True

/-- The floats among the weights are printed as texts that are read back. -/
def Prints (str : Yaml → String) (spec : Yaml) : Prop :=
  match spec with
  | .dict [(_, value)] => ∀ x, .float x ∈ elements value → floatOfText (str (.float x)) = some x
  | _ => True

section Arrival

variable {T : Topo} {str : Yaml → String} {tenant : String} {evConfig : Option EVStateConfig}

/-- The policy reaches the sender. -/
def Reaches (T : Topo) (str : Yaml → String) (tenant : String) (evConfig : Option EVStateConfig)
    (spec : Yaml) (p : SpecPolicy) : Prop :=
  ∃ cli, policyToCli str spec = .ok cli ∧
    ∃ live, parsePolicy T tenant evConfig cli none = .ok live ∧ Arrives p live

/-! ## Weights -/

/-- A number among the weights is written as a text of the same number. -/
theorem strOf_weight {x : Yaml} {w : Binary64} (hw : x.toFloat = .ok w) (hbool : isBool x = false)
    (hfloat : ∀ y, x = .float y → floatOfText (str x) = some y) :
    ∃ text, strOf str x = .ok text ∧ floatOfText text = some w := by
  cases x with
  | null | list | dict => cases hw
  | bool => cases hbool
  | int n =>
    rw [Yaml.toFloat, Yaml.floatOfInt, Binary64.ofInt_eq] at hw
    split_ifs at hw with hrange
    · refine ⟨toString n, ?_, ?_⟩
      · unfold strOf
        dsimp only
        rw [textOfInt_of_float hrange]
      rw [floatOfText_toString, Except.ok.inj hw]
  | float y =>
    have hprint : (Yaml.float y).printable := by simp [Yaml.printable]
    refine ⟨str (.float y), ?_, ?_⟩
    · unfold strOf
      exact if_pos hprint
    rw [hfloat y rfl, Except.ok.inj hw]
  | str s =>
    refine ⟨s, rfl, ?_⟩
    rw [Yaml.toFloat] at hw
    cases hs : floatOfText s with
    | none =>
      rw [hs] at hw
      cases hw
    | some y =>
      rw [hs] at hw
      rw [Except.ok.inj hw]

/-! ## Forms with a colon -/

/-- Nothing before the colon is a space. -/
theorem strip_form {head : String} (h : head.toList.all fun c => !isSpace c) (rest : List Char) :
    strip isSpace (head.toList ++ ':' :: rest) = head.toList ++ ':' :: rest.rdropWhile isSpace := by
  have hcolon : isSpace ':' = false := by decide
  have hdrop : (head.toList ++ ':' :: rest).dropWhile isSpace = head.toList ++ ':' :: rest := by
    cases hcs : head.toList with
    | nil => exact List.dropWhile_cons_of_neg (Bool.eq_false_iff.mp hcolon)
    | cons c cs =>
      have hc : (!isSpace c) = true := List.all_eq_true.mp h c (hcs ▸ List.mem_cons_self)
      rw [Bool.not_eq_true'] at hc
      exact List.dropWhile_cons_of_neg (Bool.eq_false_iff.mp hc)
  rw [strip, hdrop, rdropWhile_append_cons hcolon]

theorem afterColon_form {head : String} (h : head.toList.all (· != ':')) (rest : List Char) :
    afterColon (head.toList ++ ':' :: rest) = rest := by
  rw [afterColon, List.dropWhile_append_of_pos fun c hc =>
    decide_eq_true (bne_iff_ne.mp (List.all_eq_true.mp h c hc))]
  rfl

theorem startsWith_form {head : String} {start : String} (h : start.toList = head.toList ++ [':'])
    (rest : List Char) : startsWith start (head.toList ++ ':' :: rest) = true := by
  rw [startsWith, List.isPrefixOf_iff_prefix, h]
  exact ⟨rest, by rw [List.append_assoc]; rfl⟩

/-- The heads of the forms. -/
theorem formHeads : ("weighted:".toList = "weighted".toList ++ [':'] ∧
      "ev_spray:".toList = "ev_spray".toList ++ [':']) ∧
    (∀ head ∈ ["weighted", "ev_spray"],
      (head.toList.all fun c => !isSpace c) ∧ head.toList.all (· != ':')) ∧
    "weighted:".toList = 'w' :: "eighted:".toList ∧ "ev_spray".toList = 'e' :: "v_spray".toList := by
  decide

/-- The form of weights. -/
theorem parsePolicy_weighted (rest : String) :
    parsePolicy T tenant evConfig ("weighted:" ++ rest) none =
      (parseWeights (rest.toList.rdropWhile isSpace) >>= fun weights =>
        (fromSpec T (.dict [(.str "weighted", .list (weights.map .float))])).map .spec) := by
  obtain ⟨⟨hhead, -⟩, hheads, -⟩ := formHeads
  obtain ⟨hspaces, hcolons⟩ := hheads "weighted" (by simp)
  have hcs : strip isSpace ("weighted:" ++ rest).toList =
      "weighted".toList ++ ':' :: rest.toList.rdropWhile isSpace := by
    rw [String.toList_append, hhead, List.append_assoc]
    exact strip_form hspaces rest.toList
  unfold parsePolicy
  dsimp only
  rw [hcs, if_pos (startsWith_form hhead _), afterColon_form hcolons]
  rfl

/-- Weights are read back from the text they are written as. -/
theorem parsePolicy_weights {texts : List String} {weights : List Binary64}
    (h : ReadAs (texts.map String.toList) weights) (hne : texts ≠ []) :
    parsePolicy T tenant evConfig ("weighted:" ++ ",".intercalate texts) none =
      (fromSpec T (.dict [(.str "weighted", .list (weights.map .float))])).map .spec := by
  have hread := h.trimLast
  have hparse : parseWeights ([','].intercalate (trimLast (texts.map String.toList))) = .ok weights := by
    rw [parseWeights, hread.splitOn (trimLast_ne_nil (by simpa using hne))]
    exact Outcome.mapM_forall₂.mpr (hread.imp fun cs x hx => by rw [hx])
  rw [parsePolicy_weighted, String.toList_intercalate]
  change parseWeights (([','].intercalate (texts.map String.toList)).rdropWhile isSpace) >>= _ = _
  rw [rdropWhile_joined, hparse]
  rfl

/-- What is read as weights has only commas, spaces and the characters of numbers in it. -/
theorem parseWeights_chars {cs : List Char} {weights : List Binary64}
    (h : parseWeights cs = .ok weights) {c : Char} (hc : c ∈ cs) :
    c = ',' ∨ isSpace c ∨ NumberChar c := by
  rcases mem_splitOnP (p := (· == ',')) hc with hcomma | ⟨part, hpart, hmem⟩
  · exact .inl (beq_iff_eq.mp hcomma)
  · obtain ⟨x, -, hx⟩ := (Outcome.mem_mapM h).2 part hpart
    cases hread : floatOfText (String.ofList part) with
    | none =>
      rw [hread] at hx
      exact nomatch hx
    | some y =>
      refine .inr ((floatOfText_chars hread c (by rwa [String.toList_ofList])).imp ?_ id)
      exact isSpace_of_isNumSpace

/-- A text with a letter that no number has is not read as weights. -/
theorem parsePolicy_letter {rest : String} {c : Char} (hc : c ∈ rest.toList)
    (hcomma : c ≠ ',') (hspace : isSpace c = false) (hnumber : ¬ NumberChar c) (live : LivePolicy) :
    parsePolicy T tenant evConfig ("weighted:" ++ rest) none ≠ .ok live := by
  intro hlive
  rw [parsePolicy_weighted] at hlive
  obtain ⟨weights, hweights, -⟩ := Outcome.bind_ok.mp hlive
  have hmem : c ∈ rest.toList.rdropWhile isSpace := by
    rw [← List.rdropWhile_append_rtakeWhile (p := isSpace) (l := rest.toList)] at hc
    refine (List.mem_append.mp hc).resolve_right fun htake => ?_
    exact Bool.false_ne_true (hspace.symm.trans (List.mem_rtakeWhile_imp htake))
  rcases parseWeights_chars hweights hmem with heq | hs | hn
  · exact hcomma heq
  · exact Bool.false_ne_true (hspace.symm.trans hs)
  · exact hnumber hn

/-- The letters of `True` and `False` that no number has. -/
theorem bool_letter (b : Bool) : ∃ c ∈ (if b then "True" else "False" : String).toList,
    c ≠ ',' ∧ isSpace c = false ∧ ¬ NumberChar c := by
  cases b with
  | true => exact ⟨'r', by decide, by decide, by decide, by unfold NumberChar; decide⟩
  | false => exact ⟨'l', by decide, by decide, by decide, by unfold NumberChar; decide⟩

/-- The form of a number of paths. -/
theorem parsePolicy_evSpray (n : Int) {text : String} (htext : textOfInt n = some text) :
    parsePolicy T tenant evConfig ("ev_spray:" ++ text) none =
      (fromSpec T (.dict [(.str "ev_spray", .int n)])).map .spec := by
  obtain ⟨⟨-, hhead⟩, hheads, hw, he⟩ := formHeads
  obtain ⟨hspaces, hcolons⟩ := hheads "ev_spray" (by simp)
  have hchars : text.toList.rdropWhile isSpace = text.toList :=
    List.rdropWhile_eq_self_iff.mpr fun hne => by
      rw [textOfInt_not_space htext _ (List.getLast_mem hne)]
      exact Bool.false_ne_true
  have hcs : strip isSpace ("ev_spray:" ++ text).toList = "ev_spray".toList ++ ':' :: text.toList := by
    rw [String.toList_append, hhead, List.append_assoc]
    refine (strip_form hspaces text.toList).trans ?_
    rw [hchars]
  have hother : startsWith "weighted:" ("ev_spray".toList ++ ':' :: text.toList) = false := by
    rw [startsWith, hw, he]
    rfl
  unfold parsePolicy
  dsimp only
  rw [hcs, hother, if_neg Bool.false_ne_true, if_pos (startsWith_form hhead _),
    afterColon_form hcolons, String.ofList_toList, intOfText_textOfInt htext]
  dsimp only
  cases fromSpec T (.dict [(.str "ev_spray", .int n)]) <;> rfl

/-! ## Every accepted policy -/

/-- `policy_from_spec` of the mapping that `parse_policy` makes of weights builds the same policy. -/
theorem fromSpec_weights {weights : List Binary64} {q : Weighted}
    (h : Weighted.new T.numPlanes weights = .ok q) :
    fromSpec T (.dict [(.str "weighted", .list (weights.map .float))]) = .ok (.weighted q) := by
  have hweights : weightsOf (.list (weights.map .float)) = .ok weights := by
    have hmap : (weights.map Yaml.float).mapM (fun x => builtin x.toFloat) = .ok weights := by
      rw [Outcome.mapM_forall₂, List.forall₂_map_left_iff, List.forall₂_same]
      exact fun _ _ => rfl
    exact hmap
  have hpolicy : policyFromSpec T (.dict [(.str "weighted", .list (weights.map .float))]) =
      .ok (.weighted q) := by
    rw [policyFromSpec, if_pos rfl, hweights]
    change (Weighted.new T.numPlanes weights).map SpecPolicy.weighted = _
    rw [h]
    rfl
  rw [fromSpec, hpolicy]
  rfl

/-- The weights of a mapping that is accepted. -/
theorem weights_of_spec {value : Yaml} {p : SpecPolicy}
    (h : policyFromSpec T (.dict [(.str "weighted", value)]) = .ok p) :
    ∃ weights q, value.iterate = .ok (elements value) ∧
      List.Forall₂ (fun x w => x.toFloat = .ok w) (elements value) weights ∧
      Weighted.new T.numPlanes weights = .ok q ∧ p = .weighted q := by
  rw [policyFromSpec, if_pos rfl] at h
  obtain ⟨weights, hweights, h⟩ := Outcome.bind_ok.mp h
  obtain ⟨items, hitems, hweights⟩ := Outcome.bind_ok.mp hweights
  obtain ⟨q, hq, rfl⟩ := Outcome.map_ok.mp h
  cases hiter : value.iterate with
  | error e =>
    rw [hiter] at hitems
    cases hitems
  | ok xs =>
    rw [hiter] at hitems
    have hxs : xs = items := Except.ok.inj hitems
    have helements : elements value = items := by rw [elements, hiter, ← hxs]; rfl
    refine ⟨weights, q, by rw [helements, hxs], ?_, hq, rfl⟩
    rw [helements]
    refine (Outcome.mapM_forall₂.mp hweights).imp fun x w hx => ?_
    cases hw : x.toFloat with
    | error e =>
      rw [hw] at hx
      cases hx
    | ok y =>
      rw [hw] at hx
      exact congrArg Except.ok (Except.ok.inj hx)

/-- Each weight has its text. -/
theorem texts_of_weights {xs : List Yaml} {weights : List Binary64}
    (h : List.Forall₂ (fun x w => x.toFloat = .ok w) xs weights)
    (hbools : ∀ x ∈ xs, isBool x = false)
    (hprints : ∀ x, .float x ∈ xs → floatOfText (str (.float x)) = some x) :
    ∃ texts, xs.mapM (fun w => (strOf str w).mapError CliError.builtin) = .ok texts ∧
      ReadAs (texts.map String.toList) weights := by
  induction h with
  | nil => exact ⟨[], rfl, .nil⟩
  | @cons x w xs weights hw _ ih =>
    rw [List.forall_mem_cons] at hbools
    obtain ⟨texts, htexts, hread⟩ := ih hbools.2 fun y hy => hprints y (List.mem_cons_of_mem x hy)
    have hfloat : ∀ y, x = .float y → floatOfText (str x) = some y := by
      rintro y rfl
      exact hprints y List.mem_cons_self
    obtain ⟨text, htext, hw⟩ := strOf_weight hw hbools.1 hfloat
    refine ⟨text :: texts, ?_, .cons (by rwa [String.ofList_toList]) hread⟩
    rw [List.mapM_cons, htext, htexts]
    rfl

theorem mem_joined {texts : List String} {text : String} {c : Char} (htext : text ∈ texts)
    (hc : c ∈ text.toList) : c ∈ (",".intercalate texts).toList := by
  rw [String.toList_intercalate]
  induction texts with
  | nil => exact nomatch htext
  | cons t ts ih =>
    cases ts with
    | nil =>
      rw [List.mem_singleton] at htext
      rw [List.map_singleton, List.intercalate_singleton, ← htext]
      exact hc
    | cons t' ts =>
      rw [List.map_cons, List.map_cons, List.intercalate_cons_cons, List.mem_append]
      rcases List.mem_cons.mp htext with rfl | hmem
      · exact .inl (List.mem_append_left _ hc)
      · exact .inr (ih hmem)

/-- Weights without a boolean arrive, and a boolean is in the way. -/
theorem reaches_weighted {value : Yaml} {p : SpecPolicy}
    (h : policyFromSpec T (.dict [(.str "weighted", value)]) = .ok p)
    (hprints : ∀ x, .float x ∈ elements value → floatOfText (str (.float x)) = some x) :
    Reaches T str tenant evConfig (.dict [(.str "weighted", value)]) p ↔
      ∀ x ∈ elements value, isBool x = false := by
  obtain ⟨weights, q, hiter, hweights, hq, rfl⟩ := weights_of_spec h
  have hcli : policyToCli str (.dict [(.str "weighted", value)]) =
      (elements value).mapM (fun w => (strOf str w).mapError CliError.builtin) >>= fun texts =>
        .ok ("weighted:" ++ ",".intercalate texts) := by
    rw [policyToCli, if_pos rfl, hiter]
    rfl
  constructor
  · rintro ⟨cli, hok, live, hlive, -⟩ x hx
    rw [hcli] at hok
    obtain ⟨texts, htexts, hok⟩ := Outcome.bind_ok.mp hok
    rw [← Except.ok.inj hok] at hlive
    cases x with
    | bool b =>
      obtain ⟨text, htext, hprint⟩ := (Outcome.mem_mapM htexts).2 _ hx
      have htext' : text = if b then "True" else "False" := (Except.ok.inj hprint).symm
      obtain ⟨c, hc, hcomma, hspace, hnumber⟩ := bool_letter b
      exact absurd hlive (parsePolicy_letter (mem_joined htext (htext' ▸ hc)) hcomma hspace hnumber live)
    | null | int | float | str | list | dict => rfl
  · intro hbools
    obtain ⟨texts, htexts, hread⟩ := texts_of_weights hweights hbools hprints
    have hne : texts ≠ [] := by
      rintro rfl
      cases hread
      rw [Weighted.new] at hq
      split_ifs at hq with _ _ hsum
      · exact absurd hsum (by decide)
    refine ⟨"weighted:" ++ ",".intercalate texts, by rw [hcli, htexts]; rfl, .spec (.weighted q), ?_, rfl⟩
    rw [parsePolicy_weights hread hne, fromSpec_weights hq]
    rfl

/-- A number of paths arrives, if it can be printed. -/
theorem reaches_evSpray {value : Yaml} {p : SpecPolicy}
    (h : policyFromSpec T (.dict [(.str "ev_spray", value)]) = .ok p) :
    Reaches T str tenant evConfig (.dict [(.str "ev_spray", value)]) p ↔
      ∀ n, value.toInt = .ok n → printableInt n := by
  rw [policyFromSpec, if_neg (by decide), if_pos rfl] at h
  obtain ⟨n, hn, h⟩ := Outcome.bind_ok.mp h
  have hint : value.toInt = .ok n := by
    cases hv : value.toInt with
    | error e =>
      rw [hv] at hn
      cases hn
    | ok m =>
      rw [hv] at hn
      exact congrArg Except.ok (Except.ok.inj hn)
  obtain ⟨q, hq, rfl⟩ := Outcome.map_ok.mp h
  have hcli : policyToCli str (.dict [(.str "ev_spray", value)]) =
      ((strOf str (.int n)).mapError CliError.builtin) >>= fun text => .ok ("ev_spray:" ++ text) := by
    rw [policyToCli, if_neg (by decide), if_pos rfl, hint]
    generalize strOf str = print
    rfl
  have hspec : fromSpec T (.dict [(.str "ev_spray", .int n)]) = .ok (.evSpray q) := by
    have hpolicy : policyFromSpec T (.dict [(.str "ev_spray", .int n)]) = .ok (.evSpray q) := by
      rw [policyFromSpec, if_neg (by decide), if_pos rfl]
      change (EvSpray.new T.numSpines n).map SpecPolicy.evSpray = _
      rw [hq]
      rfl
    rw [fromSpec, hpolicy]
    rfl
  rw [hint]
  cases htext : textOfInt n with
  | none =>
    -- a number too long to print
    refine iff_of_false ?_ fun hprint => ?_
    · rintro ⟨cli, hok, -⟩
      rw [hcli] at hok
      unfold strOf at hok
      dsimp only at hok
      rw [htext] at hok
      cases hok
    · have hlt := of_decide_eq_true (hprint n rfl)
      rw [textOfInt, if_pos hlt] at htext
      cases htext
  | some text =>
    -- it is printed, and read back as the same policy
    refine iff_of_true ⟨"ev_spray:" ++ text, ?_, .spec (.evSpray q), ?_, rfl⟩ ?_
    · rw [hcli]
      unfold strOf
      dsimp only
      rw [htext]
      rfl
    · rw [parsePolicy_evSpray n htext, hspec]
      rfl
    · intro m hm
      cases hm
      unfold textOfInt at htext
      split_ifs at htext with hlt
      exact decide_eq_true hlt

/-- A factory is bound to a new table where there is an EV for it. -/
theorem bindFactory_ok (hcfg : ∀ cfg ∈ evConfig, 0 ≤ cfg.probeWindowTicks)
    (hplanes : 1 ≤ T.numPlanes) (hspines : 1 ≤ T.numSpines) :
    ∃ q, bindFactory T tenant evConfig ⟨T.numSpines⟩ = .ok q ∧ q.pathsPerPlane = T.numSpines := by
  have hwindow : ¬ (evConfig.getD {}).probeWindowTicks < 0 := by
    cases evConfig with
    | none => decide
    | some cfg => exact not_lt.mpr (hcfg cfg rfl)
  obtain ⟨table, htable, htenants, hnumPlanes, hnumPaths⟩ :
      ∃ table, EVStateTable.new [tenant] T.numPlanes T.numSpines evConfig = .ok table ∧
        table.tenants = [tenant] ∧ table.numPlanes = T.numPlanes ∧ table.numPaths = T.numSpines := by
    unfold EVStateTable.new
    rw [dif_neg (List.cons_ne_nil _ _), dif_neg (by omega), dif_neg (by omega), dif_neg hwindow]
    exact ⟨_, rfl, rfl, Int.toNat_natCast _, Int.toNat_natCast _⟩
  have hsentinel : ¬ (T.numSpines : Int) = -1 := by omega
  refine ⟨⟨table, tenant, T.numSpines, htenants ▸ List.mem_singleton_self tenant, hspines,
    hnumPaths.ge⟩, ?_, rfl⟩
  rw [bindFactory, htable]
  change (HealthAwareMrc.new table tenant T.numSpines T.numPlanes T.numSpines).mapError _ = _
  unfold HealthAwareMrc.new
  dsimp only
  rw [dif_pos (htenants ▸ List.mem_singleton_self tenant), if_neg (not_not.mpr hnumPlanes),
    dif_neg (not_not.mpr hnumPaths)]
  simp only [if_neg hsentinel]
  rw [dif_pos (by omega)]
  rfl

theorem dims_of_bindFactory {factory : HealthAwareMrcFactory} {q : HealthAwareMrc}
    (h : bindFactory T tenant evConfig factory = .ok q) : 1 ≤ T.numPlanes ∧ 1 ≤ T.numSpines := by
  obtain ⟨table, htable, -⟩ := Outcome.bind_ok.mp h
  have hplanes : 1 ≤ T.numPlanes := by
    by_contra hnone
    rw [EVStateTable.new, dif_neg (List.cons_ne_nil _ _), dif_pos (by omega)] at htable
    exact nomatch htable
  refine ⟨hplanes, ?_⟩
  by_contra hnone
  rw [EVStateTable.new, dif_neg (List.cons_ne_nil _ _), dif_neg (by omega),
    dif_pos (by omega)] at htable
  exact nomatch htable

/-- The names of policies are taken as they are. -/
theorem parsePolicy_bare {s : String}
    (hs : s ∈ ["round_robin", "hash5tuple", "ev_spray", "health_aware_mrc"]) :
    parsePolicy T tenant evConfig s none = fromSpec T (.str s) >>= resolve T tenant evConfig := by
  have hplain : ∀ s ∈ ["round_robin", "hash5tuple", "ev_spray", "health_aware_mrc"],
      strip isSpace s.toList = s.toList ∧ startsWith "weighted:" s.toList = false ∧
        startsWith "ev_spray:" s.toList = false ∧ startsWith "mrc_snapshot:" s.toList = false := by
    decide
  obtain ⟨hstrip, hweighted, hspray, hsnapshot⟩ := hplain s hs
  unfold parsePolicy
  dsimp only
  rw [hstrip, hweighted, hspray, hsnapshot, String.ofList_toList]
  rfl

/-- A bare name arrives; without an EV there is no table to bind the MRC policy to. -/
theorem reaches_bare {s : String} {p : SpecPolicy} (h : policyFromSpec T (.str s) = .ok p)
    (hcfg : ∀ cfg ∈ evConfig, 0 ≤ cfg.probeWindowTicks) :
    Reaches T str tenant evConfig (.str s) p ↔ CliFits T (.str s) := by
  have hspec : fromSpec T (.str s) = .ok p := by rw [fromSpec, h]; rfl
  have hreaches : s ∈ ["round_robin", "hash5tuple", "ev_spray", "health_aware_mrc"] →
      (Reaches T str tenant evConfig (.str s) p ↔
        ∃ live, resolve T tenant evConfig p = .ok live ∧ Arrives p live) := by
    intro hs
    have hparse : parsePolicy T tenant evConfig s none = _ := parsePolicy_bare hs
    rw [hspec] at hparse
    constructor
    · rintro ⟨cli, hcli, live, hlive, harrives⟩
      cases hcli
      exact ⟨live, hparse.symm.trans hlive, harrives⟩
    · rintro ⟨live, hlive, harrives⟩
      exact ⟨s, rfl, live, hparse.trans hlive, harrives⟩
  rw [policyFromSpec] at h
  split_ifs at h with hround hhash hspray hmrc
  · cases h
    rw [hreaches (by simp [hround])]
    exact iff_of_true ⟨_, rfl, trivial⟩ fun hname => absurd (hround.symm.trans hname) (by decide)
  · cases h
    rw [hreaches (by simp [hhash])]
    exact iff_of_true ⟨_, rfl, trivial⟩ fun hname => absurd (hhash.symm.trans hname) (by decide)
  · obtain ⟨q, -, rfl⟩ := Outcome.map_ok.mp h
    rw [hreaches (by simp [hspray])]
    exact iff_of_true ⟨_, rfl, rfl⟩ fun hname => absurd (hspray.symm.trans hname) (by decide)
  · have hp : p = .healthAwareMrc ⟨T.numSpines⟩ := (Except.ok.inj h).symm
    rw [hreaches (by simp [hmrc]), hp]
    constructor
    · rintro ⟨live, hlive, -⟩ -
      obtain ⟨q, hq, -⟩ := Outcome.bind_ok.mp hlive
      exact dims_of_bindFactory hq
    · intro hdims
      obtain ⟨hplanes, hspines⟩ := hdims hmrc
      obtain ⟨q, hq, hpaths⟩ : ∃ q, bindFactory T tenant evConfig ⟨T.numSpines⟩ = .ok q ∧
          q.pathsPerPlane = T.numSpines := bindFactory_ok hcfg hplanes hspines
      exact ⟨.healthAwareMrc q, by rw [resolve, hq]; rfl, by rw [Arrives, hpaths]⟩

theorem raiseSpec_ne_ok {α : Type} {printable : Bool} {err : SpecError} {a : α} :
    raiseSpec printable err ≠ .ok a := by
  cases printable <;> exact fun h => nomatch h

/-- A mapping with one key arrives if it has a text. -/
theorem reaches_mapping {kind : Key} {value : Yaml} {p : SpecPolicy}
    (h : policyFromSpec T (.dict [(kind, value)]) = .ok p)
    (hprints : Prints str (.dict [(kind, value)])) :
    Reaches T str tenant evConfig (.dict [(kind, value)]) p ↔ CliFits T (.dict [(kind, value)]) := by
  by_cases hweighted : kind = .str "weighted"
  · subst hweighted
    rw [reaches_weighted h hprints]
    exact ⟨fun hbools => ⟨by decide, fun _ => hbools, fun hkind => absurd hkind (by decide)⟩,
      fun hfits => hfits.2.1 rfl⟩
  by_cases hspray : kind = .str "ev_spray"
  · subst hspray
    rw [reaches_evSpray h]
    exact ⟨fun hprint => ⟨by decide, fun hkind => absurd hkind (by decide), fun _ => hprint⟩,
      fun hfits => hfits.2.2 rfl⟩
  have hunsupported : policyToCli str (.dict [(kind, value)]) =
      .error (.unsupported (.dict [(kind, value)])) := by
    rw [policyToCli, if_neg hweighted, if_neg hspray]
  have hkind : kind = .str "health_aware_mrc" := by
    by_contra hmrc
    rw [policyFromSpec, if_neg hweighted, if_neg hspray, if_neg hmrc] at h
    exact raiseSpec_ne_ok h
  refine iff_of_false ?_ fun hfits => hfits.1 hkind
  rintro ⟨cli, hcli, -⟩
  rw [hunsupported] at hcli
  cases hcli

/-- A policy that is accepted arrives if it has a text. -/
theorem reaches_iff {spec : Yaml} {p : SpecPolicy} (h : policyFromSpec T spec = .ok p)
    (hcfg : ∀ cfg ∈ evConfig, 0 ≤ cfg.probeWindowTicks) (hprints : Prints str spec) :
    Reaches T str tenant evConfig spec p ↔ CliFits T spec := by
  cases spec with
  | str s => exact reaches_bare h hcfg
  | dict entries =>
    rcases entries with _ | ⟨⟨kind, value⟩, _ | ⟨second, rest⟩⟩
    · exact absurd h raiseSpec_ne_ok
    · exact reaches_mapping h hprints
    · exact absurd h raiseSpec_ne_ok
  | null | bool | int | float | list => exact absurd h raiseSpec_ne_ok

/-! ## Scenarios -/

theorem flowCli_ok {flow : FlowSpec} {cli : String} :
    flowCli str flow = .ok cli ↔ policyToCli str flow.policySpec = .ok cli := by
  unfold flowCli
  cases policyToCli str flow.policySpec with
  | ok text => exact ⟨fun h => congrArg Except.ok (Except.ok.inj h), fun h => congrArg Except.ok (Except.ok.inj h)⟩
  | error err =>
    refine iff_of_false (fun h => ?_) (fun h => nomatch h)
    dsimp only at h
    split_ifs at h
    cases err <;> exact nomatch h

/-- The runs of a scenario's flows are made, and every flow's policy reaches its sender. -/
def AllReach (T : Topo) (str : Yaml → String) (tenant : String) (evConfig : Option EVStateConfig)
    (s : Scenario) : Prop :=
  (∃ runs, expandFlows str s = .ok runs) ∧ ∀ flow ∈ s.flows,
    ∃ p, policyFromSpec T flow.policySpec = .ok p ∧ Reaches T str tenant evConfig flow.policySpec p

theorem expandFlows_ok {s : Scenario} : (∃ runs, expandFlows str s = .ok runs) ↔
    ∀ flow ∈ s.flows, ∃ cli, policyToCli str flow.policySpec = .ok cli := by
  have hturn : ∀ flow : FlowSpec, (∃ runs, (do
      let cli ← flowCli str flow
      return flow.pairs.map (flowRun flow cli)) = .ok runs) ↔
        ∃ cli, policyToCli str flow.policySpec = .ok cli := by
    intro flow
    constructor
    · rintro ⟨runs, hruns⟩
      obtain ⟨cli, hcli, -⟩ := Outcome.bind_ok.mp hruns
      exact ⟨cli, flowCli_ok.mp hcli⟩
    · rintro ⟨cli, hcli⟩
      exact ⟨_, Outcome.bind_ok.mpr ⟨cli, flowCli_ok.mpr hcli, rfl⟩⟩
  have hloop : (∃ rows, s.flows.mapM (fun flow => do
      let cli ← flowCli str flow
      return flow.pairs.map (flowRun flow cli)) = .ok rows) ↔ _ := Outcome.exists_mapM
  simp only [hturn] at hloop
  rw [← hloop]
  constructor
  · rintro ⟨runs, hruns⟩
    obtain ⟨rows, hrows, -⟩ := Outcome.bind_ok.mp hruns
    exact ⟨rows, hrows⟩
  · rintro ⟨rows, hrows⟩
    exact ⟨rows.flatten, Outcome.bind_ok.mpr ⟨rows, hrows, rfl⟩⟩

/-- The policies of a validated scenario were accepted. -/
theorem policy_of_validate {doc : Yaml} {s : Scenario} (h : validate T doc = .ok s) :
    ∀ flow ∈ s.flows, ∃ p, policyFromSpec T flow.policySpec = .ok p := by
  obtain ⟨d, -, hflows⟩ := ((validate_follows doc).returns s h).flows
  clear h
  generalize s.flows = flows at hflows
  generalize items (field "flows" d) = vs at hflows
  induction hflows with
  | nil => exact fun _ h => absurd h List.not_mem_nil
  | cons hflow _ ih =>
    refine List.forall_mem_cons.mpr ⟨?_, ih⟩
    obtain ⟨d, -, -, hp, hspec, -⟩ := hflow.dict
    rw [hspec]
    exact hp

/-- A validated scenario is expanded, and all its policies reach their senders as they are, if each
    of them has a text. -/
theorem validated_reach_iff (T : Topo) (str : Yaml → String) (tenant : String)
    (evConfig : Option EVStateConfig) (hcfg : ∀ cfg ∈ evConfig, 0 ≤ cfg.probeWindowTicks)
    {doc : Yaml} {s : Scenario} (h : validate T doc = .ok s)
    (hprints : ∀ flow ∈ s.flows, Prints str flow.policySpec) :
    AllReach T str tenant evConfig s ↔ ∀ flow ∈ s.flows, CliFits T flow.policySpec := by
  unfold AllReach
  constructor
  · rintro ⟨-, hreach⟩ flow hflow
    obtain ⟨p, hp, hreaches⟩ := hreach flow hflow
    exact (reaches_iff hp hcfg (hprints flow hflow)).mp hreaches
  · intro hfits
    have hreach : ∀ flow ∈ s.flows, ∃ p, policyFromSpec T flow.policySpec = .ok p ∧
        Reaches T str tenant evConfig flow.policySpec p := by
      intro flow hflow
      obtain ⟨p, hp⟩ := policy_of_validate h flow hflow
      exact ⟨p, hp, (reaches_iff hp hcfg (hprints flow hflow)).mpr (hfits flow hflow)⟩
    refine ⟨expandFlows_ok.mpr fun flow hflow => ?_, hreach⟩
    obtain ⟨p, -, cli, hcli, -⟩ := hreach flow hflow
    exact ⟨cli, hcli⟩

/-- `flow["policy"]` -/
def policyOf (v : Yaml) : Yaml :=
  match v with
  | .dict d => field "policy" d
  | _ => .null

/-- The policies of a scenario are kept as they were given. -/
theorem policySpecs_of_validate {doc : Yaml} {s : Scenario} (h : validate T doc = .ok s) :
    s.flows.map (·.policySpec) = (flowsOf doc).map policyOf := by
  obtain ⟨d, rfl, hflows⟩ := ((validate_follows doc).returns s h).flows
  rw [flowsOf]
  clear h
  generalize s.flows = flows at hflows
  generalize items (field "flows" d) = vs at hflows
  induction hflows with
  | nil => rfl
  | cons hflow _ ih =>
    obtain ⟨d, rfl, -, -, hspec, -⟩ := hflow.dict
    rw [List.map_cons, List.map_cons, ih, hspec, policyOf]

/-- A document with this one policy. -/
def docOf (policy : Yaml) : Yaml :=
  .dict [(.str "name", .str "trip"), (.str "flows", .list [.dict
    [(.str "pairs", .str "green-00-15"), (.str "policy", policy), (.str "rate", .int 100),
     (.str "duration", .str "30s")]])]

theorem policySpec_docOf {policy : Yaml} {s : Scenario} (h : validate T (docOf policy) = .ok s) :
    s.flows.map (·.policySpec) = [policy] := policySpecs_of_validate h

theorem exists_validated (doc : Yaml) (h : (validate T doc).toOption.isSome) :
    ∃ s, validate T doc = .ok s := by
  cases hv : validate T doc with
  | error e =>
    rw [hv] at h
    exact absurd h Bool.false_ne_true
  | ok s => exact ⟨s, rfl⟩

/-- Weights of all kinds: a float, an integer and a text. -/
theorem validated_reach_iff_weights : ∃ s,
    validate ⟨4, 8, 16, ["green", "yellow"]⟩ (docOf (.dict [(.str "weighted", .list
      [.float (.finite (1 / 2)), .int 1, .str "0.25", .int 0])])) = .ok s ∧
    AllReach ⟨4, 8, 16, ["green", "yellow"]⟩ (fun _ => "0.5") "green" none s := by
  obtain ⟨s, hs⟩ := exists_validated (T := ⟨4, 8, 16, ["green", "yellow"]⟩)
    (docOf (.dict [(.str "weighted", .list
      [.float (.finite (1 / 2)), .int 1, .str "0.25", .int 0])])) (by decide +kernel)
  have hflows : ∀ flow ∈ s.flows, flow.policySpec = .dict [(.str "weighted", .list
      [.float (.finite (1 / 2)), .int 1, .str "0.25", .int 0])] := by
    intro flow hflow
    have := List.mem_map_of_mem (f := fun flow : FlowSpec => flow.policySpec) hflow
    rw [policySpec_docOf hs] at this
    exact List.mem_singleton.mp this
  have hcfg : ∀ cfg ∈ (none : Option EVStateConfig), 0 ≤ cfg.probeWindowTicks := by simp
  refine ⟨s, hs, (validated_reach_iff _ _ _ _ hcfg hs ?_).mpr ?_⟩
  · intro flow hflow
    rw [hflows flow hflow]
    intro x hx
    have : x = .finite (1 / 2) := by
      simpa [elements, Yaml.iterate, Except.toOption] using hx
    rw [this]
    decide +kernel
  · intro flow hflow
    rw [hflows flow hflow]
    exact ⟨by decide, fun _ => by decide, fun hkind => absurd hkind (by decide)⟩

/-- A mapping of `health_aware_mrc` is validated, and has no text. -/
theorem not_reach_mapping : ∃ s,
    validate ⟨4, 8, 16, ["green", "yellow"]⟩ (docOf (.dict [(.str "health_aware_mrc", .int 2)])) =
      .ok s ∧
    ¬ AllReach ⟨4, 8, 16, ["green", "yellow"]⟩ (fun _ => "0.5") "green" none s := by
  obtain ⟨s, hs⟩ := exists_validated (T := ⟨4, 8, 16, ["green", "yellow"]⟩)
    (docOf (.dict [(.str "health_aware_mrc", .int 2)])) (by decide +kernel)
  refine ⟨s, hs, fun hreach => ?_⟩
  have hspec : .dict [(.str "health_aware_mrc", .int 2)] ∈ s.flows.map (·.policySpec) := by
    rw [policySpec_docOf hs]
    exact List.mem_singleton_self _
  obtain ⟨flow, hflow, hspec⟩ := List.mem_map.mp hspec
  obtain ⟨p, -, cli, hcli, -⟩ := hreach.2 flow hflow
  rw [hspec] at hcli
  exact nomatch hcli

end Arrival

end Srv6Mrc
