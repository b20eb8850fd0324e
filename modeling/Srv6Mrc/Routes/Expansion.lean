/-
  What a spec expands to.

  `canonical` has for each key what the last entry says that names its hosts (`get_canonical`), and
  the sorted list of its items has each key once.  So the pairs of a spec are those that its entries
  name, each once and in order (`expandSpec_expanded`).
-/
import Srv6Mrc.Lib.Sorting
import Srv6Mrc.Routes.Spec

namespace Srv6Mrc

open Py

/-! ## Last wins -/

/-- A key whose entries in the list all have one value. -/
theorem get_foldl_set {α β : Type} [DecidableEq α] {key : α} {value : β} {raws : List (α × β)}
    (h : ∀ raw ∈ raws, raw.1 = key → raw.2 = value) (d : Dict α β) :
    (raws.foldl (fun d raw => d.set raw.1 raw.2) d).get key
      = if key ∈ raws.map Prod.fst then some value else d.get key := by
  induction raws generalizing d with
  | nil => rfl
  | cons raw raws ih =>
    rw [List.foldl_cons, ih fun raw' hraw' => h raw' (List.mem_cons_of_mem raw hraw')]
    by_cases hin : key ∈ raws.map Prod.fst
    · have hmem : key ∈ (raw :: raws).map Prod.fst := List.mem_cons_of_mem _ hin
      rw [if_pos hin, if_pos hmem]
    · rw [if_neg hin]
      by_cases heq : raw.1 = key
      · have hmem : key ∈ (raw :: raws).map Prod.fst := heq ▸ List.mem_cons_self
        rw [if_pos hmem, heq, Dict.get_set_self, h raw List.mem_cons_self heq]
      · have hnot : key ∉ (raw :: raws).map Prod.fst := fun hmem =>
          (List.mem_cons.mp hmem).elim (fun he => heq he.symm) hin
        rw [if_neg hnot, Dict.get_set_ne d _ (Ne.symm heq)]

/-! ## Names -/

/-- An entry names two hosts, in one direction or the other. -/
def SpecEntry.Names (e : SpecEntry) (key : PairKey) : Prop :=
  key.1 = e.tenant ∧ key.2.1 < key.2.2 ∧
    (key.2.1 ∈ e.srcs ∧ key.2.2 ∈ e.dsts ∨ key.2.2 ∈ e.srcs ∧ key.2.1 ∈ e.dsts)

instance (e : SpecEntry) (key : PairKey) : Decidable (e.Names key) := by
  unfold SpecEntry.Names; exact inferInstance

/-- The last entry that names two hosts. -/
def lastNaming (entries : List SpecEntry) (key : PairKey) : Option SpecEntry :=
  entries.reverse.find? fun e => e.Names key

/-- A pair has one key, whichever way round it is named. -/
theorem canonicalKey_eq {tenant : String} {src dst : Int} {key : PairKey} (hne : src ≠ dst) :
    canonicalKey tenant src dst = key ↔ key.1 = tenant ∧ key.2.1 < key.2.2 ∧
      (key.2.1 = src ∧ key.2.2 = dst ∨ key.2.2 = src ∧ key.2.1 = dst) := by
  obtain ⟨t, a, b⟩ := key
  unfold canonicalKey
  split
  · simp only [Prod.mk.injEq]
    constructor
    · rintro ⟨rfl, rfl, rfl⟩
      exact ⟨rfl, by omega, Or.inl ⟨rfl, rfl⟩⟩
    · rintro ⟨rfl, hlt, ⟨rfl, rfl⟩ | ⟨rfl, rfl⟩⟩
      · exact ⟨rfl, rfl, rfl⟩
      · omega
  · simp only [Prod.mk.injEq]
    constructor
    · rintro ⟨rfl, rfl, rfl⟩
      exact ⟨rfl, by omega, Or.inr ⟨rfl, rfl⟩⟩
    · rintro ⟨rfl, hlt, ⟨rfl, rfl⟩ | ⟨rfl, rfl⟩⟩
      · omega
      · exact ⟨rfl, rfl, rfl⟩

/-- An entry writes for the pairs that it names. -/
theorem SpecEntry.mem_rawPairs {e : SpecEntry} {raw : PairKey × Option Int × List Nat} :
    raw ∈ e.rawPairs ↔ e.Names raw.1 ∧ raw.2 = (e.spine, e.planes) := by
  obtain ⟨key, value⟩ := raw
  unfold SpecEntry.rawPairs
  simp only [List.mem_flatMap, List.mem_map, List.mem_filter, decide_eq_true_eq, Prod.mk.injEq]
  constructor
  · rintro ⟨src, hsrc, dst, ⟨hdst, hne⟩, hkey, rfl⟩
    obtain ⟨htenant, hlt, hends⟩ := (canonicalKey_eq hne).mp hkey
    refine ⟨⟨htenant, hlt, ?_⟩, rfl⟩
    rcases hends with ⟨ha, hb⟩ | ⟨hb, ha⟩
    · exact Or.inl ⟨ha ▸ hsrc, hb ▸ hdst⟩
    · exact Or.inr ⟨hb ▸ hsrc, ha ▸ hdst⟩
  · rintro ⟨⟨htenant, hlt, ⟨ha, hb⟩ | ⟨hb, ha⟩⟩, rfl⟩
    · exact ⟨_, ha, _, ⟨hb, by omega⟩,
        (canonicalKey_eq (by omega)).mpr ⟨htenant, hlt, Or.inl ⟨rfl, rfl⟩⟩, rfl⟩
    · exact ⟨_, hb, _, ⟨ha, by omega⟩,
        (canonicalKey_eq (by omega)).mpr ⟨htenant, hlt, Or.inr ⟨rfl, rfl⟩⟩, rfl⟩

/-- `canonical`, from the entries. -/
theorem get_canonical (entries : List SpecEntry) (key : PairKey) :
    ((entries.flatMap SpecEntry.rawPairs).foldl (fun d raw => d.set raw.1 raw.2)
      (∅ : Dict PairKey (Option Int × List Nat))).get key
      = (lastNaming entries key).map fun e => (e.spine, e.planes) := by
  induction entries using List.reverseRecOn with
  | nil => rfl
  | append_singleton entries e ih =>
    have hraws : ∀ raw ∈ e.rawPairs, raw.1 = key → raw.2 = (e.spine, e.planes) :=
      fun raw hraw _ => (SpecEntry.mem_rawPairs.mp hraw).2
    have hkeys : key ∈ e.rawPairs.map Prod.fst ↔ e.Names key := by
      rw [List.mem_map]
      constructor
      · rintro ⟨raw, hraw, rfl⟩
        exact (SpecEntry.mem_rawPairs.mp hraw).1
      · exact fun h => ⟨(key, e.spine, e.planes), SpecEntry.mem_rawPairs.mpr ⟨h, rfl⟩, rfl⟩
    have hflat : (entries ++ [e]).flatMap SpecEntry.rawPairs
        = entries.flatMap SpecEntry.rawPairs ++ e.rawPairs := by
      rw [List.flatMap_append, List.flatMap_singleton]
    rw [hflat, List.foldl_append, get_foldl_set hraws, ih]
    unfold lastNaming
    rw [List.reverse_append, List.reverse_singleton, List.singleton_append, List.find?_cons]
    by_cases hn : e.Names key
    · rw [if_pos (hkeys.mpr hn), decide_eq_true hn]
      rfl
    · rw [if_neg fun h => hn (hkeys.mp h), decide_eq_false hn]

/-! ## In order, each once -/

/-- The order of the pairs tells them apart. -/
theorem PairKey.lex_inj {key key' : PairKey} (h : key.lex = key'.lex) : key = key' := by
  obtain ⟨t, a, b⟩ := key
  obtain ⟨t', a', b'⟩ := key'
  exact h

/-! ## What the checks leave -/

/-- An entry that went through its checks. -/
structure SpecEntry.Valid (T : Topo) (e : SpecEntry) : Prop where
  tenant : e.tenant = "green" ∨ e.tenant = "yellow"
  hosts : ∀ n, n ∈ e.srcs ∨ n ∈ e.dsts → 0 ≤ n ∧ n < T.numLeaves
  spine : ∀ s, e.spine = some s → 0 ≤ s ∧ s < T.numSpines
  increasing : e.planes.Pairwise (· < ·)
  planes : ∀ p ∈ e.planes, p < T.numPlanes

namespace Topo

variable {T : Topo}

/-- A host's number that passes is in range. -/
theorem validateHostId_ok {v : Yaml} {ctx : String} {n : Int} (h : T.validateHostId v ctx = .ok n) :
    0 ≤ n ∧ n < T.numLeaves := by
  unfold validateHostId at h
  split at h
  · split at h
    · cases h
      assumption
    · cases h
  · cases h

theorem singleHost_ok {v : Yaml} {ctx : String} {ns : List Int}
    (h : ((T.validateHostId v ctx).map fun n => [n]) = .ok ns) :
    ∀ n ∈ ns, 0 ≤ n ∧ n < T.numLeaves := by
  obtain ⟨n, hn, rfl⟩ := Outcome.map_ok.mp h
  exact List.forall_mem_singleton.mpr (validateHostId_ok hn)

theorem asIdList_ok {v : Yaml} {ctx : String} {ns : List Int} (h : T.asIdList v ctx = .ok ns) :
    ∀ n ∈ ns, 0 ≤ n ∧ n < T.numLeaves := by
  unfold asIdList at h
  split at h
  · split at h
    · cases h
      intro n hn
      obtain ⟨k, hk, rfl⟩ := List.mem_map.mp hn
      exact ⟨Int.natCast_nonneg k, Int.ofNat_lt.mpr (List.mem_range.mp hk)⟩
    · cases h
  · intro n hn
    obtain ⟨_, _, heq⟩ := (Outcome.mem_mapM h).1 n hn
    exact validateHostId_ok heq
  · split at h
    · exact singleHost_ok h
    · cases h

/-- Planes that pass are in range, in order and each once. -/
theorem validatePlanes_ok {v : Yaml} {ctx : String} {ps : List Nat}
    (h : T.validatePlanes v ctx = .ok ps) : ps.Pairwise (· < ·) ∧ ∀ p ∈ ps, p < T.numPlanes := by
  unfold validatePlanes at h
  split at h
  · dsimp only at h
    split at h
    · cases h
    · rename_i ints _ hbad
      cases h
      have hrange : ∀ p ∈ ints, 0 ≤ p ∧ p < (T.numPlanes : Int) := by
        intro p hp
        by_contra hout
        exact hbad fun hnil => List.not_mem_nil
          (hnil ▸ List.mem_filter.mpr ⟨hp, decide_eq_true hout⟩)
      constructor
      · exact Sorting.pairwise_lt_mergeSort_id (List.nodup_dedup _)
      · intro p hp
        obtain ⟨n, hn, rfl⟩ := List.mem_map.mp (List.mem_dedup.mp (List.mem_mergeSort.mp hp))
        have := hrange n hn
        omega
  · cases h

theorem validateSpine_ok {v : Yaml} {ctx : String} {s : Int}
    (h : T.validateSpine v ctx = .ok (some s)) : 0 ≤ s ∧ s < T.numSpines := by
  unfold validateSpine at h
  split at h
  · split at h <;> cases h
  · split at h
    · split at h
      · cases h
        assumption
      · cases h
    · cases h

/-- A tenant that passes is one of the two. -/
theorem validateTenant_ok {v : Yaml} {ctx : String} {t : String}
    (h : validateTenant v ctx = .ok t) : t = "green" ∨ t = "yellow" := by
  unfold validateTenant at h
  split at h
  · split at h
    · cases h
      assumption
    · cases h
  · cases h

theorem parseEntry_valid {hosts : Yaml → String → Except RouteSpecError (List Int)}
    (hhosts : ∀ v ctx ns, hosts v ctx = .ok ns → ∀ n ∈ ns, 0 ≤ n ∧ n < T.numLeaves) {v : Yaml}
    {ctx : String} {e : SpecEntry} (h : T.parseEntry hosts v ctx = .ok e) : e.Valid T := by
  unfold parseEntry at h
  split at h
  · obtain ⟨tenant, htenant, h⟩ := Outcome.bind_ok.mp h
    obtain ⟨srcs, hsrcs, h⟩ := Outcome.bind_ok.mp h
    obtain ⟨dsts, hdsts, h⟩ := Outcome.bind_ok.mp h
    obtain ⟨spine, hspine, h⟩ := Outcome.bind_ok.mp h
    obtain ⟨planes, hplanes, h⟩ := Outcome.bind_ok.mp h
    cases h
    obtain ⟨hincreasing, hrange⟩ := validatePlanes_ok hplanes
    refine ⟨validateTenant_ok htenant, ?_, ?_, hincreasing, hrange⟩
    · rintro n (hn | hn)
      · exact hhosts _ _ _ hsrcs n hn
      · exact hhosts _ _ _ hdsts n hn
    · rintro s rfl
      exact validateSpine_ok hspine
  · cases h

theorem parseEntries_valid {parse : Yaml → String → Except RouteSpecError SpecEntry}
    (hparse : ∀ v ctx e, parse v ctx = .ok e → e.Valid T) {key : String}
    {spec : List (Key × Yaml)} {es : List SpecEntry} (h : parseEntries parse key spec = .ok es) :
    ∀ e ∈ es, e.Valid T := by
  unfold parseEntries at h
  dsimp only at h
  split at h
  · split at h
    · intro e he
      obtain ⟨_, _, heq⟩ := (Outcome.mem_mapM h).1 e he
      exact hparse _ _ _ heq
    · cases h
  · cases h
    exact List.forall_mem_nil _

theorem specEntries_valid {specDoc : Yaml} {entries : List SpecEntry}
    (h : T.specEntries specDoc = .ok entries) : ∀ e ∈ entries, e.Valid T := by
  unfold specEntries at h
  split at h
  · split at h
    · split at h
      · cases h
      · split at h
        · split at h
          · cases h
          · dsimp only at h
            split at h
            · obtain ⟨pairs, hpairs, h⟩ := Outcome.bind_ok.mp h
              obtain ⟨mesh, hmesh, h⟩ := Outcome.bind_ok.mp h
              cases h
              refine List.forall_mem_append.mpr ⟨?_, ?_⟩
              · exact parseEntries_valid
                  (fun v ctx e => parseEntry_valid fun v ctx ns hns => singleHost_ok hns) hpairs
              · exact parseEntries_valid
                  (fun v ctx e => parseEntry_valid fun v ctx ns hns => asIdList_ok hns) hmesh
            · cases h
        · cases h
    · cases h
  · cases h

/-! ## The pairs -/

/-- The pairs of a spec. -/
structure Expanded (T : Topo) (entries : List SpecEntry) (pairs : List Pair) : Prop where
  /-- In order, and no two of the same hosts. -/
  sorted : pairs.Pairwise fun p q => p.key.lex < q.key.lex
  /-- The pairs are those that an entry names, as the last one that names it says. -/
  named : ∀ p, p ∈ pairs ↔
    ∃ e, lastNaming entries p.key = some e ∧ p = T.pairOf p.key (e.spine, e.planes)
  nonempty : pairs ≠ []
  tenant : ∀ p ∈ pairs, p.tenant = "green" ∨ p.tenant = "yellow"
  hosts : ∀ p ∈ pairs, 0 ≤ p.a ∧ p.a < p.b ∧ p.b < T.numLeaves
  planes : ∀ p ∈ pairs, p.planes.Pairwise (· < ·) ∧ ∀ plane ∈ p.planes, plane < T.numPlanes
  /-- Only `spine_for` can name a spine that the planes do not have. -/
  spine : ∀ p ∈ pairs, p.spine = T.spineFor p.a p.b ∨ 0 ≤ p.spine ∧ p.spine < T.numSpines

/-- The last entry that names a pair is one that does. -/
theorem lastNaming_some {entries : List SpecEntry} {key : PairKey} {e : SpecEntry}
    (h : lastNaming entries key = some e) : e ∈ entries ∧ e.Names key := by
  unfold lastNaming at h
  have hnames := List.find?_some h
  exact ⟨List.mem_reverse.mp (List.mem_of_find?_eq_some h), of_decide_eq_true hnames⟩

section Canonical

variable {T : Topo} {entries : List SpecEntry} {d : Dict PairKey (Option Int × List Nat)}

/-- The pairs made of the items are those that an entry names, as the last one says. -/
theorem mem_pairsOf
    (hget : ∀ key, d.get key = (lastNaming entries key).map fun e => (e.spine, e.planes))
    (p : Pair) :
    p ∈ (d.entries.mergeSort fun x y => x.1.lex ≤ y.1.lex).map (fun x => T.pairOf x.1 x.2) ↔
      ∃ e, lastNaming entries p.key = some e ∧ p = T.pairOf p.key (e.spine, e.planes) := by
  rw [List.mem_map]
  constructor
  · rintro ⟨⟨key, value⟩, hmem, rfl⟩
    have hval : d.get key = some value := Dict.find_of_mem d.nodup (List.mem_mergeSort.mp hmem)
    rw [hget key, Option.map_eq_some_iff] at hval
    obtain ⟨e, he, rfl⟩ := hval
    exact ⟨e, he, rfl⟩
  · rintro ⟨e, he, hp⟩
    have hval : d.get p.key = some (e.spine, e.planes) := by
      rw [hget, he]
      rfl
    exact ⟨(p.key, e.spine, e.planes), List.mem_mergeSort.mpr (Dict.mem_of_find hval), hp.symm⟩

theorem canonical_ne_nil
    (hget : ∀ key, d.get key = (lastNaming entries key).map fun e => (e.spine, e.planes))
    (hraws : entries.flatMap SpecEntry.rawPairs ≠ []) : d.entries ≠ [] := by
  intro hempty
  obtain ⟨raw, hraw⟩ := List.exists_mem_of_ne_nil _ hraws
  obtain ⟨e, he, hraw⟩ := List.mem_flatMap.mp hraw
  have hlast : (lastNaming entries raw.1).isSome := List.find?_isSome.mpr
    ⟨e, List.mem_reverse.mpr he, decide_eq_true (SpecEntry.mem_rawPairs.mp hraw).1⟩
  have hkey := hget raw.1
  unfold Dict.get at hkey
  rw [hempty] at hkey
  rw [← Option.isSome_map (f := fun e : SpecEntry => (e.spine, e.planes)), ← hkey] at hlast
  cases hlast

end Canonical

/-- A document that is accepted was read, and expanded. -/
theorem expandSpec_ok {T : Topo} {specDoc : Yaml} {pairs : List Pair}
    (h : T.expandSpec specDoc = .ok pairs) :
    ∃ entries, T.specEntries specDoc = .ok entries ∧ Expanded T entries pairs := by
  obtain ⟨entries, hentries, h⟩ := Outcome.bind_ok.mp h
  dsimp only at h
  split at h
  · cases h
  rename_i hraws
  have hvalid := specEntries_valid hentries
  have hget := get_canonical entries
  generalize hd : (entries.flatMap SpecEntry.rawPairs).foldl (fun d raw => d.set raw.1 raw.2)
    (∅ : Dict PairKey (Option Int × List Nat)) = d at h hget
  obtain rfl := Except.ok.inj h
  have hkeys : (d.entries.map fun x => x.1.lex).Nodup := by
    have hmap : (d.entries.map fun x => x.1.lex) = (d.entries.map Prod.fst).map PairKey.lex :=
      (List.map_map ..).symm
    rw [hmap]
    exact d.nodup.map fun _ _ => PairKey.lex_inj
  have hsorted := Sorting.pairwise_lt_mergeSort
    (fun x : PairKey × Option Int × List Nat => x.1.lex) hkeys
  -- every pair comes from an entry that went through the checks
  have hentry : ∀ p ∈ (d.entries.mergeSort fun x y => x.1.lex ≤ y.1.lex).map
      (fun x => T.pairOf x.1 x.2), ∃ e : SpecEntry, e.Valid T ∧ e.Names p.key ∧
        p = T.pairOf p.key (e.spine, e.planes) := by
    intro p hp
    obtain ⟨e, he, heq⟩ := (mem_pairsOf hget p).mp hp
    obtain ⟨hmem, hnames⟩ := lastNaming_some he
    exact ⟨e, hvalid e hmem, hnames, heq⟩
  refine ⟨entries, hentries, List.pairwise_map.mpr hsorted, mem_pairsOf hget, ?_, ?_, ?_, ?_, ?_⟩
  · intro hnil
    refine canonical_ne_nil hget hraws ?_
    have hlength := congrArg List.length hnil
    rw [List.length_map, List.length_mergeSort] at hlength
    exact List.length_eq_zero_iff.mp hlength
  · intro p hp
    obtain ⟨e, hv, hnames, -⟩ := hentry p hp
    have htenant : p.tenant = e.tenant := hnames.1
    rw [htenant]
    exact hv.tenant
  · intro p hp
    obtain ⟨e, hv, ⟨-, hlt, hends⟩, -⟩ := hentry p hp
    have hlt : p.a < p.b := hlt
    have hends : p.a ∈ e.srcs ∧ p.b ∈ e.dsts ∨ p.b ∈ e.srcs ∧ p.a ∈ e.dsts := hends
    rcases hends with ⟨ha, hb⟩ | ⟨hb, ha⟩
    · exact ⟨(hv.hosts p.a (Or.inl ha)).1, hlt, (hv.hosts p.b (Or.inr hb)).2⟩
    · exact ⟨(hv.hosts p.a (Or.inr ha)).1, hlt, (hv.hosts p.b (Or.inl hb)).2⟩
  · intro p hp
    obtain ⟨e, hv, -, heq⟩ := hentry p hp
    rw [heq]
    exact ⟨hv.increasing, hv.planes⟩
  · intro p hp
    obtain ⟨e, hv, -, heq⟩ := hentry p hp
    cases hspine : e.spine with
    | none =>
      rw [heq, hspine]
      exact Or.inl rfl
    | some s =>
      rw [heq, hspine]
      exact Or.inr (hv.spine s hspine)

/-- Every spec that is accepted: what its entries are is what `specEntries` read. -/
theorem expandSpec_expanded (T : Topo) (specDoc : Yaml) {pairs : List Pair}
    (h : T.expandSpec specDoc = .ok pairs) :
    ∃ entries, T.specEntries specDoc = .ok entries ∧ Expanded T entries pairs :=
  expandSpec_ok h

/-- A spec with one pair, named twice. -/
def onePairSpec : Yaml :=
  let pair (src dst spine : Int) : Yaml := .dict [(.str "tenant", .str "green"), (.str "src", .int src),
    (.str "dst", .int dst), (.str "spine", .int spine)]
  .dict [(.str "apiVersion", .str "srv6-lab/v1"), (.str "kind", .str "RouteSet"),
    (.str "spec", .dict [(.str "pairs", .list [pair 0 15 3, pair 15 0 2])])]

/-- Two entries for one pair, of which the second counts. -/
theorem expandSpec_expanded_onePair :
    let T : Topo := ⟨4, 8, 16, ["green", "yellow"]⟩
    ∃ pairs entries, T.specEntries onePairSpec = .ok entries ∧ Expanded T entries pairs :=
  ⟨_, expandSpec_expanded _ _ rfl⟩

end Topo
end Srv6Mrc
