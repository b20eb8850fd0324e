/-
  `srv6_mrc/cli/routes.py`: `apply` and `delete`, on the kernels' tables.

  The commands of a spec run in a pool of threads, so in any order, each on one place of a table: the
  kernel keeps routes apart by host, destination and metric at least.  No two routes of a spec have
  all three in common (`nodup_places`), so no command undoes what another one did, and the order does
  not matter: neither when a spec is applied, nor again, nor when it is deleted (`tables`).
-/
import Srv6Mrc.Routes.Expansion
import Srv6Mrc.Fabric.Names
import Srv6Mrc.Scenario.Cli

/-! ## Writing to many places -/

namespace Places

variable {K V R : Type} [DecidableEq K] (place : R → K) (content : R → V → V)

/-- A write for each of a list, one after the other; what it writes depends on what is there. -/
def writeAll (l : List R) (t : K → V) : K → V :=
  l.foldl (fun t r => Function.update t (place r) (content r (t (place r)))) t

variable {place content}

/-- No write to a place leaves it as it was. -/
theorem writeAll_of_not_mem {l : List R} {k : K} (h : ∀ r ∈ l, place r ≠ k) (t : K → V) :
    writeAll place content l t k = t k := by
  induction l generalizing t with
  | nil => rfl
  | cons r l ih =>
    have hrest := ih fun r' hr' => h r' (List.mem_cons_of_mem r hr')
    exact (hrest _).trans (Function.update_of_ne (Ne.symm (h r List.mem_cons_self)) _ _)

/-- With a place for each, every write is seen. -/
theorem writeAll_of_mem {l : List R} (hplaces : (l.map place).Nodup) {r : R} (hr : r ∈ l)
    (t : K → V) : writeAll place content l t (place r) = content r (t (place r)) := by
  induction l generalizing t with
  | nil => cases hr
  | cons r' l ih =>
    obtain ⟨hnot, hrest⟩ := List.nodup_cons.mp hplaces
    rcases List.mem_cons.mp hr with rfl | hr
    · have hother : ∀ r' ∈ l, place r' ≠ place r := fun r' hr' heq =>
        hnot (List.mem_map.mpr ⟨r', hr', heq⟩)
      exact (writeAll_of_not_mem hother _).trans (Function.update_self _ _ _)
    · have hother : place r ≠ place r' := fun heq => hnot (List.mem_map.mpr ⟨r, hr, heq⟩)
      exact (ih hrest hr _).trans (congrArg (content r) (Function.update_of_ne hother _ _))

/-- A place is written to, or not. -/
theorem exists_place (place : R → K) (l : List R) (k : K) :
    (∃ r ∈ l, place r = k) ∨ ∀ r ∈ l, place r ≠ k := by
  by_cases h : ∃ r ∈ l, place r = k
  · exact Or.inl h
  · exact Or.inr fun r hr heq => h ⟨r, hr, heq⟩

/-- In any order. -/
theorem writeAll_perm {l l' : List R} (hplaces : (l'.map place).Nodup) (h : l.Perm l') (t : K → V) :
    writeAll place content l t = writeAll place content l' t := by
  have hplaces' : (l.map place).Nodup := (h.map place).nodup_iff.mpr hplaces
  funext k
  rcases exists_place place l' k with ⟨r, hr, rfl⟩ | hno
  · rw [writeAll_of_mem hplaces hr, writeAll_of_mem hplaces' (h.mem_iff.mpr hr)]
  · rw [writeAll_of_not_mem hno, writeAll_of_not_mem fun r hr => hno r (h.mem_iff.mp hr)]

/-- Writes that change nothing the second time. -/
theorem writeAll_writeAll {l : List R} (hplaces : (l.map place).Nodup)
    (h : ∀ r v, content r (content r v) = content r v) (t : K → V) :
    writeAll place content l (writeAll place content l t) = writeAll place content l t := by
  funext k
  rcases exists_place place l k with ⟨r, hr, rfl⟩ | hno
  · rw [writeAll_of_mem hplaces hr, writeAll_of_mem hplaces hr, h]
  · rw [writeAll_of_not_mem hno]

end Places

namespace Srv6Mrc

open Py

/-! ## Routes -/

/-- `Route` -/
structure Route where
  onHost : String
  dst : String
  segs : String
  dev : String
  metric : Nat
  deriving DecidableEq, Repr

/-- Where a route of a pair begins and ends, and its plane. -/
structure RouteEnds where
  tenant : String
  spine : Int
  src : Int
  dst : Int
  plane : Nat

/-- The loops of `Pair.routes`. -/
def Pair.ends (p : Pair) : List RouteEnds :=
  [(p.a, p.b), (p.b, p.a)].flatMap fun ids =>
    p.planes.map fun plane => ⟨p.tenant, p.spine, ids.1, ids.2, plane⟩

namespace Topo

variable (T : Topo)

/-- `inner_route_dst` -/
def innerRouteDst (tenant : String) (hostId : Int) : Except TopoError String :=
  (T.innerAddr tenant hostId).map (· ++ "/128")

/-- A turn of the loops of `Pair.routes`. -/
def route (e : RouteEnds) : Except TopoError Route := do
  let dst ← T.innerRouteDst e.tenant e.dst
  let segs ← T.usidOuterDst e.tenant e.plane e.spine e.dst
  return {
    onHost := hostNameInt e.tenant e.src
    dst
    segs
    dev := "eth" ++ toString (e.plane + 1)
    metric := 100 + e.plane }

/-- `Pair.routes` -/
def pairRoutes (p : Pair) : Except TopoError (List Route) := p.ends.mapM T.route

/-- `[r for p in pairs for r in p.routes()]` -/
def allRoutes (pairs : List Pair) : Except TopoError (List Route) :=
  (pairs.mapM T.pairRoutes).map List.flatten

end Topo

/-! ## No two routes in one place -/

/-- What tells routes apart. -/
def Route.place (r : Route) : String × String × Nat := (r.onHost, r.dst, r.metric)

/-- The ends of a pair's routes are its hosts, in one order or the other. -/
theorem mem_ends {p : Pair} {e : RouteEnds} (he : e ∈ p.ends) :
    e.tenant = p.tenant ∧ e.spine = p.spine ∧ e.plane ∈ p.planes ∧
      (e.src = p.a ∧ e.dst = p.b ∨ e.src = p.b ∧ e.dst = p.a) := by
  obtain ⟨ids, hids, he⟩ := List.mem_flatMap.mp he
  obtain ⟨plane, hplane, rfl⟩ := List.mem_map.mp he
  rcases List.mem_cons.mp hids with rfl | hids
  · exact ⟨rfl, rfl, hplane, Or.inl ⟨rfl, rfl⟩⟩
  · rw [List.mem_singleton.mp hids]
    exact ⟨rfl, rfl, hplane, Or.inr ⟨rfl, rfl⟩⟩

/-- No two routes of a spec have the same ends. -/
theorem ends_nodup {T : Topo} {entries : List SpecEntry} {pairs : List Pair}
    (h : Topo.Expanded T entries pairs) : (pairs.flatMap Pair.ends).Nodup := by
  refine List.nodup_flatMap.mpr ⟨fun p hp => ?_, ?_⟩
  · have hne : p.a ≠ p.b := Int.ne_of_lt (h.hosts p hp).2.1
    have hplanes : p.planes.Nodup := (h.planes p hp).1.imp Nat.ne_of_lt
    have hend : ∀ ids : Int × Int, (p.planes.map fun plane =>
        (⟨p.tenant, p.spine, ids.1, ids.2, plane⟩ : RouteEnds)).Nodup := fun ids =>
      hplanes.map fun _ _ heq => (RouteEnds.mk.inj heq).2.2.2.2
    refine List.nodup_flatMap.mpr ⟨fun ids _ => hend ids, ?_⟩
    refine List.pairwise_pair.mpr fun e he he' => ?_
    obtain ⟨plane, -, rfl⟩ := List.mem_map.mp he
    obtain ⟨plane', -, heq⟩ := List.mem_map.mp he'
    exact hne (RouteEnds.mk.inj heq).2.2.1.symm
  · refine h.sorted.imp_of_mem fun {p q} hp hq hlt e hep heq => ?_
    obtain ⟨htp, -, -, hendsp⟩ := mem_ends hep
    obtain ⟨htq, -, -, hendsq⟩ := mem_ends heq
    have hp' := (h.hosts p hp).2.1
    have hq' := (h.hosts q hq).2.1
    -- the same hosts in the same order, so the same key
    have hkey : p.key = q.key := by
      unfold Pair.key
      rw [← htp, ← htq]
      have hab : p.a = q.a ∧ p.b = q.b := by omega
      rw [hab.1, hab.2]
    rw [hkey] at hlt
    exact lt_irrefl _ hlt

/-- All the loops are one. -/
theorem allRoutes_mapM {T : Topo} {pairs : List Pair} {routes : List Route}
    (h : T.allRoutes pairs = .ok routes) : (pairs.flatMap Pair.ends).mapM T.route = .ok routes := by
  obtain ⟨rss, hrss, rfl⟩ := Outcome.map_ok.mp h
  have hpairs := Outcome.mapM_forall₂.mp hrss
  refine Outcome.mapM_forall₂.mpr ?_
  clear hrss h
  induction hpairs with
  | nil => exact List.Forall₂.nil
  | cons hp _ ih =>
    rw [List.flatMap_cons, List.flatten_cons]
    exact List.rel_append (Outcome.mapM_forall₂.mp hp) ih

/-- A loop over different elements, where a part of what is made tells the elements apart. -/
theorem nodup_mapM {ε α β κ : Type} {g : α → Except ε β} {f : β → κ} {as : List α} {bs : List β}
    (h : as.mapM g = .ok bs) (hnodup : as.Nodup)
    (hinj : ∀ a ∈ as, ∀ a' ∈ as, ∀ b b', g a = .ok b → g a' = .ok b' → f b = f b' → a = a') :
    (bs.map f).Nodup := by
  induction as generalizing bs with
  | nil =>
    cases h
    exact List.nodup_nil
  | cons a as ih =>
    rw [List.mapM_cons] at h
    obtain ⟨b, hb, h⟩ := Outcome.bind_ok.mp h
    obtain ⟨bs', hbs, h⟩ := Outcome.bind_ok.mp h
    cases h
    obtain ⟨hnot, hnodup⟩ := List.nodup_cons.mp hnodup
    refine List.nodup_cons.mpr ⟨fun hmem => ?_, ?_⟩
    · obtain ⟨b', hb', heq⟩ := List.mem_map.mp hmem
      obtain ⟨a', ha', hgb'⟩ := (Outcome.mem_mapM hbs).1 b' hb'
      rw [hinj a List.mem_cons_self a' (List.mem_cons_of_mem a ha') b b' hb hgb' heq.symm] at hnot
      exact hnot ha'
    · exact ih hbs hnodup fun a₁ h₁ a₂ h₂ =>
        hinj a₁ (List.mem_cons_of_mem a h₁) a₂ (List.mem_cons_of_mem a h₂)

/-- What a route is made of. -/
theorem route_ok {T : Topo} {e : RouteEnds} {r : Route} (h : T.route e = .ok r) :
    ∃ n : Nat, e.dst = n ∧ e.tenant ∈ T.tenants ∧ r.onHost = hostNameInt e.tenant e.src ∧
      r.metric = 100 + e.plane ∧
      r.dst = (if e.tenant = "green" then "2001:db8:bbbb:" else "2001:db8:cccc:")
        ++ hexPad 2 n ++ "::2" ++ "/128" := by
  obtain ⟨dst, hdst, h⟩ := Outcome.bind_ok.mp h
  obtain ⟨segs, -, h⟩ := Outcome.bind_ok.mp h
  cases h
  obtain ⟨addr, haddr, rfl⟩ := Outcome.map_ok.mp hdst
  unfold Topo.innerAddr at haddr
  obtain ⟨_, htenant, haddr⟩ := Outcome.bind_ok.mp haddr
  have hmem := checkTenantIn_ok.mp htenant
  by_cases hgreen : e.tenant = "green"
  · rw [if_pos hgreen] at haddr
    obtain ⟨n, hn, haddr⟩ := Outcome.bind_ok.mp haddr
    cases haddr
    exact ⟨n, (checkIndex_ok.mp hn).1, hmem, rfl, rfl, by rw [if_pos hgreen]⟩
  · rw [if_neg hgreen] at haddr
    obtain ⟨n, hn, haddr⟩ := Outcome.bind_ok.mp haddr
    cases haddr
    exact ⟨n, (checkIndex_ok.mp hn).1, hmem, rfl, rfl, by rw [if_neg hgreen]⟩

theorem hexPad_inj {width m n : Nat} (h : hexPad width m = hexPad width n) : m = n := by
  have hlist := congrArg (fun text : String => hexVal text.toList) h
  simpa only [toList_hexPad, hexVal_leftpad] using hlist

/-- The routes of a spec: no two have host, destination and metric in common. -/
theorem nodup_places {T : Topo} {entries : List SpecEntry} {pairs : List Pair}
    (h : Topo.Expanded T entries pairs) {routes : List Route} (hroutes : T.allRoutes pairs = .ok routes) :
    (routes.map Route.place).Nodup := by
  refine nodup_mapM (allRoutes_mapM hroutes) (ends_nodup h) ?_
  intro e he e' he' r r' hr hr' hplace
  obtain ⟨p, hp, hep⟩ := List.mem_flatMap.mp he
  obtain ⟨p', hp', hep'⟩ := List.mem_flatMap.mp he'
  obtain ⟨htp, hspine, -, hends⟩ := mem_ends hep
  obtain ⟨htp', hspine', -, hends'⟩ := mem_ends hep'
  obtain ⟨n, hn, -, hhost, hmetric, hdst⟩ := route_ok hr
  obtain ⟨n', hn', -, hhost', hmetric', hdst'⟩ := route_ok hr'
  obtain ⟨hsame, hrest⟩ := Prod.mk.inj hplace
  obtain ⟨hsameDst, hsameMetric⟩ := Prod.mk.inj hrest
  have hids := h.hosts p hp
  have hids' := h.hosts p' hp'
  -- the host tells the tenant and the source, then the destination tells its id
  rw [hhost, hhost'] at hsame
  obtain ⟨htenant, hsrc⟩ := hostNameInt_inj (by omega) (by omega) hsame
  rw [hdst, hdst', htenant] at hsameDst
  have hdstId : n = n' := hexPad_inj
    (Fabric.append_left_inj (Fabric.append_right_inj (Fabric.append_right_inj hsameDst)))
  have hpair : p = p' := by
    have hkey : p.key = p'.key := by
      unfold Pair.key
      rw [← htp, ← htp', htenant]
      have hab : p.a = p'.a ∧ p.b = p'.b := by omega
      rw [hab.1, hab.2]
    obtain ⟨last, hlast, heq⟩ := (h.named p).mp hp
    obtain ⟨last', hlast', heq'⟩ := (h.named p').mp hp'
    rw [heq, heq', ← hkey]
    rw [← hkey, hlast] at hlast'
    obtain rfl := Option.some.inj hlast'
    rfl
  obtain ⟨t, spine, src, dst, plane⟩ := e
  obtain ⟨t', spine', src', dst', plane'⟩ := e'
  dsimp only at htenant hsrc hn hn' hspine hspine' hmetric hmetric'
  have hdsts : dst = dst' := by omega
  have hspines : spine = spine' := by rw [hspine, hspine', hpair]
  have hplanes : plane = plane' := by omega
  rw [htenant, hspines, hsrc, hdsts, hplanes]

/-! ## When there are routes -/

/-- The topology has the tenant and the spine of a pair. -/
def Writable (T : Topo) (p : Pair) : Prop :=
  p.tenant ∈ T.tenants ∧ 0 ≤ p.spine ∧ p.spine < T.numSpines

/-- A route can be written if the topology has its tenant and spine. -/
theorem exists_route {T : Topo} {e : RouteEnds} (hdst : 0 ≤ e.dst ∧ e.dst < T.numLeaves)
    (hplane : e.plane < T.numPlanes) :
    (∃ r, T.route e = .ok r) ↔
      e.tenant ∈ T.tenants ∧ 0 ≤ e.spine ∧ e.spine < T.numSpines := by
  obtain ⟨n, hn⟩ := Int.eq_ofNat_of_zero_le hdst.1
  have hhost : T.checkHost e.dst = .ok n := checkIndex_ok.mpr ⟨hn, by omega⟩
  constructor
  · rintro ⟨r, hr⟩
    obtain ⟨dst, -, hr⟩ := Outcome.bind_ok.mp hr
    obtain ⟨segs, hsegs, -⟩ := Outcome.bind_ok.mp hr
    unfold Topo.usidOuterDst at hsegs
    obtain ⟨_, htenant, hsegs⟩ := Outcome.bind_ok.mp hsegs
    obtain ⟨_, -, hsegs⟩ := Outcome.bind_ok.mp hsegs
    obtain ⟨s, hs, -⟩ := Outcome.bind_ok.mp hsegs
    have hspine := checkIndex_ok.mp hs
    exact ⟨checkTenantIn_ok.mp htenant, by omega, by omega⟩
  · rintro ⟨htenant, hlow, hhigh⟩
    obtain ⟨s, hs⟩ := Int.eq_ofNat_of_zero_le hlow
    have htenant' : T.checkTenant e.tenant = .ok () := checkTenantIn_ok.mpr htenant
    have hspine : T.checkSpine e.spine = .ok s := checkIndex_ok.mpr ⟨hs, by omega⟩
    have hplane' : T.checkPlane e.plane = .ok e.plane := checkIndex_nat _ hplane
    unfold Topo.route Topo.innerRouteDst Topo.innerAddr Topo.greenAnycastAddr Topo.yellowAnycastAddr
      Topo.usidOuterDst
    rw [htenant', hhost, hplane', hspine, checkSidMode_ok.mpr (Or.inl rfl)]
    by_cases hgreen : e.tenant = "green"
    · rw [if_pos hgreen]
      simp only [if_pos hgreen]
      exact ⟨_, rfl⟩
    · rw [if_neg hgreen]
      simp only [if_neg hgreen]
      exact ⟨_, rfl⟩

/-- Only a pair without planes can do without a spine. -/
theorem allRoutes_ok_iff {T : Topo} {entries : List SpecEntry} {pairs : List Pair}
    (h : Topo.Expanded T entries pairs) :
    (∃ routes, T.allRoutes pairs = .ok routes) ↔
      ∀ p ∈ pairs, p.planes ≠ [] → Writable T p := by
  have hall : (∃ routes, T.allRoutes pairs = .ok routes) ↔
      ∀ p ∈ pairs, ∃ rs, T.pairRoutes p = .ok rs := by
    rw [← Outcome.exists_mapM]
    constructor
    · rintro ⟨routes, hroutes⟩
      obtain ⟨rss, hrss, -⟩ := Outcome.map_ok.mp hroutes
      exact ⟨rss, hrss⟩
    · rintro ⟨rss, hrss⟩
      exact ⟨rss.flatten, Outcome.map_ok.mpr ⟨rss, hrss, rfl⟩⟩
  rw [hall]
  refine forall₂_congr fun p hp => ?_
  have hids := h.hosts p hp
  have hplanes := (h.planes p hp).2
  have hturn : ∀ e ∈ p.ends, ((∃ r, T.route e = .ok r) ↔ Writable T p) := by
    intro e he
    obtain ⟨htenant, hspine, hplane, hends⟩ := mem_ends he
    rw [exists_route (by omega) (hplanes _ hplane), htenant, hspine]
    exact Iff.rfl
  show (∃ rs, p.ends.mapM T.route = .ok rs) ↔ _
  rw [Outcome.exists_mapM]
  constructor
  · intro hgo hne
    obtain ⟨plane, hplane⟩ := List.exists_mem_of_ne_nil _ hne
    have he : (⟨p.tenant, p.spine, p.a, p.b, plane⟩ : RouteEnds) ∈ p.ends :=
      List.mem_flatMap.mpr ⟨(p.a, p.b), List.mem_cons_self, List.mem_map.mpr ⟨plane, hplane, rfl⟩⟩
    exact (hturn _ he).mp (hgo _ he)
  · intro hgo e he
    obtain ⟨-, -, hplane, -⟩ := mem_ends he
    exact (hturn e he).mpr (hgo (List.ne_nil_of_mem hplane))

/-! ## The tables -/

section Tables

-- where a kernel keeps a route
variable {K : Type} [DecidableEq K] (place : Route → K)

/-- `route_replace`, of all routes in some order; a command that is refused changes nothing. -/
def replaceAll (refused : Route → Bool) (order : List Route) (t : K → Option (String × String)) :
    K → Option (String × String) :=
  order.foldl (fun t r => if refused r then t else Function.update t (place r) (some (r.segs, r.dev))) t

/-- What `ip -6 route del` leaves in the place of a route: one over another device stays. -/
def Route.deletedFrom (r : Route) : Option (String × String) → Option (String × String)
  | some (segs, dev) => if dev = r.dev then none else some (segs, dev)
  | none => none

/-- `route_delete`: that there is no such route is no failure. -/
def deleteAll (refused : Route → Bool) (order : List Route) (t : K → Option (String × String)) :
    K → Option (String × String) :=
  order.foldl (fun t r =>
    if refused r then t else Function.update t (place r) (r.deletedFrom (t (place r)))) t

/-- `_run_parallel`: the number of failures. -/
def failures (refused : Route → Bool) (order : List Route) : Nat := order.countP refused

variable {place}

/-- Applying is writing to the places of the routes that are not refused. -/
theorem replaceAll_eq (refused : Route → Bool) (order : List Route)
    (t : K → Option (String × String)) :
    replaceAll place refused order t
      = Places.writeAll place (fun r _ => some (r.segs, r.dev)) (order.filter (!refused ·)) t := by
  unfold replaceAll Places.writeAll
  rw [List.foldl_filter]
  congr 1
  funext t r
  cases refused r <;> rfl

theorem deleteAll_eq (refused : Route → Bool) (order : List Route)
    (t : K → Option (String × String)) :
    deleteAll place refused order t
      = Places.writeAll place Route.deletedFrom (order.filter (!refused ·)) t := by
  unfold deleteAll Places.writeAll
  rw [List.foldl_filter]
  congr 1
  funext t r
  cases refused r <;> rfl

/-- What `apply` and `delete` do to the tables. -/
structure Applied (place : Route → K) (routes : List Route) : Prop where
  /-- The order of the commands does not matter. -/
  anyOrder : ∀ refused order t, order.Perm routes →
    replaceAll place refused order t = replaceAll place refused routes t ∧
      deleteAll place refused order t = deleteAll place refused routes t ∧
      failures refused order = failures refused routes
  /-- Every route whose command is not refused is there, and nothing else changes. -/
  installed : ∀ refused t,
    (∀ r ∈ routes, refused r = false →
      replaceAll place refused routes t (place r) = some (r.segs, r.dev)) ∧
    ∀ k, (∀ r ∈ routes, place r = k → refused r = true) → replaceAll place refused routes t k = t k
  /-- Applying again changes nothing. -/
  again : ∀ refused t, replaceAll place refused routes (replaceAll place refused routes t)
    = replaceAll place refused routes t
  /-- Deleting removes the routes over the devices of the spec, and leaves all others. -/
  deleted : ∀ refused t,
    (∀ r ∈ routes, refused r = false →
      deleteAll place refused routes t (place r) = r.deletedFrom (t (place r))) ∧
    ∀ k, (∀ r ∈ routes, place r = k → refused r = true) → deleteAll place refused routes t k = t k
  /-- What was applied is gone after deleting, unless a command was refused, and no other place has
      changed. -/
  undone : ∀ refused refused' t,
    (∀ r ∈ routes, refused r = false → refused' r = false →
      deleteAll place refused' routes (replaceAll place refused routes t) (place r) = none) ∧
    ∀ k, (∀ r ∈ routes, place r ≠ k) →
      deleteAll place refused' routes (replaceAll place refused routes t) k = t k

omit [DecidableEq K] in
/-- Some of the routes have different places if all have. -/
theorem filter_places {routes : List Route} (h : (routes.map place).Nodup) (keep : Route → Bool) :
    ((routes.filter keep).map place).Nodup :=
  (List.filter_sublist.map place).nodup h

omit [DecidableEq K] in
/-- The places that no command writes to. -/
theorem not_written {routes : List Route} {refused : Route → Bool} {k : K}
    (h : ∀ r ∈ routes, place r = k → refused r = true) :
    ∀ r ∈ routes.filter (!refused ·), place r ≠ k := by
  intro r hr heq
  obtain ⟨hmem, hgoes⟩ := List.mem_filter.mp hr
  rw [h r hmem heq] at hgoes
  cases hgoes

/-- The commands that are not refused. -/
theorem mem_goes {routes : List Route} {refused : Route → Bool} {r : Route} (hr : r ∈ routes)
    (hgoes : refused r = false) : r ∈ routes.filter (!refused ·) :=
  List.mem_filter.mpr ⟨hr, by rw [hgoes]; rfl⟩

/-- On different places, what one command does no other undoes. -/
theorem applied_of_nodup {routes : List Route} (h : (routes.map place).Nodup) :
    Applied place routes := by
  have hinstalled : ∀ refused t,
      (∀ r ∈ routes, refused r = false →
        replaceAll place refused routes t (place r) = some (r.segs, r.dev)) ∧
      ∀ k, (∀ r ∈ routes, place r = k → refused r = true) →
        replaceAll place refused routes t k = t k := by
    intro refused t
    rw [replaceAll_eq]
    exact ⟨fun r hr hgoes => Places.writeAll_of_mem (filter_places h _) (mem_goes hr hgoes) t,
      fun k hk => Places.writeAll_of_not_mem (not_written hk) t⟩
  have hdeleted : ∀ refused t,
      (∀ r ∈ routes, refused r = false →
        deleteAll place refused routes t (place r) = r.deletedFrom (t (place r))) ∧
      ∀ k, (∀ r ∈ routes, place r = k → refused r = true) →
        deleteAll place refused routes t k = t k := by
    intro refused t
    rw [deleteAll_eq]
    exact ⟨fun r hr hgoes => Places.writeAll_of_mem (filter_places h _) (mem_goes hr hgoes) t,
      fun k hk => Places.writeAll_of_not_mem (not_written hk) t⟩
  refine ⟨fun refused order t hperm => ?_, hinstalled, fun refused t => ?_, hdeleted,
    fun refused refused' t => ⟨fun r hr hgoes hgoes' => ?_, fun k hk => ?_⟩⟩
  · have hfilter := hperm.filter (!refused ·)
    rw [replaceAll_eq, replaceAll_eq, deleteAll_eq, deleteAll_eq]
    exact ⟨Places.writeAll_perm (filter_places h _) hfilter t,
      Places.writeAll_perm (filter_places h _) hfilter t, hperm.countP_eq _⟩
  · rw [replaceAll_eq, replaceAll_eq]
    have hsame : ∀ (r : Route) (v : Option (String × String)),
        (fun (r : Route) (_ : Option (String × String)) => some (r.segs, r.dev)) r
          ((fun (r : Route) (_ : Option (String × String)) => some (r.segs, r.dev)) r v)
        = (fun (r : Route) (_ : Option (String × String)) => some (r.segs, r.dev)) r v :=
      fun _ _ => rfl
    exact Places.writeAll_writeAll (filter_places h _) hsame t
  · -- what was written is over the route's own device
    rw [(hdeleted refused' _).1 r hr hgoes', (hinstalled refused t).1 r hr hgoes]
    exact if_pos rfl
  · have hno : ∀ refused : Route → Bool, ∀ r ∈ routes, place r = k → refused r = true :=
      fun _ r hr heq => absurd heq (hk r hr)
    rw [(hdeleted refused' _).2 k (hno refused'), (hinstalled refused t).2 k (hno refused)]

/-- A spec that is accepted, on kernels that keep its routes apart by host, destination and metric:
    when its routes can be written, and what `apply` and `delete` do with them. -/
theorem tables (T : Topo) (specDoc : Yaml) {pairs : List Pair}
    (hpairs : T.expandSpec specDoc = .ok pairs) (place : Route → K)
    (hplace : ∀ routes, T.allRoutes pairs = .ok routes → ∀ r ∈ routes, ∀ r' ∈ routes,
      place r = place r' → r.place = r'.place) :
    ((∃ routes, T.allRoutes pairs = .ok routes) ↔ ∀ p ∈ pairs, p.planes ≠ [] → Writable T p) ∧
      ∀ routes, T.allRoutes pairs = .ok routes →
        (routes.map Route.place).Nodup ∧ Applied place routes := by
  obtain ⟨entries, -, hexpanded⟩ := Topo.expandSpec_ok hpairs
  refine ⟨allRoutes_ok_iff hexpanded, fun routes hroutes => ?_⟩
  have hnodup := nodup_places hexpanded hroutes
  refine ⟨hnodup, applied_of_nodup (List.pairwise_map.mpr ?_)⟩
  exact (List.pairwise_map.mp hnodup).imp_of_mem fun {r r'} hr hr' hne heq =>
    hne (hplace routes hroutes r hr r' hr' heq)

/-- Host, address and metric, as a kernel keeps routes. -/
def Route.kernelPlace (r : Route) : String × Option (List Nat) × Nat :=
  (r.onHost, (Ipv6.ofText (String.ofList (r.dst.toList.takeWhile (· ≠ '/')))).map Ipv6.hextets,
    r.metric)

/-- The destinations of up to sixteen hosts. -/
def dstTexts : List String :=
  ["2001:db8:bbbb:", "2001:db8:cccc:"].flatMap fun net =>
    (List.range 16).map fun n => net ++ hexPad 2 n ++ "::2" ++ "/128"

/-- The destination of a route is one of these. -/
theorem dst_mem_dstTexts {T : Topo} {e : RouteEnds} {r : Route} (h : T.route e = .ok r)
    (hdst : e.dst < 16) : r.dst ∈ dstTexts := by
  obtain ⟨n, hn, -, -, -, htext⟩ := route_ok h
  refine List.mem_flatMap.mpr ⟨if e.tenant = "green" then "2001:db8:bbbb:" else "2001:db8:cccc:", ?_,
    List.mem_map.mpr ⟨n, List.mem_range.mpr (by omega), htext.symm⟩⟩
  split
  · exact List.mem_cons_self
  · exact List.mem_cons_of_mem _ List.mem_cons_self

/-- Kernels that read the addresses keep the routes to sixteen hosts apart. -/
theorem place_of_kernelPlace {T : Topo} (hleaves : T.numLeaves ≤ 16) {entries : List SpecEntry}
    {pairs : List Pair} (h : Topo.Expanded T entries pairs) {routes : List Route}
    (hroutes : T.allRoutes pairs = .ok routes) :
    ∀ r ∈ routes, ∀ r' ∈ routes, r.kernelPlace = r'.kernelPlace → r.place = r'.place := by
  have hdst : ∀ r ∈ routes, r.dst ∈ dstTexts := by
    intro r hr
    obtain ⟨e, he, hroute⟩ := (Outcome.mem_mapM (allRoutes_mapM hroutes)).1 r hr
    obtain ⟨p, hp, hep⟩ := List.mem_flatMap.mp he
    obtain ⟨-, -, -, hends⟩ := mem_ends hep
    have hids := h.hosts p hp
    exact dst_mem_dstTexts hroute (by omega)
  have hread : (dstTexts.map fun dst =>
      (Ipv6.ofText (String.ofList (dst.toList.takeWhile (· ≠ '/')))).map Ipv6.hextets).Nodup := by
    decide +kernel
  intro r hr r' hr' heq
  obtain ⟨hhost, hrest⟩ := Prod.mk.inj heq
  obtain ⟨hgroups, hmetric⟩ := Prod.mk.inj hrest
  have hsame : r.dst = r'.dst := List.inj_on_of_nodup_map hread (hdst r hr) (hdst r' hr') hgroups
  unfold Route.place
  rw [hhost, hsame, hmetric]

/-- One pair of hosts, on kernels that read the addresses. -/
theorem tables_onePair :
    let T : Topo := ⟨4, 8, 16, ["green", "yellow"]⟩
    ∃ pairs, T.expandSpec Topo.onePairSpec = .ok pairs ∧
      ((∃ routes, T.allRoutes pairs = .ok routes) ↔ ∀ p ∈ pairs, p.planes ≠ [] → Writable T p) ∧
        ∀ routes, T.allRoutes pairs = .ok routes →
          (routes.map Route.place).Nodup ∧ Applied Route.kernelPlace routes := by
  intro T
  obtain ⟨pairs, hpairs⟩ : ∃ pairs, T.expandSpec Topo.onePairSpec = .ok pairs := ⟨_, rfl⟩
  obtain ⟨entries, -, hexpanded⟩ := Topo.expandSpec_ok hpairs
  exact ⟨pairs, hpairs, tables T Topo.onePairSpec hpairs Route.kernelPlace fun routes hroutes =>
    place_of_kernelPlace (by decide) hexpanded hroutes⟩

end Tables

end Srv6Mrc
