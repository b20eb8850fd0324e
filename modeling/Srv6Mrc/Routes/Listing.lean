/-
  `srv6_mrc/cli/routes.py`: `list`, and what it makes of a route that `apply` put there.

  The kernel prints an address in its short form, and the expressions of `list` are written for it.
  The route to host 0 is the exception: its number is a zero among zeros, so the short form has no
  place for it and the listing does not recognise the line.  All other routes are listed with the
  tenant, the host, the spine and the plane they were written with (`routes_listed`).
-/
import Srv6Mrc.Routes.Table
import Srv6Mrc.Topo.Address

namespace Srv6Mrc

open Py Fabric

/-! ## Reading a line -/

/-- `[0-9a-fA-F]+`, and what follows. -/
def hexRun (cs : List Char) : Option (List Char × List Char) :=
  let run := cs.takeWhile fun c => (hexDigit c).isSome
  if run = [] then none else some (run, cs.dropWhile fun c => (hexDigit c).isSome)

/-- `_RE_INNER_GREEN` and `_RE_INNER_YELLOW`; `$` is also before a newline at the end. -/
def reInner (front dst : String) : Option Nat := do
  let rest ← dst.toList.dropPrefix? front.toList
  let run ← hexRun rest
  if run.2 = "::2".toList ∨ run.2 = "::2\n".toList ∨ run.2 = "::2/128".toList
      ∨ run.2 = "::2/128\n".toList then
    some (hexVal run.1)
  else none

/-- `_decode_inner_dst` -/
def decodeInnerDst (dst : String) : Option (String × Nat) :=
  match reInner "2001:db8:bbbb:" dst with
  | some n => some ("green", n)
  | none => (reInner "2001:db8:cccc:" dst).map fun n => ("yellow", n)

/-- `([0-9a-f]):` -/
def spineDigit : List Char → Option Nat
  | c :: ':' :: _ => hexDigit c
  | _ => none

/-- `_decode_spine_from_segs` -/
def decodeSpineFromSegs (segs : Option String) : Option Nat := do
  let text ← segs
  let rest ← (text.toList.map Char.toLower).dropPrefix? "fc00:".toList
  let run ← hexRun rest
  let rest ← run.2.dropPrefix? ":f00".toList
  spineDigit rest

/-- `int(dev.removeprefix("eth")) - 1`, or -1 -/
def planeOfDev (dev : String) : Int :=
  let number := (dev.toList.dropPrefix? "eth".toList).getD dev.toList
  (intOfText (String.ofList number)).elim (-1) (· - 1)

/-- What `_RE_SEG6` and `_extract_segs` take out of a line. -/
structure RouteLine where
  dst : String
  dev : String
  metric : Nat
  segs : Option String

/-- Tenant, destination and spine of a group of `cmd_list`, and what it keeps of a line. -/
abbrev RouteRecord := (String × Nat × Nat) × Int × String × Nat

/-- A turn of the loop over the lines of a host. -/
def RouteLine.record (ln : RouteLine) : Option RouteRecord := do
  let host ← decodeInnerDst ln.dst
  let spine ← decodeSpineFromSegs ln.segs
  return ((host.1, host.2, spine), planeOfDev ln.dev, ln.dev, ln.metric)

/-- The lines that are listed, and `unknown`. -/
def listLines (lines : List RouteLine) : List RouteRecord × Bool :=
  (lines.filterMap RouteLine.record, lines.any fun ln => ln.record.isNone)

/-! ## Printing a route -/

/-- An address as the kernel prints it. -/
def canonical (text : String) : Option String :=
  (Ipv6.ofText text).map fun ip => IPv6Address.str ⟨ip, none⟩

/-- A route as the kernel prints it, without the length of a host's. -/
def Route.line (r : Route) : Option RouteLine := do
  let dst ← canonical (String.ofList (r.dst.toList.takeWhile (· ≠ '/')))
  let segs ← canonical r.segs
  return { dst, dev := r.dev, metric := r.metric, segs := some segs }

theorem canonical_of_reads {text : String} {groups : List Nat} (h : Reads text groups) :
    canonical text = some (String.intercalate ":" (compressHextets groups)) := by
  obtain ⟨ip, htext, rfl⟩ := h
  unfold canonical
  rw [htext]
  rfl

/-- A host's address, but for host 0's, has the number of the host before the zeros. -/
theorem compress_inner (color : Color) {h : Nat} (hh : h ≠ 0) :
    compressHextets (Topo.innerGroups color h 0 0 0)
      = ["2001", "db8", hex (tenantGroup color), hex h, "", "2"] := by
  cases color <;> simp [compressHextets, Topo.innerGroups, ZeroRuns.next, tenantGroup, hh] <;>
    decide

theorem compress_inner_zero (color : Color) :
    compressHextets (Topo.innerGroups color 0 0 0 0)
      = ["2001", "db8", hex (tenantGroup color), "", "2"] := by
  cases color <;> decide

/-- The block, the plane and the spine are before the zeros, and so is what follows the spine. -/
theorem compress_usid (color : Color) (p s l : Nat) : ∃ rest,
    compressHextets (slotGroups p (usidSlots color s l "uA"))
      = "fc00" :: hex p :: hex (0xf000 + s) :: hex (0xe000 + l) :: rest := by
  by_cases hp : p = 0
  · subst hp
    cases color with
    | green =>
      exact ⟨["d000", "", ""], by
        simp [compressHextets, slotGroups, usidSlots, ZeroRuns.next]; decide⟩
    | yellow =>
      exact ⟨["e009", "d001", "", ""], by
        simp [compressHextets, slotGroups, usidSlots, ZeroRuns.next]; decide⟩
  · cases color with
    | green =>
      exact ⟨["d000", "", ""], by
        simp [compressHextets, slotGroups, usidSlots, ZeroRuns.next, hp]; decide⟩
    | yellow =>
      exact ⟨["e009", "d001", "", ""], by
        simp [compressHextets, slotGroups, usidSlots, ZeroRuns.next, hp]; decide⟩

/-! ## Reading what is printed -/

theorem hexRun_append {run rest : List Char} {c : Char} (hrun : IsHex run) (hne : run ≠ [])
    (hc : hexDigit c = none) : hexRun (run ++ c :: rest) = some (run, c :: rest) := by
  have htake : (run ++ c :: rest).takeWhile (fun c => (hexDigit c).isSome) = run := by
    rw [List.takeWhile_append_of_pos hrun]
    simp [hc]
  have hdrop : (run ++ c :: rest).dropWhile (fun c => (hexDigit c).isSome) = c :: rest := by
    rw [List.dropWhile_append_of_pos hrun]
    simp [hc]
  unfold hexRun
  rw [htake, hdrop]
  exact if_neg hne

theorem reInner_front {front dst : String} {h : Nat}
    (hdst : dst.toList = front.toList ++ (Nat.toDigits 16 h ++ "::2".toList)) :
    reInner front dst = some h := by
  have hrun : hexRun (Nat.toDigits 16 h ++ "::2".toList) = some (Nat.toDigits 16 h, "::2".toList) :=
    hexRun_append (isHex_toDigits h) Nat.toDigits_ne_nil (by decide)
  unfold reInner
  rw [hdst, List.dropPrefix?_append_of_beq _ (beq_self_eq_true _)]
  show (hexRun _).bind _ = _
  rw [hrun, Option.bind_some, if_pos (Or.inl rfl), hexVal_toDigits]

theorem toList_inner (tenant : String) (h : Nat) :
    (String.intercalate ":" ["2001", "db8", tenant, hex h, "", "2"]).toList
      = "2001:db8:".toList ++ (tenant.toList ++ ':' :: (Nat.toDigits 16 h ++ "::2".toList)) := by
  simp

/-- The printed address of a host says which it is, but for host 0. -/
theorem decodeInnerDst_canonical (color : Color) (h : Nat) :
    decodeInnerDst (String.intercalate ":" (compressHextets (Topo.innerGroups color h 0 0 0)))
      = if h = 0 then none else some (colorName color, h) := by
  by_cases hh : h = 0
  · subst hh
    rw [compress_inner_zero, if_pos rfl]
    cases color <;> decide
  · rw [compress_inner color hh, if_neg hh]
    unfold decodeInnerDst
    cases color with
    | green =>
      rw [show hex (tenantGroup .green) = "bbbb" by decide]
      have hdst : (String.intercalate ":" ["2001", "db8", "bbbb", hex h, "", "2"]).toList
          = "2001:db8:bbbb:".toList ++ (Nat.toDigits 16 h ++ "::2".toList) := toList_inner "bbbb" h
      rw [reInner_front hdst]
      rfl
    | yellow =>
      rw [show hex (tenantGroup .yellow) = "cccc" by decide]
      have hdst : (String.intercalate ":" ["2001", "db8", "cccc", hex h, "", "2"]).toList
          = "2001:db8:cccc:".toList ++ (Nat.toDigits 16 h ++ "::2".toList) := toList_inner "cccc" h
      have hgreen : reInner "2001:db8:bbbb:"
          (String.intercalate ":" ["2001", "db8", "cccc", hex h, "", "2"]) = none := by
        unfold reInner
        rw [hdst]
        rfl
      rw [hgreen, reInner_front hdst]
      rfl

theorem toLower_toDigits {n : Nat} (hn : n < 16) :
    (Nat.toDigits 16 n).map Char.toLower = Nat.toDigits 16 n := by
  interval_cases n <;> decide

/-- The printed segment says which spine it goes through. -/
theorem decodeSpineFromSegs_canonical (color : Color) {p s : Nat} (l : Nat) (hp : p < 16)
    (hs : s < 16) :
    decodeSpineFromSegs (some (String.intercalate ":"
      (compressHextets (slotGroups p (usidSlots color s l "uA"))))) = some s := by
  obtain ⟨rest, hgroups⟩ := compress_usid color p s l
  rw [hgroups]
  have hspine : (Nat.toDigits 16 (0xf000 + s)).map Char.toLower = ['f', '0', '0', s.digitChar] := by
    interval_cases s <;> decide
  obtain ⟨tail, htail⟩ : ∃ tail, (String.intercalate ":" ("fc00" :: hex p :: hex (0xf000 + s) ::
      hex (0xe000 + l) :: rest)).toList
        = "fc00:".toList ++ (Nat.toDigits 16 p ++ ':' ::
          (Nat.toDigits 16 (0xf000 + s) ++ ':' :: tail)) := ⟨_, by simp; rfl⟩
  have hlower : (String.intercalate ":" ("fc00" :: hex p :: hex (0xf000 + s) ::
      hex (0xe000 + l) :: rest)).toList.map Char.toLower
        = "fc00:".toList ++ (Nat.toDigits 16 p ++ ':' :: ('f' :: '0' :: '0' :: s.digitChar :: ':' ::
          tail.map Char.toLower)) := by
    rw [htail, List.map_append, List.map_append, toLower_toDigits hp, List.map_cons,
      List.map_append, hspine]
    rfl
  show (List.dropPrefix? (List.map Char.toLower _) _).bind _ = _
  rw [hlower, List.dropPrefix?_append_of_beq _ (beq_self_eq_true _)]
  show (hexRun _).bind _ = _
  rw [hexRun_append (isHex_toDigits p) Nat.toDigits_ne_nil (by decide)]
  exact hexDigit_digitChar hs

theorem planeOfDev_eth {p : Nat} (hp : p < 16) : planeOfDev ("eth" ++ toString (p + 1)) = p := by
  interval_cases p <;> decide

/-! ## What is listed -/

/-- What the line of a route tells of it. -/
def RouteEnds.record (e : RouteEnds) : RouteRecord :=
  ((e.tenant, e.dst.toNat, e.spine.toNat), e.plane, "eth" ++ toString (e.plane + 1), 100 + e.plane)

variable {F : Fabric}

theorem takeWhile_slash (color : Color) (h : Nat) :
    (hostAnycastPrefix color h ++ "::2" ++ "/128").toList.takeWhile (· ≠ '/')
      = (hostAnycastPrefix color h ++ "::2").toList := by
  have hslash : '/' ∉ (hostAnycastPrefix color h ++ "::2").toList := by
    have hhost : '/' ∉ Nat.toDigits 16 h := not_mem_of_isHex (by decide) (isHex_toDigits h)
    cases color <;> simp [hostAnycastPrefix, hhost]
  rw [String.toList_append, List.takeWhile_append_of_pos]
  · simp
  · intro c hc
    exact decide_eq_true fun heq => hslash (heq ▸ hc)

theorem record_line (hF : F.Fits) {tenants : List String} {color : Color} {e : RouteEnds}
    (hcolor : e.tenant = colorName color) {r : Route} (h : (F.topo tenants).route e = .ok r) :
    ∃ ln, r.line = some ln ∧ ln.record = if e.dst = 0 then none else some e.record := by
  obtain ⟨tenant, spine, src, dst, plane⟩ := e
  dsimp only at hcolor ⊢
  subst hcolor
  obtain ⟨host, hhost, h⟩ := Outcome.bind_ok.mp h
  obtain ⟨segs, hsegs, h⟩ := Outcome.bind_ok.mp h
  cases h
  obtain ⟨addr, haddr, rfl⟩ := Outcome.map_ok.mp hhost
  -- what the topology has checked
  have hsegs' := hsegs
  unfold Topo.usidOuterDst at hsegs'
  obtain ⟨_, htenant, hsegs'⟩ := Outcome.bind_ok.mp hsegs'
  obtain ⟨p, hp, hsegs'⟩ := Outcome.bind_ok.mp hsegs'
  obtain ⟨s, hs, hsegs'⟩ := Outcome.bind_ok.mp hsegs'
  obtain ⟨l, hl, -⟩ := Outcome.bind_ok.mp hsegs'
  have hmem : colorName color ∈ tenants := checkTenantIn_ok.mp htenant
  obtain ⟨hplane, hplt⟩ := checkIndex_ok.mp hp
  obtain ⟨hspine, hslt⟩ := checkIndex_ok.mp hs
  obtain ⟨hdst, hllt⟩ := checkIndex_ok.mp hl
  dsimp only at hplane hspine hdst
  obtain rfl : plane = p := by omega
  subst hspine hdst
  have hp16 : plane < 16 := Nat.lt_of_lt_of_le hplt hF.planes
  have hs16 : s < 16 := Nat.lt_of_lt_of_le hslt (Nat.le_trans hF.spines (by omega))
  have hl16 : l < 65536 := Nat.lt_of_lt_of_le hllt (Nat.le_trans hF.leaves (by omega))
  obtain ⟨n, -, hn, rfl⟩ := (Topo.innerAddr_ok hmem).mp haddr
  obtain rfl : n = l := (Int.ofNat_inj.mp hn).symm
  obtain ⟨text, htext, hreads⟩ := reads_usidOuterDst hF hmem hplt hslt hllt (Or.inl rfl)
  obtain rfl : text = segs := Except.ok.inj (htext.symm.trans hsegs)
  refine ⟨{
    dst := String.intercalate ":" (compressHextets (Topo.innerGroups color n 0 0 0))
    dev := "eth" ++ toString (plane + 1)
    metric := 100 + plane
    segs := some (String.intercalate ":"
      (compressHextets (slotGroups plane (usidSlots color s n "uA")))) }, ?_, ?_⟩
  · unfold Route.line
    dsimp only
    rw [takeWhile_slash, String.ofList_toList, canonical_of_reads (Topo.reads_innerAddr color hl16),
      canonical_of_reads hreads]
    rfl
  · unfold RouteLine.record
    dsimp only
    rw [decodeInnerDst_canonical, decodeSpineFromSegs_canonical color n hp16 hs16,
      planeOfDev_eth hp16]
    by_cases hzero : n = 0
    · rw [if_pos hzero, if_pos (by omega)]
      rfl
    · rw [if_neg hzero, if_neg (by omega)]
      rfl

/-- Whatever routes a host has, in any order: those to host 0 are not recognised, all others are
    listed with what they were written with. -/
theorem routes_listed (F : Fabric) (hF : F.Fits) (shown : List RouteEnds) {routes : List Route}
    (hroutes : shown.mapM (F.topo ["green", "yellow"]).route = .ok routes) :
    ∃ lines, routes.mapM Route.line = some lines ∧
      listLines lines = ((shown.filter fun e => e.dst ≠ 0).map RouteEnds.record,
        shown.any fun e => e.dst = 0) := by
  induction shown generalizing routes with
  | nil =>
    cases hroutes
    exact ⟨[], rfl, rfl⟩
  | cons e shown ih =>
    rw [List.mapM_cons] at hroutes
    obtain ⟨r, hr, hroutes⟩ := Outcome.bind_ok.mp hroutes
    obtain ⟨rs, hrs, hroutes⟩ := Outcome.bind_ok.mp hroutes
    cases hroutes
    obtain ⟨lines, hlines, hlisted⟩ := ih hrs
    obtain ⟨color, hcolor⟩ : ∃ color, e.tenant = colorName color := by
      obtain ⟨-, -, htenant, -⟩ := route_ok hr
      rcases List.mem_pair.mp htenant with h | h
      · exact ⟨.green, h⟩
      · exact ⟨.yellow, h⟩
    obtain ⟨ln, hln, hrecord⟩ := record_line hF hcolor hr
    obtain ⟨hrecords, hunknown⟩ := Prod.mk.inj hlisted
    refine ⟨ln :: lines, by rw [List.mapM_cons, hln, hlines]; rfl, ?_⟩
    unfold listLines
    rw [List.filterMap_cons, List.any_cons, List.filter_cons, List.any_cons, hrecord, hrecords,
      hunknown]
    by_cases hzero : e.dst = 0
    · simp [hzero]
    · simp [hzero]

/-- A pair of hosts: of the two routes, that to host 0 is not recognised. -/
theorem routes_listed_pair :
    let F : Fabric := ⟨4, 8, 16, false⟩
    let shown : List RouteEnds := [⟨"green", 3, 0, 15, 2⟩, ⟨"green", 3, 15, 0, 2⟩]
    ∃ routes lines, shown.mapM (F.topo ["green", "yellow"]).route = .ok routes ∧
      routes.mapM Route.line = some lines ∧
      listLines lines = ((shown.filter fun e => e.dst ≠ 0).map RouteEnds.record,
        shown.any fun e => e.dst = 0) := by
  have hroutes := routes_listed ⟨4, 8, 16, false⟩ ⟨by decide, by decide, by decide⟩
    [⟨"green", 3, 0, 15, 2⟩, ⟨"green", 3, 15, 0, 2⟩] rfl
  obtain ⟨lines, hlines⟩ := hroutes
  exact ⟨_, lines, rfl, hlines⟩

end Srv6Mrc
