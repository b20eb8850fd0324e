/-
  The snapshot file between the daemon and the policy of a data sender.

  The daemon writes a document to a file of its own and then moves it over the snapshot file
  (`_atomic_write_json`); the policy asks for the file's modification time, opens the file and loads
  it (`_refresh_once`, which holds a lock, so that one refresh follows another).  Each side can move
  between any two steps of the other.

  So the time that is remembered can be that of an older document than the one that was loaded, but
  not of a newer one (`Kept.grid`), and the next refresh loads that document once more.
-/
import Srv6Mrc.Policy.Refresh

namespace Srv6Mrc

open Py

/-- A document, and the modification time of its file. -/
structure Published (F : Type) where
  mtime : ℚ
  data : Json F

/-- What the daemon has in `<path>.tmp`. -/
inductive Draft (F : Type) where
  | absent
  /-- `json.dump` is not through. -/
  | begun
  | complete (p : Published F)

/-- How far the policy's refresh is. -/
inductive Stage (F : Type) where
  | idle
  /-- The file's modification time is above the remembered one. -/
  | statted (mtime : ℚ)
  /-- The file is open; one that replaces it now is another file. -/
  | opened (mtime : ℚ) (p : Published F)

/-- A step of one of the two. -/
inductive FileMove (F : Type) where
  /-- Daemon: `open(tmp, "w")`. -/
  | draft
  /-- Daemon: `json.dump` is through and the file closed. -/
  | dump (p : Published F)
  /-- Daemon: `os.replace`. -/
  | replace
  /-- Daemon: a step raised, `tmp.unlink()`. -/
  | abandon
  /-- Policy: `os.stat`. -/
  | stat (fails : Bool)
  /-- Policy: `open`, and what it raises. -/
  | openFile (fault : Option Exc)
  /-- Policy: `json.load` and what follows, or what reading raises. -/
  | load (fault : Option Exc) (newId : Nat)

/-- The two parties and the file. -/
structure Sharing (F : Type) where
  policy : MrcSnapshot.Store F
  draft : Draft F := .absent
  file : Option (Published F) := none
  stage : Stage F := .idle
  /-- Ghost: all that was moved over the file. -/
  published : List (Published F) := []
  /-- Ghost: all that the policy took its grid from. -/
  loaded : List (Published F) := []

namespace Sharing

variable {F : Type}

/-- Each document is newer than all before it. -/
def Advancing (ps : List (Published F)) : Prop := ps.Pairwise fun p q => p.mtime < q.mtime

/-- The last file that was published is the newest. -/
theorem Advancing.le_newest {ps : List (Published F)} (h : Advancing ps) {p q : Published F}
    (hp : ps.getLast? = some p) (hq : q ∈ ps) : q = p ∨ q.mtime < p.mtime := by
  obtain ⟨before, rfl⟩ := List.getLast?_eq_some_iff.mp hp
  rcases List.mem_append.mp hq with hq | hq
  · exact Or.inr ((List.pairwise_append.mp h).2.2 q hq p (List.mem_singleton_self p))
  · exact Or.inl (List.mem_singleton.mp hq)

/-- What `os.stat` finds. -/
def statOf (fails : Bool) (file : Option (Published F)) : Stat :=
  if fails then .unreadable
  else
    match file with
    | none => .missing
    | some p => .found p.mtime

/-- `os.stat`, and whether the refresh goes on. -/
def stat (x : Sharing F) (fails : Bool) : Sharing F :=
  let (policy, mtime) := MrcSnapshot.statted x.policy (statOf fails x.file)
  { x with
    policy := policy
    stage :=
      match mtime with
      | none => .idle
      | some mtime => .statted mtime }

/-- After `os.stat` the refresh goes on with the time of a file that is newer, or ends. -/
theorem stat_stage (x : Sharing F) (fails : Bool) :
    (x.stat fails).stage = .idle ∧
      (∀ mtime, ¬ MrcSnapshot.Newer x.policy (statOf fails x.file) mtime) ∨
    ∃ mtime, (x.stat fails).stage = .statted mtime ∧
      MrcSnapshot.Newer x.policy (statOf fails x.file) mtime := by
  unfold Sharing.stat
  dsimp only
  cases hgoes : (MrcSnapshot.statted x.policy (statOf fails x.file)).2 with
  | none =>
    refine Or.inl ⟨rfl, fun mtime hnewer => ?_⟩
    cases hgoes.symm.trans (MrcSnapshot.statted_some.mpr hnewer)
  | some mtime => exact Or.inr ⟨mtime, rfl, MrcSnapshot.statted_some.mp hgoes⟩

theorem stat_not_opened {x : Sharing F} {fails : Bool} {mtime : ℚ} {p : Published F} :
    (x.stat fails).stage ≠ .opened mtime p := by
  intro hs
  rcases stat_stage x fails with ⟨hidle, -⟩ | ⟨mtime', hgoes, -⟩
  · cases hs.symm.trans hidle
  · cases hs.symm.trans hgoes

/-- What is found is the file, with its time. -/
theorem statOf_found {fails : Bool} {file : Option (Published F)} {mtime : ℚ}
    (h : statOf fails file = .found mtime) : ∃ p, file = some p ∧ p.mtime = mtime := by
  unfold statOf at h
  cases fails with
  | true => cases h
  | false =>
    cases file with
    | none => cases h
    | some p =>
      cases h
      exact ⟨p, rfl, rfl⟩

variable [Builtins F] (M : MrcSnapshot)

/-- The refresh ends with an exception. -/
def raises (x : Sharing F) (mtime : ℚ) (e : Exc) : Sharing F :=
  { x with
    policy := (M.finish x.policy mtime (.error e) x.policy.wgridId).2
    stage := .idle }

/-- The refresh ends with the document it opened. -/
def loads (x : Sharing F) (mtime : ℚ) (p : Published F) (newId : Nat) : Sharing F :=
  let (returned, policy) := M.finish x.policy mtime (.ok p.data) newId
  { x with
    policy := policy
    stage := .idle
    loaded :=
      match returned with
      | .ok true => x.loaded ++ [p]
      | _ => x.loaded }

/-- One step; one that its party cannot make now is none. -/
def step (x : Sharing F) : FileMove F → Sharing F
  | .draft => { x with draft := .begun }
  | .dump p =>
    match x.draft with
    | .begun => { x with draft := .complete p }
    | _ => x
  | .replace =>
    match x.draft with
    | .complete p => { x with
        draft := .absent
        file := some p
        published := x.published ++ [p] }
    | _ => x
  | .abandon => { x with draft := .absent }
  | .stat fails =>
    match x.stage with
    | .idle => x.stat fails
    | _ => x
  | .openFile fault =>
    match x.stage with
    | .statted mtime =>
      match fault, x.file with
      | some e, _ => x.raises M mtime e
      | none, none => x.raises M mtime .fileNotFoundError
      | none, some p => { x with stage := .opened mtime p }
    | _ => x
  | .load fault newId =>
    match x.stage with
    | .opened mtime p =>
      match fault with
      | some e => x.raises M mtime e
      | none => x.loads M mtime p newId
    | _ => x

theorem step_stat {x : Sharing F} (h : x.stage = .idle) (fails : Bool) :
    x.step M (.stat fails) = x.stat fails := by
  unfold step
  dsimp only
  rw [h]

/-! ## What a step does -/

/-- The step is none that replaces the file or fails. -/
def Smooth : FileMove F → Prop
  | .replace => False
  | .stat fails => fails = false
  | .openFile fault | .load fault _ => fault = none
  | .draft | .dump _ | .abandon => True

/-- All that a step can do. -/
inductive Steps (M : MrcSnapshot) (x : Sharing F) : FileMove F → Sharing F → Prop
  | none (move : FileMove F) : Steps M x move x
  | drafts (move : FileMove F) (draft : Draft F) : Steps M x move { x with draft := draft }
  | replaces (p : Published F) :
    Steps M x .replace
      { x with draft := .absent, file := some p, published := x.published ++ [p] }
  | stats (fails : Bool) (h : x.stage = .idle) : Steps M x (.stat fails) (x.stat fails)
  | raises (move : FileMove F) (mtime : ℚ) (e : Exc) (h : ¬ Smooth move ∨ x.file = .none) :
    Steps M x move (x.raises M mtime e)
  | opens (fault : Option Exc) {mtime : ℚ} {p : Published F} (h : x.stage = .statted mtime)
      (hfile : x.file = some p) :
    Steps M x (.openFile fault) { x with stage := .opened mtime p }
  | loads (fault : Option Exc) {mtime : ℚ} {p : Published F} (h : x.stage = .opened mtime p)
      (newId : Nat) : Steps M x (.load fault newId) (x.loads M mtime p newId)

theorem steps (M : MrcSnapshot) (x : Sharing F) (move : FileMove F) :
    Steps M x move (x.step M move) := by
  cases move with
  | draft => exact .drafts _ _
  | abandon => exact .drafts _ _
  | dump p =>
    unfold step
    dsimp only
    split
    · exact .drafts _ _
    · exact .none _
  | replace =>
    unfold step
    dsimp only
    split
    · exact .replaces _
    · exact .none _
  | stat fails =>
    unfold step
    dsimp only
    split
    · rename_i hstage
      exact .stats fails hstage
    · exact .none _
  | openFile fault =>
    unfold step
    dsimp only
    split
    · rename_i hstage
      split
      · exact .raises _ _ _ (Or.inl fun h => by cases h)
      · rename_i hfile
        exact .raises _ _ _ (Or.inr hfile)
      · rename_i hfile
        exact .opens _ hstage hfile
    · exact .none _
  | load fault newId =>
    unfold step
    dsimp only
    split
    · rename_i hstage
      split
      · exact .raises _ _ _ (Or.inl fun h => by cases h)
      · exact .loads _ hstage newId
    · exact .none _

/-- A replaced file stays among the published. -/
theorem published_step (x : Sharing F) (move : FileMove F) :
    ∃ more, (x.step M move).published = x.published ++ more := by
  have hstep := steps M x move
  generalize x.step M move = y at hstep ⊢
  cases hstep with
  | replaces p => exact ⟨[p], rfl⟩
  | none | drafts | stats | raises | opens | loads => exact ⟨[], (List.append_nil _).symm⟩

/-- Only `replace` publishes. -/
theorem published_smooth (x : Sharing F) {moves : List (FileMove F)}
    (hsmooth : ∀ move ∈ moves, Smooth move) :
    (moves.foldl (step M) x).published = x.published := by
  induction moves generalizing x with
  | nil => rfl
  | cons move moves ih =>
    obtain ⟨hmove, hmoves⟩ := List.forall_mem_cons.mp hsmooth
    rw [List.foldl_cons, ih (x.step M move) hmoves]
    have hstep := steps M x move
    generalize x.step M move = y at hstep ⊢
    cases hstep with
    | replaces => exact hmove.elim
    | none | drafts | stats | raises | opens | loads => rfl

/-! ## A refresh that nothing comes between -/

/-- The refresh will end, or has ended, with the grid of this document. -/
structure Settled (M : MrcSnapshot) (x : Sharing F) (p : Published F) : Prop where
  file : x.file = some p
  idle : x.stage = .idle → M.IsSnapshot p.data x.policy.wgrid
  opened : ∀ mtime q, x.stage = .opened mtime q → q = p

variable {M : MrcSnapshot} {x : Sharing F}

/-- A move without failures keeps what has settled. -/
theorem Settled.step {p : Published F} (h : Settled M x p)
    (hvalid : ∃ wgrid, M.IsSnapshot p.data wgrid) {move : FileMove F} (hsmooth : Smooth move) :
    Settled M (x.step M move) p := by
  have hstep := steps M x move
  generalize x.step M move = y at hstep ⊢
  cases hstep with
  | none => exact h
  | drafts => exact { h with }
  | replaces => exact hsmooth.elim
  | stats fails hidle =>
    have hwgrid := (MrcSnapshot.statted_store x.policy (statOf fails x.file)).1
    refine ⟨h.file, fun _ => ?_, fun _ _ hs => absurd hs stat_not_opened⟩
    show M.IsSnapshot p.data (MrcSnapshot.statted x.policy (statOf fails x.file)).1.wgrid
    rw [hwgrid]
    exact h.idle hidle
  | raises _ mtime e hfault =>
    rcases hfault with hfault | hnone
    · exact absurd hsmooth hfault
    · cases h.file.symm.trans hnone
  | opens fault hstage hfile =>
    refine ⟨h.file, fun hs => (by cases hs), ?_⟩
    rintro mtime q ⟨⟩
    exact Option.some.inj (hfile.symm.trans h.file)
  | loads fault hstage newId =>
    obtain rfl := h.opened _ _ hstage
    refine ⟨h.file, fun _ => ?_, fun _ _ hs => by cases hs⟩
    obtain ⟨wgrid, hsnap⟩ := hvalid
    rcases M.finish_cases x.policy _ (.ok _) newId with ⟨wgrid', hok, -, hwgrid, -⟩ | ⟨e, hraise, -⟩
    · show M.IsSnapshot _ (M.finish x.policy _ (.ok _) newId).2.wgrid
      rw [hwgrid]
      exact MrcSnapshot.wgridFromSnapshot_ok.mp hok
    · cases (MrcSnapshot.wgridFromSnapshot_ok.mpr hsnap).symm.trans hraise

theorem Settled.steps {p : Published F} (h : Settled M x p)
    (hvalid : ∃ wgrid, M.IsSnapshot p.data wgrid) {moves : List (FileMove F)}
    (hsmooth : ∀ move ∈ moves, Smooth move) : Settled M (moves.foldl (Sharing.step M) x) p := by
  induction moves generalizing x with
  | nil => exact h
  | cons move moves ih =>
    obtain ⟨hmove, hmoves⟩ := List.forall_mem_cons.mp hsmooth
    exact ih (h.step hvalid hmove) hmoves

/-! ## What every step keeps -/

variable [Floats F]

variable (M) in
/-- A run from a policy that has loaded nothing and a file that is not there. -/
def run (wgridId : Nat) (moves : List (FileMove F)) : Sharing F :=
  moves.foldl (step M) { policy := M.start F wgridId }

theorem run_snoc {wgridId : Nat} (moves : List (FileMove F)) (move : FileMove F) :
    run M wgridId (moves ++ [move]) = (run M wgridId moves).step M move := by
  unfold run
  rw [List.foldl_concat]

/-- The policy has the grid of the last document it loaded, which is not older than the one whose
    time it remembers; what a refresh has opened is not older than either. -/
structure Kept (M : MrcSnapshot) (x : Sharing F) : Prop where
  file : x.file = x.published.getLast?
  mem : ∀ p ∈ x.loaded, p ∈ x.published
  order : x.loaded.Pairwise fun p q => p.mtime ≤ q.mtime
  grid :
    x.loaded = [] ∧ x.policy.wgrid = M.uniformWgrid F ∧ x.policy.lastMtime = 0 ∨
    ∃ p, x.loaded.getLast? = some p ∧ M.IsSnapshot p.data x.policy.wgrid ∧
      x.policy.lastMtime ≤ p.mtime
  statted : ∀ mtime, x.stage = .statted mtime → ∃ p ∈ x.published, p.mtime = mtime
  opened : ∀ mtime p, x.stage = .opened mtime p →
    p ∈ x.published ∧ mtime ≤ p.mtime ∧ ∀ q ∈ x.loaded, q.mtime ≤ p.mtime

variable (M) in
/-- At the start there is nothing to keep. -/
theorem kept_start (wgridId : Nat) : Kept M (run M wgridId [] : Sharing F) where
  file := rfl
  mem := fun _ h => absurd h List.not_mem_nil
  order := .nil
  grid := Or.inl ⟨rfl, rfl, rfl⟩
  statted := fun _ h => by cases h
  opened := fun _ _ h => by cases h

theorem Kept.draft (h : Kept M x) (draft : Draft F) : Kept M { x with draft := draft } :=
  { h with }

/-- A new file is one of those published. -/
theorem Kept.replace (h : Kept M x) (p : Published F) :
    Kept M { x with draft := .absent, file := some p, published := x.published ++ [p] } where
  file := List.getLast?_concat.symm
  mem := fun q hq => List.mem_append_left _ (h.mem q hq)
  order := h.order
  grid := h.grid
  statted := fun mtime hs => by
    obtain ⟨q, hq, heq⟩ := h.statted mtime hs
    exact ⟨q, List.mem_append_left _ hq, heq⟩
  opened := fun mtime q hs => by
    obtain ⟨hq, hle⟩ := h.opened mtime q hs
    exact ⟨List.mem_append_left _ hq, hle⟩

/-- A step of the policy that leaves grid and remembered time. -/
theorem Kept.same (h : Kept M x) (policy : MrcSnapshot.Store F) (stage : Stage F)
    (hwgrid : policy.wgrid = x.policy.wgrid) (hmtime : policy.lastMtime = x.policy.lastMtime)
    (hstatted : ∀ mtime, stage = .statted mtime → ∃ p ∈ x.published, p.mtime = mtime)
    (hopened : ∀ mtime p, stage = .opened mtime p →
      p ∈ x.published ∧ mtime ≤ p.mtime ∧ ∀ q ∈ x.loaded, q.mtime ≤ p.mtime) :
    Kept M { x with policy := policy, stage := stage } where
  file := h.file
  mem := h.mem
  order := h.order
  grid := by
    dsimp only
    rw [hwgrid, hmtime]
    exact h.grid
  statted := hstatted
  opened := hopened

/-- Looking at the file changes no grid. -/
theorem Kept.stat (h : Kept M x) (fails : Bool) : Kept M (x.stat fails) := by
  obtain ⟨hwgrid, hmtime⟩ := MrcSnapshot.statted_store x.policy (statOf fails x.file)
  refine h.same _ _ hwgrid hmtime (fun mtime hs => ?_) fun _ _ hs => absurd hs stat_not_opened
  rcases stat_stage x fails with ⟨hidle, -⟩ | ⟨mtime', hgoes, hfound, -⟩
  · cases hs.symm.trans hidle
  · cases hs.symm.trans hgoes
    obtain ⟨p, hp, heq⟩ := statOf_found hfound
    exact ⟨p, List.mem_of_getLast? (h.file.symm.trans hp), heq⟩

theorem Kept.raises (h : Kept M x) (mtime : ℚ) (e : Exc) : Kept M (x.raises M mtime e) := by
  rcases M.finish_cases x.policy mtime (.error e) x.policy.wgridId with
    ⟨wgrid, hok, -⟩ | ⟨-, -, -, hwgrid, hmtime⟩
  · cases hok
  · exact h.same _ .idle hwgrid hmtime (fun _ hs => by cases hs) fun _ _ hs => (by cases hs)

/-- A file that is opened stays what it is. -/
theorem Kept.opens (h : Kept M x) (hnew : Advancing x.published) {mtime : ℚ} {p : Published F}
    (hstage : x.stage = .statted mtime) (hfile : x.file = some p) :
    Kept M { x with stage := .opened mtime p } := by
  have hlast : x.published.getLast? = some p := h.file.symm.trans hfile
  have hle : ∀ q ∈ x.published, q.mtime ≤ p.mtime := by
    intro q hq
    rcases hnew.le_newest hlast hq with rfl | hlt
    · exact le_rfl
    · exact hlt.le
  refine h.same x.policy _ rfl rfl (fun _ hs => by cases hs) ?_
  rintro mtime' p' ⟨⟩
  obtain ⟨q, hq, rfl⟩ := h.statted mtime hstage
  exact ⟨List.mem_of_getLast? hlast, hle q hq, fun q' hq' => hle q' (h.mem q' hq')⟩

/-- What is loaded is of the file that was opened. -/
theorem Kept.loads (h : Kept M x) {mtime : ℚ} {p : Published F}
    (hstage : x.stage = .opened mtime p) (newId : Nat) : Kept M (x.loads M mtime p newId) := by
  obtain ⟨hp, hle, hold⟩ := h.opened mtime p hstage
  unfold Sharing.loads
  rcases M.finish_cases x.policy mtime (.ok p.data) newId with
    ⟨wgrid, hok, hret, hwgrid, hmtime⟩ | ⟨e, -, hret, hwgrid, hmtime⟩
  · dsimp only
    rw [hret]
    exact {
      file := h.file
      mem := fun q hq => by
        rcases List.mem_append.mp hq with hq | hq
        · exact h.mem q hq
        · exact List.mem_singleton.mp hq ▸ hp
      order := List.pairwise_append.mpr ⟨h.order, List.pairwise_singleton _ _, fun q hq p' hp' =>
        List.mem_singleton.mp hp' ▸ hold q hq⟩
      grid := Or.inr ⟨p, List.getLast?_concat, hwgrid ▸ MrcSnapshot.wgridFromSnapshot_ok.mp hok,
        hmtime.le.trans hle⟩
      statted := fun _ hs => by cases hs
      opened := fun _ _ hs => by cases hs }
  · have hno : (match (M.finish x.policy mtime (.ok p.data) newId).1 with
        | .ok true => x.loaded ++ [p]
        | _ => x.loaded) = x.loaded := by
      rw [hret]
      split
      · rename_i heq
        split at heq <;> cases heq
      · rfl
    dsimp only
    rw [hno]
    exact h.same _ .idle hwgrid hmtime (fun _ hs => by cases hs) fun _ _ hs => (by cases hs)

theorem Kept.step (h : Kept M x) (hnew : Advancing x.published) (move : FileMove F) :
    Kept M (x.step M move) := by
  have hstep := steps M x move
  generalize x.step M move = y at hstep ⊢
  cases hstep with
  | none => exact h
  | drafts _ draft => exact h.draft draft
  | replaces p => exact h.replace p
  | stats fails => exact h.stat fails
  | raises _ mtime e => exact h.raises mtime e
  | opens _ hstage hfile => exact h.opens hnew hstage hfile
  | loads _ hstage newId => exact h.loads hstage newId

theorem kept_run {wgridId : Nat} {moves : List (FileMove F)}
    (h : Advancing (run M wgridId moves).published) : Kept M (run M wgridId moves) := by
  induction moves using List.reverseRecOn with
  | nil => exact kept_start M wgridId
  | append_singleton moves move ih =>
    rw [run_snoc] at h ⊢
    obtain ⟨more, hmore⟩ := published_step (M := M) (run M wgridId moves) move
    rw [hmore] at h
    have hbefore : Advancing (run M wgridId moves).published := (List.pairwise_append.mp h).1
    exact (ih hbefore).step hbefore move

/-- `os.stat` skips no file that is newer than what the policy has. -/
theorem Kept.settles (h : Kept M x) (hnew : Advancing x.published) {p : Published F}
    (hlast : x.published.getLast? = some p) (hpos : 0 < p.mtime) :
    Settled M (x.stat false) p := by
  have hfile : x.file = some p := h.file.trans hlast
  have hwgrid := (MrcSnapshot.statted_store x.policy (statOf false x.file)).1
  refine ⟨hfile, fun hidle => ?_, fun _ _ hs => absurd hs stat_not_opened⟩
  rcases stat_stage x false with ⟨-, hskip⟩ | ⟨mtime, hgoes, -⟩
  · have hold : p.mtime ≤ x.policy.lastMtime := by
      refine not_lt.mp fun hlt => hskip p.mtime ⟨?_, hlt⟩
      rw [hfile]
      rfl
    show M.IsSnapshot p.data (MrcSnapshot.statted x.policy (statOf false x.file)).1.wgrid
    rw [hwgrid]
    rcases h.grid with ⟨-, -, hzero⟩ | ⟨q, hq, hsnap, hle⟩
    · exact absurd (hzero ▸ hold) (not_le.mpr hpos)
    · rcases hnew.le_newest hlast (h.mem q (List.mem_of_getLast? hq)) with rfl | hlt
      · exact hsnap
      · exact absurd (hold.trans hle) (not_le.mpr hlt)
  · cases hidle.symm.trans hgoes

/-- The documents that a refresh loads are never older than those before, and the grid is that of
    the last one, or the uniform one if there is none, in every interleaving of the daemon's writing
    with the refreshes, with failures on either side.  A refresh that nothing is published in and
    that nothing fails in leaves the grid of the newest document, if its time is above zero. -/
theorem publication_safe (M : MrcSnapshot) (wgridId : Nat) (moves : List (FileMove F))
    (hnew : Advancing (run M wgridId moves).published) :
    let x := run M wgridId moves
    (x.loaded = [] ∧ x.policy.wgrid = M.uniformWgrid F ∨
      ∃ p ∈ x.published, x.loaded.getLast? = some p ∧ M.IsSnapshot p.data x.policy.wgrid) ∧
    (∀ p ∈ x.loaded, p ∈ x.published) ∧
    x.loaded.Pairwise (fun p q => p.mtime ≤ q.mtime) ∧
    ∀ before refresh, moves = before ++ .stat false :: refresh →
      (run M wgridId before).stage = .idle → x.stage = .idle → (∀ move ∈ refresh, Smooth move) →
      ∀ p, x.published.getLast? = some p → (∃ wgrid, M.IsSnapshot p.data wgrid) → 0 < p.mtime →
        M.IsSnapshot p.data x.policy.wgrid := by
  intro x
  have hkept : Kept M x := kept_run hnew
  refine ⟨?_, hkept.mem, hkept.order, ?_⟩
  · rcases hkept.grid with ⟨hnone, hgrid, -⟩ | ⟨p, hp, hsnap, -⟩
    · exact Or.inl ⟨hnone, hgrid⟩
    · exact Or.inr ⟨p, hkept.mem p (List.mem_of_getLast? hp), hp, hsnap⟩
  · rintro before refresh rfl hbegin hend hsmooth p hlast hvalid hpos
    have hx : x = refresh.foldl (step M) ((run M wgridId before).stat false) := by
      rw [← step_stat M hbegin, ← List.foldl_cons]
      exact List.foldl_append
    have hpub : x.published = (run M wgridId before).published := by
      rw [hx, published_smooth M _ hsmooth]
      rfl
    have hnew' : Advancing (run M wgridId before).published := hpub ▸ hnew
    have hsettled := (kept_run hnew').settles hnew' (hpub ▸ hlast) hpos
    exact (hx ▸ hsettled.steps hvalid hsmooth : Settled M x p).idle hend

/-- A policy over one plane with two spines. -/
def twoSpines : MrcSnapshot where
  tenant := "green"
  pathsPerPlane := 1
  nPlanes := 1
  nSpines := 2
  paths_pos := Nat.zero_lt_one
  paths_le := Nat.zero_lt_two

/-- A snapshot with the first spine demoted. -/
def firstDemoted : Json ℚ :=
  .obj [("num_planes", .int 1), ("num_paths", .int 2), ("tenants", .obj [("green",
    .arr [.obj [("weight", .float 0)], .obj [("weight", .float 1)]])])]

theorem firstDemoted_snapshot : twoSpines.IsSnapshot firstDemoted [[0, 1]] :=
  MrcSnapshot.wgridFromSnapshot_ok.mp rfl

theorem publication_safe_firstDemoted :
    let moves : List (FileMove ℚ) := [.draft, .dump ⟨1, firstDemoted⟩, .replace, .stat false,
      .openFile none, .load none 1]
    Advancing (run twoSpines 0 moves).published ∧
      twoSpines.IsSnapshot firstDemoted (run twoSpines 0 moves).policy.wgrid := by
  intro moves
  have hnew : Advancing (run twoSpines 0 moves).published := List.pairwise_singleton _ _
  have hsmooth : ∀ move ∈ ([.openFile none, .load none 1] : List (FileMove ℚ)), Smooth move := by
    intro move hmove
    rcases List.mem_pair.mp hmove with rfl | rfl
    · exact rfl
    · exact rfl
  exact ⟨hnew, (publication_safe twoSpines 0 moves hnew).2.2.2
    [.draft, .dump ⟨1, firstDemoted⟩, .replace] [.openFile none, .load none 1] rfl rfl rfl hsmooth
    ⟨1, firstDemoted⟩ rfl ⟨_, firstDemoted_snapshot⟩ one_pos⟩

/-- A first snapshot with the modification time zero is taken for one that was loaded before: the
    whole refresh runs with nothing in between and leaves the uniform grid. -/
theorem time_zero_skipped :
    let p : Published ℚ := ⟨0, firstDemoted⟩
    let x := run twoSpines 0 ([.draft, .dump p, .replace] ++ [.stat false])
    Advancing x.published ∧ x.published.getLast? = some p ∧ x.stage = .idle ∧
      twoSpines.IsSnapshot p.data [[0, 1]] ∧ ¬ twoSpines.IsSnapshot p.data x.policy.wgrid := by
  refine ⟨List.pairwise_singleton _ _, rfl, rfl, firstDemoted_snapshot, fun h => ?_⟩
  have hsame := (MrcSnapshot.wgridFromSnapshot_ok.mpr firstDemoted_snapshot).symm.trans
    (MrcSnapshot.wgridFromSnapshot_ok.mpr h)
  exact absurd (Except.ok.inj hsame) (by decide +kernel)

end Sharing

end Srv6Mrc
