/-
  What goes through the sent-counters file.

  The data sender has two threads: one counts, the other copies the counters row by row and then
  replaces the file, or fails.  `DataSender` is the state of both and the file they leave.  The
  sender may be started again; then the counters begin at zero and the file stays as it was.

  Within one incarnation the counts only travel forward, each place behind the one before it: file,
  rows copied so far, counters (`Ordered`).

  On the other side is one read of the file, which gives the payload as it was published, or gives
  nothing and forgets nothing.
-/
import Srv6Mrc.Sent.Counters

namespace Srv6Mrc

open Py

/-! ## The data sender -/

/-- A move of one of the data sender's threads. -/
inductive SenderStep where
  /-- Sender loop: `record`. -/
  | record (plane path : Int)
  /-- Publisher: `publish` starts. -/
  | publish
  /-- Publisher: it copies the next row. -/
  | copyRow
  /-- Publisher: all rows copied, it replaces the file. -/
  | replace (writtenNs : Int)
  /-- Publisher: writing or replacing raises `OSError`. -/
  | fail

/-- The data sender and its file. -/
structure DataSender (numPlanes numPaths : Nat) where
  /-- Ghost: how often the sender was started before. -/
  incarnation : Nat := 0
  writer : SentCounterWriter numPlanes numPaths := {}
  /-- The rows a running `publish` has copied. -/
  copied : Option (List (List Nat)) := none
  /-- What was published last; the number is ghost, the incarnation that wrote it. -/
  file : Option (Nat × SentPayload) := none

namespace DataSender

variable {numPlanes numPaths : Nat}

/-- One move; one that the thread cannot make is none. -/
def step (s : DataSender numPlanes numPaths) : SenderStep → DataSender numPlanes numPaths
  | .record plane path => { s with writer := s.writer.record plane path }
  | .publish =>
    match s.copied with
    | none => { s with copied := some [] }
    | some _ => s
  | .copyRow =>
    match s.copied with
    | none => s
    | some rows =>
      if h : rows.length < numPlanes then
        { s with copied := some (rows ++ [s.writer.row ⟨rows.length, h⟩]) }
      else s
  | .replace writtenNs =>
    match s.copied with
    | none => s
    | some rows =>
      if rows.length = numPlanes then
        { s with copied := none, file := some (s.incarnation, ⟨writtenNs, rows⟩) }
      else s
  | .fail =>
    match s.copied with
    | none => s
    | some _ => { s with
        copied := none
        writer := { s.writer with publishErrors := s.writer.publishErrors + 1 } }

/-- The sender is started again; the file stays. -/
def restart (s : DataSender numPlanes numPaths) : DataSender numPlanes numPaths :=
  { incarnation := s.incarnation + 1, file := s.file }

/-- What the file holds. -/
def payload (s : DataSender numPlanes numPaths) : Option SentPayload := s.file.map Prod.snd

end DataSender

/-! ## Counts -/

namespace SentCounterWriter

variable {numPlanes numPaths : Nat}

/-- `record` counts one packet on the EV it names, and none on any other. -/
theorem record_sent (w : SentCounterWriter numPlanes numPaths) (plane path : Int)
    (p : Fin numPlanes) (q : Fin numPaths) :
    (w.record plane path).sent p q
      = w.sent p q + if plane = (p : Nat) ∧ path = (q : Nat) then 1 else 0 := by
  unfold record
  split
  · rename_i h
    by_cases hp : p = ⟨plane.toNat, by omega⟩
    · subst hp
      by_cases hq : q = ⟨path.toNat, by omega⟩
      · subst hq
        rw [if_pos ⟨by show plane = (plane.toNat : Int); omega,
          by show path = (path.toNat : Int); omega⟩]
        simp
      · rw [if_neg fun hpq => hq (Fin.ext (by show (q : Nat) = path.toNat; omega))]
        simp [Function.update_of_ne hq]
    · rw [if_neg fun hpq => hp (Fin.ext (by show (p : Nat) = plane.toNat; omega))]
      simp [Function.update_of_ne hp]
  · rename_i h
    have hp := p.isLt
    have hq := q.isLt
    rw [if_neg fun hpq => h (by omega)]
    rfl

theorem length_row (w : SentCounterWriter numPlanes numPaths) (p : Fin numPlanes) :
    (w.row p).length = numPaths := by
  simp [row]

end SentCounterWriter

/-- The counts of a payload, zero where there is none. -/
def countOf (payload : Option SentPayload) (p q : Nat) : Nat :=
  (payload.bind fun payload => cell payload.sent p q).getD 0

/-- A payload has a count for each EV of the grid. -/
def SentPayload.Fits (numPlanes numPaths : Nat) (payload : SentPayload) : Prop :=
  payload.sent.length = numPlanes ∧ ∀ row ∈ payload.sent, row.length = numPaths

/-- A payload that fits has every count. -/
theorem SentPayload.Fits.cell_eq {P Q : Nat} {payload : SentPayload} (h : payload.Fits P Q)
    (p : Fin P) (q : Fin Q) : cell payload.sent p q = some (countOf (some payload) p q) := by
  obtain ⟨n, hn⟩ := cell_of_shape h.1 h.2 p q
  show _ = some ((cell payload.sent p q).getD 0)
  rw [hn]
  rfl

/-! ## What the data sender keeps -/

namespace DataSender

variable {numPlanes numPaths : Nat}

/-- The file has a payload of the grid's shape, and the counts of this incarnation only travel
    forward: its file is not ahead of the rows copied since, and these not ahead of the counters. -/
structure Ordered (s : DataSender numPlanes numPaths) : Prop where
  fits : ∀ f, s.file = some f → f.1 ≤ s.incarnation ∧ f.2.Fits numPlanes numPaths
  rows : ∀ rows, s.copied = some rows →
    rows.length ≤ numPlanes ∧ ∀ row ∈ rows, row.length = numPaths
  file_le : ∀ f, s.file = some f → f.1 = s.incarnation →
    ∀ (p : Fin numPlanes) (q : Fin numPaths), countOf (some f.2) p q ≤ s.writer.sent p q
  copied_le : ∀ rows, s.copied = some rows → ∀ (p : Fin numPlanes) (q : Fin numPaths) n,
    cell rows p q = some n → n ≤ s.writer.sent p q ∧
      ∀ f, s.file = some f → f.1 = s.incarnation → countOf (some f.2) p q ≤ n

theorem ordered_start : Ordered ({} : DataSender numPlanes numPaths) where
  fits := fun _ h => by cases h
  rows := fun _ h => by cases h
  file_le := fun _ h => by cases h
  copied_le := fun _ h => by cases h

theorem ordered_restart {s : DataSender numPlanes numPaths} (h : Ordered s) :
    Ordered s.restart where
  fits := fun f hf => ⟨Nat.le_succ_of_le (h.fits f hf).1, (h.fits f hf).2⟩
  rows := fun _ h => by cases h
  file_le := fun f hf hnow => by
    have hold : f.1 ≤ s.incarnation := (h.fits f hf).1
    have hnow : f.1 = s.incarnation + 1 := hnow
    omega
  copied_le := fun _ h => by cases h

/-- Appending one more row keeps the cells there are. -/
theorem cell_concat {rows : List (List Nat)} {row : List Nat} {p q n : Nat}
    (h : cell (rows ++ [row]) p q = some n) :
    cell rows p q = some n ∨ p = rows.length ∧ row[q]? = some n := by
  unfold cell at h ⊢
  rcases Nat.lt_trichotomy p rows.length with hlt | rfl | hgt
  · rw [List.getElem?_append_left hlt] at h
    exact Or.inl h
  · rw [List.getElem?_concat_length] at h
    exact Or.inr ⟨rfl, h⟩
  · rw [List.getElem?_eq_none (by rw [List.length_append]; exact hgt)] at h
    cases h

/-- What replaces the file: a payload of this incarnation, no count of which is behind. -/
structure Newer (s : DataSender numPlanes numPaths) (payload : SentPayload) : Prop where
  fits : payload.Fits numPlanes numPaths
  le_sent : ∀ (p : Fin numPlanes) (q : Fin numPaths),
    countOf (some payload) p q ≤ s.writer.sent p q
  file_le : ∀ f, s.file = some f → f.1 = s.incarnation →
    ∀ (p : Fin numPlanes) (q : Fin numPaths), countOf (some f.2) p q ≤ countOf (some payload) p q

/-- What is copied is newer than the file. -/
theorem newer_of_copied {s : DataSender numPlanes numPaths} (h : Ordered s)
    {rows : List (List Nat)} (hc : s.copied = some rows) (hlen : rows.length = numPlanes)
    (writtenNs : Int) : Newer s ⟨writtenNs, rows⟩ := by
  have hfits : SentPayload.Fits numPlanes numPaths ⟨writtenNs, rows⟩ := ⟨hlen, (h.rows rows hc).2⟩
  refine ⟨hfits, fun p q => ?_, fun f hf hnow p q => ?_⟩
  · exact (h.copied_le rows hc p q _ (hfits.cell_eq p q)).1
  · exact (h.copied_le rows hc p q _ (hfits.cell_eq p q)).2 f hf hnow

/-- The rows copied are kept, dropped, none yet, or one more. -/
def Copies (s : DataSender numPlanes numPaths) (copied : Option (List (List Nat))) : Prop :=
  copied = s.copied ∨ copied = none ∨ copied = some [] ∨
    ∃ rows, ∃ h : rows.length < numPlanes, s.copied = some rows ∧
      copied = some (rows ++ [s.writer.row ⟨rows.length, h⟩])

/-- What a move can do: count a packet, replace the file, or only get on with copying. -/
theorem step_cases (s : DataSender numPlanes numPaths) (move : SenderStep) :
    (∃ plane path, move = .record plane path ∧
      s.step move = { s with writer := s.writer.record plane path }) ∨
    (∃ writtenNs rows, move = .replace writtenNs ∧ s.copied = some rows ∧
      rows.length = numPlanes ∧
      s.step move = { s with
        copied := none
        file := some (s.incarnation, ⟨writtenNs, rows⟩) }) ∨
    (∀ plane path, move ≠ .record plane path) ∧ ∃ copied errors,
      s.Copies copied ∧ s.step move = { s with
        copied := copied
        writer := { s.writer with publishErrors := errors } } := by
  have hnone : ∃ copied errors, s.Copies copied ∧
      s = { s with copied := copied, writer := { s.writer with publishErrors := errors } } :=
    ⟨s.copied, s.writer.publishErrors, Or.inl rfl, rfl⟩
  cases move with
  | record plane path => exact Or.inl ⟨plane, path, rfl, rfl⟩
  | publish =>
    refine Or.inr (Or.inr ⟨fun _ _ hne => (by cases hne), ?_⟩)
    unfold step
    -- the copy begins with no rows
    cases hc : s.copied with
    | some rows => exact hnone
    | none => exact ⟨some [], s.writer.publishErrors, Or.inr (Or.inr (Or.inl rfl)), rfl⟩
  | copyRow =>
    refine Or.inr (Or.inr ⟨fun _ _ hne => (by cases hne), ?_⟩)
    unfold step
    cases hc : s.copied with
    | none => exact hnone
    | some rows =>
      dsimp only
      -- a row is copied as it stands now
      split
      · rename_i hlt
        exact ⟨_, s.writer.publishErrors, Or.inr (Or.inr (Or.inr ⟨rows, hlt, hc, rfl⟩)), rfl⟩
      · exact hnone
  | replace writtenNs =>
    unfold step
    cases hc : s.copied with
    | none => exact Or.inr (Or.inr ⟨fun _ _ hne => (by cases hne), hnone⟩)
    | some rows =>
      dsimp only
      -- the file is replaced only by a whole copy
      split
      · rename_i hlen
        exact Or.inr (Or.inl ⟨writtenNs, rows, rfl, rfl, hlen, rfl⟩)
      · exact Or.inr (Or.inr ⟨fun _ _ hne => (by cases hne), hnone⟩)
  | fail =>
    refine Or.inr (Or.inr ⟨fun _ _ hne => (by cases hne), ?_⟩)
    unfold step
    cases hc : s.copied with
    | none => exact hnone
    | some rows => exact ⟨none, s.writer.publishErrors + 1, Or.inr (Or.inl rfl), rfl⟩

/-- A move leaves the file, or replaces it by a newer payload. -/
theorem step_file {s : DataSender numPlanes numPaths} (h : Ordered s) (move : SenderStep) :
    (s.step move).file = s.file ∨
      ∃ payload, Newer s payload ∧ (s.step move).file = some (s.incarnation, payload) := by
  rcases s.step_cases move with ⟨plane, path, -, heq⟩ | ⟨writtenNs, rows, -, hc, hlen, heq⟩ |
    ⟨-, copied, errors, -, heq⟩
  · exact Or.inl (by rw [heq])
  · exact Or.inr ⟨_, newer_of_copied h hc hlen writtenNs, by rw [heq]⟩
  · exact Or.inl (by rw [heq])

theorem step_incarnation (s : DataSender numPlanes numPaths) (move : SenderStep) :
    (s.step move).incarnation = s.incarnation := by
  rcases s.step_cases move with ⟨plane, path, -, heq⟩ | ⟨writtenNs, rows, -, -, -, heq⟩ |
    ⟨-, copied, errors, -, heq⟩ <;> rw [heq]

/-- The row just copied is the writer's own. -/
theorem cell_row {w : SentCounterWriter numPlanes numPaths} {p : Fin numPlanes} {q : Fin numPaths}
    {n : Nat} (h : (w.row p)[(q : Nat)]? = some n) : n = w.sent p q := by
  have hget : (w.row p)[(q : Nat)]? = some (w.sent p q) := by
    simp [SentCounterWriter.row]
  exact Option.some.inj (h.symm.trans hget)

theorem ordered_step {s : DataSender numPlanes numPaths} (h : Ordered s) (move : SenderStep) :
    Ordered (s.step move) := by
  rcases s.step_cases move with ⟨plane, path, -, heq⟩ | ⟨writtenNs, rows, -, hc, hlen, heq⟩ |
    ⟨-, copied, errors, hcopied, heq⟩
  · have hle : ∀ p q, s.writer.sent p q ≤ (s.writer.record plane path).sent p q := by
      intro p q
      rw [s.writer.record_sent]
      exact Nat.le_add_right ..
    rw [heq]
    exact { h with
      file_le := fun f hf hnow p q => (h.file_le f hf hnow p q).trans (hle p q)
      copied_le := fun rows hrows p q n hn =>
        ⟨(h.copied_le rows hrows p q n hn).1.trans (hle p q), (h.copied_le rows hrows p q n hn).2⟩ }
  · have hnew := newer_of_copied h hc hlen writtenNs
    rw [heq]
    refine ⟨?_, fun _ hnone => (by cases hnone), ?_, fun _ hnone => (by cases hnone)⟩
    · rintro f ⟨⟩
      exact ⟨Nat.le_refl _, hnew.fits⟩
    · rintro f ⟨⟩ -
      exact hnew.le_sent
  · rw [heq]
    rcases hcopied with rfl | rfl | rfl | ⟨rows, hlt, hc, rfl⟩
    · exact { h with }
    · exact { h with
        rows := fun _ hnone => by cases hnone
        copied_le := fun _ hnone => by cases hnone }
    · refine { h with rows := ?_, copied_le := ?_ }
      · rintro rows ⟨⟩
        exact ⟨Nat.zero_le _, fun row hrow => absurd hrow List.not_mem_nil⟩
      · rintro rows ⟨⟩ p q n hn
        cases hn
    · refine { h with rows := ?_, copied_le := ?_ }
      · rintro rows' ⟨⟩
        refine ⟨by rw [List.length_append]; exact hlt, fun row hrow => ?_⟩
        rcases List.mem_append.mp hrow with hrow | hrow
        · exact (h.rows rows hc).2 row hrow
        · rw [List.mem_singleton.mp hrow]
          exact s.writer.length_row _
      · rintro rows' ⟨⟩ p q n hn
        rcases cell_concat hn with hn | ⟨hp, hrow⟩
        · exact h.copied_le rows hc p q n hn
        · obtain rfl : p = ⟨rows.length, hlt⟩ := Fin.ext hp
          obtain rfl := cell_row hrow
          exact ⟨Nat.le_refl _, fun f hf hnow => h.file_le f hf hnow _ q⟩

/-- The move records a packet on the EV. -/
def records (p : Fin numPlanes) (q : Fin numPaths) : SenderStep → Bool
  | .record plane path => plane = (p : Nat) ∧ path = (q : Nat)
  | _ => false

/-- The counters count the packets recorded. -/
theorem step_sent (s : DataSender numPlanes numPaths) (move : SenderStep) (p : Fin numPlanes)
    (q : Fin numPaths) :
    (s.step move).writer.sent p q
      = s.writer.sent p q + if records p q move = true then 1 else 0 := by
  rcases s.step_cases move with ⟨plane, path, rfl, heq⟩ | ⟨writtenNs, rows, rfl, -, -, heq⟩ |
    ⟨hno, copied, errors, -, heq⟩
  · rw [heq]
    show (s.writer.record plane path).sent p q = _
    rw [s.writer.record_sent]
    simp [records]
  · rw [heq]
    rfl
  · have hquiet : records p q move = false := by
      cases move with
      | record plane path => exact absurd rfl (hno plane path)
      | publish | copyRow | replace writtenNs | fail => rfl
    rw [heq, hquiet]
    rfl

end DataSender

/-! ## One read of the file -/

/-- What a reader finds when it reads. -/
inductive Found (F : Type) [Builtins F] (numPlanes numPaths : Nat) where
  /-- The file as it stands, or its absence. -/
  | file
  /-- Opening or loading it raises. -/
  | unreadable (err : Exc)
  /-- It loads, but has no counts of the right shape. -/
  | misshaped (payload : Json F)
      (h : ∀ g, SentCounterReader.counts numPlanes numPaths payload ≠ .ok (some g))

namespace Found

variable {F : Type} [Builtins F] {numPlanes numPaths : Nat}

/-- What `open` and `json.load` give the reader. -/
def load (file : Option SentPayload) : Found F numPlanes numPaths → Except Exc (Json F)
  | .file =>
    match file with
    | none => .error .fileNotFoundError
    | some p => .ok p.json
  | .unreadable err => .error err
  | .misshaped payload _ => .ok payload

/-- The payload of a successful read. -/
def taken (file : Option SentPayload) : Found F numPlanes numPaths → Option SentPayload
  | .file => file
  | _ => none

end Found

namespace SentCounterReader

variable {F : Type} [Builtins F] {numPlanes numPaths : Nat}

/-- A payload as the reader returns it. -/
def gridOf (payload : SentPayload) : Grid := payload.sent.map fun row => row.map Int.ofNat

/-- A payload that fits is read back from its document. -/
theorem counts_json {payload : SentPayload} (h : payload.Fits numPlanes numPaths) :
    counts numPlanes numPaths (payload.json : Json F) = .ok (some (gridOf payload)) := by
  have hfield : Json.field "sent" [("written_ns", (Json.int payload.writtenNs : Json F)),
      ("sent", .arr (payload.sent.map jsonRow))] = some (.arr (payload.sent.map jsonRow)) := by
    simp [Json.field]
  have hfit : (payload.sent.map fun row => (jsonRow row : Json F)).any (misfit numPaths)
      = false := by
    rw [List.any_map, List.any_eq_false]
    intro row hrow
    simp [misfit, jsonRow, h.2 row hrow]
  have hshaped : shaped numPlanes numPaths (payload.json : Json F)
      = some ((payload.sent.map jsonRow).map items) := by
    unfold shaped SentPayload.json
    dsimp only
    rw [hfield]
    dsimp only
    rw [if_neg]
    rw [hfit, List.length_map]
    simp [h.1]
  have hrow : ∀ row : List Nat, (items (jsonRow row : Json F)).mapM Json.toInt
      = .ok (row.map Int.ofNat) := by
    intro row
    show (row.map fun n : Nat => (Json.int n : Json F)).mapM Json.toInt = _
    rw [List.mapM_map]
    exact Outcome.mapM_ok fun n _ => rfl
  unfold counts
  rw [hshaped]
  dsimp only
  rw [List.mapM_map, List.mapM_map, Outcome.mapM_ok (g := fun row => row.map Int.ofNat)]
  · rfl
  · exact fun row _ => hrow row

/-- A read of a payload of the right shape: the reader remembers it and returns the difference. -/
theorem readDelta_json (r : SentCounterReader numPlanes numPaths) {payload : SentPayload}
    (h : payload.Fits numPlanes numPaths) :
    r.readDelta (.ok (payload.json : Json F))
      = ({ r with last := some (gridOf payload) },
        .ok (some (deltaFrom (gridOf payload) r.last))) := by
  have hread : r.read (.ok (payload.json : Json F)) = (r, .ok (some (gridOf payload))) := by
    unfold read
    dsimp only
    rw [counts_json h]
  unfold readDelta
  rw [hread]

/-- A read that finds no counts returns none and forgets nothing. -/
theorem readDelta_failed (r : SentCounterReader numPlanes numPaths)
    {loaded : Except Exc (Json F)}
    (h : ∀ payload, loaded = .ok payload → ∀ g, counts numPlanes numPaths payload ≠ .ok (some g)) :
    (r.readDelta loaded).1.last = r.last ∧ ∀ g, (r.readDelta loaded).2 ≠ .ok (some g) := by
  have hread : (r.read loaded).1.last = r.last ∧ ∀ g, (r.read loaded).2 ≠ .ok (some g) := by
    unfold read
    cases loaded with
    | error err =>
      dsimp only
      split
      · exact ⟨rfl, fun g hg => by cases hg⟩
      · split
        · exact ⟨rfl, fun g hg => by cases hg⟩
        · exact ⟨rfl, fun g hg => by cases hg⟩
    | ok payload =>
      dsimp only
      split
      · exact ⟨rfl, fun g hg => by cases hg⟩
      · exact ⟨rfl, h payload rfl⟩
  unfold readDelta
  split
  · rename_i r' err heq
    rw [heq] at hread
    exact ⟨hread.1, fun g hg => by cases hg⟩
  · rename_i r' heq
    rw [heq] at hread
    exact ⟨hread.1, fun g hg => by cases hg⟩
  · rename_i r' current heq
    rw [heq] at hread
    exact absurd rfl (hread.2 current)

/-- A read takes the file as published, or finds no counts. -/
theorem readDelta_cases (r : SentCounterReader numPlanes numPaths) {file : Option SentPayload}
    (hfile : ∀ payload, file = some payload → payload.Fits numPlanes numPaths)
    (found : Found F numPlanes numPaths) :
    (∃ payload, file = some payload ∧ found.taken file = some payload ∧
      r.readDelta (found.load file) = ({ r with last := some (gridOf payload) },
        .ok (some (deltaFrom (gridOf payload) r.last)))) ∨
    found.taken file = none ∧ (r.readDelta (found.load file)).1.last = r.last ∧
      ∀ g, (r.readDelta (found.load file)).2 ≠ .ok (some g) := by
  cases found with
  | file =>
    cases file with
    | none => exact Or.inr ⟨rfl, r.readDelta_failed fun payload hp => (by cases hp)⟩
    | some payload =>
      exact Or.inl ⟨payload, rfl, rfl, r.readDelta_json (hfile payload rfl)⟩
  | unreadable err => exact Or.inr ⟨rfl, r.readDelta_failed fun payload hp => (by cases hp)⟩
  | misshaped payload hmis =>
    refine Or.inr ⟨rfl, r.readDelta_failed fun payload' hp => ?_⟩
    obtain rfl := Except.ok.inj hp
    exact hmis

/-- The difference of two payloads, cell by cell. -/
theorem delta_cell {P Q : Nat} {payload : SentPayload} (h : payload.Fits P Q)
    {last : Option SentPayload} (hlast : ∀ l, last = some l → l.Fits P Q) (p : Fin P)
    (q : Fin Q) :
    (cell (deltaFrom (gridOf payload) (last.map gridOf)) p q).getD 0
      = cellDelta (countOf (some payload) p q) (countOf last p q) := by
  cases last with
  | none =>
    show (cell (gridOf payload) p q).getD 0 = _
    have hnone : ((countOf none p q : Nat) : Int) ≤ countOf (some payload) p q :=
      Int.natCast_nonneg _
    rw [gridOf, cell_map, h.cell_eq p q, cellDelta, if_pos hnone]
    exact (Int.sub_zero _).symm
  | some l =>
    show (cell (gridDelta (gridOf payload) (gridOf l)) p q).getD 0 = _
    rw [gridDelta, cell_zipWith, gridOf, gridOf, cell_map, cell_map, h.cell_eq p q,
      (hlast l rfl).cell_eq p q]
    rfl

end SentCounterReader

end Srv6Mrc
