/-
  What a refresh makes of any content of the snapshot file.

  `_refresh_once` catches five exception classes.  `IsSnapshot` says which documents have a grid for
  the policy, and `Escape` which ones make the reader raise something else: each step of the reader
  is looked at for what it returns and for what it lets through (`Uncaught`).
-/
import Srv6Mrc.Policy.Snapshot

namespace Srv6Mrc

open Py Normalise

namespace MrcSnapshot

variable {F : Type}

/-! ## Documents with a grid -/

section Documents

variable [Builtins F]

/-- The table's part of a document: the dict under `"ev_state"`, else the document itself. -/
inductive Flat : Json F → List (String × Json F) → Prop
  | wrapped {outer fields : List (String × Json F)}
      (h : Json.field "ev_state" outer = some (.obj fields)) : Flat (.obj outer) fields
  | bare {fields : List (String × Json F)}
      (h : ∀ inner, Json.field "ev_state" fields ≠ some (.obj inner)) : Flat (.obj fields) fields

/-- A field that `int` takes for this number. -/
def HasInt (key : String) (fields : List (String × Json F)) (n : Int) : Prop :=
  ∃ v, Json.field key fields = some v ∧ v.toInt = .ok n

/-- The dimensions are those of the policy. -/
def Matches (M : MrcSnapshot) (fields : List (String × Json F)) : Prop :=
  HasInt "num_planes" fields M.nPlanes ∧ HasInt "num_paths" fields M.nSpines

/-- The tenants are a dict with an entry for this one. -/
def HasTenant (tenant : String) (fields : List (String × Json F)) (evs : Json F) : Prop :=
  ∃ tenants, Json.field "tenants" fields = some (.obj tenants) ∧
    Json.field tenant tenants = some evs

/-- The record with this index is a dict with this weight. -/
def HasWeight (evs : Json F) (i : Nat) (x : F) : Prop :=
  ∃ record v, evs.index i = .ok (.obj record) ∧ Json.field "weight" record = some v ∧
    v.toFloat = .ok x

/-- The document has the grid: the policy's dimensions, and for its tenant one record with a weight
    for each EV. -/
def IsSnapshot (M : MrcSnapshot) (data : Json F) (wgrid : List (List F)) : Prop :=
  ∃ fields evs, Flat data fields ∧ Matches M fields ∧ HasTenant M.tenant fields evs ∧
    evs.len = .ok (M.nPlanes * M.nSpines) ∧
    wgrid.length = M.nPlanes ∧ (∀ row ∈ wgrid, row.length = M.nSpines) ∧
    ∀ plane < M.nPlanes, ∀ path < M.nSpines,
      ∃ x, entry wgrid plane path = some x ∧ HasWeight evs (plane * M.nSpines + path) x

/-! ## Documents that get through -/

/-- A float that `int` overflows on. -/
def Infinite (v : Json F) : Prop := ∃ x, v = .float x ∧ Builtins.truncate x = .infinite

/-- An integer that `float` overflows on. -/
def TooLarge (v : Json F) : Prop :=
  (∃ n, v = .int n ∧ Builtins.floatOfInt (F := F) n = none) ∨
    ∃ b : Bool, v = .bool b ∧ Builtins.floatOfInt (F := F) b.toNat = none

/-- A list or a string that the tenant is not in. -/
def NotAmong (tenant : String) (v : Json F) : Prop :=
  (∃ items, v = .arr items ∧ items.any (Json.isStr tenant) = false) ∨
    ∃ s, v = .str s ∧ ¬ tenant.toList <:+: s.toList

/-- The document makes the reader raise what `_refresh_once` does not catch. -/
inductive Escape (M : MrcSnapshot) (data : Json F) : Prop
  /-- `data.get`: no dict. -/
  | noDict (h : ∀ fields, data ≠ .obj fields)
  /-- `int` of an infinite `num_planes`. -/
  | planes {fields : List (String × Json F)} {v : Json F} (h : Flat data fields)
      (hv : Json.field "num_planes" fields = some v) (hinf : Infinite v)
  /-- `int` of an infinite `num_paths`. -/
  | paths {fields : List (String × Json F)} {n : Int} {v : Json F} (h : Flat data fields)
      (hn : HasInt "num_planes" fields n) (hv : Json.field "num_paths" fields = some v)
      (hinf : Infinite v)
  /-- `tenants.keys()`: a list or a string, and the tenant not in it. -/
  | tenants {fields : List (String × Json F)} {v : Json F} (h : Flat data fields)
      (hm : Matches M fields) (hv : Json.field "tenants" fields = some v)
      (hno : NotAmong M.tenant v)
  /-- `float` of an integer too large, all weights before it read. -/
  | weight {fields record : List (String × Json F)} {evs v : Json F} {i : Nat}
      (h : Flat data fields) (hm : Matches M fields) (ht : HasTenant M.tenant fields evs)
      (hlen : evs.len = .ok (M.nPlanes * M.nSpines)) (hi : i < M.nPlanes * M.nSpines)
      (hbefore : ∀ j < i, ∃ x, HasWeight evs j x) (hrec : evs.index i = .ok (.obj record))
      (hv : Json.field "weight" record = some v) (hlarge : TooLarge v)

end Documents

/-! ## What a computation lets through -/

/-- It raises, and `_refresh_once` does not catch it. -/
def Uncaught {α : Type} (x : Except Exc α) : Prop :=
  ∃ e, x = .error e ∧ e.caught transient = false

section Uncaught

variable {α β : Type}

theorem uncaught_ok (a : α) : Uncaught (.ok a) ↔ False := by
  constructor
  · rintro ⟨e, he, -⟩
    cases he
  · exact False.elim

/-- An exception gets out if it is none of those that are caught. -/
theorem uncaught_error (e : Exc) :
    Uncaught (.error e : Except Exc α) ↔ e.caught transient = false := by
  constructor
  · rintro ⟨e', he, h⟩
    cases he
    exact h
  · exact fun h => ⟨e, rfl, h⟩

/-- A block raises what its first part raises, or the second after it. -/
theorem uncaught_bind (x : Except Exc α) (f : α → Except Exc β) :
    Uncaught (x.bind f) ↔ Uncaught x ∨ ∃ a, x = .ok a ∧ Uncaught (f a) := by
  cases x with
  | error e =>
    rw [Outcome.error_bind, uncaught_error, uncaught_error]
    constructor
    · exact Or.inl
    · rintro (h | ⟨a, ha, -⟩)
      · exact h
      · cases ha
  | ok a =>
    rw [Outcome.ok_bind, uncaught_ok, false_or]
    constructor
    · exact fun h => ⟨a, rfl, h⟩
    · rintro ⟨a', ha, h⟩
      cases ha
      exact h

/-- What is made of a result raises nothing more. -/
theorem uncaught_map (x : Except Exc α) (f : α → β) : Uncaught (x.map f) ↔ Uncaught x := by
  cases x with
  | error e => rw [uncaught_error]; exact uncaught_error e
  | ok a => rw [uncaught_ok]; exact uncaught_ok (f a)

end Uncaught

/-! ## The steps of the reader -/

theorem Flat.unique {data : Json F} {fields fields' : List (String × Json F)}
    (h : Flat data fields) (h' : Flat data fields') : fields = fields' := by
  cases h with
  | wrapped hw =>
    cases h' with
    | wrapped hw' =>
      obtain ⟨heq⟩ := hw.symm.trans hw'
      rfl
    | bare hb' => exact absurd hw (hb' _)
  | bare hb =>
    cases h' with
    | wrapped hw' => exact absurd hw' (hb _)
    | bare hb' => rfl

/-- A dict is unwrapped. -/
theorem unwrap_obj (outer : List (String × Json F)) :
    ∃ fields, unwrap (.obj outer) = .ok (.obj fields) ∧ Flat (.obj outer) fields := by
  unfold unwrap Json.get
  dsimp only
  cases hf : Json.field "ev_state" outer with
  | none => exact ⟨outer, rfl, .bare fun inner h => by rw [hf] at h; cases h⟩
  | some v =>
    cases v with
    | obj inner => exact ⟨inner, rfl, .wrapped hf⟩
    | null | bool b | int n | float x | str s | arr items =>
      exact ⟨outer, rfl, .bare fun inner h => by rw [hf] at h; cases h⟩

/-- What `unwrap` returns: the flat form of a dict. -/
theorem unwrap_ok {data d : Json F} :
    unwrap data = .ok d ↔ ∃ fields, d = .obj fields ∧ Flat data fields := by
  constructor
  · intro h
    cases data with
    | obj outer =>
      obtain ⟨fields, heq, hflat⟩ := unwrap_obj outer
      exact ⟨fields, Except.ok.inj (h.symm.trans heq), hflat⟩
    | null | bool b | int n | float x | str s | arr items => cases h
  · rintro ⟨fields, rfl, hflat⟩
    obtain ⟨outer, rfl⟩ : ∃ outer, data = .obj outer := by
      cases hflat <;> exact ⟨_, rfl⟩
    obtain ⟨fields', heq, hflat'⟩ := unwrap_obj outer
    rw [heq, hflat.unique hflat']

/-- It raises out of the loop for what is no dict. -/
theorem unwrap_uncaught {data : Json F} :
    Uncaught (unwrap data) ↔ ∀ fields, data ≠ .obj fields := by
  cases data with
  | obj outer =>
    obtain ⟨fields, heq, -⟩ := unwrap_obj outer
    rw [heq, uncaught_ok]
    exact ⟨False.elim, fun h => h outer rfl⟩
  | null | bool b | int n | float x | str s | arr items =>
    exact ⟨fun _ fields h => (by cases h), fun _ => ⟨.attributeError, rfl, rfl⟩⟩

/-- `d[key]` of a dict returns the field, or raises what is caught. -/
theorem item_obj (key : String) (fields : List (String × Json F)) :
    (∃ v, Json.field key fields = some v ∧ Json.item key (.obj fields) = .ok v) ∨
      Json.field key fields = none ∧ Json.item key (.obj fields) = .error .keyError := by
  unfold Json.item
  dsimp only
  cases Json.field key fields with
  | none => exact Or.inr ⟨rfl, rfl⟩
  | some v => exact Or.inl ⟨v, rfl, rfl⟩

theorem item_ok {key : String} {fields : List (String × Json F)} {v : Json F} :
    Json.item key (.obj fields) = .ok v ↔ Json.field key fields = some v := by
  rcases item_obj key fields with ⟨v', hf, hi⟩ | ⟨hf, hi⟩
  · rw [hf, hi, Except.ok.injEq, Option.some.injEq]
  · rw [hf, hi]
    exact ⟨fun h => (by cases h), fun h => (by cases h)⟩

theorem item_uncaught (key : String) (fields : List (String × Json F)) :
    ¬ Uncaught (Json.item key (.obj fields)) := by
  rcases item_obj key fields with ⟨v, -, hi⟩ | ⟨-, hi⟩
  · rw [hi, uncaught_ok]
    exact id
  · rw [hi, uncaught_error]
    decide

/-- The tenants, once they are found. -/
def lookUp (tenant : String) (tenants : Json F) : Except Exc (Json F) :=
  (tenants.contains tenant).bind fun known =>
    if known then tenants.item tenant else tenants.keys.bind fun _ => .error .keyError

/-- A tenant that is not there is a `KeyError`. -/
theorem lookUp_obj_none {tenant : String} {tenants : List (String × Json F)}
    (h : Json.field tenant tenants = none) :
    lookUp tenant (.obj tenants) = .error .keyError := by
  unfold lookUp Json.contains
  dsimp only
  rw [h]
  rfl

/-- What the look-up of a tenant finds. -/
theorem lookUp_ok {tenant : String} {tenants evs : Json F} :
    lookUp tenant tenants = .ok evs ↔
      ∃ fields, tenants = .obj fields ∧ Json.field tenant fields = some evs := by
  cases tenants with
  | obj fields =>
    cases hf : Json.field tenant fields with
    | none =>
      rw [lookUp_obj_none hf]
      refine ⟨fun h => (by cases h), ?_⟩
      rintro ⟨fields', ⟨⟩, h⟩
      cases hf.symm.trans h
    | some v =>
      have hlook : lookUp tenant (.obj fields) = .ok v := by
        unfold lookUp Json.contains
        dsimp only
        rw [hf]
        exact item_ok.mpr hf
      rw [hlook]
      constructor
      · intro h
        cases h
        exact ⟨fields, rfl, hf⟩
      · rintro ⟨fields', ⟨⟩, h⟩
        rw [Option.some.inj (hf.symm.trans h)]
  | arr items =>
    refine ⟨fun h => ?_, fun ⟨fields, hf, _⟩ => (by cases hf)⟩
    unfold lookUp Json.contains at h
    rw [Outcome.ok_bind] at h
    split at h
    · cases h
    · cases h
  | str s =>
    refine ⟨fun h => ?_, fun ⟨fields, hf, _⟩ => (by cases hf)⟩
    unfold lookUp Json.contains at h
    rw [Outcome.ok_bind] at h
    split at h
    · cases h
    · cases h
  | null | bool b | int n | float x =>
    exact ⟨fun h => (by cases h), fun ⟨fields, hf, _⟩ => (by cases hf)⟩

/-- When the look-up of a tenant raises out of the loop. -/
theorem lookUp_uncaught {tenant : String} {tenants : Json F} :
    Uncaught (lookUp tenant tenants) ↔ NotAmong tenant tenants := by
  have htype : ¬ Uncaught (.error .typeError : Except Exc (Json F)) := by
    rw [uncaught_error]
    decide
  cases tenants with
  | obj fields =>
    have hno : ¬ NotAmong tenant (.obj fields : Json F) := by
      rintro (⟨items, h, -⟩ | ⟨s, h, -⟩) <;> cases h
    refine iff_of_false (fun h => ?_) hno
    cases hf : Json.field tenant fields with
    | none =>
      rw [lookUp_obj_none hf, uncaught_error] at h
      cases h
    | some v =>
      rw [lookUp_ok.mpr ⟨fields, rfl, hf⟩, uncaught_ok] at h
      exact h
  | arr items =>
    unfold lookUp Json.contains
    rw [Outcome.ok_bind]
    cases hany : items.any (Json.isStr tenant) with
    | true =>
      refine iff_of_false htype ?_
      rintro (⟨items', ⟨⟩, h⟩ | ⟨s, h, -⟩)
      · cases hany.symm.trans h
      · cases h
    | false => exact iff_of_true ⟨.attributeError, rfl, rfl⟩ (Or.inl ⟨items, rfl, hany⟩)
  | str s =>
    unfold lookUp Json.contains
    rw [Outcome.ok_bind]
    by_cases hin : tenant.toList <:+: s.toList
    · rw [if_pos (decide_eq_true hin)]
      refine iff_of_false htype ?_
      rintro (⟨items, h, -⟩ | ⟨s', ⟨⟩, h⟩)
      · cases h
      · exact h hin
    · rw [if_neg (by simpa using hin)]
      exact iff_of_true ⟨.attributeError, rfl, rfl⟩ (Or.inr ⟨s, rfl, hin⟩)
  | null | bool b | int n | float x =>
    refine iff_of_false htype ?_
    rintro (⟨items, h, -⟩ | ⟨s, h, -⟩) <;> cases h

/-- The tenants of the document, none if it has no such field. -/
theorem tenantEvs_eq (tenant : String) (fields : List (String × Json F)) :
    tenantEvs tenant (.obj fields)
      = lookUp tenant ((Json.field "tenants" fields).getD (.obj [])) := rfl

/-- What is found as the EVs of a tenant. -/
theorem tenantEvs_ok {tenant : String} {fields : List (String × Json F)} {evs : Json F} :
    tenantEvs tenant (.obj fields) = .ok evs ↔ HasTenant tenant fields evs := by
  rw [tenantEvs_eq, lookUp_ok]
  unfold HasTenant
  cases Json.field "tenants" fields with
  | none =>
    refine iff_of_false ?_ fun ⟨tenants, h, _⟩ => (by cases h)
    rintro ⟨tenants, ⟨⟩, h⟩
    cases h
  | some v =>
    constructor
    · rintro ⟨tenants, hv, h⟩
      have hv : v = .obj tenants := hv
      exact ⟨tenants, by rw [hv], h⟩
    · rintro ⟨tenants, hv, h⟩
      exact ⟨tenants, Option.some.inj hv, h⟩

/-- When looking for the EVs of a tenant raises out of the loop. -/
theorem tenantEvs_uncaught {tenant : String} {fields : List (String × Json F)} :
    Uncaught (tenantEvs tenant (.obj fields)) ↔
      ∃ v, Json.field "tenants" fields = some v ∧ NotAmong tenant v := by
  rw [tenantEvs_eq, lookUp_uncaught]
  cases Json.field "tenants" fields with
  | none =>
    refine iff_of_false ?_ fun ⟨v, h, _⟩ => (by cases h)
    rintro (⟨items, h, -⟩ | ⟨s, h, -⟩) <;> cases h
  | some v =>
    constructor
    · exact fun h => ⟨v, rfl, h⟩
    · rintro ⟨v', ⟨⟩, h⟩
      exact h

theorem len_uncaught (evs : Json F) : ¬ Uncaught evs.len := by
  rintro ⟨e, he, hc⟩
  cases evs with
  | arr items | str s | obj fields => cases he
  | null | bool b | int n | float x =>
    cases he
    cases hc

/-- In range, `evs[i]` returns or raises what is caught. -/
theorem index_uncaught {evs : Json F} {n i : Nat} (hlen : evs.len = .ok n) (hi : i < n) :
    ¬ Uncaught (evs.index i) := by
  rintro ⟨e, he, hc⟩
  cases evs with
  | arr items =>
    cases hlen
    unfold Json.index at he
    dsimp only at he
    rw [List.getElem?_eq_getElem hi] at he
    cases he
  | str s =>
    cases hlen
    unfold Json.index at he
    dsimp only at he
    rw [List.getElem?_eq_getElem (by rwa [String.length_toList])] at he
    cases he
  | obj fields =>
    cases he
    cases hc
  | null | bool b | int m | float x => cases hlen

/-- `rec["weight"]` needs a dict. -/
theorem weight_item {record v : Json F} {key : String} :
    record.item key = .ok v ↔ ∃ fields, record = .obj fields ∧ Json.field key fields = some v := by
  cases record with
  | obj fields =>
    rw [item_ok]
    constructor
    · exact fun h => ⟨fields, rfl, h⟩
    · rintro ⟨fields', ⟨⟩, h⟩
      exact h
  | null | bool b | int n | float x | str s | arr items =>
    exact iff_of_false (fun h => by cases h) fun ⟨fields, h, _⟩ => (by cases h)

/-! ## The modification time -/

/-- The file is newer than the one last loaded. -/
def Newer (st : Store F) (stat : Stat) (mtime : ℚ) : Prop :=
  stat = .found mtime ∧ st.lastMtime < mtime

/-- `os.stat` changes neither the grid nor the remembered time. -/
theorem statted_store (st : Store F) (stat : Stat) :
    (statted st stat).1.wgrid = st.wgrid ∧ (statted st stat).1.lastMtime = st.lastMtime := by
  cases stat with
  | missing | unreadable | found mtime => exact ⟨rfl, rfl⟩

/-- A time is returned exactly for a newer file. -/
theorem statted_some {st : Store F} {stat : Stat} {mtime : ℚ} :
    (statted st stat).2 = some mtime ↔ Newer st stat mtime := by
  unfold statted Newer
  cases stat with
  | missing | unreadable =>
    constructor
    · intro h
      cases h
    · rintro ⟨h, -⟩
      cases h
  | found m =>
    dsimp only
    by_cases hle : m ≤ st.lastMtime
    · rw [if_pos hle]
      constructor
      · intro h
        cases h
      · rintro ⟨⟨⟩, hlt⟩
        exact absurd hlt (not_lt.mpr hle)
    · rw [if_neg hle]
      constructor
      · rintro ⟨⟩
        exact ⟨rfl, not_le.mp hle⟩
      · rintro ⟨⟨⟩, -⟩
        rfl

/-! ## Numbers -/

variable [Builtins F]

/-- `int` raises out of the loop for an infinity only. -/
theorem toInt_uncaught {v : Json F} : Uncaught v.toInt ↔ Infinite v := by
  unfold Json.toInt
  cases v with
  | float x =>
    dsimp only
    cases htr : Builtins.truncate x with
    | whole n =>
      rw [uncaught_ok]
      refine ⟨False.elim, ?_⟩
      rintro ⟨x', ⟨⟩, hinf⟩
      cases htr.symm.trans hinf
    | nan =>
      refine ⟨fun ⟨e, he, hc⟩ => ?_, ?_⟩
      · cases he
        cases hc
      · rintro ⟨x', ⟨⟩, hinf⟩
        cases htr.symm.trans hinf
    | infinite => exact ⟨fun _ => ⟨x, rfl, htr⟩, fun _ => ⟨.overflowError, rfl, rfl⟩⟩
  | str s =>
    dsimp only
    cases Builtins.intOfStr F s with
    | none =>
      refine ⟨fun ⟨e, he, hc⟩ => ?_, fun ⟨x, hx, _⟩ => (by cases hx)⟩
      cases he
      cases hc
    | some n => exact ⟨fun ⟨e, he, _⟩ => (by cases he), fun ⟨x, hx, _⟩ => (by cases hx)⟩
  | bool b => exact ⟨fun ⟨e, he, _⟩ => (by cases he), fun ⟨x, hx, _⟩ => (by cases hx)⟩
  | int n => exact ⟨fun ⟨e, he, _⟩ => (by cases he), fun ⟨x, hx, _⟩ => (by cases hx)⟩
  | null | arr items | obj fields =>
    refine ⟨fun ⟨e, he, hc⟩ => ?_, fun ⟨x, hx, _⟩ => (by cases hx)⟩
    cases he
    cases hc

theorem dims_ok {fields : List (String × Json F)} {n m : Int} :
    dims (.obj fields) = .ok (n, m) ↔
      HasInt "num_planes" fields n ∧ HasInt "num_paths" fields m := by
  unfold dims HasInt
  simp only [Outcome.bind_eq_ok, Outcome.map_ok, item_ok, Prod.mk.injEq]
  constructor
  · rintro ⟨v, hv, n', hn, v', hv', m', hm, rfl, rfl⟩
    exact ⟨⟨v, hv, hn⟩, v', hv', hm⟩
  · rintro ⟨⟨v, hv, hn⟩, v', hv', hm⟩
    exact ⟨v, hv, n, hn, v', hv', m, hm, rfl, rfl⟩

/-- Reading them raises out of the loop for an infinity, in the second only after the first was
    read. -/
theorem dims_uncaught {fields : List (String × Json F)} :
    Uncaught (dims (.obj fields)) ↔
      (∃ v, Json.field "num_planes" fields = some v ∧ Infinite v) ∨
      ∃ n v, HasInt "num_planes" fields n ∧ Json.field "num_paths" fields = some v ∧
        Infinite v := by
  unfold dims HasInt
  simp only [uncaught_bind, uncaught_map, item_ok, item_uncaught, toInt_uncaught, false_or]
  constructor
  · rintro ⟨v, hv, hinf | ⟨n, hn, v', hv', hinf⟩⟩
    · exact Or.inl ⟨v, hv, hinf⟩
    · exact Or.inr ⟨n, v', ⟨v, hv, hn⟩, hv', hinf⟩
  · rintro (⟨v, hv, hinf⟩ | ⟨n, v', ⟨v, hv, hn⟩, hv', hinf⟩)
    · exact ⟨v, hv, Or.inl hinf⟩
    · exact ⟨v, hv, Or.inr ⟨n, hn, v', hv', hinf⟩⟩

/-- `float` raises out of the loop for an integer that is too large. -/
theorem toFloat_uncaught {v : Json F} : Uncaught v.toFloat ↔ TooLarge v := by
  have hint : ∀ n : Int, Uncaught (Json.floatInt n : Except Exc F)
      ↔ Builtins.floatOfInt (F := F) n = none := by
    intro n
    unfold Json.floatInt
    cases Builtins.floatOfInt (F := F) n with
    | none => exact iff_of_true ⟨.overflowError, rfl, rfl⟩ rfl
    | some x => exact iff_of_false (uncaught_ok x).mp fun h => (by cases h)
  unfold Json.toFloat
  cases v with
  | int n =>
    rw [hint]
    constructor
    · exact fun h => Or.inl ⟨n, rfl, h⟩
    · rintro (⟨n', ⟨⟩, h⟩ | ⟨b, h, -⟩)
      · exact h
      · cases h
  | bool b =>
    rw [hint]
    constructor
    · exact fun h => Or.inr ⟨b, rfl, h⟩
    · rintro (⟨n, h, -⟩ | ⟨b', ⟨⟩, h⟩)
      · cases h
      · exact h
  | float x =>
    refine iff_of_false (uncaught_ok x).mp ?_
    rintro (⟨n, h, -⟩ | ⟨b, h, -⟩) <;> cases h
  | str s =>
    refine iff_of_false ?_ ?_
    · rintro ⟨e, he, hc⟩
      dsimp only at he
      cases hf : Builtins.floatOfStr (F := F) s with
      | none =>
        rw [hf] at he
        cases he
        cases hc
      | some x =>
        rw [hf] at he
        cases he
    · rintro (⟨n, h, -⟩ | ⟨b, h, -⟩) <;> cases h
  | null | arr items | obj fields =>
    refine iff_of_false ?_ ?_
    · rintro ⟨e, ⟨⟩, hc⟩
      cases hc
    · rintro (⟨n, h, -⟩ | ⟨b, h, -⟩) <;> cases h

/-! ## The weights -/

/-- What is read as the weight of a record. -/
theorem weightAt_ok {evs : Json F} {i : Nat} {x : F} :
    weightAt evs i = .ok x ↔ HasWeight evs i x := by
  unfold weightAt HasWeight
  simp only [Outcome.bind_eq_ok, weight_item]
  constructor
  · rintro ⟨record, hrec, v, ⟨fields, rfl, hv⟩, hx⟩
    exact ⟨fields, v, hrec, hv, hx⟩
  · rintro ⟨fields, v, hrec, hv, hx⟩
    exact ⟨.obj fields, hrec, v, ⟨fields, rfl, hv⟩, hx⟩

/-- Reading a weight raises out of the loop if it is an integer that is too large. -/
theorem weightAt_uncaught {evs : Json F} {n i : Nat} (hlen : evs.len = .ok n) (hi : i < n) :
    Uncaught (weightAt evs i) ↔
      ∃ record v, evs.index i = .ok (.obj record) ∧ Json.field "weight" record = some v ∧
        TooLarge v := by
  have hitem : ∀ record : Json F, ¬ Uncaught (record.item "weight") := by
    intro record
    cases record with
    | obj fields => exact item_uncaught "weight" fields
    | null | bool b | int m | float x | str s | arr items =>
      rintro ⟨e, ⟨⟩, hc⟩
      cases hc
  unfold weightAt
  simp only [uncaught_bind, index_uncaught hlen hi, hitem, false_or, toFloat_uncaught, weight_item]
  constructor
  · rintro ⟨record, hrec, v, ⟨fields, rfl, hv⟩, hlarge⟩
    exact ⟨fields, v, hrec, hv, hlarge⟩
  · rintro ⟨fields, v, hrec, hv, hlarge⟩
    exact ⟨.obj fields, hrec, v, ⟨fields, rfl, hv⟩, hlarge⟩

/-- The grid that is read has the weights of the records, row by row. -/
theorem gridOf_ok_iff {nPlanes nPaths : Nat} {evs : Json F} {wgrid : List (List F)} :
    gridOf nPlanes nPaths evs = .ok wgrid ↔
      wgrid.length = nPlanes ∧ (∀ row ∈ wgrid, row.length = nPaths) ∧
      ∀ plane < nPlanes, ∀ path < nPaths,
        ∃ x, entry wgrid plane path = some x ∧ HasWeight evs (plane * nPaths + path) x := by
  unfold gridOf
  rw [Outcome.mapM_range_ok]
  refine and_congr_right fun hlen => ?_
  constructor
  · intro hrows
    constructor
    · intro row hrow
      obtain ⟨plane, hplane⟩ := List.mem_iff_getElem?.mp hrow
      have hlt : plane < nPlanes := hlen ▸ (List.getElem?_eq_some_iff.mp hplane).1
      obtain ⟨row', hrow', hget⟩ := hrows plane hlt
      rw [Option.some.inj (hplane.symm.trans hget)]
      exact (Outcome.mapM_range_ok.mp hrow').1
    · intro plane hplane path hpath
      obtain ⟨row, hrow, hget⟩ := hrows plane hplane
      obtain ⟨x, hx, hat⟩ := (Outcome.mapM_range_ok.mp hrow).2 path hpath
      refine ⟨x, ?_, weightAt_ok.mp hx⟩
      unfold entry
      rw [hget]
      exact hat
  · rintro ⟨hshape, hat⟩ plane hplane
    have hget := List.getElem?_eq_getElem (hlen ▸ hplane)
    refine ⟨_, Outcome.mapM_range_ok.mpr ⟨hshape _ (List.getElem_mem _), fun path hpath => ?_⟩, hget⟩
    obtain ⟨x, hx, hw⟩ := hat plane hplane path hpath
    unfold entry at hx
    rw [hget] at hx
    exact ⟨x, weightAt_ok.mpr hw, hx⟩

/-- Reading the grid raises out of the loop at the first weight that is too large, if all before it
    can be read. -/
theorem gridOf_uncaught {nPlanes nPaths : Nat} {evs : Json F}
    (hlen : evs.len = .ok (nPlanes * nPaths)) :
    Uncaught (gridOf nPlanes nPaths evs) ↔
      ∃ i < nPlanes * nPaths, (∃ record v, evs.index i = .ok (.obj record) ∧
        Json.field "weight" record = some v ∧ TooLarge v) ∧ ∀ j < i, ∃ x, HasWeight evs j x := by
  unfold gridOf
  rw [← uncaught_map _ List.flatten, Outcome.mapM_range_mul (weightAt evs)]
  constructor
  · rintro ⟨e, he, hc⟩
    obtain ⟨i, hi, hraise, hbefore⟩ := Outcome.mapM_range_error.mp he
    refine ⟨i, hi, (weightAt_uncaught hlen hi).mp ⟨e, hraise, hc⟩, fun j hj => ?_⟩
    obtain ⟨x, hx⟩ := hbefore j hj
    exact ⟨x, weightAt_ok.mp hx⟩
  · rintro ⟨i, hi, hlarge, hbefore⟩
    obtain ⟨e, he, hc⟩ := (weightAt_uncaught hlen hi).mpr hlarge
    refine ⟨e, Outcome.mapM_range_error.mpr ⟨i, hi, he, fun j hj => ?_⟩, hc⟩
    obtain ⟨x, hx⟩ := hbefore j hj
    exact ⟨x, weightAt_ok.mpr hx⟩

/-! ## The reader -/

/-- The reader after unwrapping. -/
theorem wgridFromSnapshot_flat {M : MrcSnapshot} {data : Json F}
    {fields : List (String × Json F)} (h : Flat data fields) :
    M.wgridFromSnapshot data = (dims (.obj fields)).bind fun d =>
      if d.1 ≠ M.nPlanes ∨ d.2 ≠ M.nSpines then .error .valueError
      else (tenantEvs M.tenant (.obj fields)).bind fun evs => evs.len.bind fun n =>
        if (n : Int) ≠ d.1 * d.2 then .error .valueError
        else gridOf M.nPlanes M.nSpines evs := by
  unfold wgridFromSnapshot
  rw [unwrap_ok.mpr ⟨fields, rfl, h⟩, Outcome.ok_bind]

/-- The reader returns the grid of a snapshot, and of nothing else. -/
theorem wgridFromSnapshot_ok {M : MrcSnapshot} {data : Json F} {wgrid : List (List F)} :
    M.wgridFromSnapshot data = .ok wgrid ↔ IsSnapshot M data wgrid := by
  constructor
  · intro h
    obtain ⟨d, hd, -⟩ := Outcome.bind_eq_ok.mp h
    obtain ⟨fields, -, hflat⟩ := unwrap_ok.mp hd
    rw [wgridFromSnapshot_flat hflat] at h
    obtain ⟨⟨n, m⟩, hdims, h⟩ := Outcome.bind_eq_ok.mp h
    dsimp only at h
    split at h
    · cases h
    · rename_i hmatch
      rw [not_or, not_not, not_not] at hmatch
      obtain ⟨rfl, rfl⟩ := hmatch
      obtain ⟨evs, hevs, h⟩ := Outcome.bind_eq_ok.mp h
      obtain ⟨k, hk, h⟩ := Outcome.bind_eq_ok.mp h
      split at h
      · cases h
      · rename_i hcount
        rw [not_not] at hcount
        have hcount : k = M.nPlanes * M.nSpines := by exact_mod_cast hcount
        exact ⟨fields, evs, hflat, dims_ok.mp hdims, tenantEvs_ok.mp hevs, hcount ▸ hk,
          gridOf_ok_iff.mp h⟩
  · rintro ⟨fields, evs, hflat, hmatch, htenant, hlen, hgrid⟩
    rw [wgridFromSnapshot_flat hflat, dims_ok.mpr hmatch, Outcome.ok_bind,
      if_neg (by simp), tenantEvs_ok.mpr htenant, Outcome.ok_bind, hlen, Outcome.ok_bind,
      if_neg (by simp)]
    exact gridOf_ok_iff.mpr hgrid

/-- The reader raises what is not caught on these documents, and on no other. -/
theorem wgridFromSnapshot_uncaught {M : MrcSnapshot} {data : Json F} :
    Uncaught (M.wgridFromSnapshot data) ↔ Escape M data := by
  have hvalue : ¬ Uncaught (.error .valueError : Except Exc (List (List F))) := by
    rw [uncaught_error]
    decide
  constructor
  · intro h
    -- the steps in their order: each is left by its own exception, or passed
    by_cases hdict : ∀ fields, data ≠ .obj fields
    · exact .noDict hdict
    · push Not at hdict
      obtain ⟨outer, rfl⟩ := hdict
      obtain ⟨fields, -, hflat⟩ := unwrap_obj outer
      rw [wgridFromSnapshot_flat hflat, uncaught_bind, dims_uncaught] at h
      rcases h with (⟨v, hv, hinf⟩ | ⟨n, v, hn, hv, hinf⟩) | ⟨⟨n, m⟩, hdims, h⟩
      · exact .planes hflat hv hinf
      · exact .paths hflat hn hv hinf
      · dsimp only at h
        split at h
        · exact absurd h hvalue
        · rename_i hmatch
          rw [not_or, not_not, not_not] at hmatch
          obtain ⟨rfl, rfl⟩ := hmatch
          rw [uncaught_bind, tenantEvs_uncaught] at h
          rcases h with ⟨v, hv, hno⟩ | ⟨evs, hevs, h⟩
          · exact .tenants hflat (dims_ok.mp hdims) hv hno
          · obtain ⟨k, hk, h⟩ := ((uncaught_bind _ _).mp h).resolve_left (len_uncaught evs)
            split at h
            · exact absurd h hvalue
            · rename_i hcount
              rw [not_not] at hcount
              have hcount : k = M.nPlanes * M.nSpines := by exact_mod_cast hcount
              obtain ⟨i, hi, ⟨record, v, hrec, hv, hlarge⟩, hbefore⟩ :=
                (gridOf_uncaught (hcount ▸ hk)).mp h
              exact .weight hflat (dims_ok.mp hdims) (tenantEvs_ok.mp hevs) (hcount ▸ hk) hi
                hbefore hrec hv hlarge
  · intro h
    -- each way to escape is one of the steps, with those before it passed
    cases h with
    | noDict h =>
      unfold wgridFromSnapshot
      exact (uncaught_bind _ _).mpr (Or.inl (unwrap_uncaught.mpr h))
    | planes h hv hinf =>
      rw [wgridFromSnapshot_flat h, uncaught_bind, dims_uncaught]
      exact Or.inl (Or.inl ⟨_, hv, hinf⟩)
    | paths h hn hv hinf =>
      rw [wgridFromSnapshot_flat h, uncaught_bind, dims_uncaught]
      exact Or.inl (Or.inr ⟨_, _, hn, hv, hinf⟩)
    | tenants h hm hv hno =>
      rw [wgridFromSnapshot_flat h, dims_ok.mpr hm, Outcome.ok_bind, if_neg (by simp),
        uncaught_bind, tenantEvs_uncaught]
      exact Or.inl ⟨_, hv, hno⟩
    | weight h hm ht hlen hi hbefore hrec hv hlarge =>
      rw [wgridFromSnapshot_flat h, dims_ok.mpr hm, Outcome.ok_bind, if_neg (by simp),
        tenantEvs_ok.mpr ht, Outcome.ok_bind, hlen, Outcome.ok_bind, if_neg (by simp),
        gridOf_uncaught hlen]
      exact ⟨_, hi, ⟨_, _, hrec, hv, hlarge⟩, hbefore⟩

/-! ## The refresh -/

/-- What a refresh should do with any file: return, load the grid of a newer snapshot, and else
    leave the grid and the remembered modification time. -/
structure Refreshes (M : MrcSnapshot) (st : Store F) (stat : Stat)
    (loaded : Except Exc (Json F)) (r : Except Exc Bool × Store F) : Prop where
  returns : ∃ b, r.1 = .ok b
  loads : ∀ mtime data wgrid, Newer st stat mtime → loaded = .ok data → IsSnapshot M data wgrid →
    r.1 = .ok true ∧ r.2.wgrid = wgrid ∧ r.2.lastMtime = mtime
  keeps : (¬ ∃ mtime data wgrid, Newer st stat mtime ∧ loaded = .ok data ∧
      IsSnapshot M data wgrid) →
    r.1 ≠ .ok true ∧ r.2.wgrid = st.wgrid ∧ r.2.lastMtime = st.lastMtime

/-- From `open` on: the grid of a snapshot is loaded, and what is no snapshot changes neither the
    grid nor the remembered modification time. -/
theorem finish_cases (M : MrcSnapshot) (st : Store F) (mtime : ℚ) (loaded : Except Exc (Json F))
    (newId : Nat) :
    let r := M.finish st mtime loaded newId
    (∃ wgrid, loaded.bind M.wgridFromSnapshot = .ok wgrid ∧ r.1 = .ok true ∧
      r.2.wgrid = wgrid ∧ r.2.lastMtime = mtime) ∨
    (∃ e, loaded.bind M.wgridFromSnapshot = .error e ∧
      r.1 = (if e.caught transient then .ok false else .error e) ∧
      r.2.wgrid = st.wgrid ∧ r.2.lastMtime = st.lastMtime) := by
  unfold finish
  dsimp only
  cases loaded.bind M.wgridFromSnapshot with
  | ok wgrid => exact Or.inl ⟨wgrid, rfl, rfl, rfl, rfl⟩
  | error e =>
    refine Or.inr ⟨e, rfl, ?_⟩
    dsimp only
    split
    · exact ⟨rfl, rfl, rfl⟩
    · exact ⟨rfl, rfl, rfl⟩

theorem refreshOnce_newer {M : MrcSnapshot} {st : Store F} {stat : Stat} {mtime : ℚ}
    (h : Newer st stat mtime) (loaded : Except Exc (Json F)) (newId : Nat) :
    M.refreshOnce st stat loaded newId
      = M.finish (statted st stat).1 mtime loaded newId := by
  obtain ⟨rfl, hlt⟩ := h
  unfold refreshOnce statted
  dsimp only
  rw [if_neg (not_le.mpr hlt)]

theorem refreshOnce_old {M : MrcSnapshot} {st : Store F} {stat : Stat}
    (h : ∀ mtime, ¬ Newer st stat mtime) (loaded : Except Exc (Json F)) (newId : Nat) :
    M.refreshOnce st stat loaded newId = (.ok false, (statted st stat).1) := by
  have hnone : (statted st stat).2 = none :=
    Option.eq_none_iff_forall_ne_some.mpr fun mtime hs => h mtime (statted_some.mp hs)
  unfold refreshOnce
  split
  · rename_i heq
    rw [heq]
  · rename_i heq
    rw [heq] at hnone
    cases hnone

/-- A refresh does what it should with every content of the file, and in every state, unless the
    file is newer and opening and loading it raises what is not caught, or the document is one that
    gets through. -/
theorem refreshes_iff (M : MrcSnapshot) (st : Store F) (stat : Stat)
    (loaded : Except Exc (Json F)) (newId : Nat) :
    Refreshes M st stat loaded (M.refreshOnce st stat loaded newId) ↔
      ¬ ∃ mtime, Newer st stat mtime ∧
        (Uncaught loaded ∨ ∃ data, loaded = .ok data ∧ Escape M data) := by
  have hthrough : Uncaught (loaded.bind M.wgridFromSnapshot) ↔
      Uncaught loaded ∨ ∃ data, loaded = .ok data ∧ Escape M data := by
    simp only [uncaught_bind, wgridFromSnapshot_uncaught]
  have hsnap : ∀ wgrid, loaded.bind M.wgridFromSnapshot = .ok wgrid ↔
      ∃ data, loaded = .ok data ∧ IsSnapshot M data wgrid := by
    intro wgrid
    simp only [Outcome.bind_eq_ok, wgridFromSnapshot_ok]
  constructor
  · rintro ⟨⟨b, hb⟩, -, -⟩ ⟨mtime, hnew, hbad⟩
    -- the exception ends the refresh, so there is no result
    obtain ⟨e, he, hc⟩ := hthrough.mpr hbad
    rw [refreshOnce_newer hnew] at hb
    rcases finish_cases M (statted st stat).1 mtime loaded newId with
      ⟨wgrid, hw, -⟩ | ⟨e', he', hr, -⟩
    · cases he.symm.trans hw
    · cases he.symm.trans he'
      rw [hr, if_neg (by rw [hc]; decide)] at hb
      cases hb
  · intro hgood
    by_cases hnew : ∃ mtime, Newer st stat mtime
    · obtain ⟨mtime, hnew⟩ := hnew
      rw [refreshOnce_newer hnew]
      obtain ⟨hstgrid, hstmtime⟩ := statted_store st stat
      rcases finish_cases M (statted st stat).1 mtime loaded newId with
        ⟨wgrid, hw, hr, hgrid, hmtime⟩ | ⟨e, he, hr, hgrid, hmtime⟩
      · -- a snapshot was read
        refine ⟨⟨true, hr⟩, fun mtime' data wgrid' hnew' hdata hsn => ?_, fun hnone => ?_⟩
        · obtain ⟨heq, -⟩ := hnew
          obtain ⟨heq', -⟩ := hnew'
          cases heq.symm.trans heq'
          have hw' := (hsnap wgrid').mpr ⟨data, hdata, hsn⟩
          cases hw.symm.trans hw'
          exact ⟨hr, hgrid, hmtime⟩
        · obtain ⟨data, hdata, hsn⟩ := (hsnap wgrid).mp hw
          exact absurd ⟨mtime, data, wgrid, hnew, hdata, hsn⟩ hnone
      · have hcaught : e.caught transient = true := by
          -- all that can be raised is caught
          by_contra hno
          exact hgood ⟨mtime, hnew, hthrough.mp ⟨e, he, by simpa using hno⟩⟩
        rw [if_pos hcaught] at hr
        refine ⟨⟨false, hr⟩, fun mtime' data wgrid' _ hdata hsn => ?_, fun _ => ?_⟩
        · have hw' := (hsnap wgrid').mpr ⟨data, hdata, hsn⟩
          cases he.symm.trans hw'
        · exact ⟨by rw [hr]; decide, hgrid.trans hstgrid, hmtime.trans hstmtime⟩
    · -- the file is not newer
      rw [refreshOnce_old (not_exists.mp hnew)]
      refine ⟨⟨false, rfl⟩, fun mtime _ _ hnew' => absurd ⟨mtime, hnew'⟩ hnew, fun _ => ?_⟩
      exact ⟨fun h => (by cases h), statted_store st stat⟩

/-- A policy over one plane with one spine. -/
def oneSpine : MrcSnapshot where
  tenant := "green"
  pathsPerPlane := 1
  nPlanes := 1
  nSpines := 1
  paths_pos := le_rfl
  paths_le := le_rfl

/-- A snapshot of another tenant, its tenants a list. -/
def listedTenants : Json ℚ :=
  .obj [("num_planes", .int 1), ("num_paths", .int 1), ("tenants", .arr [.str "blue"])]

/-- With `[]` in the file, or with a list for the tenants, the refresh raises `AttributeError`. -/
theorem bad_file_raises :
    let refresh := fun data => oneSpine.refreshOnce (oneSpine.start ℚ 0) (.found 1) (.ok data) 1
    (refresh (.arr [])).1 = .error .attributeError ∧
    (refresh listedTenants).1 = .error .attributeError ∧
    ¬ Refreshes oneSpine (oneSpine.start ℚ 0) (.found 1) (.ok (.arr [])) (refresh (.arr [])) := by
  refine ⟨rfl, rfl, fun h => ?_⟩
  obtain ⟨b, hb⟩ := h.returns
  cases hb

end MrcSnapshot

end Srv6Mrc
