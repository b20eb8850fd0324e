/-
  Imperative calls that may raise.

  A call in a language with exceptions is not a function into `Except`: an exception raised half
  way through leaves every write made before it in place, and the caller that catches it goes on
  from there.  `Outcome ε σ` keeps both halves — the state the call left and the exception it
  raised, if any — so that a run of calls, some of them rejected, is a plain left fold over the
  states.

  `forEach` is the `for` loop of such a language: the body runs on one element after another and
  the first exception ends the loop.  Its rules are the ones a loop proof wants: an invariant of
  the body is an invariant of every prefix of the loop (`forEach_inv`), a body that raises nothing
  gives a loop that raises nothing (`forEach_ok`), and a loop cut at one element is the loop before
  it, that element's turn, and the rest (`forEach_split`).
-/
import Mathlib.Data.List.Basic
import Mathlib.Data.List.Forall2

/-- What a call leaves behind: the state, and the exception it raised (`none`: it returned). -/
structure Outcome (ε σ : Type) where
  state : σ
  raised : Option ε

namespace Outcome

variable {ε σ α : Type}

/-- The call returned normally in `s`. -/
def ok (s : σ) : Outcome ε σ := ⟨s, none⟩

/-- The call raised `e`, leaving `s`. -/
def raise (e : ε) (s : σ) : Outcome ε σ := ⟨s, some e⟩

/-- Go on with `f` unless an exception is already on its way up. -/
def andThen (o : Outcome ε σ) (f : σ → Outcome ε σ) : Outcome ε σ :=
  match o.raised with
  | none => f o.state
  | some _ => o

/-- A `for` loop over `as`: the first exception ends it. -/
def forEach (body : α → σ → Outcome ε σ) : List α → σ → Outcome ε σ
  | [], s => ok s
  | a :: as, s => (body a s).andThen (forEach body as)

@[simp] theorem state_ok (s : σ) : (ok s : Outcome ε σ).state = s := rfl
@[simp] theorem raised_ok (s : σ) : (ok s : Outcome ε σ).raised = none := rfl
@[simp] theorem state_raise (e : ε) (s : σ) : (raise e s).state = s := rfl
@[simp] theorem raised_raise (e : ε) (s : σ) : (raise e s).raised = some e := rfl

theorem andThen_none {o : Outcome ε σ} {f : σ → Outcome ε σ} (h : o.raised = none) :
    o.andThen f = f o.state := by
  unfold andThen; rw [h]

theorem andThen_some {o : Outcome ε σ} {f : σ → Outcome ε σ} (h : o.raised ≠ none) :
    o.andThen f = o := by
  unfold andThen
  cases hr : o.raised with
  | none => exact absurd hr h
  | some e => rfl

@[simp] theorem forEach_nil (body : α → σ → Outcome ε σ) (s : σ) :
    forEach body [] s = ok s := rfl

/-- The first turn, and then the others. -/
theorem forEach_cons (body : α → σ → Outcome ε σ) (a : α) (as : List α) (s : σ) :
    forEach body (a :: as) s = (body a s).andThen (forEach body as) := rfl

/-- What both calls keep, their sequence keeps. -/
theorem andThen_inv {o : Outcome ε σ} {f : σ → Outcome ε σ} {I : σ → Prop} (ho : I o.state)
    (hf : ∀ s, I s → I (f s).state) : I (o.andThen f).state := by
  by_cases h : o.raised = none
  · rw [andThen_none h]
    exact hf _ ho
  · rwa [andThen_some h]

/-! ## Loop rules -/

/-- The turns of one list, and then those of another. -/
theorem forEach_append (body : α → σ → Outcome ε σ) (as bs : List α) (s : σ) :
    forEach body (as ++ bs) s = (forEach body as s).andThen (forEach body bs) := by
  induction as generalizing s with
  | nil => rfl
  | cons a as ih =>
    rw [List.cons_append, forEach_cons, forEach_cons]
    by_cases h : (body a s).raised = none
    · rw [andThen_none h, andThen_none h, ih]
    · rw [andThen_some h, andThen_some h, andThen_some h]

/-- A loop within a loop is one loop. -/
theorem forEach_flatMap {β : Type} (body : α → σ → Outcome ε σ) (f : β → List α) (bs : List β)
    (s : σ) : forEach body (bs.flatMap f) s = forEach (fun b => forEach body (f b)) bs s := by
  induction bs generalizing s with
  | nil => rfl
  | cons b bs ih =>
    rw [List.flatMap_cons, forEach_append, forEach_cons]
    congr 1
    funext s
    exact ih s

theorem forEach_map {β : Type} (body : α → σ → Outcome ε σ) (f : β → α) (bs : List β) (s : σ) :
    forEach body (bs.map f) s = forEach (fun b => body (f b)) bs s := by
  induction bs generalizing s with
  | nil => rfl
  | cons b bs ih =>
    rw [List.map_cons, forEach_cons, forEach_cons]
    congr 1
    funext s
    exact ih s

/-- The invariant rule: what every turn keeps, the loop keeps — also when it is cut short. -/
theorem forEach_inv {body : α → σ → Outcome ε σ} {I : σ → Prop} {as : List α}
    (hbody : ∀ a ∈ as, ∀ s, I s → I (body a s).state) {s : σ} (hs : I s) :
    I (forEach body as s).state := by
  induction as generalizing s with
  | nil => exact hs
  | cons a as ih =>
    rw [forEach_cons]
    exact andThen_inv (hbody a (List.mem_cons_self ..) s hs) fun s' hs' =>
      ih (fun b hb => hbody b (List.mem_cons_of_mem a hb)) hs'

/-- Total correctness: turns that keep `I` and return give a loop that keeps `I` and returns. -/
theorem forEach_ok {body : α → σ → Outcome ε σ} {I : σ → Prop} {as : List α}
    (hbody : ∀ a ∈ as, ∀ s, I s → I (body a s).state ∧ (body a s).raised = none)
    {s : σ} (hs : I s) :
    (forEach body as s).raised = none := by
  induction as generalizing s with
  | nil => rfl
  | cons a as ih =>
    obtain ⟨ha, hr⟩ := hbody a (List.mem_cons_self ..) s hs
    rw [forEach_cons, andThen_none hr]
    exact ih (fun b hb => hbody b (List.mem_cons_of_mem a hb)) ha

/-- One more turn of a loop that returned so far. -/
theorem forEach_concat {body : α → σ → Outcome ε σ} {as : List α} {s : σ}
    (h : (forEach body as s).raised = none) (a : α) :
    forEach body (as ++ [a]) s = body a (forEach body as s).state := by
  rw [forEach_append, andThen_none h, forEach_cons]
  cases hr : (body a (forEach body as s).state).raised with
  | none =>
    rw [andThen_none hr, forEach_nil, ok, ← hr]
  | some e =>
    rw [andThen_some (by rw [hr]; simp)]

/-- Cut a loop at one element: the loop before it, its own turn, the rest. -/
theorem forEach_split (body : α → σ → Outcome ε σ) (as : List α) (a : α) (bs : List α) (s : σ) :
    forEach body (as ++ a :: bs) s
      = (forEach body as s).andThen fun s₁ => (body a s₁).andThen (forEach body bs) :=
  forEach_append body as (a :: bs) s

/-- A loop that returned had every prefix return. -/
theorem raised_prefix {body : α → σ → Outcome ε σ} {as bs : List α} {s : σ}
    (h : (forEach body (as ++ bs) s).raised = none) : (forEach body as s).raised = none := by
  by_contra hne
  rw [forEach_append, andThen_some hne] at h
  exact hne h

/-- A loop that returned is a plain fold. -/
theorem forEach_state {body : α → σ → Outcome ε σ} {as : List α} {s : σ}
    (h : (forEach body as s).raised = none) :
    (forEach body as s).state = as.foldl (fun s a => (body a s).state) s := by
  induction as generalizing s with
  | nil => rfl
  | cons a as ih =>
    have ha : (body a s).raised = none := by
      by_contra hne
      rw [forEach_cons, andThen_some hne] at h
      exact hne h
    rw [forEach_cons, andThen_none ha] at h ⊢
    rw [ih h, List.foldl_cons]

/-- A loop that builds a list, none of whose turns raises. -/
theorem mapM_ok {β : Type} {f : α → Except ε β} {g : α → β} {as : List α}
    (h : ∀ a ∈ as, f a = .ok (g a)) : as.mapM f = .ok (as.map g) := by
  induction as with
  | nil => rfl
  | cons a as ih =>
    rw [List.mapM_cons, h a (List.mem_cons_self ..),
      ih fun b hb => h b (List.mem_cons_of_mem a hb)]
    rfl

/-- A computation goes on with what the one before returned. -/
theorem ok_bind {β : Type} (a : α) (f : α → Except ε β) : (Except.ok a).bind f = f a := rfl

theorem error_bind {β : Type} (e : ε) (f : α → Except ε β) :
    (Except.error e : Except ε α).bind f = .error e := rfl

/-- What is returned is made of what was. -/
theorem map_ok {β : Type} {x : Except ε α} {f : α → β} {b : β} :
    x.map f = .ok b ↔ ∃ a, x = .ok a ∧ f a = b := by
  cases x with
  | error e =>
    constructor
    · intro h
      cases h
    · rintro ⟨a, ha, -⟩
      cases ha
  | ok a =>
    constructor
    · intro h
      exact ⟨a, rfl, Except.ok.inj h⟩
    · rintro ⟨a', ha, rfl⟩
      cases ha
      rfl

/-- What a computation that succeeded went through. -/
theorem bind_ok {β : Type} {x : Except ε α} {f : α → Except ε β} {b : β} :
    x >>= f = .ok b ↔ ∃ a, x = .ok a ∧ f a = .ok b := by
  cases x with
  | error e =>
    constructor
    · intro h
      cases h
    · rintro ⟨a, ha, -⟩
      cases ha
  | ok a =>
    constructor
    · intro h
      exact ⟨a, rfl, h⟩
    · rintro ⟨a', ha, h⟩
      cases ha
      exact h

theorem bind_eq_ok {β : Type} {x : Except ε α} {f : α → Except ε β} {b : β} :
    x.bind f = .ok b ↔ ∃ a, x = .ok a ∧ f a = .ok b := bind_ok

/-- A loop that built a list: each entry was made of an element, and each element made one. -/
theorem mem_mapM {β : Type} {f : α → Except ε β} {as : List α} {bs : List β}
    (h : as.mapM f = .ok bs) :
    (∀ b ∈ bs, ∃ a ∈ as, f a = .ok b) ∧ ∀ a ∈ as, ∃ b ∈ bs, f a = .ok b := by
  induction as generalizing bs with
  | nil =>
    cases h
    exact ⟨fun b hb => absurd hb List.not_mem_nil, fun a ha => absurd ha List.not_mem_nil⟩
  | cons a as ih =>
    rw [List.mapM_cons] at h
    obtain ⟨b, hb, h⟩ := bind_ok.mp h
    obtain ⟨bs', hbs, h⟩ := bind_ok.mp h
    cases h
    obtain ⟨hmade, hmakes⟩ := ih hbs
    constructor
    · intro b' hb'
      rcases List.mem_cons.mp hb' with rfl | hb'
      · exact ⟨a, List.mem_cons_self .., hb⟩
      · obtain ⟨a', ha', hf⟩ := hmade b' hb'
        exact ⟨a', List.mem_cons_of_mem a ha', hf⟩
    · intro a' ha'
      rcases List.mem_cons.mp ha' with rfl | ha'
      · exact ⟨b, List.mem_cons_self .., hb⟩
      · obtain ⟨b', hb', hf⟩ := hmakes a' ha'
        exact ⟨b', List.mem_cons_of_mem b hb', hf⟩

/-- Element by element. -/
theorem mapM_forall₂ {β : Type} {f : α → Except ε β} {as : List α} {bs : List β} :
    as.mapM f = .ok bs ↔ List.Forall₂ (fun a b => f a = .ok b) as bs := by
  induction as generalizing bs with
  | nil =>
    rw [List.forall₂_nil_left_iff, List.mapM_nil]
    exact ⟨fun h => (Except.ok.inj h).symm, fun h => h ▸ rfl⟩
  | cons a as ih =>
    rw [List.mapM_cons, bind_ok, List.forall₂_cons_left_iff]
    refine exists_congr fun b => ?_
    constructor
    · rintro ⟨hb, hrest⟩
      obtain ⟨bs', hbs, heq⟩ := bind_ok.mp hrest
      exact ⟨bs', hb, ih.mp hbs, (Except.ok.inj heq).symm⟩
    · rintro ⟨bs', hb, hbs, rfl⟩
      exact ⟨hb, bind_ok.mpr ⟨bs', ih.mpr hbs, rfl⟩⟩

/-- A loop that builds a list returns if all its turns do. -/
theorem exists_mapM {β : Type} {f : α → Except ε β} {as : List α} :
    (∃ bs, as.mapM f = .ok bs) ↔ ∀ a ∈ as, ∃ b, f a = .ok b := by
  constructor
  · rintro ⟨bs, hbs⟩ a ha
    obtain ⟨b, -, hb⟩ := (mem_mapM hbs).2 a ha
    exact ⟨b, hb⟩
  · intro h
    induction as with
    | nil => exact ⟨[], rfl⟩
    | cons a as ih =>
      rw [List.forall_mem_cons] at h
      obtain ⟨b, hb⟩ := h.1
      obtain ⟨bs, hbs⟩ := ih h.2
      exact ⟨b :: bs, mapM_forall₂.mpr (.cons hb (mapM_forall₂.mp hbs))⟩

/-- One more turn of a loop that builds a list. -/
theorem mapM_concat {β : Type} (f : α → Except ε β) (as : List α) (a : α) :
    (as ++ [a]).mapM f = (as.mapM f).bind fun bs => (f a).map fun b => bs ++ [b] := by
  induction as with
  | nil =>
    rw [List.nil_append, List.mapM_cons, List.mapM_nil]
    cases f a <;> rfl
  | cons a' as ih =>
    rw [List.cons_append, List.mapM_cons, List.mapM_cons, ih]
    cases f a' with
    | error e => rfl
    | ok b' =>
      cases as.mapM f with
      | error e => rfl
      | ok bs => cases f a <;> rfl

/-- The list a counting loop builds: at each index what the body returned. -/
theorem mapM_range_ok {β : Type} {f : Nat → Except ε β} {n : Nat} {bs : List β} :
    (List.range n).mapM f = .ok bs ↔
      bs.length = n ∧ ∀ i < n, ∃ b, f i = .ok b ∧ bs[i]? = some b := by
  induction n generalizing bs with
  | zero =>
    constructor
    · intro h
      cases h
      exact ⟨rfl, fun i hi => absurd hi (Nat.not_lt_zero i)⟩
    · rintro ⟨hlen, -⟩
      rw [List.length_eq_zero_iff.mp hlen]
      rfl
  | succ n ih =>
    rw [List.range_succ, mapM_concat]
    constructor
    · intro h
      obtain ⟨bs', hbs', h⟩ := bind_ok.mp h
      obtain ⟨b, hb, rfl⟩ : ∃ b, f n = .ok b ∧ bs' ++ [b] = bs := by
        cases hb : f n with
        | error e =>
          rw [hb] at h
          cases h
        | ok b =>
          rw [hb] at h
          exact ⟨b, rfl, Except.ok.inj h⟩
      obtain ⟨hlen, hat⟩ := ih.mp hbs'
      refine ⟨by rw [List.length_append, hlen]; rfl, fun i hi => ?_⟩
      rcases Nat.lt_succ_iff_lt_or_eq.mp hi with hlt | rfl
      · obtain ⟨b', hb', hget⟩ := hat i hlt
        exact ⟨b', hb', by rw [List.getElem?_append_left (by omega)]; exact hget⟩
      · refine ⟨b, hb, ?_⟩
        rw [← hlen, List.getElem?_concat_length]
    · rintro ⟨hlen, hat⟩
      obtain ⟨bs', b, rfl⟩ : ∃ bs' b, bs = bs' ++ [b] :=
        ⟨bs.dropLast, bs.getLast (List.ne_nil_of_length_eq_add_one hlen),
          (List.dropLast_append_getLast _).symm⟩
      have hlen' : bs'.length = n := by
        rw [List.length_append, List.length_singleton] at hlen
        omega
      have hbs' : (List.range n).mapM f = .ok bs' := by
        refine ih.mpr ⟨hlen', fun i hi => ?_⟩
        obtain ⟨b', hb', hget⟩ := hat i (by omega)
        exact ⟨b', hb', by rwa [List.getElem?_append_left (by omega)] at hget⟩
      obtain ⟨b', hb', hget⟩ := hat n (Nat.lt_succ_self n)
      rw [← hlen', List.getElem?_concat_length] at hget
      rw [hbs', ok_bind, hb', Option.some.inj hget]
      rfl

/-- The exception a counting loop raises: that of the first turn that raises. -/
theorem mapM_range_error {β : Type} {f : Nat → Except ε β} {n : Nat} {e : ε} :
    (List.range n).mapM f = .error e ↔
      ∃ i < n, f i = .error e ∧ ∀ j < i, ∃ b, f j = .ok b := by
  induction n generalizing e with
  | zero =>
    constructor
    · intro h
      cases h
    · rintro ⟨i, hi, -⟩
      exact absurd hi (Nat.not_lt_zero i)
  | succ n ih =>
    rw [List.range_succ, mapM_concat]
    cases hbs : (List.range n).mapM f with
    | error e' =>
      obtain ⟨i, hi, hraise, hbefore⟩ := ih.mp hbs
      constructor
      · intro h
        cases h
        exact ⟨i, Nat.lt_succ_of_lt hi, hraise, hbefore⟩
      · rintro ⟨i', -, hraise', hbefore'⟩
        -- the first turn that raises is one turn
        rcases Nat.lt_trichotomy i i' with hlt | rfl | hgt
        · obtain ⟨b, hb⟩ := hbefore' i hlt
          cases hraise.symm.trans hb
        · cases hraise.symm.trans hraise'
          rfl
        · obtain ⟨b, hb⟩ := hbefore i' hgt
          cases hraise'.symm.trans hb
    | ok bs =>
      have hat := (mapM_range_ok.mp hbs).2
      rw [ok_bind]
      constructor
      · intro h
        refine ⟨n, Nat.lt_succ_self n, ?_, fun j hj => ⟨_, (hat j hj).choose_spec.1⟩⟩
        cases hn : f n with
        | error e' =>
          rw [hn] at h
          cases h
          rfl
        | ok b =>
          rw [hn] at h
          cases h
      · rintro ⟨i, hi, hraise, -⟩
        rcases Nat.lt_succ_iff_lt_or_eq.mp hi with hlt | rfl
        · obtain ⟨b, hb, -⟩ := hat i hlt
          cases hraise.symm.trans hb
        · rw [hraise]
          rfl

/-- Two nested counting loops are one. -/
theorem mapM_range_mul {β : Type} (f : Nat → Except ε β) (m n : Nat) :
    ((List.range m).mapM fun i => (List.range n).mapM fun j => f (i * n + j)).map List.flatten
      = (List.range (m * n)).mapM f := by
  induction m with
  | zero =>
    rw [Nat.zero_mul]
    rfl
  | succ m ih =>
    have hrange : List.range (m * n + n)
        = List.range (m * n) ++ (List.range n).map (fun j => m * n + j) := List.range_add
    rw [List.range_succ, mapM_concat, Nat.succ_mul, hrange, List.mapM_append, List.mapM_map, ← ih]
    cases (List.range m).mapM fun i => (List.range n).mapM fun j => f (i * n + j) with
    | error e => rfl
    | ok rows =>
      have hrow : ((List.range n).mapM fun j => f (m * n + j))
          = (List.range n).mapM (f ∘ fun j => m * n + j) := rfl
      rw [ok_bind, hrow]
      cases (List.range n).mapM (f ∘ fun j => m * n + j) with
      | error e => rfl
      | ok row =>
        have hflat : (rows ++ [row]).flatten = rows.flatten ++ row := by
          rw [List.flatten_append, List.flatten_singleton]
        exact congrArg Except.ok hflat

end Outcome
