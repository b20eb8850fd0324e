/-
  Validators that stop at the first value they do not accept.

  A validator looks at one value after another.  A value is accepted, or refused with the error the
  validator has for it, or it makes the validator fall over with an exception that is not its own.
  `Follows` says of a run that it comes to what the first value that is not accepted comes to, and
  that what it returns, if it returns, has a property.  The rules follow the shape of the code, so
  that the list of values is read off it (`Follows.bind`, `Follows.mapM`).
-/
import Mathlib.Data.List.Forall2

namespace Py

/-- What becomes of a value that a validator looks at. -/
inductive Verdict where
  | accept
  /-- The validator's own error. -/
  | refuse
  /-- Some other exception. -/
  | escape
  deriving DecidableEq, Repr

/-- The values a validator looks at, each in the way it does. -/
class Judged (ρ : Type) where
  verdict : ρ → Verdict

/-- The exceptions that are a validator's own. -/
class OwnError (ε : Type) where
  own : ε → Bool

open Verdict

/-! ## The first value that is not accepted -/

section Judge

variable {ρ : Type} [Judged ρ]

/-- What becomes of values looked at in turn. -/
def judge : List ρ → Verdict
  | [] => accept
  | r :: rs => if Judged.verdict r = accept then judge rs else Judged.verdict r

@[simp] theorem judge_nil : judge ([] : List ρ) = accept := rfl

/-- The first look decides unless it accepts. -/
theorem judge_cons (r : ρ) (rs : List ρ) :
    judge (r :: rs) = if Judged.verdict r = accept then judge rs else Judged.verdict r := rfl

theorem judge_singleton (r : ρ) : judge [r] = Judged.verdict r := by
  rw [judge_cons, judge_nil]
  split_ifs with h
  · exact h.symm
  · rfl

theorem judge_append (rs ss : List ρ) :
    judge (rs ++ ss) = if judge rs = accept then judge ss else judge rs := by
  induction rs with
  | nil => rfl
  | cons r rs ih =>
    rw [List.cons_append, judge_cons, judge_cons, ih]
    split_ifs <;> rfl

theorem judge_eq_accept {rs : List ρ} : judge rs = accept ↔ ∀ r ∈ rs, Judged.verdict r = accept := by
  induction rs with
  | nil => simp
  | cons r rs ih =>
    rw [judge_cons, List.forall_mem_cons]
    split_ifs with h
    · rw [ih, and_iff_right h]
    · exact iff_of_false h fun hall => h hall.1

/-- A value makes the validator fall over if all before it are accepted. -/
theorem judge_eq_escape {rs : List ρ} :
    judge rs = escape ↔ ∃ before r after, rs = before ++ r :: after ∧
      (∀ s ∈ before, Judged.verdict s = accept) ∧ Judged.verdict r = escape := by
  induction rs with
  | nil => simp
  | cons r rs ih =>
    rw [judge_cons]
    split_ifs with h
    · rw [ih]
      constructor
      · rintro ⟨before, s, after, rfl, hall, hs⟩
        exact ⟨r :: before, s, after, rfl, List.forall_mem_cons.mpr ⟨h, hall⟩, hs⟩
      · rintro ⟨before, s, after, heq, hall, hs⟩
        cases before with
        | nil =>
          rw [← (List.cons.inj heq).1, h] at hs
          exact absurd hs (by decide)
        | cons b before =>
          exact ⟨before, s, after, (List.cons.inj heq).2, (List.forall_mem_cons.mp hall).2, hs⟩
    · constructor
      · intro hr
        exact ⟨[], r, rs, rfl, fun _ hs => absurd hs List.not_mem_nil, hr⟩
      · rintro ⟨before, s, after, heq, hall, hs⟩
        cases before with
        | nil => rw [(List.cons.inj heq).1, hs]
        | cons b before =>
          rw [← (List.cons.inj heq).1] at hall
          exact absurd (List.forall_mem_cons.mp hall).1 h

end Judge

/-! ## Runs -/

section Runs

variable {ρ ε α β : Type} [Judged ρ] [OwnError ε]

/-- What a run comes to. -/
def outcome : Except ε α → Verdict
  | .ok _ => accept
  | .error e => if OwnError.own e then refuse else escape

/-- The run comes to what these values come to, and returns something with the property. -/
structure Follows (x : Except ε α) (rs : List ρ) (post : α → Prop) : Prop where
  outcome_eq : outcome x = judge rs
  returns : ∀ a, x = .ok a → post a

/-- What is known of the value can be forgotten. -/
theorem Follows.mono {x : Except ε α} {rs : List ρ} {P Q : α → Prop} (h : Follows x rs P)
    (hPQ : ∀ a, P a → Q a) : Follows x rs Q := ⟨h.outcome_eq, fun a ha => hPQ a (h.returns a ha)⟩

theorem Follows.ok {a : α} {P : α → Prop} (h : P a) :
    Follows (.ok a : Except ε α) ([] : List ρ) P := ⟨rfl, fun b hb => by cases hb; exact h⟩

/-- A single value. -/
theorem Follows.one {x : Except ε α} {r : ρ} {P : α → Prop} (hr : outcome x = Judged.verdict r)
    (hP : ∀ a, x = .ok a → P a) : Follows x [r] P := ⟨by rw [judge_singleton, hr], hP⟩

/-- One part after the other makes the looks of both. -/
theorem Follows.bind {x : Except ε α} {f : α → Except ε β} {rs ss : List ρ} {P : α → Prop}
    {Q : β → Prop} (hx : Follows x rs P) (hf : ∀ a, P a → Follows (f a) ss Q) :
    Follows (x >>= f) (rs ++ ss) Q := by
  cases x with
  | error e =>
    refine ⟨?_, fun b hb => nomatch hb⟩
    have hne : outcome (.error e : Except ε α) ≠ accept := by
      change (if OwnError.own e then refuse else escape) ≠ accept
      split_ifs <;> decide
    rw [judge_append, ← hx.outcome_eq, if_neg hne]
    rfl
  | ok a =>
    have hrest := hf a (hx.returns a rfl)
    refine ⟨?_, hrest.returns⟩
    rw [judge_append, ← hx.outcome_eq]
    exact hrest.outcome_eq

/-- What comes after a single value. -/
theorem Follows.next {x : Except ε α} {f : α → Except ε β} {r : ρ} {rs : List ρ} {P : α → Prop}
    {Q : β → Prop} (hx : Follows x [r] P) (hf : ∀ a, P a → Follows (f a) rs Q) :
    Follows (x >>= f) (r :: rs) Q := hx.bind hf

/-- What comes after the last value. -/
theorem Follows.last {x : Except ε α} {f : α → Except ε β} {rs : List ρ} {P : α → Prop}
    {Q : β → Prop} (hx : Follows x rs P) (hf : ∀ a, P a → Follows (f a) ([] : List ρ) Q) :
    Follows (x >>= f) rs Q := by
  have := hx.bind hf
  rwa [List.append_nil] at this

/-- A run that ends with a function of what another returns. -/
theorem Follows.map {x : Except ε α} {f : α → β} {rs : List ρ} {P : α → Prop} {Q : β → Prop}
    (hx : Follows x rs P) (hf : ∀ a, P a → Q (f a)) : Follows (x >>= fun a => .ok (f a)) rs Q :=
  hx.last fun a ha => .ok (hf a ha)

/-- What is made of the value is no look. -/
theorem Follows.except_map {x : Except ε α} {f : α → β} {rs : List ρ} {P : α → Prop}
    {Q : β → Prop} (hx : Follows x rs P) (hf : ∀ a, P a → Q (f a)) : Follows (x.map f) rs Q := by
  have heq : x.map f = x >>= fun a => .ok (f a) := by cases x <;> rfl
  rw [heq]
  exact hx.map hf

theorem Follows.mapM {γ : Type} {f : γ → Except ε α} {rs : γ → List ρ} {R : γ → α → Prop}
    {xs : List γ} (h : ∀ x ∈ xs, Follows (f x) (rs x) (R x)) :
    Follows (xs.mapM f) (xs.flatMap rs) (List.Forall₂ R xs) := by
  induction xs with
  | nil => exact .ok .nil
  | cons x xs ih =>
    rw [List.mapM_cons, List.flatMap_cons]
    refine (h x List.mem_cons_self).bind fun a ha => ?_
    exact (ih fun y hy => h y (List.mem_cons_of_mem x hy)).map fun as has => .cons ha has

/-- A validator called item by item with the items' numbers. -/
theorem Follows.enumerate {γ : Type} {f : γ × Nat → Except ε α} {rs : γ → List ρ}
    {R : γ → α → Prop} {xs : List γ} (h : ∀ x i, Follows (f (x, i)) (rs x) (R x)) :
    Follows (xs.zipIdx.mapM f) (xs.flatMap rs) (List.Forall₂ R xs) := by
  have hfst : xs.zipIdx.map Prod.fst = xs := List.zipIdx_map_fst 0 xs
  have hreadings : xs.flatMap rs = xs.zipIdx.flatMap fun x => rs x.1 := by
    conv_lhs => rw [← hfst, List.flatMap_map]
  rw [hreadings]
  refine (Follows.mapM fun x _ => h x.1 x.2).mono fun as has => ?_
  rw [← hfst]
  exact List.forall₂_map_left_iff.mpr has

/-- The same, where what is returned has a property of its own. -/
theorem Follows.enumerate_all {γ : Type} {f : γ × Nat → Except ε α} {rs : γ → List ρ}
    {P : α → Prop} {xs : List γ} (h : ∀ x i, Follows (f (x, i)) (rs x) P) :
    Follows (xs.zipIdx.mapM f) (xs.flatMap rs) fun as => as.length = xs.length ∧ ∀ a ∈ as, P a := by
  refine (Follows.enumerate (R := fun _ => P) h).mono fun as has => ⟨has.length_eq.symm, ?_⟩
  clear h
  induction has with
  | nil => exact fun _ ha => absurd ha List.not_mem_nil
  | cons hP _ ih => exact List.forall_mem_cons.mpr ⟨hP, ih⟩

end Runs

end Py
