/-
  Steps that may change places.

  Threads that take turns run one of the interleavings of what each of them does.  Where neighbouring
  steps are independent, which of them comes first changes neither the state that is reached
  (`foldl_swaps`) nor what an observer is told (`logFrom_swaps`); so all the interleavings of two
  threads whose steps are independent are one run (`Shuffle.swaps`).
-/
import Mathlib.Logic.Relation
import Mathlib.Data.List.Basic

namespace Interleave

variable {σ α β : Type}

/-! ## Swaps -/

/-- Two independent neighbours change places. -/
inductive Swap (Indep : α → α → Prop) : List α → List α → Prop
  | swap (before : List α) {a b : α} (h : Indep a b) (after : List α) :
      Swap Indep (before ++ a :: b :: after) (before ++ b :: a :: after)

/-- Any number of times. -/
def Swaps (Indep : α → α → Prop) : List α → List α → Prop := Relation.ReflTransGen (Swap Indep)

variable {Indep : α → α → Prop}

theorem Swaps.refl (l : List α) : Swaps Indep l l := Relation.ReflTransGen.refl

theorem Swaps.trans {l l' l'' : List α} (h : Swaps Indep l l') (h' : Swaps Indep l' l'') :
    Swaps Indep l l'' :=
  Relation.ReflTransGen.trans h h'

theorem Swaps.cons {l l' : List α} (a : α) (h : Swaps Indep l l') :
    Swaps Indep (a :: l) (a :: l') := by
  induction h with
  | refl => exact Swaps.refl _
  | tail _ hswap ih =>
    obtain ⟨before, hab, after⟩ := hswap
    exact ih.tail (Swap.swap (a :: before) hab after)

/-- A step goes to the front of steps that it is independent of. -/
theorem Swaps.front {b : α} (as bs : List α) (h : ∀ a ∈ as, Indep a b) :
    Swaps Indep (as ++ b :: bs) (b :: (as ++ bs)) := by
  induction as with
  | nil => exact Swaps.refl _
  | cons a as ih =>
    have hrest := ih fun a' ha' => h a' (List.mem_cons_of_mem a ha')
    exact (hrest.cons a).trans
      (Relation.ReflTransGen.single (Swap.swap [] (h a List.mem_cons_self) (as ++ bs)))

/-- Independent steps commute, so a run ends where it ends. -/
theorem foldl_swaps {step : σ → α → σ}
    (hstep : ∀ s a b, Indep a b → step (step s a) b = step (step s b) a) {l l' : List α}
    (h : Swaps Indep l l') (s : σ) : l.foldl step s = l'.foldl step s := by
  induction h with
  | refl => rfl
  | tail _ hswap ih =>
    obtain ⟨before, hab, after⟩ := hswap
    rw [ih, List.foldl_append, List.foldl_append, List.foldl_cons, List.foldl_cons, List.foldl_cons,
      List.foldl_cons, hstep _ _ _ hab]

/-! ## What is observed -/

/-- What an observer is told in a run. -/
def logFrom (step : σ → α → σ) (obs : σ → α → List β) : σ → List α → List β
  | _, [] => []
  | s, a :: as => obs s a ++ logFrom step obs (step s a) as

theorem logFrom_append (step : σ → α → σ) (obs : σ → α → List β) (s : σ) (l l' : List α) :
    logFrom step obs s (l ++ l')
      = logFrom step obs s l ++ logFrom step obs (l.foldl step s) l' := by
  induction l generalizing s with
  | nil => rfl
  | cons a l ih =>
    show obs s a ++ logFrom step obs (step s a) (l ++ l') = _
    rw [ih, ← List.append_assoc]
    rfl

/-- An observer who cannot tell which of two independent steps came first is told the same. -/
theorem logFrom_swaps {step : σ → α → σ} {obs : σ → α → List β}
    (hstep : ∀ s a b, Indep a b → step (step s a) b = step (step s b) a)
    (hobs : ∀ s a b, Indep a b → obs s a ++ obs (step s a) b = obs s b ++ obs (step s b) a)
    {l l' : List α} (h : Swaps Indep l l') (s : σ) :
    logFrom step obs s l = logFrom step obs s l' := by
  induction h with
  | refl => rfl
  | tail _ hswap ih =>
    obtain ⟨before, hab, after⟩ := hswap
    rw [ih, logFrom_append, logFrom_append]
    congr 1
    simp only [logFrom]
    rw [← List.append_assoc, ← List.append_assoc, hobs _ _ _ hab, hstep _ _ _ hab]

/-! ## Two threads -/

/-- An interleaving of two lists. -/
inductive Shuffle : List α → List α → List α → Prop
  | nil : Shuffle [] [] []
  | left (a : α) {as bs cs : List α} (h : Shuffle as bs cs) : Shuffle (a :: as) bs (a :: cs)
  | right (b : α) {as bs cs : List α} (h : Shuffle as bs cs) : Shuffle as (b :: bs) (b :: cs)

/-- If the steps of one thread are independent of those of the other, an interleaving is as good as
    one after the other. -/
theorem Shuffle.swaps {as bs cs : List α} (h : Shuffle as bs cs)
    (hindep : ∀ a ∈ as, ∀ b ∈ bs, Indep a b) : Swaps Indep (as ++ bs) cs := by
  induction h with
  | nil => exact Swaps.refl _
  | left a _ ih => exact (ih fun a' ha' => hindep a' (List.mem_cons_of_mem a ha')).cons a
  | @right b as bs cs _ ih =>
    have hrest := ih fun a ha b' hb' => hindep a ha b' (List.mem_cons_of_mem b hb')
    exact (Swaps.front as bs fun a ha => hindep a ha b List.mem_cons_self).trans (hrest.cons b)

end Interleave
