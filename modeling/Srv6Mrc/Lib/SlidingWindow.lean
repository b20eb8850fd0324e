/-
  Bounded deques and bucketed sliding windows.

  A sliding window over a stream of quantities is usually kept as an in-progress bucket plus a
  bounded deque of closed ones: an amount goes into the in-progress bucket, and closing an interval
  pushes that bucket, the oldest falling off.  What such a window is FOR is a statement about the
  stream alone: it holds what was added in the last `n` intervals.  `recent` says that over the
  log of the stream, and `Tracks` is the invariant that ties the buckets to it.

  The log is kept newest first: `some m` is an amount, `none` the closing of an interval.  A window
  that misses some closings (they are in the log, but the buckets were not rotated) holds at least
  what it should, which is `Covers`, and still the amounts of one unbroken stretch, which is
  `Since`; one that misses none holds exactly what it should.

  Amounts live in any commutative monoid, ordered for `Covers`.
-/
import Mathlib.Data.List.DropRight
import Mathlib.Algebra.BigOperators.Group.List.Basic
import Mathlib.Algebra.Group.Hom.Defs
import Mathlib.Algebra.Group.Submonoid.Defs
import Mathlib.Algebra.Order.Monoid.Canonical.Defs
import Mathlib.Tactic.Linarith

/-- `deque(maxlen=n).append`: past `n` items the oldest falls off. -/
def appendMax {α : Type} (n : Nat) (xs : List α) (x : α) : List α := (xs ++ [x]).rtake n

section Deque

variable {α : Type}

theorem length_rtake (n : Nat) (xs : List α) : (xs.rtake n).length = min n xs.length := by
  rw [List.rtake, List.length_drop]; omega

/-- A deque has no more than its length. -/
theorem length_appendMax_le (n : Nat) (xs : List α) (x : α) : (appendMax n xs x).length ≤ n := by
  rw [appendMax, length_rtake]; exact Nat.min_le_left _ _

/-- What is in it was there, or is new. -/
theorem mem_appendMax {n : Nat} {xs : List α} {x y : α} (h : y ∈ appendMax n xs x) :
    y ∈ xs ∨ y = x := by
  have hmem : y ∈ xs ++ [x] := List.mem_of_mem_drop h
  rcases List.mem_append.mp hmem with h | h
  · exact Or.inl h
  · exact Or.inr (List.mem_singleton.mp h)

/-- The newest `k + 1` items after a push: the pushed one and the newest `k` from before. -/
theorem rtake_appendMax {n k : Nat} (hk : k < n) (xs : List α) (x : α) :
    (appendMax n xs x).rtake (k + 1) = xs.rtake k ++ [x] := by
  have hdrop : ∀ l : List α, (l.rtake n).rtake (k + 1) = l.rtake (k + 1) := by
    intro l
    rw [List.rtake, List.rtake, List.drop_drop, List.rtake, List.length_drop]
    congr 1; omega
  rw [appendMax, hdrop, List.rtake_concat_succ]

theorem rtake_of_length_le {n : Nat} {xs : List α} (h : xs.length ≤ n) : xs.rtake n = xs := by
  rw [List.rtake, Nat.sub_eq_zero_of_le h, List.drop_zero]

/-- One item more, where the newest of some are held. -/
theorem appendMax_rtake (n : Nat) (xs : List α) (x : α) :
    appendMax n (xs.rtake n) x = (xs ++ [x]).rtake n := by
  have hle : xs.length - n ≤ xs.length := Nat.sub_le ..
  rw [appendMax, List.rtake, List.rtake, List.rtake, ← List.drop_append_of_le_length hle,
    List.drop_drop]
  congr 1
  rw [List.length_drop, List.length_append, List.length_singleton]
  omega

/-- What is held after many pushes: the newest items of all. -/
theorem foldl_appendMax {n : Nat} {xs : List α} (h : xs.length ≤ n) (ys : List α) :
    ys.foldl (appendMax n) xs = (xs ++ ys).rtake n := by
  induction ys using List.reverseRecOn with
  | nil => rw [List.append_nil, rtake_of_length_le h]; rfl
  | append_singleton ys y ih =>
    rw [List.foldl_append, List.foldl_cons, List.foldl_nil, ih, appendMax_rtake,
      List.append_assoc]

end Deque

namespace SlidingWindow

variable {M : Type}

/-- What was added in the last `n` intervals of a log, the in-progress interval counted as the
    first of them. -/
def recent [AddCommMonoid M] : Nat → List (Option M) → M
  | 0, _ => 0
  | _ + 1, [] => 0
  | n + 1, some m :: log => m + recent (n + 1) log
  | n + 1, none :: log => recent n log

/-- What the newest `k` closed buckets and the in-progress one hold. -/
def held [AddCommMonoid M] (k : Nat) (current : M) (buckets : List M) : M :=
  current + (buckets.rtake k).sum

/-- Everything added over a stretch of the log. -/
def total [AddCommMonoid M] (log : List (Option M)) : M := (log.filterMap id).sum

/-- How many intervals a stretch of the log closes. -/
def closings (log : List (Option M)) : Nat := log.countP Option.isNone

section Exact

variable [AddCommMonoid M]

@[simp] theorem recent_zero (log : List (Option M)) : recent 0 log = 0 := by
  cases log <;> rfl

@[simp] theorem recent_nil (n : Nat) : recent n ([] : List (Option M)) = 0 := by
  cases n <;> rfl

/-- Without buckets the current one is held. -/
theorem held_zero (current : M) (buckets : List M) : held 0 current buckets = current := by
  rw [held, List.rtake_zero, List.sum_nil, add_zero]

/-- Closing makes the current bucket the last. -/
theorem held_close {n k : Nat} (hk : k < n) (current : M) (buckets : List M) :
    held (k + 1) 0 (appendMax n buckets current) = held k current buckets := by
  rw [held, rtake_appendMax hk, List.sum_append, List.sum_singleton, zero_add, held, add_comm]

/-- Up to the deque's bound `n`, the buckets hold exactly the recent part of the log. -/
def Tracks (n : Nat) (current : M) (buckets : List M) (log : List (Option M)) : Prop :=
  ∀ k, k ≤ n → held k current buckets = recent (k + 1) log

theorem tracks_empty (n : Nat) : Tracks n (0 : M) [] [] := by
  intro k _
  rw [held, List.rtake_nil, List.sum_nil, add_zero, recent_nil]

/-- What is added is added to the current bucket. -/
theorem Tracks.add {n : Nat} {current : M} {buckets : List M} {log : List (Option M)}
    (h : Tracks n current buckets log) (m : M) :
    Tracks n (m + current) buckets (some m :: log) := by
  intro k hk
  have hk' : current + (buckets.rtake k).sum = recent (k + 1) log := h k hk
  rw [held, recent, ← hk', add_assoc]

/-- Closing an interval starts a new bucket. -/
theorem Tracks.close {n : Nat} {current : M} {buckets : List M} {log : List (Option M)}
    (h : Tracks n current buckets log) :
    Tracks n 0 (appendMax n buckets current) (none :: log) := by
  intro k hk
  cases k with
  | zero => rw [held_zero, recent, recent_zero]
  | succ k =>
    rw [held_close (by omega), recent]
    exact h k (by omega)

/-- Right after a closing, the deque's whole content is the last `n` intervals. -/
theorem Tracks.sum_close {n : Nat} {current : M} {buckets : List M} {log : List (Option M)}
    (h : Tracks n current buckets log) :
    (appendMax n buckets current).sum = recent n log := by
  have hall : held n 0 (appendMax n buckets current) = recent (n + 1) (none :: log) :=
    h.close n (Nat.le_refl n)
  rwa [held, rtake_of_length_le (length_appendMax_le n buckets current), zero_add, recent] at hall

/-- Where a stretch begins at an interval boundary, the intervals it closes and the one in progress
    are all the window needs: what came before the boundary does not matter. -/
theorem recent_append {n : Nat} {newest older : List (Option M)} (hn : n ≤ closings newest + 1)
    (hold : older = [] ∨ ∃ rest, older = none :: rest) :
    recent n (newest ++ older) = recent n newest := by
  induction newest generalizing n with
  | nil =>
    have h1 : n ≤ 1 := hn
    rw [List.nil_append, recent_nil]
    rcases hold with rfl | ⟨rest, rfl⟩
    · exact recent_nil n
    · cases n with
      | zero => exact recent_zero _
      | succ n =>
        obtain rfl : n = 0 := by omega
        rw [recent, recent_zero]
  | cons a newest ih =>
    cases n with
    | zero => rw [recent_zero, recent_zero]
    | succ n =>
      cases a with
      | none =>
        rw [List.cons_append, recent, recent]
        refine ih ?_
        simpa [closings] using hn
      | some m =>
        rw [List.cons_append, recent, recent]
        refine congrArg (m + ·) (ih ?_)
        simpa [closings] using hn

/-- A stretch that closes all the intervals the window needs is all the window needs. -/
theorem recent_append_of_le {n : Nat} {newest older : List (Option M)} (hn : n ≤ closings newest) :
    recent n (newest ++ older) = recent n newest := by
  induction newest generalizing n with
  | nil =>
    obtain rfl : n = 0 := Nat.le_zero.mp hn
    rw [recent_zero, recent_zero]
  | cons a newest ih =>
    cases n with
    | zero => rw [recent_zero, recent_zero]
    | succ n =>
      cases a with
      | none =>
        rw [List.cons_append, recent, recent]
        refine ih ?_
        simpa [closings] using hn
      | some m =>
        rw [List.cons_append, recent, recent]
        refine congrArg (m + ·) (ih ?_)
        simpa [closings] using hn

/-- The window is the interval in progress and closed intervals: where all of these lie in a
    submonoid, so does their sum. -/
theorem recent_succ_mem (S : AddSubmonoid M) {log : List (Option M)}
    (h : ∀ rest, none :: rest <:+ log → recent 1 rest ∈ S) (n : Nat) :
    ∃ x ∈ S, recent (n + 1) log = recent 1 log + x := by
  induction log generalizing n with
  | nil => exact ⟨0, S.zero_mem, by rw [recent_nil, recent_nil, add_zero]⟩
  | cons a log ih =>
    have hlog : ∀ rest, none :: rest <:+ log → recent 1 rest ∈ S :=
      fun rest hrest => h rest (hrest.trans (List.suffix_cons a log))
    cases a with
    | some m =>
      obtain ⟨x, hx, hsum⟩ := ih hlog n
      exact ⟨x, hx, by rw [recent, recent, hsum, add_assoc]⟩
    | none =>
      -- the interval below the closing is closed now, so `h` speaks about it
      rw [recent, recent, recent_zero]
      cases n with
      | zero => exact ⟨0, S.zero_mem, by rw [recent_zero, add_zero]⟩
      | succ n =>
        obtain ⟨x, hx, hsum⟩ := ih hlog n
        exact ⟨recent 1 log + x, S.add_mem (h log (List.suffix_refl _)) hx, by
          rw [hsum, zero_add]⟩

/-- Whatever a homomorphism does not see in the log, it does not see in the window. -/
theorem map_recent_eq_zero {N : Type} [AddCommMonoid N] (f : M →+ N) {log : List (Option M)}
    (h : ∀ m, some m ∈ log → f m = 0) (n : Nat) : f (recent n log) = 0 := by
  induction log generalizing n with
  | nil => rw [recent_nil, map_zero]
  | cons a log ih =>
    have hlog : ∀ m, some m ∈ log → f m = 0 := fun m hm => h m (List.mem_cons_of_mem a hm)
    cases n with
    | zero => rw [recent_zero, map_zero]
    | succ n =>
      cases a with
      | none => exact ih hlog n
      | some m => rw [recent, map_add, h m (List.mem_cons_self ..), ih hlog, add_zero]

/-- Up to the deque's bound `n`, the buckets hold what was added since some moment of the past.
    This survives a missed closing, too: the moment stays where it was. -/
def Since (n : Nat) (current : M) (buckets : List M) (log : List (Option M)) : Prop :=
  ∀ k, k ≤ n → ∃ newest older, log = newest ++ older ∧ held k current buckets = total newest

theorem since_empty (n : Nat) : Since n (0 : M) [] [] := by
  intro k _
  refine ⟨[], [], rfl, ?_⟩
  rw [held, List.rtake_nil, List.sum_nil, add_zero]; rfl

/-- What is added is added to the current bucket. -/
theorem Since.add {n : Nat} {current : M} {buckets : List M} {log : List (Option M)}
    (h : Since n current buckets log) (m : M) :
    Since n (m + current) buckets (some m :: log) := by
  intro k hk
  obtain ⟨newest, older, rfl, hsum⟩ := h k hk
  refine ⟨some m :: newest, older, rfl, ?_⟩
  have hsum' : current + (buckets.rtake k).sum = total newest := hsum
  rw [held, add_assoc, hsum']
  show m + total newest = (m :: newest.filterMap id).sum
  rw [List.sum_cons]; rfl

/-- An interval that is not closed stays in the current bucket. -/
theorem Since.miss {n : Nat} {current : M} {buckets : List M} {log : List (Option M)}
    (h : Since n current buckets log) : Since n current buckets (none :: log) := by
  intro k hk
  obtain ⟨newest, older, rfl, hsum⟩ := h k hk
  exact ⟨none :: newest, older, rfl, hsum⟩

/-- Closing starts a new bucket, whatever was missed before. -/
theorem Since.close {n : Nat} {current : M} {buckets : List M} {log : List (Option M)}
    (h : Since n current buckets log) :
    Since n 0 (appendMax n buckets current) (none :: log) := by
  intro k hk
  cases k with
  | zero =>
    refine ⟨[], none :: log, rfl, ?_⟩
    rw [held_zero]; rfl
  | succ k =>
    obtain ⟨newest, older, rfl, hsum⟩ := h k (by omega)
    refine ⟨none :: newest, older, rfl, ?_⟩
    rw [held_close (by omega), hsum]; rfl

/-- Right after a closing, the deque's whole content is what was added since some moment. -/
theorem Since.sum_close {n : Nat} {current : M} {buckets : List M} {log : List (Option M)}
    (h : Since n current buckets log) :
    ∃ newest older, log = newest ++ older ∧ (appendMax n buckets current).sum = total newest := by
  cases n with
  | zero =>
    refine ⟨[], log, rfl, ?_⟩
    rw [appendMax, List.rtake_zero]; rfl
  | succ n =>
    obtain ⟨newest, older, hlog, hsum⟩ := h n (Nat.le_succ n)
    refine ⟨newest, older, hlog, ?_⟩
    have hall := held_close (Nat.lt_succ_self n) current buckets
    rw [held, rtake_of_length_le (length_appendMax_le ..), zero_add] at hall
    rw [hall, hsum]

end Exact

section Ordered

variable [AddCommMonoid M] [PartialOrder M] [CanonicallyOrderedAdd M] [IsOrderedAddMonoid M]

/-- A longer stretch of the log holds more. -/
theorem recent_le_succ (n : Nat) (log : List (Option M)) : recent n log ≤ recent (n + 1) log := by
  induction log generalizing n with
  | nil => rw [recent_nil, recent_nil]
  | cons a log ih =>
    cases n with
    | zero => rw [recent_zero]; exact zero_le
    | succ n =>
      cases a with
      | none => exact ih n
      | some m => exact add_le_add_right (ih (n + 1)) m

/-- Up to the deque's bound `n`, the buckets hold at least the recent part of the log. -/
def Covers (n : Nat) (current : M) (buckets : List M) (log : List (Option M)) : Prop :=
  ∀ k, k ≤ n → recent (k + 1) log ≤ held k current buckets

omit [IsOrderedAddMonoid M] in
theorem covers_empty (n : Nat) : Covers n (0 : M) [] [] := by
  intro k _
  rw [recent_nil]; exact zero_le

omit [CanonicallyOrderedAdd M] in
/-- What is added is added to the current bucket. -/
theorem Covers.add {n : Nat} {current : M} {buckets : List M} {log : List (Option M)}
    (h : Covers n current buckets log) (m : M) :
    Covers n (m + current) buckets (some m :: log) := by
  intro k hk
  rw [held, recent, add_assoc]
  exact add_le_add_right (h k hk) m

omit [IsOrderedAddMonoid M] in
theorem Covers.close {n : Nat} {current : M} {buckets : List M} {log : List (Option M)}
    (h : Covers n current buckets log) :
    Covers n 0 (appendMax n buckets current) (none :: log) := by
  intro k hk
  cases k with
  | zero => rw [recent, recent_zero]; exact zero_le
  | succ k =>
    rw [held_close (by omega), recent]
    exact h k (by omega)

/-- An interval closed in the log but not in the buckets only makes the window longer. -/
theorem Covers.miss {n : Nat} {current : M} {buckets : List M} {log : List (Option M)}
    (h : Covers n current buckets log) : Covers n current buckets (none :: log) := by
  intro k hk
  rw [recent]
  exact le_trans (recent_le_succ k log) (h k hk)

omit [IsOrderedAddMonoid M] in
/-- After closing, the buckets hold what is recent, and maybe more. -/
theorem Covers.recent_le_close {n : Nat} {current : M} {buckets : List M} {log : List (Option M)}
    (h : Covers n current buckets log) :
    recent n log ≤ (appendMax n buckets current).sum := by
  have hall : recent (n + 1) (none :: log) ≤ held n 0 (appendMax n buckets current) :=
    h.close n (Nat.le_refl n)
  rwa [held, rtake_of_length_le (length_appendMax_le n buckets current), zero_add, recent] at hall

end Ordered

end SlidingWindow
