/-
  Python's `dict`.

  A `Dict` holds its entries in the order in which their keys came, each key once.  Setting a key
  that is there changes its value in place; a new key goes to the end.  What a key is set to is read
  back (`get_set_self`), and no other key sees it (`get_set_ne`).
-/
import Mathlib.Data.List.Nodup

namespace Py

/-- The entries, oldest key first. -/
structure Dict (α β : Type) where
  entries : List (α × β)
  nodup : (entries.map Prod.fst).Nodup

namespace Dict

variable {α β : Type} [DecidableEq α]

/-- `{}` -/
def empty : Dict α β := ⟨[], List.nodup_nil⟩

instance : EmptyCollection (Dict α β) := ⟨empty⟩

/-- The keys, oldest first. -/
def keys (d : Dict α β) : List α := d.entries.map Prod.fst

/-- The value of the first entry with this key. -/
def find (key : α) : List (α × β) → Option β
  | [] => none
  | (k, v) :: es => if k = key then some v else find key es

/-- The entries with one value changed or one entry more. -/
def put (key : α) (value : β) : List (α × β) → List (α × β)
  | [] => [(key, value)]
  | (k, v) :: es => if k = key then (k, value) :: es else (k, v) :: put key value es

/-- `d.get(key)` -/
def get (d : Dict α β) (key : α) : Option β := find key d.entries

/-! ## Entries -/

/-- Putting an entry adds its key. -/
theorem mem_keys_put {key k : α} {value : β} {es : List (α × β)} :
    k ∈ (put key value es).map Prod.fst ↔ k = key ∨ k ∈ es.map Prod.fst := by
  induction es with
  | nil => simp [put]
  | cons e es ih =>
    obtain ⟨k', v'⟩ := e
    rw [put]
    split
    · rename_i h
      simp only [List.map_cons, List.mem_cons, h]
      tauto
    · simp only [List.map_cons, List.mem_cons, ih]
      tauto

/-- No key is there twice. -/
theorem nodup_put {key : α} {value : β} {es : List (α × β)} (h : (es.map Prod.fst).Nodup) :
    ((put key value es).map Prod.fst).Nodup := by
  induction es with
  | nil => exact List.nodup_singleton key
  | cons e es ih =>
    obtain ⟨k', v'⟩ := e
    rw [List.map_cons, List.nodup_cons] at h
    rw [put]
    split
    · rw [List.map_cons, List.nodup_cons]
      exact h
    · rename_i hne
      rw [List.map_cons, List.nodup_cons, mem_keys_put, not_or]
      exact ⟨⟨hne, h.1⟩, ih h.2⟩

/-- The value that was put is found. -/
theorem find_put_self (key : α) (value : β) (es : List (α × β)) :
    find key (put key value es) = some value := by
  induction es with
  | nil => rw [put, find, if_pos rfl]
  | cons e es ih =>
    obtain ⟨k', v'⟩ := e
    rw [put]
    split
    · rename_i h
      rw [find, if_pos h]
    · rename_i h
      rw [find, if_neg h, ih]

/-- Other keys have the values that they had. -/
theorem find_put_ne {key k : α} (value : β) (h : k ≠ key) (es : List (α × β)) :
    find k (put key value es) = find k es := by
  induction es with
  | nil =>
    show (if key = k then some value else none) = none
    rw [if_neg (Ne.symm h)]
  | cons e es ih =>
    obtain ⟨k', v'⟩ := e
    rw [put]
    split
    · rename_i hk
      rw [find, find, if_neg, if_neg]
      · exact fun he => h (he.symm.trans hk)
      · exact fun he => h (he.symm.trans hk)
    · rw [find, find, ih]

/-- A value is found for the keys that are there. -/
theorem find_isSome {key : α} {es : List (α × β)} :
    (find key es).isSome ↔ key ∈ es.map Prod.fst := by
  induction es with
  | nil => simp [find]
  | cons e es ih =>
    obtain ⟨k', v'⟩ := e
    rw [find]
    split
    · rename_i h
      simp [h]
    · rename_i h
      rw [ih, List.map_cons, List.mem_cons]
      exact ⟨Or.inr, fun hm => hm.resolve_left (Ne.symm h)⟩

/-- The entry of a key is the one that is found. -/
theorem find_of_mem {key : α} {value : β} {es : List (α × β)} (h : (es.map Prod.fst).Nodup)
    (hmem : (key, value) ∈ es) : find key es = some value := by
  induction es with
  | nil => cases hmem
  | cons e es ih =>
    obtain ⟨k', v'⟩ := e
    rw [List.map_cons, List.nodup_cons] at h
    rw [find]
    rcases List.mem_cons.mp hmem with heq | hmem
    · cases heq
      rw [if_pos rfl]
    · rw [if_neg, ih h.2 hmem]
      rintro rfl
      exact h.1 (List.mem_map.mpr ⟨_, hmem, rfl⟩)

/-- What is found is an entry. -/
theorem mem_of_find {key : α} {value : β} {es : List (α × β)} (h : find key es = some value) :
    (key, value) ∈ es := by
  induction es with
  | nil => cases h
  | cons e es ih =>
    obtain ⟨k', v'⟩ := e
    rw [find] at h
    split at h
    · rename_i hk
      cases h
      rw [hk]
      exact List.mem_cons_self ..
    · exact List.mem_cons_of_mem _ (ih h)

/-- A new key comes last. -/
theorem put_of_not_mem {key : α} (value : β) {es : List (α × β)} (h : key ∉ es.map Prod.fst) :
    put key value es = es ++ [(key, value)] := by
  induction es with
  | nil => rfl
  | cons e es ih =>
    obtain ⟨k', v'⟩ := e
    rw [List.map_cons, List.mem_cons, not_or] at h
    rw [put, if_neg (Ne.symm h.1), ih h.2, List.cons_append]

/-- A key that is there keeps its place. -/
theorem keys_put_of_mem {key : α} (value : β) {es : List (α × β)} (h : key ∈ es.map Prod.fst) :
    (put key value es).map Prod.fst = es.map Prod.fst := by
  induction es with
  | nil => cases h
  | cons e es ih =>
    obtain ⟨k', v'⟩ := e
    rw [put]
    split
    · rfl
    · rename_i hne
      rw [List.map_cons, List.map_cons, ih ((List.mem_cons.mp h).resolve_left (Ne.symm hne))]

/-! ## Operations -/

/-- `d[key] = value` -/
def set (d : Dict α β) (key : α) (value : β) : Dict α β :=
  ⟨put key value d.entries, nodup_put d.nodup⟩

/-- `d.popitem(last=False)`, of a dict that has an item. -/
def popFirst (d : Dict α β) : Dict α β :=
  ⟨d.entries.tail, by
    rw [List.map_tail]
    exact d.nodup.sublist (List.tail_sublist _)⟩

/-- The empty dict has nothing. -/
@[simp] theorem get_empty (key : α) : (∅ : Dict α β).get key = none := rfl

/-- The value that was set is there. -/
@[simp] theorem get_set_self (d : Dict α β) (key : α) (value : β) :
    (d.set key value).get key = some value := find_put_self key value d.entries

/-- Other keys have the values that they had. -/
theorem get_set_ne (d : Dict α β) {key k : α} (value : β) (h : k ≠ key) :
    (d.set key value).get k = d.get k := find_put_ne value h d.entries

/-- There are values for the keys. -/
theorem get_isSome {d : Dict α β} {key : α} : (d.get key).isSome ↔ key ∈ d.keys := find_isSome

/-- `value in d.values()` -/
theorem mem_values {d : Dict α β} {value : β} :
    value ∈ d.entries.map Prod.snd ↔ ∃ key, d.get key = some value := by
  constructor
  · intro h
    obtain ⟨⟨key, value⟩, hmem, rfl⟩ := List.mem_map.mp h
    exact ⟨key, find_of_mem d.nodup hmem⟩
  · rintro ⟨key, h⟩
    exact List.mem_map.mpr ⟨_, mem_of_find h, rfl⟩

/-- Setting a value adds its key. -/
theorem mem_keys_set {d : Dict α β} {key k : α} {value : β} :
    k ∈ (d.set key value).keys ↔ k = key ∨ k ∈ d.keys := mem_keys_put

/-- A key that is there keeps its place. -/
theorem keys_set_of_mem {d : Dict α β} {key : α} (value : β) (h : key ∈ d.keys) :
    (d.set key value).keys = d.keys := keys_put_of_mem value h

/-- A new key comes last. -/
theorem keys_set_of_not_mem {d : Dict α β} {key : α} (value : β) (h : key ∉ d.keys) :
    (d.set key value).keys = d.keys ++ [key] := by
  show (put key value d.entries).map Prod.fst = _
  rw [put_of_not_mem value h, List.map_append]
  rfl

omit [DecidableEq α] in
/-- The first key is taken away. -/
theorem keys_popFirst (d : Dict α β) : d.popFirst.keys = d.keys.tail := List.map_tail

/-- `len(d)` -/
def length (d : Dict α β) : Nat := d.keys.length

/-- What the oldest entry leaves behind is as it was. -/
theorem get_popFirst {d : Dict α β} {key : α} {value : β} (h : d.popFirst.get key = some value) :
    d.get key = some value := by
  obtain ⟨entries, hnd⟩ := d
  cases entries with
  | nil => cases h
  | cons e es =>
    obtain ⟨k', v'⟩ := e
    have hmem : key ∈ es.map Prod.fst := find_isSome.mp (Option.isSome_of_eq_some h)
    rw [List.map_cons, List.nodup_cons] at hnd
    show find key ((k', v') :: es) = _
    rw [find, if_neg]
    · exact h
    · rintro rfl
      exact hnd.1 hmem

end Dict
end Py
