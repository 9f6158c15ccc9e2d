/-!
# Directories

A directory maps keys to entries and remembers the order in which the keys first came.

* `insert` replaces the entry of a known key in place and puts a new key at the end.
* `get?_insert` and `keys_insert` say what an insertion does to the two views.
-/

namespace Transit

/-- Entries by key, the keys in order of arrival and without repeats. -/
structure Directory (κ α : Type) where
  entries : List (κ × α) := []
  nodup : (entries.map Prod.fst).Nodup := by simp
  deriving DecidableEq

namespace Directory

variable {κ α : Type}

instance : EmptyCollection (Directory κ α) := ⟨{}⟩

/-- The keys, in order of arrival. -/
def keys (d : Directory κ α) : List κ := d.entries.map Prod.fst

/-- The entries, in the order of their keys. -/
def values (d : Directory κ α) : List α := d.entries.map Prod.snd

variable [DecidableEq κ]

/-- The entry that a list of pairs holds first under `k`. -/
def find? (k : κ) : List (κ × α) → Option α
  | [] => none
  | (k', a) :: rest => if k' = k then some a else find? k rest

/-- The list with the entry under `k` replaced, or with the pair at its end. -/
def put (k : κ) (a : α) : List (κ × α) → List (κ × α)
  | [] => [(k, a)]
  | (k', a') :: rest => if k' = k then (k', a) :: rest else (k', a') :: put k a rest

theorem map_fst_put (k : κ) (a : α) (es : List (κ × α)) :
    (put k a es).map Prod.fst =
      if k ∈ es.map Prod.fst then es.map Prod.fst else es.map Prod.fst ++ [k] := by
  induction es with
  | nil => simp [put]
  | cons e es ih =>
    obtain ⟨k', a'⟩ := e
    by_cases h : k' = k
    · simp [put, h]
    · by_cases hk : k ∈ es.map Prod.fst
      · simp only [put, h, if_false, List.map_cons, ih, hk, if_true, List.mem_cons, or_true]
      · have hne : ¬ k = k' := fun e => h e.symm
        simp only [put, h, if_false, List.map_cons, ih, hk, List.mem_cons, hne, or_self,
          List.cons_append]

theorem find?_put (k k' : κ) (a : α) (es : List (κ × α)) :
    find? k' (put k a es) = if k' = k then some a else find? k' es := by
  induction es with
  | nil =>
    by_cases h : k' = k
    · simp [put, find?, h]
    · have hne : ¬ k = k' := fun e => h e.symm
      simp [put, find?, h, hne]
  | cons e es ih =>
    obtain ⟨k₁, a₁⟩ := e
    by_cases h : k₁ = k
    · by_cases hk : k' = k
      · simp [put, find?, h, hk]
      · have hne : ¬ k = k' := fun e => hk e.symm
        simp [put, find?, h, hk, hne]
    · by_cases hk : k₁ = k'
      · have hne : ¬ k' = k := fun e => h (hk.trans e)
        simp [put, find?, hk, hne]
      · simp [put, find?, h, hk, ih]

/-- The entry under `k`. -/
def get? (d : Directory κ α) (k : κ) : Option α := find? k d.entries

/-- Whether there is an entry under `k`. -/
def contains (d : Directory κ α) (k : κ) : Bool := (d.get? k).isSome

/-- Put `a` under `k`. -/
def insert (d : Directory κ α) (k : κ) (a : α) : Directory κ α :=
  ⟨put k a d.entries, by
    rw [map_fst_put]
    split
    · exact d.nodup
    · rename_i h
      rw [List.nodup_append]
      exact ⟨d.nodup, by simp, by
        intro x hx y hy hxy
        rw [List.mem_singleton] at hy
        exact h (hy ▸ hxy ▸ hx)⟩⟩

@[simp] theorem get?_empty (k : κ) : (∅ : Directory κ α).get? k = none := rfl

theorem get?_insert (d : Directory κ α) (k k' : κ) (a : α) :
    (d.insert k a).get? k' = if k' = k then some a else d.get? k' :=
  find?_put k k' a d.entries

theorem keys_insert (d : Directory κ α) (k : κ) (a : α) :
    (d.insert k a).keys = if k ∈ d.keys then d.keys else d.keys ++ [k] :=
  map_fst_put k a d.entries

end Directory

end Transit
