/-!
# Rosters

A roster lists its members in the order in which they first came, each one once.

* `insert` puts a newcomer at the end and leaves the roster alone when the member is known.
* `ofList` keeps the first occurrence of every element of a list.
-/

namespace Transit

/-- Members in order of arrival, without repeats. -/
structure Roster (α : Type) where
  members : List α := []
  nodup : members.Nodup := by simp
  deriving DecidableEq

namespace Roster

variable {α : Type}

instance : EmptyCollection (Roster α) := ⟨{}⟩

instance : Membership α (Roster α) := ⟨fun r a => a ∈ r.members⟩

theorem mem_def {a : α} {r : Roster α} : a ∈ r ↔ a ∈ r.members := Iff.rfl

@[simp] theorem members_empty : (∅ : Roster α).members = [] := rfl

variable [DecidableEq α]

instance (a : α) (r : Roster α) : Decidable (a ∈ r) :=
  inferInstanceAs (Decidable (a ∈ r.members))

/-- Enter `a` at the end, unless it is there already. -/
def insert (r : Roster α) (a : α) : Roster α :=
  if h : a ∈ r.members then r
  else ⟨r.members ++ [a], by
    rw [List.nodup_append]
    exact ⟨r.nodup, by simp, by intro x hx y hy hxy; simp at hy; subst hy; subst hxy; exact h hx⟩⟩

/-- The elements of a list, each at its first occurrence. -/
def ofList (as : List α) : Roster α := as.foldl insert ∅

theorem members_insert (r : Roster α) (a : α) :
    (r.insert a).members = if a ∈ r then r.members else r.members ++ [a] := by
  unfold insert
  by_cases h : a ∈ r.members
  · simp [h, mem_def]
  · simp [h, mem_def]

@[simp] theorem mem_insert {r : Roster α} {a b : α} : b ∈ r.insert a ↔ b ∈ r ∨ b = a := by
  rw [mem_def, members_insert]
  by_cases h : a ∈ r
  · simp only [h, if_true, mem_def]
    exact ⟨Or.inl, fun hb => hb.elim id (fun e => e ▸ h)⟩
  · simp [h, mem_def]

theorem insert_of_mem {r : Roster α} {a : α} (h : a ∈ r) : r.insert a = r := dif_pos h

end Roster

end Transit
