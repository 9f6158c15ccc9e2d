import Mathlib.Data.List.Forall2
import Transit.Consecutive
import Transit.Proofs.Containers

/-!
# Neighbours in a list, in either order

* `Neighbours a b as`: `a` and `b` are consecutive in `as`, in one order or the other.
* `steps as`: every pair of consecutive elements, each one forth and back.
* `targets a ps`: where the steps from `a` lead.
-/

namespace Transit

variable {α β : Type}

theorem consecutive_map (f : α → β) (as : List α) :
    consecutive (as.map f) = (consecutive as).map (Prod.map f f) := by
  fun_induction consecutive as with
  | case1 a b rest ih => simp only [List.map_cons, consecutive_cons_cons, Prod.map] at ih ⊢; rw [ih]
  | case2 as h =>
    cases as with
    | nil => rfl
    | cons a as =>
      cases as with
      | nil => rfl
      | cons b rest => exact absurd rfl (h a b rest)

/-- Lists that are related one by one have related neighbours. -/
theorem rel_consecutive {R : α → β → Prop} {as : List α} {bs : List β}
    (h : List.Forall₂ R as bs) :
    List.Forall₂ (fun p q => R p.1 q.1 ∧ R p.2 q.2) (consecutive as) (consecutive bs) := by
  induction h with
  | nil => exact .nil
  | cons hab hrest ih =>
    cases hrest with
    | nil => exact .nil
    | cons hab' _ => exact .cons ⟨hab, hab'⟩ ih

theorem mem_of_mem_consecutive {as : List α} {p : α × α} (h : p ∈ consecutive as) :
    p.1 ∈ as ∧ p.2 ∈ as := by
  fun_induction consecutive as with
  | case1 a b rest ih =>
    rcases List.mem_cons.1 h with rfl | h
    · simp
    · exact ⟨List.mem_cons_of_mem _ (ih h).1, List.mem_cons_of_mem _ (ih h).2⟩
  | case2 as _ => cases h

/-- The two elements are consecutive, in one order or the other. -/
def Neighbours (a b : α) (as : List α) : Prop :=
  (a, b) ∈ consecutive as ∨ (b, a) ∈ consecutive as

instance [DecidableEq α] (a b : α) (as : List α) : Decidable (Neighbours a b as) :=
  inferInstanceAs (Decidable (_ ∨ _))

namespace Neighbours

variable {a b : α} {as : List α}

theorem comm : Neighbours a b as ↔ Neighbours b a as := Or.comm

theorem mem (h : Neighbours a b as) : a ∈ as ∧ b ∈ as := by
  rcases h with h | h
  · exact mem_of_mem_consecutive h
  · exact (mem_of_mem_consecutive h).symm

/-- Neighbours stay neighbours when every element is renamed, and no others become neighbours when
the new names are distinct. -/
theorem map_iff {f : α → β} (hf : ∀ x ∈ as, ∀ y, f x = f y → x = y) :
    Neighbours (f a) (f b) (as.map f) ↔ Neighbours a b as := by
  have key : ∀ a b, (f a, f b) ∈ consecutive (as.map f) ↔ (a, b) ∈ consecutive as := by
    intro a b
    rw [consecutive_map, List.mem_map]
    constructor
    · rintro ⟨⟨x, y⟩, hp, he⟩
      obtain ⟨hx, hy⟩ := mem_of_mem_consecutive hp
      rw [Prod.map, Prod.mk.injEq] at he
      rwa [← hf x hx a he.1, ← hf y hy b he.2]
    · intro hp
      exact ⟨(a, b), hp, rfl⟩
  unfold Neighbours
  rw [key, key]

theorem exists_of_mem {c d : α} {rest : List α} (ha : a ∈ c :: d :: rest) :
    ∃ b, Neighbours a b (c :: d :: rest) := by
  induction rest generalizing c d with
  | nil =>
    rcases List.mem_cons.1 ha with rfl | ha
    · exact ⟨d, .inl List.mem_cons_self⟩
    · obtain rfl := List.mem_singleton.1 ha
      exact ⟨c, .inr List.mem_cons_self⟩
  | cons e rest ih =>
    rcases List.mem_cons.1 ha with rfl | ha
    · exact ⟨d, .inl List.mem_cons_self⟩
    · obtain ⟨b, hb⟩ := ih ha
      exact ⟨b, hb.imp (List.mem_cons_of_mem _) (List.mem_cons_of_mem _)⟩

/-- An element has a neighbour in a list of two or more, and in no shorter one. -/
theorem exists_iff : (∃ b, Neighbours a b as) ↔ a ∈ as ∧ 2 ≤ as.length := by
  match as with
  | [] => simp [Neighbours]
  | [c] => simp [Neighbours]
  | c :: d :: rest =>
    constructor
    · rintro ⟨b, hb⟩
      exact ⟨hb.mem.1, by simp⟩
    · rintro ⟨ha, -⟩
      exact exists_of_mem ha

end Neighbours

example : Neighbours 2 1 [1, 2, 3] ∧ ¬ Neighbours 1 3 [1, 2, 3] := by decide

/-- Every step between neighbours, from left to right, each one forth and back. -/
def steps (as : List α) : List (α × α) := (consecutive as).flatMap fun p => [p, p.swap]

theorem mem_steps {p : α × α} {as : List α} : p ∈ steps as ↔ Neighbours p.1 p.2 as := by
  obtain ⟨a, b⟩ := p
  simp only [steps, List.mem_flatMap, List.mem_cons, List.not_mem_nil, or_false]
  constructor
  · rintro ⟨q, hq, rfl | he⟩
    · exact Or.inl hq
    · obtain rfl : q = (b, a) := by rw [← Prod.swap_swap q, ← he]; rfl
      exact Or.inr hq
  · rintro (h | h)
    · exact ⟨(a, b), h, Or.inl rfl⟩
    · exact ⟨(b, a), h, Or.inr rfl⟩

theorem steps_map (f : α → β) (as : List α) :
    steps (as.map f) = (steps as).map (Prod.map f f) := by
  unfold steps
  rw [consecutive_map, List.flatMap_map, List.map_flatMap]
  rfl

/-! ### Where steps lead -/

section Targets

variable [DecidableEq α] [DecidableEq β]

/-- Where the steps from `a` lead, in their order. -/
def targets (a : α) (ps : List (α × α)) : List α :=
  ps.filterMap fun p => if p.1 = a then some p.2 else none

theorem mem_targets {a b : α} {ps : List (α × α)} : b ∈ targets a ps ↔ (a, b) ∈ ps := by
  unfold targets
  rw [List.mem_filterMap]
  constructor
  · rintro ⟨⟨a', b'⟩, hp, he⟩
    rw [Option.ite_none_right_eq_some, Option.some.injEq] at he
    obtain ⟨rfl, rfl⟩ := he
    exact hp
  · intro hp
    exact ⟨(a, b), hp, if_pos rfl⟩

/-- Steps lead to the new names of where they led, when no other step seems to start from `a`. -/
theorem targets_map {f : α → β} {a : α} {ps : List (α × α)}
    (hf : ∀ p ∈ ps, f p.1 = f a → p.1 = a) :
    targets (f a) (ps.map (Prod.map f f)) = (targets a ps).map f := by
  unfold targets
  rw [List.filterMap_map, List.map_filterMap]
  refine List.filterMap_congr fun p hp => ?_
  by_cases h : p.1 = a
  · simp [h]
  · have hne : ¬ f p.1 = f a := fun e => h (hf p hp e)
    simp [h, hne]

/-- As every step is made forth and back, the same elements are reached and left. -/
theorem targets_map_swap_steps (a : α) (as : List α) :
    targets a ((steps as).map Prod.swap) = targets a (steps as) := by
  unfold targets steps
  rw [List.map_flatMap, List.filterMap_flatMap, List.filterMap_flatMap]
  refine List.flatMap_congr ?_
  rintro ⟨b, c⟩ -
  by_cases hb : b = a <;> by_cases hc : c = a <;> simp [hb, hc]

/-- The first time an element is reached is the first time that a step leads to it. -/
theorem targets_firsts (a : α) (ps : List (α × α)) :
    targets a (Roster.firsts ps) = Roster.firsts (targets a ps) := by
  refine (Roster.firsts_filterMap ?_).symm
  rintro ⟨b, c⟩ - ⟨b', c'⟩ - d hd hd'
  rw [Option.ite_none_right_eq_some, Option.some.injEq] at hd hd'
  exact Prod.ext (hd.1.trans hd'.1.symm) (hd.2.trans hd'.2.symm)

end Targets

end Transit
