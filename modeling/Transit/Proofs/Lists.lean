import Mathlib.Data.List.Forall2
import Mathlib.Data.List.Nodup

/-!
# Lists and arrays

* `map_modify_of_forall` and `find?_modify_of_nodup`: what changing one element does to the values
  of a function and to what is found under a key.
* `nodup_iff_not_mem_take`: a list without repeats, position by position.
* `find?_eq_some_iff_of_nodup` and `find?_perm`: finding by a key that is distinct.
* `exists_of_forall₂`, `rel_find?` and `eq_of_forall₂`: lists that are related one by one.
* `idxOf?_map`, `idxOf?_eq_some_iff_of_nodup` and `idxOf?_reverse`: positions under new names,
  without repeats, and counted from the end.
* `Fresh old new`: the elements of `new` are distinct, and none of them is in `old`.
-/

namespace Transit

theorem mem_toList_of_getElem? {α : Type} {xs : Array α} {i : Nat} {x : α} (h : xs[i]? = some x) :
    x ∈ xs.toList :=
  Array.mem_toList_iff.2 (Array.mem_of_getElem? h)

/-- Changing an element in a way that a function does not see leaves the function's values. -/
theorem map_modify_of_forall {α β : Type} {f : α → α} {g : α → β} (h : ∀ x, g (f x) = g x)
    (xs : Array α) (i : Nat) : (xs.modify i f).map g = xs.map g := by
  apply Array.ext_getElem?
  intro j
  rw [Array.getElem?_map, Array.getElem?_map, Array.getElem?_modify]
  split <;> simp [Function.comp_def, h]

/-- Where keys are distinct, changing an element changes what is found under its key and nothing
else. -/
theorem find?_modify_of_nodup {α β : Type} [DecidableEq β] {key : α → β} {f : α → α}
    {l : List α} {i : Nat} {a : α} (hl : (l.map key).Nodup) (hi : l[i]? = some a)
    (hf : key (f a) = key a) (k : β) :
    (l.modify i f).find? (fun x => key x = k) =
      if k = key a then some (f a) else l.find? (fun x => key x = k) := by
  induction l generalizing i with
  | nil => cases hi
  | cons b l ih =>
    rw [List.map_cons, List.nodup_cons] at hl
    cases i with
    | zero =>
      obtain rfl : b = a := by simpa using hi
      by_cases hk : k = key b
      · simp [hk, hf]
      · have hne : ¬ key b = k := fun e => hk e.symm
        simp [hk, hf, hne]
    | succ i =>
      rw [List.getElem?_cons_succ] at hi
      rw [List.modify_succ_cons, List.find?_cons, List.find?_cons, ih hl.2 hi]
      have hb : key b ≠ key a := fun e =>
        hl.1 (e ▸ List.mem_map.2 ⟨a, List.mem_of_getElem? hi, rfl⟩)
      by_cases hk : key b = k
      · have hka : k ≠ key a := hk ▸ hb
        simp [hk, hka]
      · simp [hk]

/-- Where keys are distinct, what is found under a key is what has it. -/
theorem find?_eq_some_iff_of_nodup {α β : Type} [DecidableEq β] {key : α → β} {as : List α}
    (has : (as.map key).Nodup) {k : β} {a : α} :
    as.find? (fun x => key x = k) = some a ↔ a ∈ as ∧ key a = k := by
  constructor
  · intro h
    exact ⟨List.mem_of_find?_eq_some h, by simpa using List.find?_some h⟩
  · rintro ⟨ha, rfl⟩
    have hsome : (as.find? fun x => key x = key a).isSome :=
      List.find?_isSome.2 ⟨a, ha, by simp⟩
    obtain ⟨b, hb⟩ := Option.isSome_iff_exists.1 hsome
    have hkey : key b = key a := by simpa using List.find?_some hb
    rw [hb, List.inj_on_of_nodup_map has (List.mem_of_find?_eq_some hb) ha hkey]

theorem isSome_find?_iff {α β : Type} [DecidableEq β] {key : α → β} {as : List α} {k : β} :
    (as.find? fun x => key x = k).isSome = true ↔ k ∈ as.map key := by
  rw [List.find?_isSome, List.mem_map]
  simp

/-- Where keys are distinct, the order does not matter for what is found. -/
theorem find?_perm {α β : Type} [DecidableEq β] {key : α → β} {as bs : List α} (h : as.Perm bs)
    (has : (as.map key).Nodup) (k : β) :
    as.find? (fun x => key x = k) = bs.find? fun x => key x = k := by
  have hbs : (bs.map key).Nodup := (h.map key).nodup_iff.1 has
  ext a
  rw [find?_eq_some_iff_of_nodup has, find?_eq_some_iff_of_nodup hbs, h.mem_iff]

/-- A list repeats nothing when no element comes a second time. -/
theorem nodup_iff_not_mem_take {α : Type} {as : List α} :
    as.Nodup ↔ ∀ i a, as[i]? = some a → a ∉ as.take i := by
  induction as with
  | nil => simp
  | cons b as ih =>
    rw [List.nodup_cons, ih]
    constructor
    · rintro ⟨hb, has⟩ i a hi
      cases i with
      | zero => simp
      | succ i =>
        rw [List.getElem?_cons_succ] at hi
        rw [List.take_succ_cons, List.mem_cons, not_or]
        exact ⟨fun e => hb (e ▸ List.mem_of_getElem? hi), has i a hi⟩
    · intro h
      constructor
      · intro hb
        obtain ⟨i, hi⟩ := List.mem_iff_getElem?.1 hb
        exact h (i + 1) b (by rwa [List.getElem?_cons_succ]) (by simp)
      · intro i a hi hm
        refine h (i + 1) a (by rwa [List.getElem?_cons_succ]) ?_
        rw [List.take_succ_cons]
        exact List.mem_cons_of_mem _ hm

/-- In two lists that are related one by one, every element of the first has its partner. -/
theorem exists_of_forall₂ {α β : Type} {R : α → β → Prop} {as : List α} {bs : List β}
    (h : List.Forall₂ R as bs) {a : α} (ha : a ∈ as) : ∃ b ∈ bs, R a b := by
  induction h with
  | nil => cases ha
  | @cons a' b' as bs hab _ ih =>
    rcases List.mem_cons.1 ha with rfl | ha
    · exact ⟨b', List.mem_cons_self, hab⟩
    · obtain ⟨b, hb, hr⟩ := ih ha
      exact ⟨b, List.mem_cons_of_mem _ hb, hr⟩

theorem map_eq_map_iff_forall₂ {α β γ : Type} {f : α → γ} {g : β → γ} {as : List α}
    {bs : List β} : as.map f = bs.map g ↔ List.Forall₂ (fun a b => f a = g b) as bs := by
  rw [← List.forall₂_eq_eq_eq, List.forall₂_map_left_iff, List.forall₂_map_right_iff]

/-- What is found first in lists that are related one by one is related. -/
theorem rel_find? {α β : Type} {R : α → β → Prop} {p : α → Bool} {q : β → Bool}
    {as : List α} {bs : List β} (hpq : ∀ a b, R a b → p a = q b) (h : List.Forall₂ R as bs) :
    Option.Rel R (as.find? p) (bs.find? q) := by
  induction h with
  | nil => exact .none
  | @cons a b as bs hab _ ih =>
    rw [List.find?_cons, List.find?_cons, hpq a b hab]
    cases q b with
    | true => exact .some hab
    | false => exact ih

theorem map_eq_map_of_rel {α β γ : Type} {R : α → β → Prop} {f : α → γ} {g : β → γ}
    {o : Option α} {o' : Option β} (hfg : ∀ a b, R a b → f a = g b) (h : Option.Rel R o o') :
    o.map f = o'.map g := by
  cases h with
  | none => rfl
  | some hab => rw [Option.map_some, Option.map_some, hfg _ _ hab]

/-- Lists that are related one by one to the same list are equal, where the relations determine the
element. -/
theorem eq_of_forall₂ {α β : Type} {R S : α → β → Prop} {as as' : List α} {bs : List β}
    (hRS : ∀ a a' b, R a b → S a' b → a = a') (h : List.Forall₂ R as bs)
    (h' : List.Forall₂ S as' bs) : as = as' := by
  induction h generalizing as' with
  | nil =>
    cases h'
    rfl
  | cons hab _ ih =>
    cases h' with
    | cons hab' h' => rw [hRS _ _ _ hab hab', ih h']

/-- An element stands where its new name does, when the elements of the list that get this name are
equal to it. -/
theorem idxOf?_map {α β : Type} [BEq α] [LawfulBEq α] [BEq β] [LawfulBEq β] {f : α → β}
    {as : List α} {a : α} (hf : ∀ x ∈ as, f x = f a → x = a) :
    (as.map f).idxOf? (f a) = as.idxOf? a := by
  induction as with
  | nil => rfl
  | cons b as ih =>
    have hb : (f b == f a) = (b == a) := by
      rw [Bool.eq_iff_iff, beq_iff_eq, beq_iff_eq]
      exact ⟨hf b List.mem_cons_self, fun e => e ▸ rfl⟩
    rw [List.map_cons, List.idxOf?_cons, List.idxOf?_cons, hb,
      ih fun x hx => hf x (List.mem_cons_of_mem _ hx)]

/-- In a list without repeats, an element has one position. -/
theorem idxOf?_eq_some_iff_of_nodup {α : Type} [BEq α] [LawfulBEq α] {as : List α}
    (has : as.Nodup) {a : α} {i : Nat} : as.idxOf? a = some i ↔ as[i]? = some a := by
  rw [List.idxOf?_eq_some_iff, List.getElem?_eq_some_iff]
  constructor
  · rintro ⟨hi, ha, -⟩
    exact ⟨hi, ha⟩
  · rintro ⟨hi, rfl⟩
    refine ⟨hi, rfl, fun j hj he => ?_⟩
    exact Nat.ne_of_lt hj (has.getElem_inj_iff.1 he)

/-- In the reverse list, a position is counted from the end. -/
theorem idxOf?_reverse {α : Type} [BEq α] [LawfulBEq α] {as : List α} (has : as.Nodup) {a : α}
    {i : Nat} (hi : as.idxOf? a = some i) :
    as.reverse.idxOf? a = some (as.length - 1 - i) := by
  rw [idxOf?_eq_some_iff_of_nodup has] at hi
  have hlt := (List.getElem?_eq_some_iff.1 hi).1
  have hback : as.length - 1 - (as.length - 1 - i) = i := by omega
  rw [idxOf?_eq_some_iff_of_nodup (List.nodup_reverse.2 has), List.getElem?_reverse (by omega),
    hback, hi]

/-! ### Newcomers -/

/-- Distinct elements, none of which is there already. -/
structure Fresh {α : Type} (old new : List α) : Prop where
  distinct : new.Nodup
  absent : ∀ a ∈ new, a ∉ old

section Fresh

variable {α : Type} {a : α} {old as bs : List α}

@[simp] theorem fresh_nil : Fresh old [] := ⟨List.nodup_nil, nofun⟩

/-- Newcomers may come in any order. -/
theorem Fresh.perm (h : Fresh old as) (hp : as.Perm bs) : Fresh old bs :=
  ⟨hp.nodup_iff.1 h.distinct, fun b hb => h.absent b (hp.mem_iff.2 hb)⟩

/-- Newcomers may come in two groups, the second one to those that are there after the first. -/
theorem fresh_append : Fresh old (as ++ bs) ↔ Fresh old as ∧ Fresh (old ++ as) bs := by
  constructor
  · rintro ⟨hd, ha⟩
    obtain ⟨has, hbs, hne⟩ := List.nodup_append.1 hd
    refine ⟨⟨has, fun b hb => ha b (List.mem_append_left _ hb)⟩, hbs, fun b hb hm => ?_⟩
    rcases List.mem_append.1 hm with hm | hm
    · exact ha b (List.mem_append_right _ hb) hm
    · exact hne b hm b hb rfl
  · rintro ⟨⟨has, ha⟩, hbs, hb⟩
    constructor
    · rw [List.nodup_append]
      refine ⟨has, hbs, ?_⟩
      rintro b hm c hc rfl
      exact hb b hc (List.mem_append_right _ hm)
    · intro b hm hold
      rcases List.mem_append.1 hm with hm | hm
      · exact ha b hm hold
      · exact hb b hm (List.mem_append_left _ hold)

/-- Those that are there already count as a set. -/
theorem fresh_congr {old' : List α} (h : ∀ a, a ∈ old ↔ a ∈ old') : Fresh old as ↔ Fresh old' as :=
  ⟨fun hf => ⟨hf.distinct, fun a ha hm => hf.absent a ha ((h a).2 hm)⟩,
    fun hf => ⟨hf.distinct, fun a ha hm => hf.absent a ha ((h a).1 hm)⟩⟩

theorem fresh_singleton : Fresh old [a] ↔ a ∉ old := by
  constructor
  · intro h
    exact h.absent a List.mem_cons_self
  · intro h
    exact ⟨List.nodup_singleton a, fun b hb => List.mem_singleton.1 hb ▸ h⟩

theorem fresh_cons : Fresh old (a :: as) ↔ a ∉ old ∧ Fresh (old ++ [a]) as := by
  rw [← List.singleton_append, fresh_append, fresh_singleton]

end Fresh

end Transit
