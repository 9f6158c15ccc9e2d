import Mathlib.Data.List.Forall2
import Transit.Network.Basic

/-!
# Checked computations that succeed

* `bind_eq_ok_iff` and `map_eq_ok_iff` take a computation that succeeds apart; `mapError_eq_ok_iff`
  and `mapError_eq_error_iff` see through new errors.
* `foldlM_ok`: a loop succeeds when every step does, and an invariant over the part already done
  holds at its end.
* `mapM_ok`: so does a map over a list, with a property of its results.
* `mapM_eq_filterMap` and `mapM_eq_map_of_forall₂`: a map that succeeds on every element, with the
  results of a partial function, or of a function on another list; `mapM_eq_ok_iff` says it of any
  results.
-/

namespace Transit.Checked

universe u

variable {ε σ α β : Type u}

@[simp] theorem ok_bind (a : α) (f : α → Except ε β) : (Except.ok a >>= f) = f a := rfl

@[simp] theorem error_bind (e : ε) (f : α → Except ε β) : (Except.error e >>= f) = .error e := rfl

@[simp] theorem pure_eq_ok (a : α) : (pure a : Except ε α) = .ok a := rfl

@[simp] theorem throw_eq_error (e : ε) : (throw e : Except ε α) = .error e := rfl

/-- A computation succeeds when its first part does, and then the rest. -/
theorem bind_eq_ok_iff {x : Except ε α} {f : α → Except ε β} {b : β} :
    (x >>= f) = .ok b ↔ ∃ a, x = .ok a ∧ f a = .ok b := by
  cases x with
  | error e => exact iff_of_false nofun (by rintro ⟨a, ⟨⟩, -⟩)
  | ok a =>
    rw [ok_bind]
    constructor
    · intro h
      exact ⟨a, rfl, h⟩
    · rintro ⟨a', ⟨⟩, h⟩
      exact h

theorem map_eq_ok_iff {x : Except ε α} {f : α → β} {b : β} :
    x.map f = .ok b ↔ ∃ a, x = .ok a ∧ f a = b := by
  cases x with
  | error e => exact iff_of_false nofun (by rintro ⟨a, ⟨⟩, -⟩)
  | ok a =>
    constructor
    · rintro ⟨⟩
      exact ⟨a, rfl, rfl⟩
    · rintro ⟨a', ⟨⟩, rfl⟩
      rfl

theorem mapError_eq_ok_iff {δ : Type u} {x : Except ε α} {f : ε → δ} {a : α} :
    x.mapError f = .ok a ↔ x = .ok a := by
  cases x with
  | error e => exact iff_of_false nofun nofun
  | ok a' =>
    constructor <;>
    · rintro ⟨⟩
      rfl

theorem mapError_eq_error_iff {δ : Type u} {x : Except ε α} {f : ε → δ} {d : δ} :
    x.mapError f = .error d ↔ ∃ e, x = .error e ∧ f e = d := by
  cases x with
  | error e => simp [Except.mapError]
  | ok a => simp [Except.mapError]

/-- A loop succeeds when every step does and keeps the invariant `inv`, which sees the part of the
list that is done. -/
theorem foldlM_ok {f : σ → α → Except ε σ} {l : List α} {s : σ} (inv : List α → σ → Prop)
    (start : inv [] s)
    (step : ∀ done x rest t, done ++ x :: rest = l → inv done t →
      ∃ t', f t x = .ok t' ∧ inv (done ++ [x]) t') :
    ∃ t, l.foldlM f s = .ok t ∧ inv l t := by
  suffices h : ∀ rest done t, done ++ rest = l → inv done t →
      ∃ t', rest.foldlM f t = .ok t' ∧ inv l t' from h l [] s rfl start
  -- on what is left to do, for any part that is done
  intro rest
  induction rest with
  | nil =>
    intro done t hl ht
    rw [List.append_nil] at hl
    exact ⟨t, rfl, hl ▸ ht⟩
  | cons x rest ih =>
    intro done t hl ht
    obtain ⟨t', hx, ht'⟩ := step done x rest t hl ht
    obtain ⟨t'', hr, ht''⟩ := ih (done ++ [x]) t' (by simp [hl]) ht'
    exact ⟨t'', by rw [List.foldlM_cons, hx]; exact hr, ht''⟩

/-- A map over a list succeeds when it does on every element, and what holds of each result holds of
all of them. -/
theorem mapM_ok {f : α → Except ε β} {P : β → Prop} {l : List α}
    (h : ∀ x ∈ l, ∃ y, f x = .ok y ∧ P y) : ∃ ys, l.mapM f = .ok ys ∧ ∀ y ∈ ys, P y := by
  induction l with
  | nil => exact ⟨[], rfl, by simp⟩
  | cons x l ih =>
    obtain ⟨y, hy, hp⟩ := h x List.mem_cons_self
    obtain ⟨ys, hys, hps⟩ := ih fun x' hx' => h x' (List.mem_cons_of_mem _ hx')
    refine ⟨y :: ys, ?_, List.forall_mem_cons.2 ⟨hp, hps⟩⟩
    rw [List.mapM_cons, hy, ok_bind, hys]
    rfl

/-- A map that succeeds with the values of a partial function. -/
theorem mapM_eq_filterMap {f : α → Except ε β} {g : α → Option β} {l : List α}
    (h : ∀ x ∈ l, ∃ y, g x = some y ∧ f x = .ok y) : l.mapM f = .ok (l.filterMap g) := by
  induction l with
  | nil => rfl
  | cons x l ih =>
    obtain ⟨y, hg, hf⟩ := h x List.mem_cons_self
    rw [List.mapM_cons, hf, ok_bind, ih fun x' hx' => h x' (List.mem_cons_of_mem _ hx'),
      List.filterMap_cons_some hg]
    rfl

/-- A map over a list that is related to another one by one, with the values of a function there. -/
theorem mapM_eq_map_of_forall₂ {γ : Type u} {R : α → γ → Prop} {f : α → Except ε β} {g : γ → β}
    {as : List α} {cs : List γ} (h : List.Forall₂ R as cs)
    (hfg : ∀ a c, R a c → f a = .ok (g c)) : as.mapM f = .ok (cs.map g) := by
  induction h with
  | nil => rfl
  | cons hac _ ih =>
    rw [List.mapM_cons, hfg _ _ hac, ok_bind, ih]
    rfl

/-- A map over a list succeeds with the results that it has on the elements, one by one. -/
theorem mapM_eq_ok_iff {f : α → Except ε β} {as : List α} {bs : List β} :
    as.mapM f = .ok bs ↔ List.Forall₂ (fun a b => f a = .ok b) as bs := by
  induction as generalizing bs with
  | nil =>
    rw [List.mapM_nil, pure_eq_ok, Except.ok.injEq, List.forall₂_nil_left_iff]
    exact eq_comm
  | cons a as ih =>
    rw [List.mapM_cons, bind_eq_ok_iff, List.forall₂_cons_left_iff]
    constructor
    · rintro ⟨b, hb, hrest⟩
      obtain ⟨cs, hcs, ⟨⟩⟩ := bind_eq_ok_iff.1 hrest
      exact ⟨b, cs, hb, ih.1 hcs, rfl⟩
    · rintro ⟨b, cs, hb, hcs, rfl⟩
      exact ⟨b, hb, bind_eq_ok_iff.2 ⟨cs, ih.2 hcs, rfl⟩⟩

end Transit.Checked
