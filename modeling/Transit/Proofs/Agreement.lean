import Transit.Proofs.Forms
import Transit.Proofs.Outcomes
import Transit.Proofs.Skipping

/-!
# Decoding text and decoding its value

A decoder reads text from left to right and stops at the first thing wrong. Where the text writes a
value in which no key is repeated, this comes to the same as decoding the value.

* `Decoder.Agrees d`: the decoder takes the same from a text as from the value that stands there,
  and leaves the same text. There is one lemma for each way to build a decoder.
* `Decoder.Agrees.run_eq_ok_iff`: whole texts.
-/

namespace Transit.Json

variable {α β : Type} {cs rest : List Char}

/-- What does not depend on the data that are read is said apart from them. -/
theorem exists_and_and_iff {p q : α → Prop} {r : Prop} :
    (∃ a, (p a ∧ r) ∧ q a) ↔ (∃ a, p a ∧ q a) ∧ r :=
  (exists_congr fun _ => and_right_comm).trans exists_and_right

/-- The decoder takes from a text exactly what it takes from the value that stands there. -/
def Decoder.Agrees (d : Decoder α) : Prop :=
  ∀ ⦃cs v rest⦄, Gives (value cs) v rest → v.NoRepeats →
    ∀ a rest', Gives (d.ofText cs) a rest' ↔ d.ofValue v = .ok a ∧ rest' = rest

namespace Decoder

/-- It is enough to agree behind white space. -/
theorem agrees_of_front {d : Decoder α} {u : Unfinished}
    {r : (c : Char) → (tail : List Char) → Except ReadError (Read α (c :: tail))}
    (hd : d.ofText = atFront u r)
    (h : ∀ ⦃c tail v rest⦄, ValueAt c tail v rest → Gives (value (c :: tail)) v rest →
      v.NoRepeats → ∀ a rest', Gives (r c tail) a rest' ↔ d.ofValue v = .ok a ∧ rest' = rest) :
    d.Agrees := by
  intro cs v rest hv hn a rest'
  obtain ⟨c, tail, hcs, hat⟩ := valueAt_of_value hv
  have hfront : Gives (value (c :: tail)) v rest :=
    gives_value_of_skipBlank_eq (by rw [← hcs, skipBlank_skipBlank]) hv
  rw [hd, gives_atFront, ← h hat hfront hn]
  constructor
  · rintro ⟨_, _, hcs', hr⟩
    cases hcs.symm.trans hcs'
    exact hr
  · intro hr
    exact ⟨c, tail, hcs, hr⟩

theorem string_agrees (expected : String) : (string expected).Agrees := by
  refine agrees_of_front rfl fun c tail v rest hv _ _ s rest' => ?_
  cases hv with
  | string h =>
    rw [if_pos rfl, gives_behind, h.iff]
    exact and_congr_left fun _ => ⟨fun e => e ▸ rfl, fun e => (Except.ok.inj e).symm⟩
  | number hc h =>
    rw [if_neg (ne_of_number hc (by decide))]
    exact iff_of_false not_gives_error nofun
  | _ => exact iff_of_false not_gives_error nofun

theorem natural32_agrees : natural32.Agrees := by
  refine agrees_of_front rfl fun c tail v rest hv _ _ n rest' => ?_
  cases hv with
  | @number _ _ _ x hc h =>
    rw [if_pos hc, natural32_ofValue]
    obtain ⟨t, ht, rfl, rfl⟩ := h
    rw [ht, Checked.ok_bind]
    cases narrow t.value with
    | error e => exact iff_of_false not_gives_error nofun
    | ok m =>
      refine gives_ok.trans (and_congr ?_ eq_comm)
      rw [Except.ok.injEq]
      exact Iff.rfl
  | _ => exact iff_of_false not_gives_error nofun

/-- Null is taken for none, and every other value is left to the decoder. -/
theorem optional_agrees {d : Decoder α} (hd : d.Agrees) : d.optional.Agrees := by
  refine agrees_of_front rfl fun c tail v rest hv hfront hn o rest' => ?_
  have hother (hc : c ≠ 'n') (hof : d.optional.ofValue v = (d.ofValue v).map some) :
      Gives (if c = 'n' then readWord none ['u', 'l', 'l'] c tail
        else do return (← d.ofText (c :: tail)).map some) o rest' ↔
      d.optional.ofValue v = .ok o ∧ rest' = rest := by
    rw [if_neg hc, gives_map, hof]
    simp only [hd hfront hn, Checked.map_eq_ok_iff, exists_and_and_iff]
  cases hv with
  | null h =>
    rw [if_pos rfl, gives_readWord, h]
    exact and_congr ⟨fun e => e ▸ rfl, Except.ok.inj⟩
      ⟨fun e => (Except.ok.inj e).symm, fun e => e ▸ rfl⟩
  | number hc h => exact hother (ne_of_number hc (by decide)) rfl
  | _ => exact hother (by decide) rfl

theorem gives_refine {d : Decoder α} {f : α → Except String β} {b : β} :
    Gives ((d.refine f).ofText cs) b rest ↔ ∃ a, Gives (d.ofText cs) a rest ∧ f a = .ok b := by
  refine gives_bind.trans ?_
  constructor
  · rintro ⟨t, ht, hb⟩
    cases hf : f t.value with
    | error reason =>
      rw [hf] at hb
      exact absurd hb not_gives_error
    | ok b' =>
      rw [hf] at hb
      obtain ⟨rfl, rfl⟩ := gives_ok.1 hb
      exact ⟨t.value, ⟨t, ht, rfl, rfl⟩, hf⟩
  · rintro ⟨_, ⟨t, ht, rfl, rfl⟩, hf⟩
    refine ⟨t, ht, ?_⟩
    rw [hf]
    exact gives_ok.2 ⟨rfl, rfl⟩

theorem refine_agrees {d : Decoder α} {f : α → Except String β} (hd : d.Agrees) :
    (d.refine f).Agrees := by
  intro cs v rest hv hn b rest'
  simp only [gives_refine, refine_ofValue_eq_ok_iff, hd hv hn, exists_and_and_iff]

/-! ### Lists -/

theorem readItems_agrees {d : Decoder α} (hd : d.Agrees) {vs : List Value} {first : Bool}
    (hvs : Gives (values first cs) vs rest) (hn : ∀ v ∈ vs, v.NoRepeats) (as : List α)
    (rest' : List Char) :
    Gives (readItems d.ofText first cs) as rest' ↔
      vs.mapM d.ofValue = .ok as ∧ rest' = rest := by
  rw [Checked.mapM_eq_ok_iff]
  induction vs generalizing first cs as with
  | nil =>
    obtain ⟨hnext, hclose⟩ := gives_values_nil.1 hvs
    cases as with
    | nil => simp [gives_readItems_nil, hnext, hclose, eq_comm]
    | cons a as => simp [gives_readItems_cons, hnext]
  | cons v vs ih =>
    obtain ⟨item, mid, hnext, hv, hvs⟩ := gives_values_cons.1 hvs
    rw [List.forall_mem_cons] at hn
    cases as with
    | nil => simp [gives_readItems_nil, hnext]
    | cons a as =>
      rw [gives_readItems_cons, List.forall₂_cons, and_assoc, ← ih hvs hn.2]
      constructor
      · rintro ⟨_, _, hnext', ha, has⟩
        cases hnext.symm.trans hnext'
        obtain ⟨ha, rfl⟩ := (hd hv hn.1 a _).1 ha
        exact ⟨ha, has⟩
      · rintro ⟨ha, has⟩
        exact ⟨item, mid, hnext, (hd hv hn.1 a mid).2 ⟨ha, rfl⟩, has⟩

theorem list_agrees {d : Decoder α} (hd : d.Agrees) : d.list.Agrees := by
  refine agrees_of_front rfl fun c tail v rest hv _ hn as rest' => ?_
  cases hv with
  | array h =>
    rw [if_pos rfl, gives_behind]
    exact readItems_agrees hd h (Value.noRepeatsItems_iff.1 hn) as rest'
  | number hc h =>
    rw [if_neg (ne_of_number hc (by decide))]
    exact iff_of_false not_gives_error nofun
  | _ => exact iff_of_false not_gives_error nofun

/-- On whole texts, the decoder takes what it takes from the value of the text. -/
theorem Agrees.run_eq_ok_iff {d : Decoder α} {a : α} (hd : d.Agrees) {s : String} {v : Value}
    (hs : Value.ofText s = .ok v) (hv : v.NoRepeats) : d.run s = .ok a ↔ d.ofValue v = .ok a := by
  obtain ⟨rest, hvalue, hend⟩ := readAll_eq_ok_iff.1 hs
  rw [run, readAll_eq_ok_iff]
  simp only [hd hvalue hv]
  constructor
  · rintro ⟨_, ⟨ha, -⟩, -⟩
    exact ha
  · intro ha
    exact ⟨rest, ⟨ha, rfl⟩, hend⟩

end Decoder

end Transit.Json
