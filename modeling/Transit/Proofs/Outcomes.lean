import Mathlib.Data.Option.Basic
import Transit.Json.Record
import Transit.Proofs.Loops

/-!
# What decoders give

What a decoder gives has the properties that the decoders of its parts ensure, whatever the value
looks like.

* `Decoder.Ensures d P`: what the decoder gives satisfies `P`.
* `Fields.Ensure fs P S`: the decoders of the fields and their defaults ensure `P` of a record, and
  `S` of the fields met so far.
* `Decoder.record_ensures`: records, from objects and arrays alike.
-/

namespace Transit.Json

variable {α β τ : Type}

/-- What the decoder gives satisfies `P`. -/
def Decoder.Ensures (d : Decoder α) (P : α → Prop) : Prop :=
  ∀ v a, d.ofValue v = .ok a → P a

namespace Decoder

theorem ensures_true (d : Decoder α) : d.Ensures fun _ => True := fun _ _ _ => trivial

theorem refine_ofValue_eq_ok_iff {d : Decoder α} {f : α → Except String β} {v : Value} {b : β} :
    (d.refine f).ofValue v = .ok b ↔ ∃ a, d.ofValue v = .ok a ∧ f a = .ok b := by
  refine Checked.bind_eq_ok_iff.trans (exists_congr fun a => and_congr_right fun _ => ?_)
  cases f a with
  | error reason => exact iff_of_false nofun nofun
  | ok b' =>
    constructor <;>
    · rintro ⟨⟩
      rfl

/-- What a refined decoder gives is accepted. -/
theorem refine_ensures (d : Decoder α) (f : α → Except String β) :
    (d.refine f).Ensures fun b => ∃ a, f a = .ok b := by
  intro v b h
  obtain ⟨a, -, hf⟩ := refine_ofValue_eq_ok_iff.1 h
  exact ⟨a, hf⟩

theorem optional_ofValue_string (d : Decoder α) (s : String) :
    d.optional.ofValue (.string s) = (d.ofValue (.string s)).map some := rfl

theorem optional_ensures {d : Decoder α} {P : α → Prop} (h : d.Ensures P) :
    d.optional.Ensures fun o => ∀ a ∈ o, P a := by
  intro v o ho
  have hsome (ho : (d.ofValue v).map some = .ok o) : ∀ a ∈ o, P a := by
    obtain ⟨a, ha, rfl⟩ := Checked.map_eq_ok_iff.1 ho
    rintro _ ⟨⟩
    exact h v a ha
  cases v with
  | null =>
    cases ho
    nofun
  | _ => exact hsome ho

end Decoder

namespace Fields

/-- What the decoders of the fields and their defaults ensure of a record, and of the fields met so
far. -/
inductive Ensure : {τ : Type} → (fs : Fields τ) → (τ → Prop) → (fs.Slots → Prop) → Prop
  | done : Ensure .done (fun _ => True) fun _ => True
  | field {α β : Type} {key : String} {d : Decoder α} {default? : Option α} {others : Fields β}
      {P : α → Prop} {Q : β → Prop} {S : others.Slots → Prop} (first : d.Ensures P)
      (default_ensures : ∀ a ∈ default?, P a) (others_ensure : Ensure others Q S) :
      Ensure (.field key d default? others) (fun t => P t.1 ∧ Q t.2)
        fun ss => (∀ a ∈ ss.1, P a) ∧ S ss.2

namespace Ensure

variable {fs : Fields τ} {Q : τ → Prop} {S : fs.Slots → Prop}

theorem noSlots (h : fs.Ensure Q S) : S fs.noSlots := by
  induction h with
  | done => trivial
  | field _ _ _ ih => exact ⟨nofun, ih⟩

theorem fillValue (h : fs.Ensure Q S) {name : String} {v : Value} {ss ss' : fs.Slots} (hs : S ss)
    (hf : fs.fillValue name v ss = .ok ss') : S ss' := by
  induction h with
  | done =>
    cases hf
    exact hs
  | field first _ _ ih =>
    unfold Fields.fillValue at hf
    dsimp only at hf
    split at hf
    · split at hf
      · cases hf
      · obtain ⟨a, ha, rfl⟩ := Checked.map_eq_ok_iff.1 hf
        refine ⟨?_, hs.2⟩
        rintro _ ⟨⟩
        exact first v a ha
    · obtain ⟨ss', hss, rfl⟩ := Checked.map_eq_ok_iff.1 hf
      exact ⟨hs.1, ih hs.2 hss⟩

theorem fillMembers (h : fs.Ensure Q S) {members : List (String × Value)} {ss ss' : fs.Slots}
    (hs : S ss) (hf : fs.fillMembers ss members = .ok ss') : S ss' := by
  induction members generalizing ss with
  | nil =>
    cases hf
    exact hs
  | cons m members ih =>
    obtain ⟨ss'', hm, hf⟩ := Checked.bind_eq_ok_iff.1 hf
    exact ih (h.fillValue hs hm) hf

theorem complete (h : fs.Ensure Q S) {ss : fs.Slots} {t : τ} (hs : S ss)
    (hc : fs.complete ss = .ok t) : Q t := by
  induction h with
  | done => trivial
  | field first default_ensures _ ih =>
    unfold Fields.complete at hc
    dsimp only at hc
    split at hc
    · cases hc
    rename_i a ha
    obtain ⟨t', ht, rfl⟩ := Checked.map_eq_ok_iff.1 hc
    refine ⟨?_, ih hs.2 ht⟩
    -- it was met, or it is the default
    cases (Option.orElse_eq_some _ _ _).1 ha with
    | inl hmet => exact hs.1 a hmet
    | inr hdefault => exact default_ensures a hdefault.2

theorem ofItems (h : fs.Ensure Q S) {items : List Value} {expected : String} {size before : Nat}
    {t : τ} (hi : fs.ofItems expected size before items = .ok t) : Q t := by
  induction h generalizing items before with
  | done => trivial
  | @field _ _ _ _ default? _ _ _ _ first default_ensures _ ih =>
    cases items with
    | nil =>
      cases default? with
      | none => cases hi
      | some a =>
        obtain ⟨t', ht, rfl⟩ := Checked.map_eq_ok_iff.1 hi
        exact ⟨default_ensures a rfl, ih ht⟩
    | cons v items =>
      obtain ⟨a, ha, hi⟩ := Checked.bind_eq_ok_iff.1 hi
      obtain ⟨t', ht, rfl⟩ := Checked.map_eq_ok_iff.1 hi
      exact ⟨first v a ha, ih ht⟩

end Ensure

end Fields

theorem Decoder.record_ensures {fs : Fields τ} {Q : τ → Prop} {S : fs.Slots → Prop} {build : τ → α}
    (name : String) (h : fs.Ensure Q S) :
    (record name fs build).Ensures fun a => ∃ t, Q t ∧ build t = a := by
  intro v a ha
  cases v with
  | object members =>
    obtain ⟨ss, hss, ha⟩ := Checked.bind_eq_ok_iff.1 ha
    obtain ⟨t, ht, heq⟩ := Checked.map_eq_ok_iff.1 ha
    exact ⟨t, h.complete (h.fillMembers h.noSlots hss) ht, heq⟩
  | array items =>
    obtain ⟨t, ht, heq⟩ := Checked.map_eq_ok_iff.1 ha
    exact ⟨t, h.ofItems ht, heq⟩
  | _ => cases ha

end Transit.Json
