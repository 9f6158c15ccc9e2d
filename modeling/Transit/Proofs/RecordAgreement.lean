import Transit.Proofs.Agreement
import Transit.Proofs.Members

/-!
# Decoding records from text and from values

A record is decoded from text in the order in which the text has its fields, and from a value in the
order of its members as a table. Where no key is repeated, this comes to the same, since members
fill the slots in any order.

* `Fields.Agree fs`: the decoders of all fields agree on texts and values.
* `Fields.readMembers_agrees`, `Fields.readItems_agrees`: the fields of an object and of an array.
* `Decoder.record_agrees`: records.
-/

namespace Transit.Json

variable {α β τ : Type} {cs rest : List Char}

namespace Fields

/-- The decoders of all fields agree. -/
inductive Agree : {τ : Type} → Fields τ → Prop
  | done : Agree .done
  | field {α β : Type} {key : String} {d : Decoder α} {default? : Option α} {others : Fields β}
      (first : d.Agrees) (others_agree : Agree others) : Agree (.field key d default? others)

section Text

variable {key name : String} {d : Decoder α} {default? : Option α} {others : Fields β}
  {s : Option α} {ss : others.Slots}

theorem fillText_of_ne (h : name ≠ key) :
    (field key d default? others).fillText name (slots key d default? s ss) cs =
      (others.fillText name ss cs >>= fun t => pure (t.map (slots key d default? s))) := if_neg h

theorem fillText_none :
    (field key d default? others).fillText key (slots key d default? none ss) cs =
      (afterColon d.ofText cs >>= fun t =>
        pure (t.map fun a => slots key d default? (some a) ss)) :=
  (if_pos rfl).trans (if_neg Bool.false_ne_true)

theorem fillText_some {a : α} :
    (field key d default? others).fillText key (slots key d default? (some a) ss) cs =
      .error (.data (.duplicateField key)) :=
  (if_pos rfl).trans (if_pos rfl)

end Text

/-- A member fills its slot from text as it does from its value. -/
theorem fillText_agrees {fs : Fields τ} (hfs : fs.Agree) {name : String} {v : Value}
    {start : List Char} (hcolon : skipBlank cs = ':' :: start) (hv : Gives (value start) v rest)
    (hn : v.NoRepeats) (ss ss' : fs.Slots) (rest' : List Char) :
    Gives (fs.fillText name ss cs) ss' rest' ↔ fs.fillValue name v ss = .ok ss' ∧ rest' = rest := by
  induction hfs with
  | done =>
    have hskip : ∀ u r, Gives (afterColon skip cs) u r ↔ r = rest := by
      intro u r
      rw [gives_afterColon, hcolon]
      simp [(gives_skip hv).iff]
    refine gives_map.trans ?_
    simp only [hskip]
    constructor
    · rintro ⟨_, hr, rfl⟩
      exact ⟨rfl, hr⟩
    · rintro ⟨h, hr⟩
      exact ⟨(), hr, Except.ok.inj h⟩
  | @field α β key d default? others hd _ ih =>
    obtain ⟨s, ss, rfl⟩ := slots_surjective ss
    by_cases hname : name = key
    · subst hname
      cases s with
      | some a =>
        rw [fillText_some, fillValue_some]
        exact iff_of_false not_gives_error nofun
      | none =>
        have hafter : ∀ a r, Gives (afterColon d.ofText cs) a r ↔
            d.ofValue v = .ok a ∧ r = rest := by
          intro a r
          rw [gives_afterColon, hcolon]
          simp [hd hv hn]
        rw [fillText_none, fillValue_none, gives_map, Checked.map_eq_ok_iff]
        simp only [hafter, exists_and_and_iff]
    · rw [fillText_of_ne hname, fillValue_of_ne v hname, gives_map, Checked.map_eq_ok_iff]
      simp only [ih, exists_and_and_iff]

section Members

variable {fs : Fields τ} {first : Bool} {ss ss' : fs.Slots} {rest' : List Char}

theorem gives_readMembers_nil (h : Gives (nextKey first cs) none rest) :
    Gives (fs.readMembers first ss cs) ss' rest' ↔ ss' = ss ∧ rest' = rest := by
  obtain ⟨⟨_, r, hr⟩, ht, rfl, rfl⟩ := h
  rw [readMembers]
  split
  · rename_i h'
    cases ht.symm.trans h'
  · rename_i h'
    cases ht.symm.trans h'
    rw [gives_ok, eq_comm, @eq_comm _ r]
  · rename_i h'
    cases ht.symm.trans h'

theorem gives_readMembers_cons {name : String} {behind : List Char}
    (h : Gives (nextKey first cs) (some name) behind) :
    Gives (fs.readMembers first ss cs) ss' rest' ↔
      ∃ filled mid, Gives (fs.fillText name ss behind) filled mid ∧
        Gives (fs.readMembers false filled mid) ss' rest' := by
  obtain ⟨⟨_, r, hr⟩, ht, rfl, rfl⟩ := h
  rw [readMembers]
  split
  · rename_i h'
    cases ht.symm.trans h'
  · rename_i h'
    cases ht.symm.trans h'
  · rename_i h'
    cases ht.symm.trans h'
    split
    · rename_i hf
      refine iff_of_false not_gives_error ?_
      rintro ⟨_, _, ⟨_, hf', -⟩, -⟩
      cases hf.symm.trans hf'
    · rename_i filled hf
      split
      · rename_i hm
        refine iff_of_false not_gives_error ?_
        rintro ⟨_, _, ⟨_, hf', rfl, rfl⟩, ⟨_, hm', -⟩⟩
        cases hf.symm.trans hf'
        cases hm.symm.trans hm'
      · rename_i r hm
        rw [gives_ok]
        constructor
        · rintro ⟨rfl, rfl⟩
          exact ⟨_, _, ⟨filled, hf, rfl, rfl⟩, r, hm, rfl, rfl⟩
        · rintro ⟨_, _, ⟨_, hf', rfl, rfl⟩, ⟨_, hm', rfl, rfl⟩⟩
          cases hf.symm.trans hf'
          cases hm.symm.trans hm'
          exact ⟨rfl, rfl⟩

/-- The members of an object fill the slots from text as they do from their values. -/
theorem readMembers_agrees (hfs : fs.Agree) {ms : List (String × Value)}
    (hms : Gives (members first cs) ms rest) (hn : ∀ m ∈ ms, m.2.NoRepeats) :
    Gives (fs.readMembers first ss cs) ss' rest' ↔
      fs.fillMembers ss ms = .ok ss' ∧ rest' = rest := by
  induction ms generalizing first cs ss with
  | nil =>
    rw [gives_readMembers_nil (gives_members_nil.1 hms)]
    exact and_congr_left fun _ => ⟨fun e => e ▸ rfl, fun e => (Except.ok.inj e).symm⟩
  | cons m ms ih =>
    obtain ⟨name, v⟩ := m
    obtain ⟨behind, start, mid, hkey, hcolon, hv, hms⟩ := gives_members_cons.1 hms
    rw [List.forall_mem_cons] at hn
    rw [gives_readMembers_cons hkey, fillMembers_cons, Checked.bind_eq_ok_iff]
    simp only [fillText_agrees hfs hcolon hv hn.1]
    constructor
    · rintro ⟨filled, _, ⟨hf, rfl⟩, hm⟩
      obtain ⟨hm, hr⟩ := (ih hms hn.2).1 hm
      exact ⟨⟨filled, hf, hm⟩, hr⟩
    · rintro ⟨⟨filled, hf, hm⟩, hr⟩
      exact ⟨filled, mid, ⟨hf, rfl⟩, (ih hms hn.2).2 ⟨hm, hr⟩⟩

end Members

section Items

variable {key expected : String} {before size : Nat} {d : Decoder α} {default? : Option α}
  {others : Fields β} {first : Bool} {t : α × β}

theorem gives_readItems_nil (h : nextItem first cs = .ok none) :
    Gives ((field key d default? others).readItems expected before first cs) t rest ↔
      ∃ a t', default? = some a ∧
        Gives (others.readItems expected (before + 1) first cs) t' rest ∧ (a, t') = t := by
  cases default? with
  | none =>
    refine iff_of_false (fun hr => ?_) (by rintro ⟨_, _, ⟨⟩, -⟩)
    rw [readItems] at hr
    dsimp only at hr
    split at hr
    · exact not_gives_error hr
    · exact not_gives_error hr
    · rename_i h'
      cases h.symm.trans h'
  | some a =>
    rw [readItems]
    dsimp only
    split
    · rename_i h'
      cases h.symm.trans h'
    · rw [gives_map]
      constructor
      · rintro ⟨t', ht, heq⟩
        exact ⟨a, t', rfl, ht, heq⟩
      · rintro ⟨_, t', ⟨⟩, ht, heq⟩
        exact ⟨t', ht, heq⟩
    · rename_i h'
      cases h.symm.trans h'

theorem gives_readItems_cons {item : List Char} (h : nextItem first cs = .ok (some item)) :
    Gives ((field key d default? others).readItems expected before first cs) t rest ↔
      ∃ a mid t', Gives (d.ofText item) a mid ∧
        Gives (others.readItems expected (before + 1) false mid) t' rest ∧ (a, t') = t := by
  rw [readItems]
  dsimp only
  split
  · rename_i h'
    cases h.symm.trans h'
  · rename_i h'
    cases h.symm.trans h'
  · rename_i item' h'
    cases h.symm.trans h'
    simp only [gives_bind, Checked.pure_eq_ok, gives_ok]
    constructor
    · rintro ⟨x, hx, xs, hxs, rfl, rfl⟩
      exact ⟨x.value, x.rest, xs.value, ⟨x, hx, rfl, rfl⟩, ⟨xs, hxs, rfl, rfl⟩, rfl⟩
    · rintro ⟨_, _, _, ⟨x, hx, rfl, rfl⟩, ⟨xs, hxs, rfl, rfl⟩, rfl⟩
      exact ⟨x, hx, xs, hxs, rfl, rfl⟩

theorem ofItems_nil_eq_ok_iff :
    (field key d default? others).ofItems expected size before [] = .ok t ↔
      ∃ a t', default? = some a ∧ others.ofItems expected size (before + 1) [] = .ok t' ∧
        (a, t') = t := by
  cases default? with
  | none => exact iff_of_false nofun (by rintro ⟨_, _, ⟨⟩, -⟩)
  | some a =>
    refine Checked.map_eq_ok_iff.trans ?_
    constructor
    · rintro ⟨t', ht, heq⟩
      exact ⟨a, t', rfl, ht, heq⟩
    · rintro ⟨_, t', ⟨⟩, ht, heq⟩
      exact ⟨t', ht, heq⟩

theorem ofItems_cons_eq_ok_iff {v : Value} {vs : List Value} :
    (field key d default? others).ofItems expected size before (v :: vs) = .ok t ↔
      ∃ a t', d.ofValue v = .ok a ∧ others.ofItems expected size (before + 1) vs = .ok t' ∧
        (a, t') = t := by
  rw [ofItems, Checked.bind_eq_ok_iff]
  simp only [Checked.map_eq_ok_iff]
  constructor
  · rintro ⟨a, ha, t', ht, heq⟩
    exact ⟨a, t', ha, ht, heq⟩
  · rintro ⟨a, t', ha, ht, heq⟩
    exact ⟨a, ha, t', ht, heq⟩

end Items

/-- The fields of an array are read from text as they are from their values. Both stop at a field
that is missing without a default, and at an item that is no field. -/
theorem readItems_agrees {fs : Fields τ} (hfs : fs.Agree) {vs : List Value} {first : Bool}
    (hvs : Gives (values first cs) vs rest) (hn : ∀ v ∈ vs, v.NoRepeats) (expected : String)
    (size before : Nat) (t : τ) (rest' : List Char) :
    Gives (fs.readItems expected before first cs) t rest' ↔
      fs.ofItems expected size before vs = .ok t ∧ rest' = rest := by
  induction hfs generalizing vs first cs before with
  | done =>
    rw [readItems, gives_closeList]
    cases vs with
    | nil =>
      rw [(gives_values_nil.1 hvs).2]
      simp [ofItems, eq_comm]
    | cons v vs =>
      obtain ⟨item, mid, hnext, -, -⟩ := gives_values_cons.1 hvs
      refine iff_of_false (fun hclose => ?_) (by rintro ⟨⟨⟩, -⟩)
      -- an item is left where the list must close
      cases itemAt_of_nextItem hnext with
      | first h hc => exact hc (List.cons.inj (h.symm.trans hclose)).1
      | next h => cases h.symm.trans hclose
  | @field α β key d default? others hd _ ih =>
    cases vs with
    | nil =>
      rw [gives_readItems_nil (gives_values_nil.1 hvs).1, ofItems_nil_eq_ok_iff]
      simp only [ih hvs hn]
      constructor
      · rintro ⟨a, t', ha, ⟨ht, hr⟩, heq⟩
        exact ⟨⟨a, t', ha, ht, heq⟩, hr⟩
      · rintro ⟨⟨a, t', ha, ht, heq⟩, hr⟩
        exact ⟨a, t', ha, ⟨ht, hr⟩, heq⟩
    | cons v vs =>
      obtain ⟨item, mid, hnext, hv, hvs⟩ := gives_values_cons.1 hvs
      rw [List.forall_mem_cons] at hn
      rw [gives_readItems_cons hnext, ofItems_cons_eq_ok_iff]
      simp only [hd hv hn.1]
      constructor
      · rintro ⟨a, _, t', ⟨ha, rfl⟩, ht, heq⟩
        obtain ⟨ht, hr⟩ := (ih hvs hn.2 _ _).1 ht
        exact ⟨⟨a, t', ha, ht, heq⟩, hr⟩
      · rintro ⟨⟨a, t', ha, ht, heq⟩, hr⟩
        exact ⟨a, mid, t', ⟨ha, rfl⟩, (ih hvs hn.2 _ _).2 ⟨ht, hr⟩, heq⟩

end Fields

namespace Decoder

variable {fs : Fields τ} {build : τ → α} {name : String} {a : α}

/-- Behind the members of an object, the record is the one of the slots that are filled. -/
theorem gives_record_end {ss : Except ReadError (Read fs.Slots cs)} {c : Char} :
    Gives (do
        let ss ← ss
        match fs.complete ss.value with
        | .ok t => return (ss.map fun _ => build t).behind c
        | .error e => throw (.data e) : Except ReadError (Read α (c :: cs))) a rest ↔
      ∃ filled t, Gives ss filled rest ∧ fs.complete filled = .ok t ∧ build t = a := by
  refine gives_bind.trans ?_
  constructor
  · rintro ⟨r, rfl, ha⟩
    cases hr : fs.complete r.value with
    | error e =>
      rw [hr] at ha
      exact absurd ha not_gives_error
    | ok t =>
      rw [hr] at ha
      obtain ⟨rfl, rfl⟩ := gives_ok.1 ha
      exact ⟨r.value, t, ⟨r, rfl, rfl, rfl⟩, hr, rfl⟩
  · rintro ⟨_, t, ⟨r, rfl, rfl, rfl⟩, hr, rfl⟩
    refine ⟨r, rfl, ?_⟩
    rw [hr]
    exact gives_ok.2 ⟨rfl, rfl⟩

theorem record_agrees (hfs : fs.Agree) : (record name fs build).Agrees := by
  refine agrees_of_front rfl fun c tail v rest hv _ hn a rest' => ?_
  cases hv with
  | @object _ _ ms h =>
    obtain ⟨hd, hms⟩ := hn
    rw [Value.noRepeatsMembers_iff] at hms
    rw [if_pos rfl, record_ofValue_object hd]
    refine gives_record_end.trans ?_
    simp only [Fields.readMembers_agrees hfs h hms]
    constructor
    · rintro ⟨ss, t, ⟨hfill, hr⟩, ht⟩
      exact ⟨⟨ss, t, hfill, ht⟩, hr⟩
    · rintro ⟨⟨ss, t, hfill, ht⟩, hr⟩
      exact ⟨ss, t, ⟨hfill, hr⟩, ht⟩
  | @array _ _ vs h =>
    have hvs := Value.noRepeatsItems_iff.1 hn
    refine gives_map_behind.trans (Iff.trans ?_ (and_congr_left' Checked.map_eq_ok_iff).symm)
    constructor
    · rintro ⟨t, ht, heq⟩
      obtain ⟨ht, hr⟩ := (Fields.readItems_agrees hfs h hvs _ vs.length _ _ _).1 ht
      exact ⟨⟨t, ht, heq⟩, hr⟩
    · rintro ⟨⟨t, ht, heq⟩, hr⟩
      exact ⟨t, (Fields.readItems_agrees hfs h hvs _ _ _ _ _).2 ⟨ht, hr⟩, heq⟩
  | number hc h =>
    rw [if_neg (ne_of_number hc (by decide)), if_neg (ne_of_number hc (by decide))]
    exact iff_of_false not_gives_error nofun
  | _ => exact iff_of_false not_gives_error nofun

end Decoder

end Transit.Json
