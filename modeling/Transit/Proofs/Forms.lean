import Mathlib.Data.List.Nodup
import Transit.Json.Record
import Transit.Proofs.Lists
import Transit.Proofs.Loops

/-!
# The forms of a record

A record may be written as the object of its fields, among members of other keys, or as the array
of its fields in order. Which values may stand for a field is given by a predicate, so that forms
nest.

* `RecordForm fields`, `ListForm form as` and `TextForm s`: the written forms of a record, of a list
  and of a string.
* `Decoder.ReadsAs d a form`: the decoder takes `a` from the values of the form. From other values
  it does not, as long as no object in them repeats a key.
* `Fields.Fits fs t fields`: the fields `fs` of a decoder, with the data `t`, are those of a form.
* `record_readsAs`, `list_readsAs`: decoders of records and lists read exactly the forms.
-/

namespace Transit.Json

variable {α β τ : Type}

/-! ### Written forms -/

/-- The written forms of a record, whose fields are given by key and by the values that may stand
there. -/
inductive RecordForm (fields : List (String × (Value → Prop))) : Value → Prop
  /-- An object without repeated keys that has every field, whatever its other members are. -/
  | object {members : List (String × Value)} (distinct : (members.map Prod.fst).Nodup)
      (present : ∀ f ∈ fields, ∃ v, (f.1, v) ∈ members ∧ f.2 v) :
      RecordForm fields (.object members)
  /-- The array of the fields in order. -/
  | array {items : List Value} (inOrder : List.Forall₂ (fun f v => f.2 v) fields items) :
      RecordForm fields (.array items)

/-- A string is written in one way. -/
def TextForm (s : String) (v : Value) : Prop := v = .string s

/-- The written forms of a list: the array of forms of its elements. -/
inductive ListForm (form : α → Value → Prop) (as : List α) : Value → Prop
  | array {items : List Value} (h : List.Forall₂ form as items) : ListForm form as (.array items)

/-- The object of the fields alone, in order. -/
theorem RecordForm.of_forall₂ {fields : List (String × (Value → Prop))}
    {members : List (String × Value)} (distinct : (members.map Prod.fst).Nodup)
    (h : List.Forall₂ (fun f m => f.1 = m.1 ∧ f.2 m.2) fields members) :
    RecordForm fields (.object members) := by
  refine .object distinct fun f hf => ?_
  obtain ⟨⟨key, v⟩, hm, rfl, hv⟩ := exists_of_forall₂ h hf
  exact ⟨v, hm, hv⟩

theorem ListForm.of_map {form : α → Value → Prop} {f : α → Value} {as : List α}
    (h : ∀ a ∈ as, form a (f a)) : ListForm form as (.array (as.map f)) :=
  .array (List.forall₂_map_right_iff.2 (List.forall₂_same.2 h))

/-! ### Objects as tables -/

/-- A new key takes its place among the others. -/
theorem putMember_perm {key : String} {a : α} {table : List (String × α)}
    (h : key ∉ table.map Prod.fst) : (putMember key a table).Perm ((key, a) :: table) := by
  induction table with
  | nil => exact .refl _
  | cons m table ih =>
    obtain ⟨k, b⟩ := m
    rw [List.map_cons, List.mem_cons, not_or] at h
    rw [putMember]
    split
    · exact .refl _
    · rw [if_neg h.1]
      exact ((ih h.2).cons _).trans (.swap _ _ _)

/-- Where no key is repeated, an object as a table has all of its members. -/
theorem lastMembers_perm {members : List (String × α)} (h : (members.map Prod.fst).Nodup) :
    (lastMembers members).Perm members := by
  suffices main : ∀ rest table : List (String × α), ((table ++ rest).map Prod.fst).Nodup →
      (rest.foldl (fun table m => putMember m.1 m.2 table) table).Perm (table ++ rest) from
    main members [] h
  intro rest
  induction rest with
  | nil =>
    intro table _
    rw [List.append_nil]
    exact .refl _
  | cons m rest ih =>
    intro table ht
    have hswap : (table ++ m :: rest).Perm (m :: (table ++ rest)) := List.perm_middle
    have hnodup := (hswap.map Prod.fst).nodup_iff.1 ht
    have hput : (putMember m.1 m.2 table ++ rest).Perm (m :: (table ++ rest)) :=
      (putMember_perm fun hm => (List.nodup_cons.1 hnodup).1
        (by rw [List.map_append]; exact List.mem_append_left _ hm)).append_right rest
    exact (ih _ ((hput.map Prod.fst).nodup_iff.2 hnodup)).trans (hput.trans hswap.symm)

section Keys

variable {key : String} {a b : α} {members : List (String × α)}

theorem filter_cons_key (h : key ∉ members.map Prod.fst) :
    ((key, a) :: members).filter (·.1 ≠ key) = members := by
  rw [List.filter_cons_of_neg (by simp), List.filter_eq_self]
  intro m hm
  exact decide_eq_true fun hkey => h (List.mem_map.2 ⟨m, hm, hkey⟩)

theorem mem_cons_key_iff (h : key ∉ members.map Prod.fst) :
    (key, b) ∈ (key, a) :: members ↔ b = a := by
  rw [List.mem_cons, Prod.mk.injEq, and_iff_right rfl]
  exact or_iff_left fun hm => h (List.mem_map_of_mem hm)

end Keys

namespace Value

theorem noRepeatsItems_iff {items : List Value} :
    NoRepeatsItems items ↔ ∀ v ∈ items, v.NoRepeats := by
  induction items with
  | nil => simp [NoRepeatsItems]
  | cons v items ih => rw [NoRepeatsItems, ih, List.forall_mem_cons]

theorem noRepeatsMembers_iff {members : List (String × Value)} :
    NoRepeatsMembers members ↔ ∀ m ∈ members, m.2.NoRepeats := by
  induction members with
  | nil => simp [NoRepeatsMembers]
  | cons m members ih => rw [NoRepeatsMembers, ih, List.forall_mem_cons]

end Value

/-! ### Decoders and forms -/

/-- The decoder takes `a` from the values of the form, and from no other values in which no key is
repeated. -/
structure Decoder.ReadsAs (d : Decoder α) (a : α) (form : Value → Prop) : Prop where
  of_form : ∀ v, form v → d.ofValue v = .ok a
  to_form : ∀ v, v.NoRepeats → d.ofValue v = .ok a → form v

namespace Decoder

theorem string_readsAs (expected s : String) : (string expected).ReadsAs s (TextForm s) where
  of_form := by
    rintro v rfl
    rfl
  to_form v _ h := by
    cases v with
    | string s' => exact congrArg Value.string (Except.ok.inj h)
    | _ => cases h

theorem narrow_ofNat (n : UInt32) : narrow (.integer n.toNat) = .ok n := by
  have hn := n.toNat_lt
  rw [narrow, if_pos ⟨Int.natCast_nonneg _, by omega⟩, Int.toNat_natCast, UInt32.ofNat_toNat]

theorem natural32_ofValue (x : Number) : natural32.ofValue (.number x) = narrow x := rfl

theorem natural32_readsAs (n : UInt32) : natural32.ReadsAs n (· = .ofInt n.toNat) where
  of_form := by
    rintro v rfl
    rw [Value.ofInt, natural32_ofValue, narrow_ofNat]
  to_form v _ h := by
    cases v with
    | number x =>
      cases x with
      | integer i =>
        -- only the integer of `n` itself comes out as `n`
        rw [natural32_ofValue, narrow] at h
        split at h
        · rename_i hi
          cases h
          rw [UInt32.toNat_ofNat_of_lt' (by rw [UInt32.size]; omega), Int.toNat_of_nonneg hi.1]
          rfl
        · cases h
      | real x => cases h
    | _ => cases h

theorem list_readsAs {d : Decoder α} {form : α → Value → Prop} {as : List α}
    (h : ∀ a ∈ as, d.ReadsAs a (form a)) : d.list.ReadsAs as (ListForm form as) where
  of_form := by
    rintro _ ⟨hitems⟩
    refine Checked.mapM_eq_ok_iff.2 ?_
    have hboth := (List.forall₂_and_left _ _).2 ⟨h, hitems⟩
    exact (hboth.imp fun a v hav => hav.1.of_form v hav.2).flip
  to_form v hv hread := by
    cases v with
    | array items =>
      have hitems := Checked.mapM_eq_ok_iff.1 hread
      have hboth := (List.forall₂_and_left _ _).2 ⟨Value.noRepeatsItems_iff.1 hv, hitems⟩
      have hall := (List.forall₂_and_left _ _).2 ⟨h, hboth.flip⟩
      exact .array (hall.imp fun a v hav => hav.1.to_form v hav.2.1 hav.2.2)
    | _ => cases hread

end Decoder

/-! ### Fields and forms -/

namespace Fields

/-- The fields of a decoder, none with a default, and the data in them are those of a form. -/
inductive Fits : {τ : Type} → Fields τ → τ → List (String × (Value → Prop)) → Prop
  | done : Fits .done () []
  | field {α β : Type} {key : String} {d : Decoder α} {a : α} {form : Value → Prop}
      {others : Fields β} {t : β} {rest : List (String × (Value → Prop))}
      (first : d.ReadsAs a form) (fits : Fits others t rest) :
      Fits (.field key d none others) (a, t) ((key, form) :: rest)

theorem fillMembers_cons (fs : Fields τ) (slots : fs.Slots) (name : String) (v : Value)
    (members : List (String × Value)) :
    fs.fillMembers slots ((name, v) :: members) =
      (fs.fillValue name v slots >>= fun slots => fs.fillMembers slots members) := rfl

section Slots

variable {key name : String} {d : Decoder α} {default? : Option α} {others : Fields β}
  {s : Option α} {ss ss' : others.Slots} {members : List (String × Value)}

/-- The slot of a first field and the slots of the others. -/
def slots (key : String) (d : Decoder α) (default? : Option α) {others : Fields β} (s : Option α)
    (ss : others.Slots) : (field key d default? others).Slots := (s, ss)

theorem slots_surjective (r : (field key d default? others).Slots) :
    ∃ s ss, slots key d default? s ss = r := ⟨r.1, r.2, rfl⟩

theorem slots_inj {s' : Option α} :
    slots key d default? s ss = slots key d default? s' ss' ↔ s = s' ∧ ss = ss' := Prod.ext_iff

/-- A member of another key leaves the slot of the first field as it is. -/
theorem fillValue_of_ne (v : Value) (h : name ≠ key) :
    (field key d default? others).fillValue name v (slots key d default? s ss) =
      (others.fillValue name v ss).map (slots key d default? s) := if_neg h

/-- A member of its key fills the slot of the first field, if nothing is in it. -/
theorem fillValue_none (v : Value) :
    (field key d default? others).fillValue key v (slots key d default? none ss) =
      (d.ofValue v).map fun a => slots key d default? (some a) ss :=
  (if_pos rfl).trans (if_neg Bool.false_ne_true)

/-- Members of other keys fill the slots of the other fields alone. -/
theorem fillMembers_of_not_mem (h : key ∉ members.map Prod.fst) :
    (field key d default? others).fillMembers (slots key d default? s ss) members =
      (others.fillMembers ss members).map (slots key d default? s) := by
  induction members generalizing ss with
  | nil => rfl
  | cons m members ih =>
    obtain ⟨name, v⟩ := m
    rw [List.map_cons, List.mem_cons, not_or] at h
    rw [fillMembers_cons, fillMembers_cons, fillValue_of_ne v (Ne.symm h.1)]
    cases others.fillValue name v ss with
    | error e => rfl
    | ok ss => exact ih h.2

/-- Members that repeat no key fill the slot of the first field with what stands under its key, and
the slots of the other fields with the other members. -/
theorem fillMembers_eq_ok_iff {a : α} (h : (members.map Prod.fst).Nodup) :
    (field key d default? others).fillMembers (slots key d default? none ss) members =
        .ok (slots key d default? (some a) ss') ↔
      (∃ v, (key, v) ∈ members ∧ d.ofValue v = .ok a) ∧
      others.fillMembers ss (members.filter (·.1 ≠ key)) = .ok ss' := by
  induction members generalizing ss with
  | nil =>
    constructor
    · intro h
      cases h
    · rintro ⟨⟨v, ⟨⟩, -⟩, -⟩
  | cons m members ih =>
    obtain ⟨name, v⟩ := m
    rw [List.map_cons, List.nodup_cons] at h
    rw [fillMembers_cons]
    by_cases hname : name = key
    · subst hname
      -- it fills the first slot, and no member after it has this key
      rw [fillValue_none, filter_cons_key h.1]
      simp only [mem_cons_key_iff h.1, exists_eq_left, Checked.bind_eq_ok_iff,
        Checked.map_eq_ok_iff, exists_exists_and_eq_and, fillMembers_of_not_mem h.1, slots_inj,
        Option.some.injEq]
      constructor
      · rintro ⟨b, hb, r, hr, rfl, rfl⟩
        exact ⟨hb, hr⟩
      · rintro ⟨ha, hss⟩
        exact ⟨a, ha, ss', hss, rfl, rfl⟩
    · have hfilter : ((name, v) :: members).filter (·.1 ≠ key) =
          (name, v) :: members.filter (·.1 ≠ key) :=
        List.filter_cons_of_pos (decide_eq_true hname)
      rw [fillValue_of_ne v hname, hfilter, fillMembers_cons]
      simp only [List.mem_cons, Prod.mk.injEq, Ne.symm hname, false_and, false_or,
        Checked.bind_eq_ok_iff, Checked.map_eq_ok_iff, exists_exists_and_eq_and, ih h.2]
      constructor
      · rintro ⟨r, hr, hfirst, hrest⟩
        exact ⟨hfirst, r, hr, hrest⟩
      · rintro ⟨hfirst, r, hr, hrest⟩
        exact ⟨r, hr, hfirst, hrest⟩

theorem complete_eq_ok_iff {a : α} {t : β} :
    (field key d none others).complete (slots key d none s ss) = .ok (a, t) ↔
      s = some a ∧ others.complete ss = .ok t := by
  cases s with
  | none => exact iff_of_false nofun fun h => nomatch h.1
  | some b =>
    change (others.complete ss).map (b, ·) = _ ↔ _
    simp only [Checked.map_eq_ok_iff, Prod.mk.injEq, Option.some.injEq]
    constructor
    · rintro ⟨t, ht, rfl, rfl⟩
      exact ⟨rfl, ht⟩
    · rintro ⟨rfl, ht⟩
      exact ⟨t, ht, rfl, rfl⟩

end Slots

theorem fillMembers_done (members : List (String × Value)) :
    done.fillMembers () members = .ok () := by
  induction members with
  | nil => rfl
  | cons m members ih => exact ih

namespace Fits

variable {fs : Fields τ} {t : τ} {fields : List (String × (Value → Prop))}

/-- An object that has every field gives the data. -/
theorem of_present (h : fs.Fits t fields) (hkeys : (fields.map Prod.fst).Nodup)
    {members : List (String × Value)} (distinct : (members.map Prod.fst).Nodup)
    (present : ∀ f ∈ fields, ∃ v, (f.1, v) ∈ members ∧ f.2 v) :
    ∃ r, fs.fillMembers fs.noSlots members = .ok r ∧ fs.complete r = .ok t := by
  induction h generalizing members with
  | done => exact ⟨(), fillMembers_done members, rfl⟩
  | @field α β key d a form others t rest first _ ih =>
    rw [List.map_cons, List.nodup_cons] at hkeys
    rw [List.forall_mem_cons] at present
    obtain ⟨⟨v, hv, hform⟩, present⟩ := present
    -- the other fields stand under other keys
    have hothers : ∀ f ∈ rest, ∃ w, (f.1, w) ∈ members.filter (·.1 ≠ key) ∧ f.2 w := by
      intro f hf
      obtain ⟨w, hw, hfw⟩ := present f hf
      have hne : f.1 ≠ key := fun heq => hkeys.1 (List.mem_map.2 ⟨f, hf, heq⟩)
      exact ⟨w, List.mem_filter.2 ⟨hw, decide_eq_true hne⟩, hfw⟩
    have hsub : (members.filter (·.1 ≠ key)).Sublist members := List.filter_sublist
    obtain ⟨r, hfill, hr⟩ := ih hkeys.2 ((hsub.map Prod.fst).nodup distinct) hothers
    exact ⟨slots key d none (some a) r,
      (fillMembers_eq_ok_iff distinct).2 ⟨⟨v, hv, first.of_form v hform⟩, hfill⟩,
      complete_eq_ok_iff.2 ⟨rfl, hr⟩⟩

/-- An object that gives the data has every field. -/
theorem present (h : fs.Fits t fields) {members : List (String × Value)}
    (distinct : (members.map Prod.fst).Nodup) (hm : ∀ m ∈ members, m.2.NoRepeats) {r : fs.Slots}
    (hfill : fs.fillMembers fs.noSlots members = .ok r) (hr : fs.complete r = .ok t) :
    ∀ f ∈ fields, ∃ v, (f.1, v) ∈ members ∧ f.2 v := by
  induction h generalizing members with
  | done => exact List.forall_mem_nil _
  | @field α β key d a form others t rest first _ ih =>
    obtain ⟨s, ss, rfl⟩ := slots_surjective r
    obtain ⟨rfl, hss⟩ := complete_eq_ok_iff.1 hr
    obtain ⟨⟨v, hv, hread⟩, hfill⟩ := (fillMembers_eq_ok_iff distinct).1 hfill
    have hsub : (members.filter (·.1 ≠ key)).Sublist members := List.filter_sublist
    refine List.forall_mem_cons.2 ⟨⟨v, hv, first.to_form v (hm _ hv) hread⟩, fun f hf => ?_⟩
    obtain ⟨w, hw, hform⟩ := ih ((hsub.map Prod.fst).nodup distinct)
      (fun m hmem => hm m (hsub.subset hmem)) hfill hss f hf
    exact ⟨w, hsub.subset hw, hform⟩

/-- The array of the fields in order gives the data. -/
theorem ofItems_eq_ok (h : fs.Fits t fields) {items : List Value}
    (inOrder : List.Forall₂ (fun f v => f.2 v) fields items) (expected : String)
    (size before : Nat) : fs.ofItems expected size before items = .ok t := by
  induction h generalizing items before with
  | done =>
    cases inOrder
    rfl
  | field first _ ih =>
    cases inOrder with
    | cons hv hrest =>
      rw [ofItems, first.of_form _ hv, Checked.ok_bind, ih hrest]
      rfl

/-- An array that gives the data is that of the fields in order. -/
theorem inOrder (h : fs.Fits t fields) {items : List Value} (hi : ∀ v ∈ items, v.NoRepeats)
    {expected : String} {size before : Nat}
    (hread : fs.ofItems expected size before items = .ok t) :
    List.Forall₂ (fun f v => f.2 v) fields items := by
  induction h generalizing items before with
  | done =>
    cases items with
    | nil => exact .nil
    | cons v items => cases hread
  | field first _ ih =>
    cases items with
    | nil => cases hread
    | cons v items =>
      rw [List.forall_mem_cons] at hi
      obtain ⟨a, ha, hrest⟩ := Checked.bind_eq_ok_iff.1 hread
      obtain ⟨t, ht, ⟨⟩⟩ := Checked.map_eq_ok_iff.1 hrest
      exact .cons (first.to_form v hi.1 ha) (ih hi.2 ht)

end Fits

end Fields

/-- The decoder of a record takes it from its forms, and from nothing else without repeated
keys. -/
theorem Decoder.record_readsAs {fs : Fields τ} {t : τ} {fields : List (String × (Value → Prop))}
    {build : τ → α} (name : String) (hfits : fs.Fits t fields)
    (hkeys : (fields.map Prod.fst).Nodup) (hbuild : Function.Injective build) :
    (record name fs build).ReadsAs (build t) (RecordForm fields) where
  of_form := by
    rintro v (⟨distinct, present⟩ | ⟨inOrder⟩)
    · rename_i members
      have hperm := lastMembers_perm distinct
      obtain ⟨r, hfill, hr⟩ := hfits.of_present hkeys
        ((hperm.map Prod.fst).nodup_iff.2 distinct)
        fun f hf => (present f hf).imp fun v hv => ⟨hperm.mem_iff.2 hv.1, hv.2⟩
      exact Checked.bind_eq_ok_iff.2 ⟨r, hfill, Checked.map_eq_ok_iff.2 ⟨t, hr, rfl⟩⟩
    · exact Checked.map_eq_ok_iff.2 ⟨t, hfits.ofItems_eq_ok inOrder _ _ _, rfl⟩
  to_form v hv hread := by
    cases v with
    | object members =>
      obtain ⟨distinct, hm⟩ := hv
      rw [Value.noRepeatsMembers_iff] at hm
      obtain ⟨r, hfill, hr⟩ := Checked.bind_eq_ok_iff.1 hread
      obtain ⟨t', hr, heq⟩ := Checked.map_eq_ok_iff.1 hr
      cases hbuild heq
      have hperm := lastMembers_perm distinct
      have hpresent := hfits.present ((hperm.map Prod.fst).nodup_iff.2 distinct)
        (fun m hmem => hm m (hperm.mem_iff.1 hmem)) hfill hr
      exact .object distinct fun f hf =>
        (hpresent f hf).imp fun v hv => ⟨hperm.mem_iff.1 hv.1, hv.2⟩
    | array items =>
      obtain ⟨t', hr, heq⟩ := Checked.map_eq_ok_iff.1 hread
      cases hbuild heq
      exact .array (hfits.inOrder (Value.noRepeatsItems_iff.1 hv) hr)
    | _ => cases hread

end Transit.Json
