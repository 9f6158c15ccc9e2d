import Transit.Proofs.Forms

/-!
# The order of members

The members of an object fill the slots of a record in any order, as long as no key is repeated. So
the table that a value makes of its members does not matter.

* `Fields.fillMembers_perm`: members in another order.
* `Decoder.record_ofValue_object`: a record from the members in the order in which they stand.
* `Fields.Writes fs t members`: the members are the fields in order, and their values give `t`.
-/

namespace Transit.Json

variable {α β τ : Type}

namespace Fields

/-- A slot is filled once. -/
theorem fillValue_some {key : String} {d : Decoder α} {default? : Option α} {others : Fields β}
    {ss : others.Slots} {a : α} {v : Value} :
    (field key d default? others).fillValue key v (slots key d default? (some a) ss) =
      .error (.duplicateField key) :=
  (if_pos rfl).trans (if_pos rfl)

/-- A member for the first field and one for another field fill the slots in either order. -/
theorem fillValue_comm_first {key name : String} {d : Decoder α} {default? : Option α}
    {others : Fields β} (hne : name ≠ key) (v w : Value) (s : Option α) (ss : others.Slots)
    (r : (field key d default? others).Slots) :
    ((field key d default? others).fillValue key v (slots key d default? s ss) >>=
        (field key d default? others).fillValue name w) = .ok r ↔
      ((field key d default? others).fillValue name w (slots key d default? s ss) >>=
        (field key d default? others).fillValue key v) = .ok r := by
  rw [fillValue_of_ne w hne]
  cases s with
  | some a =>
    rw [fillValue_some]
    refine iff_of_false nofun fun h => ?_
    obtain ⟨_, hmap, h⟩ := Checked.bind_eq_ok_iff.1 h
    obtain ⟨ss', -, rfl⟩ := Checked.map_eq_ok_iff.1 hmap
    rw [fillValue_some] at h
    cases h
  | none =>
    rw [fillValue_none]
    simp only [Checked.bind_eq_ok_iff, Checked.map_eq_ok_iff, exists_exists_and_eq_and,
      fillValue_of_ne w hne, fillValue_none]
    constructor
    · rintro ⟨a, ha, ss', hss, hr⟩
      exact ⟨ss', hss, a, ha, hr⟩
    · rintro ⟨ss', hss, a, ha, hr⟩
      exact ⟨a, ha, ss', hss, hr⟩

/-- Members of two keys fill the slots in either order. -/
theorem fillValue_comm {name name' : String} (hne : name ≠ name') (v w : Value) (fs : Fields τ)
    (ss r : fs.Slots) :
    (fs.fillValue name v ss >>= fs.fillValue name' w) = .ok r ↔
      (fs.fillValue name' w ss >>= fs.fillValue name v) = .ok r := by
  induction fs with
  | done => exact Iff.rfl
  | @field α β key d default? others ih =>
    obtain ⟨s, ss, rfl⟩ := slots_surjective ss
    by_cases hname : name = key
    · subst hname
      exact fillValue_comm_first hne.symm v w s ss r
    by_cases hname' : name' = key
    · subst hname'
      exact (fillValue_comm_first hne w v s ss r).symm
    -- neither member is for the first field, whose slot stays as it is
    have hothers {x y : String} (hx : x ≠ key) (hy : y ≠ key) (v w : Value) :
        ((field key d default? others).fillValue x v (slots key d default? s ss) >>=
          (field key d default? others).fillValue y w) =
        (others.fillValue x v ss >>= others.fillValue y w).map (slots key d default? s) := by
      rw [fillValue_of_ne v hx]
      cases others.fillValue x v ss with
      | error e => rfl
      | ok ss' => exact fillValue_of_ne w hy
    rw [hothers hname hname', hothers hname' hname, Checked.map_eq_ok_iff, Checked.map_eq_ok_iff]
    exact exists_congr fun r' => and_congr_left fun _ => ih ss r'

/-- Members that repeat no key fill the slots in any order. -/
theorem fillMembers_perm (fs : Fields τ) {ms ms' : List (String × Value)} (hp : ms.Perm ms')
    (hd : (ms.map Prod.fst).Nodup) (ss r : fs.Slots) :
    fs.fillMembers ss ms = .ok r ↔ fs.fillMembers ss ms' = .ok r := by
  induction hp generalizing ss with
  | nil => exact Iff.rfl
  | cons m _ ih =>
    rw [List.map_cons, List.nodup_cons] at hd
    rw [fillMembers_cons, fillMembers_cons, Checked.bind_eq_ok_iff, Checked.bind_eq_ok_iff]
    exact exists_congr fun ss' => and_congr_right fun _ => ih hd.2 ss'
  | swap m m' ms =>
    obtain ⟨name, v⟩ := m
    obtain ⟨name', w⟩ := m'
    have hne : name' ≠ name := by
      rw [List.map_cons, List.map_cons, List.nodup_cons] at hd
      exact fun he => hd.1 (he ▸ List.mem_cons_self)
    simp only [fillMembers_cons, ← bind_assoc]
    rw [Checked.bind_eq_ok_iff, Checked.bind_eq_ok_iff]
    exact exists_congr fun ss' => and_congr_left fun _ => fillValue_comm hne _ _ fs ss ss'
  | trans hp _ ih ih' => exact (ih hd ss).trans (ih' ((hp.map _).nodup_iff.1 hd) ss)

/-- The members are the fields in order, and their values give the data. -/
inductive Writes : {τ : Type} → Fields τ → τ → List (String × Value) → Prop
  | done : Writes .done () []
  | field {α β : Type} {key : String} {d : Decoder α} {default? : Option α} {others : Fields β}
      {v : Value} {a : α} {t : β} {members : List (String × Value)} (first : d.ofValue v = .ok a)
      (others_write : Writes others t members) :
      Writes (.field key d default? others) (a, t) ((key, v) :: members)

theorem Writes.fillMembers {fs : Fields τ} {t : τ} {members : List (String × Value)}
    (h : fs.Writes t members) (hd : (members.map Prod.fst).Nodup) :
    ∃ ss, fs.fillMembers fs.noSlots members = .ok ss ∧ fs.complete ss = .ok t := by
  induction h with
  | done => exact ⟨(), rfl, rfl⟩
  | @field α β key d default? others v a t members first _ ih =>
    rw [List.map_cons, List.nodup_cons] at hd
    obtain ⟨ss, hfill, hcomplete⟩ := ih hd.2
    refine ⟨slots key d default? (some a) ss, ?_, ?_⟩
    · rw [fillMembers_cons]
      refine Checked.bind_eq_ok_iff.2 ⟨slots key d default? (some a) others.noSlots, ?_, ?_⟩
      · exact (fillValue_none v).trans (Checked.map_eq_ok_iff.2 ⟨a, first, rfl⟩)
      · rw [fillMembers_of_not_mem hd.1, hfill]
        rfl
    · exact Checked.map_eq_ok_iff.2 ⟨t, hcomplete, rfl⟩

end Fields

namespace Decoder

variable {fs : Fields τ} {build : τ → α} {name : String}

/-- A record is taken from an object that repeats no key, whatever the order of its members. -/
theorem record_ofValue_object {a : α} {ms : List (String × Value)} (hd : (ms.map Prod.fst).Nodup) :
    (record name fs build).ofValue (.object ms) = .ok a ↔
      ∃ ss t, fs.fillMembers fs.noSlots ms = .ok ss ∧ fs.complete ss = .ok t ∧ build t = a := by
  have hperm := lastMembers_perm hd
  refine Checked.bind_eq_ok_iff.trans (exists_congr fun ss => ?_)
  rw [fs.fillMembers_perm hperm ((hperm.map Prod.fst).nodup_iff.2 hd), Checked.map_eq_ok_iff,
    ← exists_and_left]

/-- A record comes from the object of its fields. -/
theorem record_ofValue_writes {t : τ} {members : List (String × Value)} (h : fs.Writes t members)
    (hd : (members.map Prod.fst).Nodup) :
    (record name fs build).ofValue (.object members) = .ok (build t) := by
  obtain ⟨ss, hfill, hcomplete⟩ := h.fillMembers hd
  exact (record_ofValue_object hd).2 ⟨ss, t, hfill, hcomplete, rfl⟩

end Decoder

end Transit.Json
