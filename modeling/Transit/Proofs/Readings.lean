import Mathlib.Data.List.DropRight
import Transit.Json.Record
import Transit.Json.Tree
import Transit.Proofs.Loops

/-!
# What readers give

`Gives x a rest`: the reading `x` takes `a` from the front of its text and leaves `rest`. The laws
below say it of the readers of marks, words and values, so that proofs about readers need no
lengths.

* `ValueAt c tail v rest`: the ways in which a value `v` stands at `c :: tail`, one for each kind.
* `gives_values_cons`, `gives_members_cons` and their `nil` forms: lists and objects, one item at a
  time.
-/

namespace Transit.Json

variable {α β : Type} {cs cs' rest : List Char} {a : α} {b : β}

/-- The reading takes `a` and leaves `rest`. -/
def Gives (x : Except ReadError (Read α cs)) (a : α) (rest : List Char) : Prop :=
  ∃ t, x = .ok t ∧ t.value = a ∧ t.rest = rest

theorem gives_ok {t : Read α cs} : Gives (.ok t) a rest ↔ t.value = a ∧ t.rest = rest := by
  constructor
  · rintro ⟨_, ⟨⟩, h⟩
    exact h
  · intro h
    exact ⟨t, rfl, h⟩

theorem not_gives_error {e : ReadError} :
    ¬ Gives (.error e : Except ReadError (Read α cs)) a rest :=
  nofun

/-- A reading has one outcome. -/
theorem Gives.iff {x : Except ReadError (Read α cs)} {a' : α} {rest' : List Char}
    (h : Gives x a rest) : Gives x a' rest' ↔ a' = a ∧ rest' = rest := by
  obtain ⟨t, rfl, rfl, rfl⟩ := h
  rw [gives_ok, eq_comm, @eq_comm _ t.rest]

theorem gives_bind {x : Except ReadError (Read α cs)}
    {f : Read α cs → Except ReadError (Read β cs')} :
    Gives (x >>= f) b rest ↔ ∃ t, x = .ok t ∧ Gives (f t) b rest := by
  cases x with
  | error e => exact iff_of_false nofun (by rintro ⟨_, ⟨⟩, -⟩)
  | ok t =>
    constructor
    · intro h
      exact ⟨t, rfl, h⟩
    · rintro ⟨_, ⟨⟩, h⟩
      exact h

theorem gives_widen {x : Except ReadError (Read α cs)} {h : cs.length ≤ cs'.length} :
    Gives (x >>= fun t => pure (t.widen h)) a rest ↔ Gives x a rest := by
  simp only [gives_bind, Checked.pure_eq_ok, gives_ok]
  exact Iff.rfl

theorem gives_behind {x : Except ReadError (Read α cs)} {c : Char} :
    Gives (x >>= fun t => pure (t.behind c)) a rest ↔ Gives x a rest := gives_widen

theorem gives_map {x : Except ReadError (Read α cs)} {f : α → β} :
    Gives (x >>= fun t => pure (t.map f)) b rest ↔ ∃ a, Gives x a rest ∧ f a = b := by
  simp only [gives_bind, Checked.pure_eq_ok, gives_ok]
  constructor
  · rintro ⟨t, ht, rfl, rfl⟩
    exact ⟨t.value, ⟨t, ht, rfl, rfl⟩, rfl⟩
  · rintro ⟨_, ⟨t, ht, rfl, rfl⟩, rfl⟩
    exact ⟨t, ht, rfl, rfl⟩

theorem gives_map_widen {x : Except ReadError (Read α cs)} {f : α → β}
    {h : cs.length ≤ cs'.length} :
    Gives (x >>= fun t => pure ((t.map f).widen h)) b rest ↔ ∃ a, Gives x a rest ∧ f a = b :=
  Iff.trans (by simp only [gives_bind, Checked.pure_eq_ok, gives_ok]; exact Iff.rfl) gives_map

theorem gives_map_behind {x : Except ReadError (Read α cs)} {f : α → β} {c : Char} :
    Gives (x >>= fun t => pure ((t.map f).behind c)) b rest ↔ ∃ a, Gives x a rest ∧ f a = b :=
  gives_map_widen

theorem gives_map_behind_widen {x : Except ReadError (Read α cs)} {f : α → β} {c : Char}
    {h : (c :: cs).length ≤ cs'.length} :
    Gives (x >>= fun t => pure (((t.map f).behind c).widen h)) b rest ↔
      ∃ a, Gives x a rest ∧ f a = b :=
  Iff.trans (by simp only [gives_bind, Checked.pure_eq_ok, gives_ok]; exact Iff.rfl) gives_map

/-- A reader that passes white space reads at the first character behind it. -/
theorem gives_atFront {u : Unfinished}
    {r : (c : Char) → (rest : List Char) → Except ReadError (Read α (c :: rest))} :
    Gives (atFront u r cs) a rest ↔
      ∃ c tail, skipBlank cs = c :: tail ∧ Gives (r c tail) a rest := by
  unfold atFront
  split
  · rename_i h
    simp [h, not_gives_error]
  · rename_i c tail h
    rw [gives_widen]
    constructor
    · intro hr
      exact ⟨c, tail, h, hr⟩
    · rintro ⟨_, _, h', hr⟩
      cases h.symm.trans h'
      exact hr

/-- White space is passed once. -/
theorem skipBlank_skipBlank (cs : List Char) : skipBlank (skipBlank cs) = skipBlank cs :=
  List.dropWhile_idempotent _ _

/-! ### Marks -/

theorem gives_closeList {u : Unit} : Gives (closeList cs) u rest ↔ skipBlank cs = ']' :: rest := by
  unfold closeList
  rw [gives_atFront]
  constructor
  · rintro ⟨c, tail, h, hr⟩
    split at hr
    · rename_i hc
      subst hc
      obtain ⟨-, rfl⟩ := gives_ok.1 hr
      exact h
    · split at hr <;> exact absurd hr not_gives_error
  · intro h
    exact ⟨']', rest, h, gives_ok.2 ⟨rfl, rfl⟩⟩

theorem gives_colon {u : Unit} : Gives (colon cs) u rest ↔ skipBlank cs = ':' :: rest := by
  unfold colon
  rw [gives_atFront]
  constructor
  · rintro ⟨c, tail, h, hr⟩
    split at hr
    · rename_i hc
      subst hc
      obtain ⟨-, rfl⟩ := gives_ok.1 hr
      exact h
    · exact absurd hr not_gives_error
  · intro h
    exact ⟨':', rest, h, gives_ok.2 ⟨rfl, rfl⟩⟩

theorem gives_afterColon {r : Reader α} :
    Gives (afterColon r cs) a rest ↔ ∃ mid, skipBlank cs = ':' :: mid ∧ Gives (r mid) a rest := by
  unfold afterColon
  rw [gives_bind]
  simp only [gives_widen]
  constructor
  · rintro ⟨t, ht, hr⟩
    exact ⟨t.rest, gives_colon.1 ⟨t, ht, rfl, rfl⟩, hr⟩
  · rintro ⟨mid, h, hr⟩
    obtain ⟨t, ht, -, rfl⟩ := gives_colon (u := ()).2 h
    exact ⟨t, ht, hr⟩

/-- Where the next item of a list is, or that the list closes. -/
inductive ItemAt : Bool → List Char → Option (List Char) → Prop
  | close {first : Bool} {cs tail : List Char} (h : skipBlank cs = ']' :: tail) :
      ItemAt first cs none
  | first {cs tail : List Char} {c : Char} (h : skipBlank cs = c :: tail) (hc : c ≠ ']') :
      ItemAt true cs (some (c :: tail))
  | next {cs mid tail : List Char} {c : Char} (h : skipBlank cs = ',' :: mid)
      (h' : skipBlank mid = c :: tail) (hc : c ≠ ']') : ItemAt false cs (some (c :: tail))

theorem itemAt_of_nextItem {first : Bool} {item : Option (List Char)}
    (h : nextItem first cs = .ok item) : ItemAt first cs item := by
  unfold nextItem at h
  split at h
  · cases h
  · rename_i c tail hcs
    split at h
    · rename_i hc
      subst hc
      cases h
      exact .close hcs
    · rename_i hc
      split at h
      · rename_i hfirst
        subst hfirst
        cases h
        exact .first hcs hc
      · rename_i hfirst
        split at h
        · rename_i hcomma
          subst hcomma
          split at h
          · cases h
          · rename_i c' tail' hmid
            split at h
            · cases h
            · rename_i hc'
              cases h
              rw [Bool.not_eq_true] at hfirst
              subst hfirst
              exact .next hcs hmid hc'
        · cases h

/-- Where the next key of an object is and what it is, or that the object closes. -/
inductive KeyAt : Bool → List Char → Option String → List Char → Prop
  | close {first : Bool} {cs rest : List Char} (h : skipBlank cs = '}' :: rest) :
      KeyAt first cs none rest
  | first {cs tail rest : List Char} {key : String} (h : skipBlank cs = '"' :: tail)
      (hkey : Gives (text tail) key rest) : KeyAt true cs (some key) rest
  | next {cs mid tail rest : List Char} {key : String} (h : skipBlank cs = ',' :: mid)
      (h' : skipBlank mid = '"' :: tail) (hkey : Gives (text tail) key rest) :
      KeyAt false cs (some key) rest

theorem gives_key {c : Char} {tail : List Char} {name : String} :
    Gives (key c tail) name rest ↔ c = '"' ∧ Gives (text tail) name rest := by
  unfold key
  split
  · rename_i hc
    rw [gives_behind, and_iff_right hc]
  · rename_i hc
    exact iff_of_false not_gives_error fun h => hc h.1

theorem keyAt_of_nextKey {first : Bool} {key : Option String}
    (h : Gives (nextKey first cs) key rest) : KeyAt first cs key rest := by
  rw [nextKey, gives_atFront] at h
  obtain ⟨c, tail, hcs, h⟩ := h
  split at h
  · rename_i hc
    subst hc
    obtain ⟨rfl, rfl⟩ := gives_ok.1 h
    exact .close hcs
  · split at h
    · rename_i hfirst
      subst hfirst
      obtain ⟨name, hname, rfl⟩ := gives_map.1 h
      obtain ⟨rfl, hkey⟩ := gives_key.1 hname
      exact .first hcs hkey
    · rename_i hfirst
      rw [Bool.not_eq_true] at hfirst
      subst hfirst
      split at h
      · rename_i hcomma
        subst hcomma
        obtain ⟨name, hname, rfl⟩ := gives_map_behind.1 h
        obtain ⟨c, tail', hmid, h⟩ := gives_atFront.1 hname
        split at h
        · exact absurd h not_gives_error
        · obtain ⟨rfl, hkey⟩ := gives_key.1 h
          exact .next hcs hmid hkey
      · exact absurd h not_gives_error

/-! ### Words -/

theorem gives_readWord {letters : List Char} {c : Char} {tail : List Char} {a' : α} :
    Gives (readWord a letters c tail) a' rest ↔ a = a' ∧ word letters tail = .ok rest := by
  unfold readWord
  split
  · rename_i r h
    rw [gives_ok]
    constructor
    · rintro ⟨rfl, rfl⟩
      exact ⟨rfl, h⟩
    · rintro ⟨rfl, h'⟩
      cases h.symm.trans h'
      exact ⟨rfl, rfl⟩
  · rename_i e h
    refine iff_of_false not_gives_error ?_
    rintro ⟨-, h'⟩
    cases h.symm.trans h'

/-! ### Values -/

/-- The ways in which a value stands at a text that starts with `c`. -/
inductive ValueAt : Char → List Char → Value → List Char → Prop
  | string {tail rest : List Char} {s : String} (h : Gives (text tail) s rest) :
      ValueAt '"' tail (.string s) rest
  | array {tail rest : List Char} {items : List Value} (h : Gives (values true tail) items rest) :
      ValueAt '[' tail (.array items) rest
  | object {tail rest : List Char} {ms : List (String × Value)}
      (h : Gives (members true tail) ms rest) : ValueAt '{' tail (.object ms) rest
  | number {c : Char} {tail rest : List Char} {x : Number} (hc : c = '-' ∨ c.isDigit)
      (h : Gives (number (c :: tail)) x rest) : ValueAt c tail (.number x) rest
  | null {tail rest : List Char} (h : word ['u', 'l', 'l'] tail = .ok rest) :
      ValueAt 'n' tail .null rest
  | true {tail rest : List Char} (h : word ['r', 'u', 'e'] tail = .ok rest) :
      ValueAt 't' tail (.bool true) rest
  | false {tail rest : List Char} (h : word ['a', 'l', 's', 'e'] tail = .ok rest) :
      ValueAt 'f' tail (.bool false) rest

/-- A number starts with its sign or a digit, so with no other character. -/
theorem ne_of_number {c d : Char} (hc : c = '-' ∨ c.isDigit) (hd : ¬ (d = '-' ∨ d.isDigit)) :
    c ≠ d :=
  fun he => hd (he ▸ hc)

/-- What is read as a value stands behind white space, in one of these ways. -/
theorem valueAt_of_value {v : Value} (h : Gives (value cs) v rest) :
    ∃ c tail, skipBlank cs = c :: tail ∧ ValueAt c tail v rest := by
  rw [value] at h
  split at h
  · exact absurd h not_gives_error
  rename_i c tail hcs
  refine ⟨c, tail, hcs, ?_⟩
  -- one kind of value for each character in front
  split at h
  · rename_i hc
    subst hc
    obtain ⟨s, hs, rfl⟩ := gives_map_behind_widen.1 h
    exact .string hs
  split at h
  · rename_i hc
    subst hc
    obtain ⟨items, hitems, rfl⟩ := gives_map_behind_widen.1 h
    exact .array hitems
  split at h
  · rename_i hc
    subst hc
    obtain ⟨ms, hms, rfl⟩ := gives_map_behind_widen.1 h
    exact .object hms
  split at h
  · rename_i hc
    obtain ⟨x, hx, rfl⟩ := gives_map_widen.1 h
    exact .number hc hx
  split at h
  · rename_i hc
    subst hc
    obtain ⟨rfl, hw⟩ := gives_readWord.1 (gives_widen.1 h)
    exact .null hw
  split at h
  · rename_i hc
    subst hc
    obtain ⟨rfl, hw⟩ := gives_readWord.1 (gives_widen.1 h)
    exact .true hw
  split at h
  · rename_i hc
    subst hc
    obtain ⟨rfl, hw⟩ := gives_readWord.1 (gives_widen.1 h)
    exact .false hw
  · exact absurd h not_gives_error

/-- What stands behind white space in one of these ways is read as a value. -/
theorem gives_value {c : Char} {tail : List Char} {v : Value} (hcs : skipBlank cs = c :: tail)
    (hv : ValueAt c tail v rest) : Gives (value cs) v rest := by
  rw [value]
  split
  · rename_i h
    cases hcs.symm.trans h
  rename_i c' tail' h
  cases hcs.symm.trans h
  cases hv with
  | string h =>
    rw [if_pos rfl, gives_map_behind_widen]
    exact ⟨_, h, rfl⟩
  | array h =>
    rw [if_neg (by decide), if_pos rfl, gives_map_behind_widen]
    exact ⟨_, h, rfl⟩
  | object h =>
    rw [if_neg (by decide), if_neg (by decide), if_pos rfl, gives_map_behind_widen]
    exact ⟨_, h, rfl⟩
  | number hc h =>
    rw [if_neg (ne_of_number hc (by decide)), if_neg (ne_of_number hc (by decide)),
      if_neg (ne_of_number hc (by decide)), if_pos hc, gives_map_widen]
    exact ⟨_, h, rfl⟩
  | null h =>
    rw [if_neg (by decide), if_neg (by decide), if_neg (by decide), if_neg (by decide),
      if_pos rfl, gives_widen]
    exact gives_readWord.2 ⟨rfl, h⟩
  | true h =>
    rw [if_neg (by decide), if_neg (by decide), if_neg (by decide), if_neg (by decide),
      if_neg (by decide), if_pos rfl, gives_widen]
    exact gives_readWord.2 ⟨rfl, h⟩
  | false h =>
    rw [if_neg (by decide), if_neg (by decide), if_neg (by decide), if_neg (by decide),
      if_neg (by decide), if_neg (by decide), if_pos rfl, gives_widen]
    exact gives_readWord.2 ⟨rfl, h⟩

/-- White space before a value does not matter. -/
theorem gives_value_of_skipBlank_eq {cs' : List Char} {v : Value} (h : skipBlank cs = skipBlank cs')
    (hv : Gives (value cs) v rest) : Gives (value cs') v rest := by
  obtain ⟨c, tail, hcs, hat⟩ := valueAt_of_value hv
  exact gives_value (h.symm.trans hcs) hat

/-! ### Lists -/

section Items

variable {r : Reader α} {first : Bool} {as : List α}

theorem gives_readItems_nil :
    Gives (Decoder.readItems r first cs) [] rest ↔
      nextItem first cs = .ok none ∧ skipBlank cs = ']' :: rest := by
  rw [Decoder.readItems]
  split
  · rename_i h
    refine iff_of_false not_gives_error ?_
    rintro ⟨h', -⟩
    cases h.symm.trans h'
  · rename_i h
    rw [gives_map, and_iff_right h]
    simp [gives_closeList]
  · rename_i h
    refine iff_of_false (fun hnil => ?_) ?_
    · split at hnil
      · exact not_gives_error hnil
      split at hnil
      · exact not_gives_error hnil
      · cases (gives_ok.1 hnil).1
    · rintro ⟨h', -⟩
      cases h.symm.trans h'

theorem gives_readItems_cons :
    Gives (Decoder.readItems r first cs) (a :: as) rest ↔
      ∃ item mid, nextItem first cs = .ok (some item) ∧ Gives (r item) a mid ∧
        Gives (Decoder.readItems r false mid) as rest := by
  rw [Decoder.readItems]
  split
  · rename_i h
    refine iff_of_false not_gives_error ?_
    rintro ⟨_, _, h', -⟩
    cases h.symm.trans h'
  · rename_i h
    refine iff_of_false (fun hnil => ?_) ?_
    · obtain ⟨_, -, ⟨⟩⟩ := gives_map.1 hnil
    · rintro ⟨_, _, h', -⟩
      cases h.symm.trans h'
  · rename_i item h
    constructor
    · intro hread
      split at hread
      · exact absurd hread not_gives_error
      rename_i t ht
      split at hread
      · exact absurd hread not_gives_error
      rename_i ts hts
      obtain ⟨hcons, rfl⟩ := gives_ok.1 hread
      cases hcons
      exact ⟨item, t.rest, h, ⟨t, ht, rfl, rfl⟩, ts, hts, rfl, rfl⟩
    · rintro ⟨_, _, h', ⟨t, ht, rfl, rfl⟩, ts, hts, rfl, rfl⟩
      cases h.symm.trans h'
      split
      · rename_i he
        cases ht.symm.trans he
      rename_i t' ht'
      cases ht.symm.trans ht'
      split
      · rename_i he
        cases hts.symm.trans he
      rename_i ts' hts'
      cases hts.symm.trans hts'
      exact gives_ok.2 ⟨rfl, rfl⟩

/-- The items of a list are values. -/
theorem values_eq (first : Bool) (cs : List Char) :
    values first cs = Decoder.readItems value first cs := by
  induction h : cs.length using Nat.strong_induction_on generalizing first cs with
  | _ n ih =>
    subst h
    rw [Decoder.readItems]
    split
    · rename_i hitem
      rw [values]
      split <;> rename_i h <;> cases hitem.symm.trans h
      rfl
    · rename_i hitem
      rw [values]
      split <;> rename_i h <;> cases hitem.symm.trans h
      rfl
    · rename_i item hitem
      -- the right side is reduced first, so that the left side is the only one to split
      cases hv : value item with
      | error e =>
        dsimp only
        rw [values]
        split <;> rename_i h <;> cases hitem.symm.trans h
        simp only [hv]
      | ok v =>
        have hlt : v.rest.length < cs.length :=
          Nat.lt_of_lt_of_le v.shorter (length_nextItem hitem)
        have ih' := ih _ hlt false _ rfl
        cases hvs : Decoder.readItems value false v.rest with
        | error e =>
          dsimp only
          rw [values]
          split <;> rename_i h <;> cases hitem.symm.trans h
          simp only [hv, ih', hvs]
        | ok vs =>
          dsimp only
          rw [values]
          split <;> rename_i h <;> cases hitem.symm.trans h
          simp only [hv, ih', hvs]

variable {v : Value} {vs : List Value}

theorem gives_values_nil :
    Gives (values first cs) [] rest ↔
      nextItem first cs = .ok none ∧ skipBlank cs = ']' :: rest := by
  rw [values_eq]
  exact gives_readItems_nil

theorem gives_values_cons :
    Gives (values first cs) (v :: vs) rest ↔
      ∃ item mid, nextItem first cs = .ok (some item) ∧ Gives (value item) v mid ∧
        Gives (values false mid) vs rest := by
  simp only [values_eq]
  exact gives_readItems_cons

end Items

/-! ### Objects -/

section Members

variable {first : Bool} {name : String} {v : Value} {ms : List (String × Value)}

theorem gives_members_nil :
    Gives (members first cs) [] rest ↔ Gives (nextKey first cs) none rest := by
  rw [members]
  split
  · rename_i h
    rw [h]
    exact iff_of_false not_gives_error not_gives_error
  · rename_i h
    rw [h, gives_ok, gives_ok, and_iff_right rfl, and_iff_right rfl]
  · rename_i h
    rw [h]
    refine iff_of_false (fun hnil => ?_) fun h' => ?_
    · split at hnil
      · exact not_gives_error hnil
      split at hnil
      · exact not_gives_error hnil
      split at hnil
      · exact not_gives_error hnil
      · cases (gives_ok.1 hnil).1
    · cases (gives_ok.1 h').1

theorem gives_members_cons :
    Gives (members first cs) ((name, v) :: ms) rest ↔
      ∃ behind start mid, Gives (nextKey first cs) (some name) behind ∧
        skipBlank behind = ':' :: start ∧ Gives (value start) v mid ∧
        Gives (members false mid) ms rest := by
  rw [members]
  split
  · rename_i h
    rw [h]
    refine iff_of_false not_gives_error ?_
    rintro ⟨_, _, _, h', -⟩
    exact not_gives_error h'
  · rename_i h
    rw [h]
    refine iff_of_false (fun hnil => ?_) ?_
    · cases (gives_ok.1 hnil).1
    · rintro ⟨_, _, _, h', -⟩
      cases (gives_ok.1 h').1
  · rename_i name' behind hlt h
    rw [h]
    constructor
    · intro hread
      split at hread
      · exact absurd hread not_gives_error
      rename_i mark hmark
      split at hread
      · exact absurd hread not_gives_error
      rename_i t ht
      split at hread
      · exact absurd hread not_gives_error
      rename_i ts hts
      obtain ⟨hcons, rfl⟩ := gives_ok.1 hread
      cases hcons
      exact ⟨behind, mark.rest, t.rest, gives_ok.2 ⟨rfl, rfl⟩,
        gives_colon.1 ⟨mark, hmark, rfl, rfl⟩, ⟨t, ht, rfl, rfl⟩, ts, hts, rfl, rfl⟩
    · rintro ⟨_, _, _, hkey, hcolon, ⟨t, ht, rfl, rfl⟩, ts, hts, rfl, rfl⟩
      obtain ⟨⟨⟩, rfl⟩ := gives_ok.1 hkey
      obtain ⟨mark, hmark, -, rfl⟩ := gives_colon (u := ()).2 hcolon
      split
      · rename_i he
        cases hmark.symm.trans he
      rename_i mark' hmark'
      cases hmark.symm.trans hmark'
      split
      · rename_i he
        cases ht.symm.trans he
      rename_i t' ht'
      cases ht.symm.trans ht'
      split
      · rename_i he
        cases hts.symm.trans he
      rename_i ts' hts'
      cases hts.symm.trans hts'
      exact gives_ok.2 ⟨rfl, rfl⟩

end Members

/-! ### Whole texts -/

theorem readAll_eq_ok_iff {r : Reader α} :
    readAll r cs = .ok a ↔ ∃ rest, Gives (r cs) a rest ∧ skipBlank rest = [] := by
  unfold readAll
  rw [Checked.bind_eq_ok_iff]
  constructor
  · rintro ⟨t, ht, h⟩
    split at h
    · rename_i hempty
      cases h
      exact ⟨t.rest, ⟨t, ht, rfl, rfl⟩, List.isEmpty_iff.1 hempty⟩
    · cases h
  · rintro ⟨rest, ⟨t, ht, rfl, rfl⟩, hempty⟩
    exact ⟨t, ht, if_pos (List.isEmpty_iff.2 hempty)⟩

end Transit.Json
