import Transit.Proofs.Readings

/-!
# Passing over what can be read

`skip` passes over a value without reading it. Where a value can be read, it ends where the reading
ends, whatever brackets are open around it.

* `resume opened cs`: to go on behind a value, inside the brackets `opened`.
* `inside b first opened cs`: to go on inside the bracket `b`, at its first item or behind one.
* `skipValue_of_value`: passing over a value and going on is going on behind it.
-/

namespace Transit.Json

variable {cs rest : List Char}

/-! ### Strings -/

theorem gives_text {s : String} :
    Gives (text cs) s rest ↔ ∃ ds, readText cs = .ok (ds, rest) ∧ String.ofList ds = s := by
  unfold text
  split
  · rename_i ds rest' h
    rw [gives_ok]
    constructor
    · rintro ⟨rfl, rfl⟩
      exact ⟨ds, h, rfl⟩
    · rintro ⟨_, h', rfl⟩
      cases h.symm.trans h'
      exact ⟨rfl, rfl⟩
  · rename_i e h
    refine iff_of_false not_gives_error ?_
    rintro ⟨_, h', -⟩
    cases h.symm.trans h'

theorem skipText_escape (h : skipEscape cs = .ok rest) : skipText ('\\' :: cs) = skipText rest := by
  rw [skipText, if_neg (by decide), if_pos rfl]
  split
  · rename_i h'
    cases h.symm.trans h'
  · rename_i rest' h'
    cases h.symm.trans h'
    rfl

theorem skipEscape_unit {n : Nat} (h : readUnit cs = .ok (n, rest)) :
    skipEscape ('u' :: cs) = .ok rest := by
  rw [skipEscape, if_pos rfl, h]
  rfl

/-- Passing over a pair of halves takes two escapes. -/
theorem skipText_of_readEscape {c : Char} (h : readEscape cs = .ok (c, rest)) :
    skipText ('\\' :: cs) = skipText rest := by
  unfold readEscape at h
  split at h
  · cases h
  rename_i u tail
  split at h
  · rename_i hu
    subst hu
    split at h
    · cases h
    rename_i n low hunit
    rw [skipText_escape (skipEscape_unit hunit)]
    split at h
    · cases h
    split at h
    · unfold readLow at h
      split at h
      · cases h
      · split at h <;> cases h
      · rename_i c' u' tail'
        split at h
        · rename_i hcu
          obtain ⟨rfl, rfl⟩ := hcu
          split at h
          · cases h
          · rename_i n' rest' hunit'
            split at h
            · obtain ⟨-, rfl⟩ := Prod.mk.inj (Except.ok.inj h)
              exact skipText_escape (skipEscape_unit hunit')
            · cases h
        · cases h
    · cases h
      rfl
  · rename_i hu
    refine skipText_escape ?_
    rw [skipEscape, if_neg hu]
    split at h
    · cases h
      rfl
    · cases h

theorem skipText_of_readText {ds : List Char} (h : readText cs = .ok (ds, rest)) :
    skipText cs = .ok rest := by
  fun_induction readText cs generalizing ds with
  | case1 => cases h
  | case2 =>
    cases h
    rw [skipText, if_pos rfl]
  | case3 => cases h
  | case4 tail x tail' hescape _ _ ih =>
    obtain ⟨p, hp, heq⟩ := Checked.map_eq_ok_iff.1 h
    cases heq
    rw [skipText_of_readEscape hescape]
    exact ih hp
  | case5 => cases h
  | case6 c tail hquote hescape hcontrol ih =>
    obtain ⟨p, hp, heq⟩ := Checked.map_eq_ok_iff.1 h
    cases heq
    rw [skipText, if_neg hquote, if_neg hescape, if_neg hcontrol]
    exact ih hp

/-! ### Numbers and scalars -/

namespace Numeral

variable {e e' : ReadError} {p : List Char × List Char}

theorem digits_of_ok (h : digits e cs = .ok p) : digits e' cs = .ok p := by
  unfold digits at h ⊢
  split at h
  · cases h
  · exact h

theorem wholePart_of_ok (h : wholePart e cs = .ok p) : wholePart e' cs = .ok p := by
  unfold wholePart at h ⊢
  split at h
  · exact h
  · exact digits_of_ok h

theorem fractionPart_of_ok {q : Option (List Char) × List Char} (h : fractionPart e cs = .ok q) :
    fractionPart e' cs = .ok q := by
  unfold fractionPart at h ⊢
  split at h
  · obtain ⟨p, hp, h⟩ := Checked.bind_eq_ok_iff.1 h
    exact Checked.bind_eq_ok_iff.2 ⟨p, digits_of_ok hp, h⟩
  · exact h

theorem exponentPart_of_ok {q : Option (Bool × List Char) × List Char}
    (h : exponentPart e cs = .ok q) : exponentPart e' cs = .ok q := by
  unfold exponentPart at h ⊢
  split at h
  · split at h
    · rename_i hc
      rw [if_pos hc]
      obtain ⟨p, hp, h⟩ := Checked.bind_eq_ok_iff.1 h
      exact Checked.bind_eq_ok_iff.2 ⟨p, digits_of_ok hp, h⟩
    · rename_i hc
      rw [if_neg hc]
      exact h
  · exact h

theorem lexUnsigned_of_ok {negative : Bool} {q : Numeral × List Char}
    (h : lexUnsigned e negative cs = .ok q) : lexUnsigned e' negative cs = .ok q := by
  obtain ⟨w, hw, h⟩ := Checked.bind_eq_ok_iff.1 h
  obtain ⟨f, hf, h⟩ := Checked.bind_eq_ok_iff.1 h
  obtain ⟨x, hx, h⟩ := Checked.bind_eq_ok_iff.1 h
  exact Checked.bind_eq_ok_iff.2 ⟨w, wholePart_of_ok hw,
    Checked.bind_eq_ok_iff.2 ⟨f, fractionPart_of_ok hf,
      Checked.bind_eq_ok_iff.2 ⟨x, exponentPart_of_ok hx, h⟩⟩⟩

/-- The parts of a number do not depend on the refusal of a text that ends inside it. -/
theorem lex_of_ok {q : Numeral × List Char} (h : lex e cs = .ok q) : lex e' cs = .ok q := by
  unfold lex at h ⊢
  split at h <;> exact lexUnsigned_of_ok h

end Numeral

theorem lex_of_number {x : Number} (h : Gives (number cs) x rest) :
    ∃ n, Numeral.lex (.ended .value) cs = .ok (n, rest) := by
  unfold number at h
  split at h
  · rename_i n rest' hlex
    obtain ⟨t, ht, -, rfl⟩ := h
    obtain ⟨x, -, hx⟩ := Checked.bind_eq_ok_iff.1 ht
    cases hx
    exact ⟨n, hlex⟩
  · exact absurd h not_gives_error

theorem skipScalar_of_number {c : Char} {tail : List Char} {x : Number} (hc : c = '-' ∨ c.isDigit)
    (h : Gives (number (c :: tail)) x rest) :
    Bracket.ofOpening? c = none ∧ skipScalar c tail = .ok rest := by
  obtain ⟨n, hlex⟩ := lex_of_number h
  constructor
  · rw [Bracket.ofOpening?, if_neg (ne_of_number hc (by decide)),
      if_neg (ne_of_number hc (by decide))]
  · rw [skipScalar, if_neg (ne_of_number hc (by decide)), if_neg (ne_of_number hc (by decide)),
      if_neg (ne_of_number hc (by decide)), if_pos hc, Numeral.lex_of_ok hlex]
    rfl

/-! ### Brackets -/

/-- What is left to pass over: nothing, or the values inside the brackets that are open. -/
def proceed : List Bracket × List Char → Except ReadError (List Char)
  | ([], rest) => .ok rest
  | (b :: outer, rest) => skipValue (b :: outer) rest

/-- Go on behind a value inside brackets. -/
def resume (opened : List Bracket) (cs : List Char) : Except ReadError (List Char) :=
  climb opened cs >>= proceed

/-- Where to go on inside a bracket, at its first item or behind one. -/
def Bracket.lead (b : Bracket) (first : Bool) (cs : List Char) :
    Except ReadError (Bool × List Char) :=
  if first then openBracket b cs else nextInBracket b cs

/-- Go on inside a bracket, at its first item or behind one. -/
def inside (b : Bracket) (first : Bool) (opened : List Bracket) (cs : List Char) :
    Except ReadError (List Char) :=
  b.lead first cs >>= fun p => if p.1 then skipValue (b :: opened) p.2 else resume opened p.2

variable {opened : List Bracket} {b : Bracket} {first : Bool} {tail : List Char} {c : Char}

theorem skipValue_eq (opened : List Bracket) (cs : List Char) :
    skipValue opened cs = skipStep opened cs >>= proceed := by
  rw [skipValue]
  split
  · rename_i h
    rw [h]
    rfl
  · rename_i h
    rw [h]
    rfl
  · rename_i b outer rest h
    have hp : skipStep opened cs >>= proceed = proceed (b :: outer, rest) := by
      rw [h]
      rfl
    exact hp.symm

theorem resume_nil : resume [] cs = .ok cs := rfl

theorem resume_cons : resume (b :: opened) cs = inside b false opened cs := by
  rw [resume, climb, inside, Bracket.lead, if_neg Bool.false_ne_true]
  split <;> rename_i h <;> rw [h] <;> rfl

/-- White space before a value does not matter. -/
theorem skipValue_of_skipBlank_eq {cs' : List Char} (h : skipBlank cs = skipBlank cs') :
    skipValue opened cs = skipValue opened cs' := by
  rw [skipValue_eq, skipValue_eq, skipStep, skipStep, h]

theorem skipValue_bracket (h : skipBlank cs = c :: tail) (hb : Bracket.ofOpening? c = some b) :
    skipValue opened cs = inside b true opened tail := by
  rw [skipValue_eq, skipStep, h, inside, Bracket.lead, if_pos rfl]
  simp only [hb]
  split <;> rename_i h <;> rw [h] <;> rfl

theorem skipValue_scalar (h : skipBlank cs = c :: tail) (hb : Bracket.ofOpening? c = none)
    (hs : skipScalar c tail = .ok rest) : skipValue opened cs = resume opened rest := by
  rw [skipValue_eq, skipStep, h]
  simp only [hb, hs]
  rfl

/-! ### Values -/

theorem inside_of_close (h : skipBlank cs = b.closing :: rest) :
    inside b first opened cs = resume opened rest := by
  have hcomma : b.closing ≠ ',' := by cases b <;> decide
  have hlead : b.lead first cs = .ok (false, rest) := by
    unfold Bracket.lead openBracket nextInBracket
    split
    · simp only [h, if_true]
    · simp only [h, hcomma, if_false, if_true]
  rw [inside, hlead]
  rfl

theorem inside_of_lead {start : List Char} (h : b.lead first cs = .ok (true, start)) :
    inside b first opened cs = skipValue (b :: opened) start := by
  rw [inside, h]
  rfl

/-- Where the next item of a list is, passing over goes on. -/
theorem lead_of_itemAt {item : List Char} (h : ItemAt first cs (some item)) :
    ∃ start, Bracket.list.lead first cs = .ok (true, start) ∧ skipBlank start = skipBlank item := by
  cases h with
  | @first _ tail c h hc =>
    refine ⟨c :: tail, ?_, rfl⟩
    rw [Bracket.lead, if_pos rfl, openBracket, h]
    exact if_neg hc
  | @next _ mid tail c h h' hc =>
    refine ⟨mid, ?_, by rw [← h', skipBlank_skipBlank]⟩
    rw [Bracket.lead, if_neg Bool.false_ne_true, nextInBracket, h]
    rfl

theorem gives_skipKey {u : Unit} {name : String} (h : skipBlank cs = '"' :: tail)
    (hkey : Gives (text tail) name rest) : Gives (skipKey cs) u rest := by
  rw [skipKey, gives_atFront]
  refine ⟨'"', tail, h, ?_⟩
  obtain ⟨ds, hds, -⟩ := gives_text.1 hkey
  have hskip := skipText_of_readText hds
  rw [if_pos rfl]
  split
  · rename_i rest' h'
    cases hskip.symm.trans h'
    exact gives_ok.2 ⟨rfl, rfl⟩
  · rename_i h'
    cases hskip.symm.trans h'

theorem skipLead_object {behind start : List Char} (hkey : Gives (skipKey cs) () behind)
    (hcolon : skipBlank behind = ':' :: start) : Bracket.object.skipLead cs = .ok start := by
  obtain ⟨k, hk, -, rfl⟩ := hkey
  obtain ⟨m, hm, -, rfl⟩ := gives_colon (u := ()).2 hcolon
  rw [Bracket.skipLead, hk, Checked.ok_bind, hm]
  rfl

/-- Where the next key of an object is, passing over goes on behind its colon. -/
theorem lead_of_keyAt {name : String} {behind start : List Char}
    (h : KeyAt first cs (some name) behind) (hcolon : skipBlank behind = ':' :: start) :
    Bracket.object.lead first cs = .ok (true, start) := by
  cases h with
  | @first _ tail _ _ h hkey =>
    have hfront : skipBlank ('"' :: tail) = '"' :: tail := by rw [← h, skipBlank_skipBlank]
    rw [Bracket.lead, if_pos rfl, openBracket, h]
    simp only [Bracket.closing, show ('"' : Char) ≠ '}' by decide, if_false,
      skipLead_object (gives_skipKey hfront hkey) hcolon]
    rfl
  | @next _ mid tail _ _ h h' hkey =>
    rw [Bracket.lead, if_neg Bool.false_ne_true, nextInBracket, h]
    simp only [if_true, skipLead_object (gives_skipKey h' hkey) hcolon]
    rfl

mutual

/-- Passing over a value that can be read ends where the reading ends. -/
theorem skipValue_of_value : (v : Value) → ∀ {cs rest : List Char}, Gives (value cs) v rest →
    ∀ opened, skipValue opened cs = resume opened rest
  | v, cs, rest, h, opened => by
    obtain ⟨c, tail, hcs, hv⟩ := valueAt_of_value h
    cases hv with
    | string h =>
      obtain ⟨ds, hds, -⟩ := gives_text.1 h
      exact skipValue_scalar hcs rfl (skipText_of_readText hds)
    | @array _ _ items h =>
      rw [skipValue_bracket hcs rfl]
      exact inside_of_values items h opened
    | @object _ _ ms h =>
      rw [skipValue_bracket hcs rfl]
      exact inside_of_members ms h opened
    | number hc h =>
      obtain ⟨hopen, hscalar⟩ := skipScalar_of_number hc h
      exact skipValue_scalar hcs hopen hscalar
    | null h => exact skipValue_scalar hcs rfl h
    | true h => exact skipValue_scalar hcs rfl h
    | false h => exact skipValue_scalar hcs rfl h

theorem inside_of_values : (vs : List Value) → ∀ {first : Bool} {cs rest : List Char},
    Gives (values first cs) vs rest → ∀ opened, inside .list first opened cs = resume opened rest
  | [], first, cs, rest, h, opened => inside_of_close (gives_values_nil.1 h).2
  | v :: vs, first, cs, rest, h, opened => by
    obtain ⟨item, mid, hitem, hv, hvs⟩ := gives_values_cons.1 h
    obtain ⟨start, hlead, hstart⟩ := lead_of_itemAt (itemAt_of_nextItem hitem)
    rw [inside_of_lead hlead, skipValue_of_skipBlank_eq hstart, skipValue_of_value v hv,
      resume_cons]
    exact inside_of_values vs hvs opened

theorem inside_of_members : (ms : List (String × Value)) → ∀ {first : Bool} {cs rest : List Char},
    Gives (members first cs) ms rest → ∀ opened, inside .object first opened cs = resume opened rest
  | [], first, cs, rest, h, opened => by
    cases keyAt_of_nextKey (gives_members_nil.1 h) with
    | close h => exact inside_of_close h
  | (name, v) :: ms, first, cs, rest, h, opened => by
    obtain ⟨behind, start, mid, hkey, hcolon, hv, hms⟩ := gives_members_cons.1 h
    rw [inside_of_lead (lead_of_keyAt (keyAt_of_nextKey hkey) hcolon), skipValue_of_value v hv,
      resume_cons]
    exact inside_of_members ms hms opened

end

/-- Where a value can be read, it can be passed over. -/
theorem gives_skip {v : Value} (h : Gives (value cs) v rest) : Gives (skip cs) () rest := by
  have hskip := skipValue_of_value v h []
  rw [resume_nil] at hskip
  unfold skip
  split
  · rename_i rest' h'
    cases hskip.symm.trans h'
    exact gives_ok.2 ⟨rfl, rfl⟩
  · rename_i h'
    cases hskip.symm.trans h'

end Transit.Json
