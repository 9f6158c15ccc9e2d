import Transit.Proofs.Contents
import Transit.Transcript

/-!
# Two networks side by side

What can be said of two networks that the same calls are made on, or nearly the same.

* `Lockstep R f n n'`: `f` gives both networks the same verdict, and leaves them in the relation
  `R`. What single calls do in lockstep, requests and runs of them do.
* `transcript_filter`: the same of two runs, one of which leaves actions out.
* `Concur n n' c`: the networks do not differ in what the verdict on `c` looks at, so that there is
  one verdict for both.
* `Paired config P n n'`: they hold histories in the relation `P`.
-/

namespace Transit.Network

variable {R : Network → Network → Prop} {n n' : Network}

/-! ### In lockstep -/

/-- `f` gives both networks the same verdict, and leaves them in the relation `R`. -/
def Lockstep (R : Network → Network → Prop) (f : Network → Checked Outcome) (n n' : Network) :
    Prop :=
  ∃ v m m', f n = .ok ⟨v, m⟩ ∧ f n' = .ok ⟨v, m'⟩ ∧ R m m'

theorem attempt_lockstep (cs : List Call)
    (step : ∀ c ∈ cs, ∀ m m', R m m' → Lockstep R (·.apply c) m m') (h : R n n') :
    Lockstep R (·.attempt cs) n n' := by
  induction cs generalizing n n' with
  | nil => exact ⟨.ok (), n, n', rfl, rfl, h⟩
  | cons c cs ih =>
    obtain ⟨v, m, m', hm, hm', hR⟩ := step c List.mem_cons_self n n' h
    unfold Lockstep
    simp only [attempt, hm, hm', Checked.ok_bind]
    cases v with
    | error e => exact ⟨.error e, m, m', rfl, rfl, hR⟩
    | ok _ => exact ih (fun d hd => step d (List.mem_cons_of_mem c hd)) hR

theorem serve_lockstep {r : Request}
    (step : ∀ c ∈ r.calls, ∀ m m', R m m' → Lockstep R (·.apply c) m m') (h : R n n') :
    Lockstep R (·.serve r) n n' := by
  cases r with
  | call c => exact step c List.mem_cons_self n n' h
  | load l => exact attempt_lockstep l.calls step h
  | receive m => exact step (.record m.event) List.mem_cons_self n n' h

/-! ### Transcripts -/

theorem act_request {r : Request} {v : Except NetworkError Unit} (h : n.serve r = .ok ⟨v, n'⟩) :
    n.act (.request r) = .ok (.verdict v, n') := by
  rw [act, h]
  rfl

theorem transcript_cons {a : Action} {as : List Action} {reply : Reply} {es : List Exchange}
    {m last : Network} (ha : n.act a = .ok (reply, m)) (has : m.transcript as = .ok (es, last)) :
    n.transcript (a :: as) = .ok (⟨a, reply⟩ :: es, last) := by
  simp only [transcript, ha, Checked.ok_bind, has]
  rfl

/-- A transcript is about the actions of its run. -/
theorem map_action_of_transcript {as : List Action} {es : List Exchange} {last : Network}
    (h : n.transcript as = .ok (es, last)) : es.map (·.action) = as := by
  induction as generalizing n es with
  | nil =>
    cases h
    rfl
  | cons a as ih =>
    rw [transcript] at h
    obtain ⟨⟨reply, m⟩, -, h⟩ := Checked.bind_eq_ok_iff.1 h
    obtain ⟨⟨rest, last'⟩, hrest, h⟩ := Checked.bind_eq_ok_iff.1 h
    cases h
    rw [List.map_cons, ih hrest]

theorem filter_transcript {keep : Action → Bool} {as : List Action} {es : List Exchange}
    {last : Network} (h : n.transcript (as.filter keep) = .ok (es, last)) :
    es.filter (keep ·.action) = es := by
  rw [List.filter_eq_self]
  intro e he
  have haction : e.action ∈ as.filter keep :=
    map_action_of_transcript h ▸ List.mem_map_of_mem (f := (·.action)) he
  exact (List.mem_filter.1 haction).2

/-- A run of requests is a session. -/
theorem session_of_transcript {rs : List Request} {es : List Exchange} {last : Network}
    (h : n.transcript (rs.map .request) = .ok (es, last)) : n.session rs = .ok last := by
  induction rs generalizing n es with
  | nil =>
    cases h
    rfl
  | cons r rs ih =>
    rw [List.map_cons, transcript] at h
    obtain ⟨⟨reply, m⟩, hact, h⟩ := Checked.bind_eq_ok_iff.1 h
    obtain ⟨⟨rest, last'⟩, hrest, h⟩ := Checked.bind_eq_ok_iff.1 h
    cases h
    rw [act] at hact
    obtain ⟨o, ho, hreply⟩ := Checked.bind_eq_ok_iff.1 hact
    cases hreply
    rw [session, ho, Checked.ok_bind, ih hrest]

/-- Requests that are served in lockstep have one transcript. -/
theorem transcript_lockstep (rs : List Request)
    (step : ∀ r ∈ rs, ∀ m m', R m m' → Lockstep R (·.serve r) m m') (h : R n n') :
    ∃ es m m', n.transcript (rs.map .request) = .ok (es, m) ∧
      n'.transcript (rs.map .request) = .ok (es, m') ∧ R m m' := by
  induction rs generalizing n n' with
  | nil => exact ⟨[], n, n', rfl, rfl, h⟩
  | cons r rs ih =>
    obtain ⟨v, m, m', hm, hm', hR⟩ := step r List.mem_cons_self n n' h
    obtain ⟨es, k, k', hes, hes', hR'⟩ := ih (fun r' hr' => step r' (List.mem_cons_of_mem r hr')) hR
    exact ⟨_, k, k', transcript_cons (act_request hm) hes, transcript_cons (act_request hm') hes',
      hR'⟩

/-- Of two runs, one leaves out the actions that are not to be kept. They stay in a relation that
such actions keep on the one side, and the others on both, and on the actions to watch the
transcripts show the same in the view of it. -/
theorem transcript_filter {β : Type} {keep watch : Action → Bool} {view : Exchange → β}
    (hwatch : ∀ a, watch a = true → keep a = true)
    (drop : ∀ m m' a, R m m' → keep a = false → ∃ reply k, m.act a = .ok (reply, k) ∧ R k m')
    (step : ∀ m m' a, R m m' → keep a = true →
      ∃ reply reply' k k', m.act a = .ok (reply, k) ∧ m'.act a = .ok (reply', k') ∧
        (watch a = true → view ⟨a, reply⟩ = view ⟨a, reply'⟩) ∧ R k k')
    (h : R n n') (as : List Action) :
    ∃ es es' m m', n.transcript as = .ok (es, m) ∧
      n'.transcript (as.filter keep) = .ok (es', m') ∧
      (es.filter (watch ·.action)).map view = (es'.filter (watch ·.action)).map view ∧ R m m' := by
  induction as generalizing n n' with
  | nil => exact ⟨[], [], n, n', rfl, rfl, rfl, h⟩
  | cons a as ih =>
    cases ha : keep a with
    | false =>
      obtain ⟨reply, k, hk, hR⟩ := drop n n' a h ha
      obtain ⟨es, es', m, m', hes, hes', heq, hR'⟩ := ih hR
      refine ⟨_, es', m, m', transcript_cons hk hes, ?_, ?_, hR'⟩
      · rw [List.filter_cons_of_neg (by simp [ha]), hes']
      · rw [List.filter_cons]
        cases hw : watch a with
        | false => exact heq
        | true => exact nomatch ha.symm.trans (hwatch a hw)
    | true =>
      obtain ⟨reply, reply', k, k', hk, hk', hview, hR⟩ := step n n' a h ha
      obtain ⟨es, es', m, m', hes, hes', heq, hR'⟩ := ih hR
      refine ⟨_, ⟨a, reply'⟩ :: es', m, m', transcript_cons hk hes, ?_, ?_, hR'⟩
      · rw [List.filter_cons_of_pos ha]
        exact transcript_cons hk' hes'
      · rw [List.filter_cons, List.filter_cons]
        cases hw : watch a with
        | false => exact heq
        | true => simp only [if_true, List.map_cons, hview hw, heq]

/-! ### One verdict for both -/

/-- The networks do not differ in what the verdict on a call looks at. -/
def Concur (n n' : Network) : Call → Prop
  | .addStation s => s.id ∈ n.stationIds ↔ s.id ∈ n'.stationIds
  | .addLine l => n.violations l = n'.violations l
  | .setTravelTime a b _ => n.Adjacent a b ↔ n'.Adjacent a b
  | .record e => e.station ∈ n.stationIds ↔ e.station ∈ n'.stationIds

theorem Concur.verdict {c : Call} (h : Concur n n' c) (hn : n.Coherent) (hn' : n'.Coherent) :
    ∃ v m m', n.apply c = .ok ⟨v, m⟩ ∧ n'.apply c = .ok ⟨v, m'⟩ := by
  cases c with
  | addStation s =>
    simp only [apply, addStation_eq hn, addStation_eq hn']
    by_cases hs : s.id ∈ n.stationIds
    · rw [if_pos hs, if_pos (h.1 hs)]
      exact ⟨_, _, _, rfl, rfl⟩
    · rw [if_neg hs, if_neg fun hs' => hs (h.2 hs')]
      exact ⟨_, _, _, rfl, rfl⟩
  | addLine l =>
    cases hv : n.violations l with
    | nil =>
      obtain ⟨m, hm, -⟩ := addLine_admitted hn (violations_eq_nil_iff.1 hv)
      obtain ⟨m', hm', -⟩ := addLine_admitted hn' (violations_eq_nil_iff.1 (h ▸ hv))
      exact ⟨_, m, m', hm, hm'⟩
    | cons e es =>
      have hhead : (n.violations l).head? = some e := by rw [hv, List.head?_cons]
      exact ⟨_, n, n', addLine_refused hn hhead, addLine_refused hn' (h ▸ hhead)⟩
  | setTravelTime a b t =>
    obtain ⟨hab, -, -, m, -, -, hm, -⟩ | ⟨hab, hm⟩ := setTravelTime_cases hn a b t
    · obtain ⟨-, -, -, m', -, -, hm', -⟩ | ⟨hab', -⟩ := setTravelTime_cases hn' a b t
      · exact ⟨_, m, m', hm, hm'⟩
      · exact absurd (h.1 hab) hab'
    · obtain ⟨hab', -⟩ | ⟨-, hm'⟩ := setTravelTime_cases hn' a b t
      · exact absurd (h.2 hab') hab
      · exact ⟨_, n, n', hm, hm'⟩
  | record e =>
    have hnone : n.station? e.station = none ↔ n'.station? e.station = none := by
      rw [station?, hn.stationHandles.get?_eq_none_iff, station?,
        hn'.stationHandles.get?_eq_none_iff]
      exact not_congr h
    simp only [apply, record_eq hn, record_eq hn']
    cases hs : n.station? e.station with
    | none =>
      rw [hnone.1 hs]
      exact ⟨_, _, _, rfl, rfl⟩
    | some s =>
      cases hs' : n'.station? e.station with
      | none =>
        rw [hnone.2 hs'] at hs
        cases hs
      | some s' => exact ⟨_, _, _, rfl, rfl⟩

/-! ### Histories side by side -/

/-- The history after a call: longer by it when it was granted. -/
def historyAfter (h : List Call) (c : Call) : Except NetworkError Unit → List Call
  | .ok () => h ++ [c]
  | .error _ => h

theorem Holds.apply {config : Config} {h : List Call} {c : Call} {v : Except NetworkError Unit}
    (hn : n.Holds config h) (hc : n.apply c = .ok ⟨v, n'⟩) :
    n'.Holds config (historyAfter h c v) := by
  obtain ⟨-, m, hm, heffect⟩ | ⟨-, e, hm⟩ := apply_cases hn.coherent c
  · rw [hm, Except.ok.injEq, Outcome.mk.injEq] at hc
    obtain ⟨rfl, rfl⟩ := hc
    exact hn.effect heffect
  · rw [hm, Except.ok.injEq, Outcome.mk.injEq] at hc
    obtain ⟨rfl, rfl⟩ := hc
    exact hn

/-- The networks hold histories in the relation `P`. -/
def Paired (config : Config) (P : List Call → List Call → Prop) (n n' : Network) : Prop :=
  ∃ h h', n.Holds config h ∧ n'.Holds config h' ∧ P h h'

/-- A call that the networks concur on is made on both in lockstep. -/
theorem Paired.apply {config : Config} {P : List Call → List Call → Prop} {c : Call}
    (concur : ∀ {m m' h h'}, m.Holds config h → m'.Holds config h' → P h h' → Concur m m' c)
    (append : ∀ {h h'}, P h h' → P (h ++ [c]) (h' ++ [c])) (hP : Paired config P n n') :
    Lockstep (Paired config P) (·.apply c) n n' := by
  obtain ⟨h, h', hn, hn', hh⟩ := hP
  obtain ⟨v, m, m', hm, hm'⟩ := (concur hn hn' hh).verdict hn.coherent hn'.coherent
  refine ⟨v, m, m', hm, hm', _, _, hn.apply hm, hn'.apply hm', ?_⟩
  cases v with
  | ok _ => exact append hh
  | error _ => exact hh

/-- A call that the relation does not see may be made on the one side only. -/
theorem Paired.apply_left {config : Config} {P : List Call → List Call → Prop} {c : Call}
    (unseen : ∀ {h h'}, P h h' → P (h ++ [c]) h') (hP : Paired config P n n') :
    ∃ o, n.apply c = .ok o ∧ Paired config P o.network n' := by
  obtain ⟨h, h', hn, hn', hh⟩ := hP
  obtain ⟨-, m, hm, -⟩ | ⟨-, e, hm⟩ := apply_cases hn.coherent c
  · exact ⟨_, hm, _, h', hn.apply hm, hn', unseen hh⟩
  · exact ⟨_, hm, h, h', hn, hn', hh⟩

theorem Paired.attempt_left {config : Config} {P : List Call → List Call → Prop} {cs : List Call}
    (unseen : ∀ c ∈ cs, ∀ {h h'}, P h h' → P (h ++ [c]) h') (hP : Paired config P n n') :
    ∃ o, n.attempt cs = .ok o ∧ Paired config P o.network n' := by
  induction cs generalizing n with
  | nil => exact ⟨_, rfl, hP⟩
  | cons c cs ih =>
    obtain ⟨⟨v, m⟩, hm, hP'⟩ := hP.apply_left (unseen c List.mem_cons_self)
    simp only [Network.attempt, hm, Checked.ok_bind]
    cases v with
    | error e => exact ⟨_, rfl, hP'⟩
    | ok _ => exact ih (fun d hd => unseen d (List.mem_cons_of_mem c hd)) hP'

theorem Paired.symm {config : Config} {P : List Call → List Call → Prop}
    (hsymm : ∀ {h h'}, P h h' → P h' h) (hP : Paired config P n n') : Paired config P n' n := by
  obtain ⟨h, h', hn, hn', hh⟩ := hP
  exact ⟨h', h, hn', hn, hsymm hh⟩

end Transit.Network
