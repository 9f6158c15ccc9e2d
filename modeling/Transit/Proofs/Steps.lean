import Transit.Proofs.Acceptance
import Transit.Proofs.Updates
import Transit.Session

/-!
# What a call does, and what a run of calls does

* `Network.Permits n c` says when the call `c` is granted, and `Network.Effect n c n'` what it then
  makes of the network. `apply_cases`: there is nothing else, for a call that is not permitted is
  refused without a trace.
* `attempt_eq_refused_iff`: a run of calls that is refused was granted up to the call that is.
* `attempt_invariant`: what the effects of granted calls keep holds after a run of them.
* `session_replay`: a session leaves the network that the calls accepted on the way make when they
  are tried one after the other.
-/

namespace Transit.Network

variable {n n' : Network} {c : Call} {cs ds : List Call}

/-! ### One call -/

/-- What a call asks of the network for being granted. -/
def Permits (n : Network) : Call → Prop
  | .addStation s => s.id ∉ n.stationIds
  | .addLine l => n.Admits l
  | .setTravelTime a b _ => n.Adjacent a b
  | .record e => e.station ∈ n.stationIds

/-- What a granted call makes of the network. -/
inductive Effect (n : Network) : Call → Network → Prop
  | addStation {s : Station} (hid : s.id ∉ n.stationIds) :
      Effect n (.addStation s) (n.pushStation s)
  | addLine {l : Line} {n' : Network} (hl : n.Admits l) (h : Installed n n' l (n.resolved l)) :
      Effect n (.addLine l) n'
  | setTravelTime {a b : String} {x y : Handle .station} {t : UInt32} {n' : Network}
      (hx : n.station? a = some x) (hy : n.station? b = some y)
      (h : Timed n n' [(x, y), (y, x)] t) : Effect n (.setTravelTime a b t) n'
  | record {e : PassengerEvent} {s : Handle .station} (hs : n.station? e.station = some s) :
      Effect n (.record e) (n.booked s e.delta)

/-- A call that is permitted is granted and has its effect; any other is refused and leaves no
trace. -/
theorem apply_cases (hn : n.Coherent) (c : Call) :
    (n.Permits c ∧ ∃ n', n.apply c = .ok ⟨.ok (), n'⟩ ∧ n.Effect c n') ∨
      (¬ n.Permits c ∧ ∃ e, n.apply c = .ok ⟨.error e, n⟩) := by
  cases c with
  | addStation s =>
    by_cases hid : s.id ∈ n.stationIds
    · refine Or.inr ⟨not_not_intro hid, .stationAlreadyExists s.id, ?_⟩
      rw [apply, addStation_eq hn, if_pos hid]
      rfl
    · refine Or.inl ⟨hid, _, ?_, .addStation hid⟩
      rw [apply, addStation_eq hn, if_neg hid]
      rfl
  | addLine l =>
    obtain ⟨hl, n', hok, h⟩ | ⟨hl, e, -, hok⟩ := addLine_cases hn l
    · exact Or.inl ⟨hl, n', hok, .addLine hl h⟩
    · exact Or.inr ⟨hl, e, hok⟩
  | setTravelTime a b t =>
    obtain ⟨hab, x, y, n', hx, hy, hok, h⟩ | ⟨hab, hok⟩ := setTravelTime_cases hn a b t
    · exact Or.inl ⟨hab, n', hok, .setTravelTime hx hy h⟩
    · exact Or.inr ⟨hab, _, hok⟩
  | record e =>
    have hok := record_eq hn e
    cases hs : n.station? e.station with
    | none =>
      rw [hs] at hok
      exact Or.inr ⟨hn.stationHandles.get?_eq_none_iff.1 hs, _, hok⟩
    | some s =>
      rw [hs] at hok
      exact Or.inl ⟨hn.mem_stationIds hs, _, hok, .record hs⟩

theorem Effect.coherent (hn : n.Coherent) (h : n.Effect c n') : n'.Coherent := by
  cases h with
  | addStation hid => exact hn.pushStation hid
  | addLine _ h => exact h.coherent
  | setTravelTime _ _ h => exact hn.timed h
  | record _ => exact hn.booked _ _

theorem apply_eq_granted_iff (hn : n.Coherent) :
    (∃ n', n.apply c = .ok ⟨.ok (), n'⟩) ↔ n.Permits c := by
  obtain ⟨hc, n', hok, -⟩ | ⟨hc, e, hok⟩ := apply_cases hn c
  · exact iff_of_true ⟨n', hok⟩ hc
  · refine iff_of_false ?_ hc
    rintro ⟨n', h⟩
    rw [hok] at h
    cases h

theorem effect_of_apply (hn : n.Coherent) (h : n.apply c = .ok ⟨.ok (), n'⟩) : n.Effect c n' := by
  obtain ⟨-, m, hok, hm⟩ | ⟨-, e, hok⟩ := apply_cases hn c
  · rw [hok, Except.ok.injEq, Outcome.mk.injEq] at h
    exact h.2 ▸ hm
  · rw [hok] at h
    cases h

/-! ### Calls one after the other -/

/-- A list of calls is granted when its first call is, and then the others are. -/
theorem attempt_cons_eq_granted_iff :
    n.attempt (c :: cs) = .ok ⟨.ok (), n'⟩ ↔
      ∃ m, n.apply c = .ok ⟨.ok (), m⟩ ∧ m.attempt cs = .ok ⟨.ok (), n'⟩ := by
  rw [attempt]
  cases n.apply c with
  | error f => exact iff_of_false nofun nofun
  | ok o =>
    obtain ⟨verdict, m⟩ := o
    cases verdict with
    | error e =>
      refine iff_of_false nofun ?_
      rintro ⟨m', h, -⟩
      cases h
    | ok _ =>
      constructor
      · intro h
        exact ⟨m, rfl, h⟩
      · rintro ⟨m', ⟨⟩, h⟩
        exact h

theorem attempt_append_eq_granted_iff :
    n.attempt (cs ++ ds) = .ok ⟨.ok (), n'⟩ ↔
      ∃ m, n.attempt cs = .ok ⟨.ok (), m⟩ ∧ m.attempt ds = .ok ⟨.ok (), n'⟩ := by
  induction cs generalizing n with
  | nil =>
    constructor
    · intro h
      exact ⟨n, rfl, h⟩
    · rintro ⟨m, ⟨⟩, h⟩
      exact h
  | cons c cs ih =>
    simp only [List.cons_append, attempt_cons_eq_granted_iff, ih]
    constructor
    · rintro ⟨m₁, h₁, m₂, h₂, h₃⟩
      exact ⟨m₂, ⟨m₁, h₁, h₂⟩, h₃⟩
    · rintro ⟨m₂, ⟨m₁, h₁, h₂⟩, h₃⟩
      exact ⟨m₁, h₁, m₂, h₂, h₃⟩

/-- Two lists of calls, one after the other: the second one is tried when the first is granted. -/
theorem attempt_append (n : Network) (cs ds : List Call) :
    n.attempt (cs ++ ds) = (do
      let o ← n.attempt cs
      match o.verdict with
      | .error _ => return o
      | .ok () => o.network.attempt ds) := by
  induction cs generalizing n with
  | nil => rfl
  | cons c cs ih =>
    rw [List.cons_append, attempt, attempt]
    cases n.apply c with
    | error f => rfl
    | ok o =>
      obtain ⟨verdict, m⟩ := o
      cases verdict with
      | error e => rfl
      | ok _ => exact ih m

/-- A list of calls is refused when some call of it is, where the calls before it lead. -/
theorem attempt_eq_refused_iff {e : NetworkError} (hn : n.Coherent) :
    n.attempt cs = .ok ⟨.error e, n'⟩ ↔
      ∃ before c after, cs = before ++ c :: after ∧ n.attempt before = .ok ⟨.ok (), n'⟩ ∧
        n'.apply c = .ok ⟨.error e, n'⟩ := by
  constructor
  · intro h
    induction cs generalizing n with
    | nil => cases h
    | cons c cs ih =>
      obtain ⟨-, m, hc, heffect⟩ | ⟨-, e', hc⟩ := apply_cases hn c
      · simp only [attempt, hc, Checked.ok_bind] at h
        obtain ⟨before, d, after, rfl, hbefore, hd⟩ := ih (heffect.coherent hn) h
        exact ⟨c :: before, d, after, rfl, attempt_cons_eq_granted_iff.2 ⟨m, hc, hbefore⟩, hd⟩
      · -- the refused call leaves no trace, so that it is refused at the end as well
        simp only [attempt, hc, Checked.ok_bind] at h
        cases h
        exact ⟨[], c, cs, rfl, rfl, hc⟩
  · rintro ⟨before, c, after, rfl, hbefore, hc⟩
    rw [attempt_append, hbefore]
    simp only [Checked.ok_bind, attempt, hc]
    rfl

/-- A layout is loaded by adding its stations and then loading what is left of it. -/
theorem load_eq (n : Network) (L : Layout) :
    n.load L = (do
      let o ← n.attempt (L.stations.map .addStation)
      match o.verdict with
      | .error _ => return o
      | .ok () => o.network.load { L with stations := [] }) := by
  rw [load, Layout.calls, List.append_assoc, attempt_append]
  rfl

/-- What the effect of every call keeps, seeing the calls made so far, holds after all of them. -/
theorem attempt_invariant (hn : n.Coherent) (inv : List Call → Network → Prop) (start : inv [] n)
    (step : ∀ done c m m', m.Coherent → inv done m → m.Effect c m' → inv (done ++ [c]) m')
    (h : n.attempt cs = .ok ⟨.ok (), n'⟩) : inv cs n' := by
  suffices main : ∀ rest done m, m.Coherent → inv done m →
      m.attempt rest = .ok ⟨.ok (), n'⟩ → inv (done ++ rest) n' from main cs [] n hn start h
  -- on the calls left to make, for any that are made
  intro rest
  induction rest with
  | nil =>
    rintro done m - hm ⟨⟩
    rwa [List.append_nil]
  | cons c rest ih =>
    intro done m hcoherent hm hrest
    obtain ⟨m', hc, hrest⟩ := attempt_cons_eq_granted_iff.1 hrest
    have heffect := effect_of_apply hcoherent hc
    have hm' := ih (done ++ [c]) m' (heffect.coherent hcoherent)
      (step done c m m' hcoherent hm heffect) hrest
    rwa [List.append_assoc] at hm'

theorem Coherent.attempt (hn : n.Coherent) (h : n.attempt cs = .ok ⟨.ok (), n'⟩) : n'.Coherent :=
  attempt_invariant hn (fun _ m => m.Coherent) hn (fun _ _ _ _ hm _ hc => hc.coherent hm) h

/-! ### Sessions -/

/-- Trying calls up to the first refusal leaves what the granted ones make. -/
theorem attempt_replay (hn : n.Coherent) (cs : List Call) :
    ∃ o granted, n.attempt cs = .ok o ∧ n.granted cs = .ok granted ∧
      n.attempt granted = .ok ⟨.ok (), o.network⟩ := by
  induction cs generalizing n with
  | nil => exact ⟨_, [], rfl, rfl, rfl⟩
  | cons c rest ih =>
    obtain ⟨-, m, hc, heffect⟩ | ⟨-, e, hc⟩ := apply_cases hn c
    · obtain ⟨o, later, ho, hlater, hreplay⟩ := ih (heffect.coherent hn)
      refine ⟨o, c :: later, ?_, ?_, attempt_cons_eq_granted_iff.2 ⟨m, hc, hreplay⟩⟩
      · simp only [Network.attempt, hc, Checked.ok_bind, ho]
      · simp only [granted, hc, Checked.ok_bind, hlater]
        rfl
    · refine ⟨⟨.error e, n⟩, [], ?_, ?_, rfl⟩
      · simp only [Network.attempt, hc, Checked.ok_bind]
        rfl
      · simp only [granted, hc, Checked.ok_bind]
        rfl

/-- Serving a request is making its calls. -/
theorem network_serve (n : Network) (r : Request) :
    (n.serve r).map (·.network) = (n.attempt r.calls).map (·.network) := by
  have hsingle : ∀ c, (n.apply c).map (·.network) = (n.attempt [c]).map (·.network) := by
    intro c
    unfold attempt
    cases n.apply c with
    | error f => rfl
    | ok o =>
      obtain ⟨verdict, m⟩ := o
      cases verdict <;> rfl
  cases r with
  | call c => exact hsingle c
  | load l => rfl
  | receive m => exact hsingle (.record m.event)

theorem serve_replay (hn : n.Coherent) (r : Request) :
    ∃ o granted, n.serve r = .ok o ∧ n.granted r.calls = .ok granted ∧
      n.attempt granted = .ok ⟨.ok (), o.network⟩ := by
  obtain ⟨o, granted, ho, hgranted, hreplay⟩ := attempt_replay hn r.calls
  have hserve := network_serve n r
  rw [ho] at hserve
  cases hr : n.serve r with
  | error f =>
    rw [hr] at hserve
    cases hserve
  | ok o' =>
    rw [hr] at hserve
    have hnet : o'.network = o.network := Except.ok.inj hserve
    exact ⟨o', granted, rfl, hgranted, hnet ▸ hreplay⟩

/-- A session ends, and leaves what the calls accepted on the way make. -/
theorem session_replay (hn : n.Coherent) (rs : List Request) :
    ∃ n' later, n.session rs = .ok n' ∧ n.accepted rs = .ok later ∧
      n.attempt later = .ok ⟨.ok (), n'⟩ := by
  induction rs generalizing n with
  | nil => exact ⟨n, [], rfl, rfl, rfl⟩
  | cons r rest ih =>
    obtain ⟨o, now, ho, hnow, hreplay⟩ := serve_replay hn r
    obtain ⟨n', later, hn', hlater, hrest⟩ := ih (hn.attempt hreplay)
    refine ⟨n', now ++ later, ?_, ?_, attempt_append_eq_granted_iff.2 ⟨_, hreplay, hrest⟩⟩
    · rw [session, ho]
      exact hn'
    · simp only [accepted, hnow, ho, hlater, Checked.ok_bind]
      rfl

/-- What a longer session accepts is what its first part does, and then the rest. -/
theorem accepted_append {n m : Network} {rs rs' : List Request} {h h' : List Call}
    (hm : n.session rs = .ok m) (hh : n.accepted rs = .ok h) (hh' : m.accepted rs' = .ok h') :
    n.accepted (rs ++ rs') = .ok (h ++ h') := by
  induction rs generalizing n h with
  | nil =>
    cases hm
    cases hh
    exact hh'
  | cons r rest ih =>
    rw [session] at hm
    rw [accepted] at hh
    obtain ⟨o, ho, hm⟩ := Checked.bind_eq_ok_iff.1 hm
    obtain ⟨now, hnow, hserve⟩ := Checked.bind_eq_ok_iff.1 hh
    rw [ho, Checked.ok_bind] at hserve
    obtain ⟨later, hlater, happend⟩ := Checked.bind_eq_ok_iff.1 hserve
    obtain rfl : now ++ later = h := Except.ok.inj happend
    rw [List.cons_append, accepted, hnow, Checked.ok_bind, ho, Checked.ok_bind, ih hm hlater,
      Checked.ok_bind, Checked.pure_eq_ok, List.append_assoc]

end Transit.Network
