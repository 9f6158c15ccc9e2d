import Mathlib.Data.List.InsertIdx
import Transit.Proofs.Layouts

/-!
# Going on after a refused layout

A layout that is refused has been loaded up to its first item that does not fit.

* `Layout.drop` and `Layout.eraseIdx`: the items of a layout from some place on, and all but the one
  there. Items are counted in the order in which they are loaded.
* `load_resume`: what comes after the refused item can be loaded where the refusal left off, with the
  same outcome as if the item had not been there.
-/

namespace Transit

/-! ### Parts of a layout -/

namespace Layout

/-- The items but for the first `k`. -/
def drop (L : Layout) (k : Nat) : Layout where
  stations := L.stations.drop k
  lines := L.lines.drop (k - L.stations.length)
  travelTimes := L.travelTimes.drop (k - (L.stations.length + L.lines.length))

/-- The items but for the one at `k`. -/
def eraseIdx (L : Layout) (k : Nat) : Layout :=
  if k < L.stations.length then
    { L with stations := L.stations.eraseIdx k }
  else if k < L.stations.length + L.lines.length then
    { L with lines := L.lines.eraseIdx (k - L.stations.length) }
  else
    { L with travelTimes := L.travelTimes.eraseIdx (k - (L.stations.length + L.lines.length)) }

variable (L : Layout) (k : Nat)

theorem calls_drop : (L.drop k).calls = L.calls.drop k := by
  simp only [calls, drop, List.drop_append, List.map_drop, List.length_append, List.length_map]

theorem calls_eraseIdx : (L.eraseIdx k).calls = L.calls.eraseIdx k := by
  unfold eraseIdx
  split
  case isTrue hstation =>
    simp only [calls, ← List.eraseIdx_map, List.append_assoc]
    rw [List.eraseIdx_append_of_lt_length (by rwa [List.length_map])]
  case isFalse hstation =>
    split
    case isTrue hline =>
      simp only [calls, ← List.eraseIdx_map]
      rw [List.eraseIdx_append_of_lt_length (by simpa using hline),
        List.eraseIdx_append_of_length_le (by simpa using hstation), List.length_map]
    case isFalse hline =>
      simp only [calls, ← List.eraseIdx_map]
      rw [List.eraseIdx_append_of_length_le (by simpa using hline), List.length_append,
        List.length_map, List.length_map]

end Layout

namespace Network

variable {n m : Network} {L : Layout} {e : NetworkError}

/-- A layout that is refused has been loaded up to one of its items: all the items before it are
granted, and it is refused where they lead. What comes after it can be loaded there, with the same
outcome as if the layout had been loaded without the item to begin with. -/
theorem load_resume (hn : n.Reachable) (h : n.load L = .ok ⟨.error e, m⟩) :
    ∃ k c, L.calls[k]? = some c ∧ n.attempt (L.calls.take k) = .ok ⟨.ok (), m⟩ ∧
      m.apply c = .ok ⟨.error e, m⟩ ∧
      ∃ o, m.load (L.drop (k + 1)) = .ok o ∧ n.load (L.eraseIdx k) = .ok o := by
  obtain ⟨config, history, hn⟩ := hn.holds
  obtain ⟨before, c, after, hcalls, hbefore, hc⟩ := (attempt_eq_refused_iff hn.coherent).1 h
  obtain ⟨o, -, ho, -, -⟩ := attempt_replay (hn.coherent.attempt hbefore) after
  refine ⟨before.length, c, ?_, ?_, hc, o, ?_, ?_⟩
  · rw [hcalls, List.getElem?_append_right (Nat.le_refl _), Nat.sub_self, List.getElem?_cons_zero]
  · rw [hcalls, List.take_left, hbefore]
  · have hafter : L.calls.drop (before.length + 1) = after := by
      rw [hcalls, ← List.drop_drop, List.drop_left, List.drop_one, List.tail_cons]
    rw [load, L.calls_drop, hafter, ho]
  · have hothers : L.calls.eraseIdx before.length = before ++ after := by
      rw [hcalls, List.eraseIdx_append_of_length_le (Nat.le_refl _), Nat.sub_self,
        List.eraseIdx_cons_zero]
    rw [load, L.calls_eraseIdx, hothers, attempt_append, hbefore]
    exact ho

/-- A layout whose second line takes the id of its first one. -/
theorem load_resume_repeated_line :
    ∃ L n m,
      L = (⟨[⟨"b", "B"⟩], [⟨"l", "Out", [⟨"r", "out", "l", "a", "b", ["a", "b"]⟩]⟩, ⟨"l", "Out", []⟩,
        ⟨"m", "Back", [⟨"s", "in", "m", "b", "a", ["b", "a"]⟩]⟩], [⟨"a", "b", 5⟩]⟩ : Layout) ∧
      session {} [.call (.addStation ⟨"a", "A"⟩)] = .ok n ∧
      n.load L = .ok ⟨.error (.lineAlreadyExists "l"), m⟩ ∧
      ∃ k c, L.calls[k]? = some c ∧ n.attempt (L.calls.take k) = .ok ⟨.ok (), m⟩ ∧
        m.apply c = .ok ⟨.error (.lineAlreadyExists "l"), m⟩ ∧
        ∃ o, m.load (L.drop (k + 1)) = .ok o ∧ n.load (L.eraseIdx k) = .ok o := by
  have hn : session {} [.call (.addStation ⟨"a", "A"⟩)] = .ok _ := rfl
  have hload := load_resume (e := .lineAlreadyExists "l")
    (L := ⟨[⟨"b", "B"⟩], [⟨"l", "Out", [⟨"r", "out", "l", "a", "b", ["a", "b"]⟩]⟩, ⟨"l", "Out", []⟩,
      ⟨"m", "Back", [⟨"s", "in", "m", "b", "a", ["b", "a"]⟩]⟩], [⟨"a", "b", 5⟩]⟩) ⟨{}, _, hn⟩ rfl
  exact ⟨_, _, _, rfl, hn, rfl, hload⟩

end Network

end Transit
