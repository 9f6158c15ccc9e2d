import Transit.Proofs.ReadBack

/-!
# Adding a line, all or nothing

The verdict on a line, on the network of any session: accepted exactly when the network admits it,
and then there to be read back as it was submitted; otherwise refused with the first violation and
without a trace.
-/

namespace Transit.Network

/-- A line is added exactly when its id and those of its routes are new, no route id comes twice,
every stop is a station and, under strict rules, its shape is right. Then all of it is read back as
it was submitted. Otherwise nothing changes, and the first violation is reported. -/
theorem session_addLine (config : Config) (requests : List Request) :
    ∃ n, session { config := config } requests = .ok n ∧
      ∀ l, ∃ o, n.addLine l = .ok o ∧ (o.verdict = .ok () ↔ n.Admits l) ∧
        (o.verdict = .ok () → o.network.ReadsBack l) ∧
        ∀ e, o.verdict = .error e → o.network = n ∧ (n.violations l).head? = some e := by
  obtain ⟨n, h, hok, -, hn⟩ := exists_contents config requests
  refine ⟨n, hok, fun l => ?_⟩
  obtain ⟨hl, n', hadd, -⟩ | ⟨hl, e, hfirst, hadd⟩ := addLine_cases hn.coherent l
  · refine ⟨_, hadd, iff_of_true rfl hl, fun _ => hn.readsBack_added hadd [] rfl, ?_⟩
    intro e he
    cases he
  · refine ⟨_, hadd, iff_of_false nofun hl, ?_, ?_⟩
    · intro he
      cases he
    · rintro e' ⟨⟩
      exact ⟨rfl, hfirst⟩

end Transit.Network
