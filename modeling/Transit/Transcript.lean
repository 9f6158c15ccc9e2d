import Transit.Session

/-!
# Transcripts

A client makes requests and asks queries in any order. The transcript of a run puts every action
next to the reply to it, so that two runs can be compared action by action.

* `Network.transcript` also says which network the run leaves.
* `Action.books`, `Action.builds` and `Action.counts` tell the actions about passengers from those
  about lines and times.
* `Answer.sansPassengers` and `Answer.onlyPassengers` part the answers that tell of both.
-/

namespace Transit

/-- What a client does: make a request, or ask a query. -/
inductive Action
  | request (r : Request)
  | query (q : Query)

/-- What comes back: the verdict on a request, or the answer to a query. -/
inductive Reply
  | verdict (v : Except NetworkError Unit)
  | answer (a : Checked Answer)

/-- An action with the reply to it. -/
structure Exchange where
  action : Action
  reply : Reply

namespace Network

/-- Do what an action asks for. A query leaves the network as it is. -/
def act (n : Network) : Action → Checked (Reply × Network)
  | .request r => do
    let o ← n.serve r
    return (.verdict o.verdict, o.network)
  | .query q => return (.answer (n.ask q), n)

/-- The transcript of a run, and the network that it leaves. -/
def transcript (n : Network) : List Action → Checked (List Exchange × Network)
  | [] => return ([], n)
  | a :: rest => do
    let (reply, m) ← n.act a
    let (es, last) ← m.transcript rest
    return (⟨a, reply⟩ :: es, last)

end Network

/-! ### Passengers, and everything else -/

/-- Whether the query counts passengers. -/
def Query.counts : Query → Bool
  | .passengerCount _ => true
  | .statistics => true
  | _ => false

namespace Action

/-- Whether the action books a passenger event. -/
def books : Action → Bool
  | .request (.call (.record _)) => true
  | .request (.receive _) => true
  | _ => false

/-- Whether the action adds a line or sets a travel time. -/
def builds : Action → Bool
  | .request (.call (.addLine _)) => true
  | .request (.call (.setTravelTime _ _ _)) => true
  | _ => false

/-- Whether the action books or counts passengers. -/
def counts : Action → Bool
  | .query q => q.counts
  | a => a.books

theorem counts_of_books {a : Action} (h : a.books = true) : a.counts = true := by
  cases a with
  | request r => exact h
  | query q => cases h

/-- No action that builds has to do with passengers. -/
theorem counts_of_builds {a : Action} (h : a.builds = true) : a.counts = false := by
  cases a with
  | query q => cases h
  | request r =>
    cases r with
    | call c => cases c <;> first | rfl | cases h
    | load l => cases h
    | receive m => cases h

theorem books_of_builds {a : Action} (h : a.builds = true) : a.books = false := by
  cases hb : a.books with
  | false => rfl
  | true => exact nomatch (counts_of_builds h).symm.trans (counts_of_books hb)

theorem books_eq_not_builds {a : Action} (h : a.builds = true ∨ a.books = true) :
    a.books = !a.builds := by
  cases hb : a.builds with
  | true => exact books_of_builds hb
  | false => exact h.resolve_left (by simp [hb])

end Action

namespace Answer

/-- The answer with every number of passengers at zero. -/
def sansPassengers : Answer → Answer
  | .count c => .count (c.map fun _ => 0)
  | .statistics s => .statistics { s with passengers := 0 }
  | a => a

/-- The answer with every number but those of passengers at zero. -/
def onlyPassengers : Answer → Answer
  | .statistics s => .statistics ⟨0, 0, 0, 0, s.passengers⟩
  | a => a

end Answer

/-- The exchange with another answer in its reply. -/
def Exchange.mapAnswer (f : Answer → Answer) (e : Exchange) : Exchange where
  action := e.action
  reply := match e.reply with
    | .verdict v => .verdict v
    | .answer a => .answer (a.map f)

end Transit
