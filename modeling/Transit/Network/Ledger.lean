import Transit.Network.Basic
import Transit.Passenger

/-!
# The passenger ledger

Every station carries a signed count of its passengers.

* `record` books one event, and refuses one at a station that was never added.
* `statistics` sums the ledger and counts the tables.
-/

namespace Transit

/-- The sizes of the tables of a network, and the passengers in it. -/
structure Statistics where
  stations : Nat
  lines : Nat
  routes : Nat
  edges : Nat
  /-- Without bound like the counters it adds up, and like them within a signed word of 64 bits
  below 2⁶³ accepted events (`Network.session_ledger`). -/
  passengers : Int
  deriving DecidableEq, Repr

namespace Network

variable (n : Network)

/-- Book a passenger event. -/
def record (e : PassengerEvent) : Checked Outcome :=
  match n.station? e.station with
  | none => return ⟨.error (.stationNotFound e.station), n⟩
  | some s => return ⟨.ok (), ← n.modifyNode s fun x =>
      { x with passengers := x.passengers + e.delta }⟩

/-- The passengers at a station, which has to be known. -/
def passengerCount (station : String) : Checked (Except NetworkError Int) :=
  match n.station? station with
  | none => return .error (.stationNotFound station)
  | some s => return .ok (← n.node s).passengers

/-- The sizes of the tables, and the passengers at all stations together. -/
def statistics : Statistics where
  stations := n.nodes.size
  lines := n.lines.size
  routes := n.routes.size
  edges := n.edges.size
  passengers := (n.nodes.toList.map (·.passengers)).foldr (· + ·) 0

end Network

end Transit
