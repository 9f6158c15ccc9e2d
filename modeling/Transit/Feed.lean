import Transit.Instant.Basic
import Transit.Network.Ledger

/-!
# The live feed

A message of the feed tells that a passenger passed the gate of a station. The word `in` is an
entry, every other word an exit.
-/

namespace Transit

/-- A message of the feed. -/
structure Message where
  station : String
  word : String
  time : Option Instant := none
  deriving DecidableEq, Repr

namespace Message

/-- The passage that the word of a message stands for. -/
def passage (m : Message) : Passage :=
  if m.word = Passage.entry.name then .entry else .leave

/-- The event that a message tells of. -/
def event (m : Message) : PassengerEvent := ⟨m.station, m.passage⟩

end Message

/-- Book the event that a message tells of. -/
def Network.receive (n : Network) (m : Message) : Checked Outcome := n.record m.event

end Transit
