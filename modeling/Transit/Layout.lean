import Transit.Network.Run

/-!
# Layouts

A layout describes a whole network: its stations, its lines, and the travel times between
neighbours.

* `Layout.calls` is the order in which a network takes it: every station, then every line, then
  every time.
* `Network.load` stops at the first item that is refused and keeps the items before it.
-/

namespace Transit

/-- The time between two neighbours. -/
structure TravelTime where
  start : String
  terminus : String
  time : UInt32
  deriving DecidableEq, Repr

/-- Stations, lines and travel times. -/
structure Layout where
  stations : List Station := []
  lines : List Line := []
  travelTimes : List TravelTime := []
  deriving DecidableEq, Repr

namespace Layout

/-- The items of one layout and then those of another. -/
def append (a b : Layout) : Layout where
  stations := a.stations ++ b.stations
  lines := a.lines ++ b.lines
  travelTimes := a.travelTimes ++ b.travelTimes

instance : Append Layout := ⟨append⟩

/-- The calls that build the layout. -/
def calls (l : Layout) : List Call :=
  l.stations.map .addStation ++ l.lines.map .addLine
    ++ l.travelTimes.map fun t => .setTravelTime t.start t.terminus t.time

end Layout

namespace Network

/-- Add the items of a layout up to the first one that is refused. -/
def load (n : Network) (l : Layout) : Checked Outcome := n.attempt l.calls

/-- The network of a layout. -/
def ofLayout (l : Layout) (config : Config) : Checked (Except NetworkError Network) := do
  let o ← load { config := config } l
  return o.verdict.map fun _ => o.network

end Network

end Transit
