import Transit.Feed
import Transit.Layout

/-!
# The journal

What a network does can be told line by line. An entry is derived from a call, the network before
it and the outcome, so the journal never touches the network.

* `Network.entries` tells one call, `Network.entriesOf` a list of calls up to the first refusal.
* `Entry.render` writes an entry with its level.
-/

namespace Transit

/-- How important an entry is. -/
inductive Level
  | trace
  | debug
  | info
  deriving DecidableEq, Repr

/-- The word for a level. -/
def Level.name : Level → String
  | .trace => "TRACE"
  | .debug => "DEBUG"
  | .info => "INFO"

/-- Something to be told. -/
inductive Entry
  | stationRefused (station : String)
  | stationAdded (station name : String)
  | lineRefused (line : String) (reason : NetworkError)
  | lineAdded (line : String) (routes edges : Nat)
  | timeRefused (a b : String)
  | timeSet (a b : String) (time : UInt32)
  | passage (p : Passage) (station : String) (count : Int)
  | messageDated (station : String) (time : Instant)
  | layoutLoaded (stations lines times : Nat)

namespace Entry

/-- The level of an entry. -/
def level : Entry → Level
  | passage .. | messageDated .. => .trace
  | layoutLoaded .. => .info
  | _ => .debug

/-- The wording of an entry. -/
def message : Entry → String
  | stationRefused s => "Rejected station " ++ s ++ ": already exists"
  | stationAdded s name => "Added station " ++ s ++ " (" ++ name ++ ")"
  | lineRefused l e => "Rejected line " ++ l ++ ": " ++ e.message
  | lineAdded l routes edges =>
    "Added line " ++ l ++ " with " ++ toString routes ++ " route(s) and " ++ toString edges
      ++ " new edge(s)"
  | timeRefused a b => "Rejected travel time " ++ a ++ " <-> " ++ b ++ ": not adjacent"
  | timeSet a b t => "Set travel time " ++ a ++ " <-> " ++ b ++ " to " ++ toString t.toNat
  | passage p s n => "Passenger " ++ p.title ++ " at " ++ s ++ " -> " ++ toString n
  | messageDated s t => "Event at " ++ s ++ " recorded " ++ t.render "+00:00"
  | layoutLoaded s l t =>
    "Loaded network layout: " ++ toString s ++ " stations, " ++ toString l ++ " lines, "
      ++ toString t ++ " travel times"

/-- The entry with its level before it. -/
def render (e : Entry) : String := e.level.name ++ " " ++ e.message

end Entry

namespace Network

/-- What one call has to tell, from the network before it and its outcome. -/
def entries (before : Network) (o : Outcome) : Call → List Entry
  | .addStation s =>
    match o.verdict with
    | .ok () => [.stationAdded s.id s.name]
    | .error _ => [.stationRefused s.id]
  | .addLine l =>
    match o.verdict with
    | .ok () => [.lineAdded l.id l.routes.length (o.network.edges.size - before.edges.size)]
    | .error e => [.lineRefused l.id e]
  | .setTravelTime a b t =>
    match o.verdict with
    | .ok () => [.timeSet a b t]
    | .error _ => [.timeRefused a b]
  | .record e =>
    match o.network.passengerCount e.station with
    | .ok (.ok n) => [.passage e.passage e.station n]
    | _ => []

/-- What a list of calls has to tell, up to the first one that is refused. -/
def entriesOf (n : Network) : List Call → List Entry
  | [] => []
  | c :: rest =>
    match n.apply c with
    | .error _ => []
    | .ok o => n.entries o c ++
      match o.verdict with
      | .ok () => o.network.entriesOf rest
      | .error _ => []

/-- What loading a layout has to tell. -/
def entriesOfLayout (n : Network) (l : Layout) : List Entry :=
  n.entriesOf l.calls ++
    match n.load l with
    | .ok ⟨.ok (), _⟩ =>
      [.layoutLoaded l.stations.length l.lines.length l.travelTimes.length]
    | _ => []

/-- What a message of the feed has to tell. -/
def entriesOfMessage (n : Network) (m : Message) : List Entry :=
  (m.time.map (Entry.messageDated m.station)).toList ++ n.entriesOf [.record m.event]

end Network

end Transit
