import Transit.Document
import Transit.Sample

/-!
# The report

The sample network in plain lines: its size, its routes with their times from end to end, and its
stations with their passengers after the messages of the feed. Layout and messages are read from
their documents.
-/

namespace Transit

/-- The version of the program. -/
def version : String := "0.1.0"

/-- Why there is no report. -/
inductive ReportError
  | layout (e : Json.ReadError)
  | network (e : NetworkError)
  | messages (e : Json.ReadError)
  | refused (e : NetworkError)

/-- What was being done, and why it failed. -/
def ReportError.message : ReportError → String
  | layout e => "parsing sample layout: " ++ (DocumentError.malformed e).message
  | network e => "building network from sample layout: " ++ (DocumentError.rejected e).message
  | messages e => "parsing sample events: " ++ e.message
  | refused e => e.message

namespace Report

/-- The text with blanks after it up to a width. -/
def padRight (width : Nat) (s : String) : String :=
  s ++ String.ofList (List.replicate (width - s.length) ' ')

/-- The text with blanks before it up to a width. -/
def padLeft (width : Nat) (s : String) : String :=
  String.ofList (List.replicate (width - s.length) ' ') ++ s

/-- Name and version of the program, underlined. -/
def title : List String :=
  ["Network Monitor v" ++ version, "==========================================", ""]

/-- The sizes of the tables. -/
def sizes (n : Network) : List String :=
  let s := n.statistics
  ["=== Network ===",
    "  Stations: " ++ toString s.stations,
    "  Lines:    " ++ toString s.lines,
    "  Routes:   " ++ toString s.routes,
    "  Edges:    " ++ toString s.edges]

/-- A route of a line, with its time from end to end. -/
def routeLine (n : Network) (l : Line) (r : Route) : Checked String := do
  let name := (← n.lineName? l.id).getD l.id
  let direction := (← n.routeDirection? r.id).getD "?"
  let time ← n.routeTime l.id r.id r.start r.terminus
  return "  " ++ name ++ " " ++ r.id ++ " (" ++ direction ++ "): " ++ toString r.stops.length
    ++ " stops, " ++ toString time.toNat ++ " min end to end"

/-- Every route of a layout. -/
def routes (n : Network) (l : Layout) : Checked (List String) := do
  let rows ← l.lines.mapM fun line => line.routes.mapM (routeLine n line)
  return "" :: "=== Routes ===" :: rows.flatten

/-- A result that the report cannot do without. -/
def need {ε α : Type} (why : ε → ReportError) (r : Except ε α) : ExceptT ReportError Checked α :=
  ExceptT.mk (pure (r.mapError why))

/-- A station with its passengers and routes. -/
def stationLine (n : Network) (id : String) : ExceptT ReportError Checked String := do
  let name := (← n.stationName? id).getD id
  let count ← need .refused (← n.passengerCount id)
  let routes ← n.routesServing id
  return "  " ++ padRight 14 name ++ " passengers: " ++ padLeft 3 (toString count) ++ "  routes: "
    ++ String.intercalate ", " routes

/-- Every station, after a number of messages. -/
def stations (n : Network) (messages : Nat) : ExceptT ReportError Checked (List String) := do
  let rows ← n.stationIds.mapM (stationLine n)
  return "" :: ("=== Stations after " ++ toString messages ++ " events ===") :: rows

/-- The report on a layout and the messages that follow it, both as documents. -/
def lines (layout messages : String) : ExceptT ReportError Checked (List String) := do
  let l ← need .layout (Layout.decoder.run layout)
  let built ← need .network (← Network.ofLayout l {})
  let onRoutes ← routes built l
  let ms ← need .messages ((Json.Decoder.list Message.decoder).run messages)
  let o ← built.attempt (ms.map fun m => .record m.event)
  need .refused o.verdict
  return title ++ sizes built ++ onRoutes ++ (← stations o.network ms.length)

/-- The report on the sample network. -/
def sample : Checked (Except ReportError (List String)) :=
  (lines Sample.layout Sample.messages).run

end Report

end Transit
