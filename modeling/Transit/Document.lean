import Transit.Feed
import Transit.Instant.Reader
import Transit.Json.Record
import Transit.Json.Tree
import Transit.Layout
import Transit.Network.Query

/-!
# Documents

The JSON form of every description: a decoder, which takes it from a value or from text, and
`toJson`, which writes it.
-/

namespace Transit

open Transit.Json

/-! ### Names -/

/-- A direction by its name. -/
def Direction.decoder : Decoder Direction :=
  .choice ([.outbound, .inbound].map fun d => (d.name, d))

/-- A passage by its name. -/
def Passage.decoder : Decoder Passage :=
  .choice ([.entry, .leave].map fun p => (p.name, p))

/-- A policy by its name. -/
def InboundPolicy.decoder : Decoder InboundPolicy :=
  .choice ([.zero, .reverseSum].map fun p => (p.name, p))

/-- A direction as its name. -/
def Direction.toJson (d : Direction) : Value := .string d.name

/-- A passage as its name. -/
def Passage.toJson (p : Passage) : Value := .string p.name

/-- A policy as its name. -/
def InboundPolicy.toJson (p : InboundPolicy) : Value := .string p.name

/-! ### Records -/

/-- A field that is a string and has to be there. -/
def textField {β : Type} (key : String) (others : Fields β) : Fields (String × β) :=
  .field key (.string "a string") none others

/-- A station: id and name. -/
def Station.decoder : Decoder Station :=
  .record "Station" (textField "station_id" <| textField "name" .done)
    fun (id, name, ()) => { id := id, name := name }

/-- A route: id, direction, line, the two ends, and the stops. -/
def Route.decoder : Decoder Route :=
  .record "Route"
    (textField "route_id" <| textField "direction" <| textField "line_id" <|
      textField "start_station_id" <| textField "end_station_id" <|
      .field "route_stops" (.list (.string "a string")) none .done)
    fun (id, direction, lineId, start, terminus, stops, ()) =>
      { id := id, direction := direction, lineId := lineId, start := start, terminus := terminus,
        stops := stops }

/-- A line: id, name and routes. -/
def Line.decoder : Decoder Line :=
  .record "Line"
    (textField "line_id" <| textField "name" <| .field "routes" (.list Route.decoder) none .done)
    fun (id, name, routes, ()) => { id := id, name := name, routes := routes }

/-- A travel time: two stations and a time. -/
def TravelTime.decoder : Decoder TravelTime :=
  .record "TravelTimeEntry"
    (textField "start_station_id" <| textField "end_station_id" <|
      .field "travel_time" .natural32 none .done)
    fun (start, terminus, time, ()) => { start := start, terminus := terminus, time := time }

/-- A layout: stations, lines and travel times. -/
def Layout.decoder : Decoder Layout :=
  .record "NetworkLayout"
    (.field "stations" (.list Station.decoder) none <| .field "lines" (.list Line.decoder) none <|
      .field "travel_times" (.list TravelTime.decoder) none .done)
    fun (stations, lines, times, ()) =>
      { stations := stations, lines := lines, travelTimes := times }

/-- A passenger event: station and passage. -/
def PassengerEvent.decoder : Decoder PassengerEvent :=
  .record "PassengerEvent"
    (textField "station_id" <| .field "type" Passage.decoder none .done)
    fun (station, passage, ()) => { station := station, passage := passage }

/-- An instant in the relaxed form of RFC 3339. -/
def Instant.decoder : Decoder Instant :=
  (Decoder.string "an RFC 3339 formatted date and time string").refine fun s =>
    (Instant.ofString s).mapError InstantError.message

/-- A message of the feed: station, word, and perhaps an instant. -/
def Message.decoder : Decoder Message :=
  .record "PassengerEventMessage"
    (textField "station_id" <| textField "passenger_event" <|
      .field "datetime" (.optional Instant.decoder) (some none) .done)
    fun (station, word, time, ()) => { station := station, word := word, time := time }

/-- A configuration: policy and strictness, each with its default. -/
def Config.decoder : Decoder Config :=
  .record "NetworkConfig"
    (.field "inbound_travel_time" InboundPolicy.decoder (some (default : Config).inbound) <|
      .field "strict_routes" .bool (some (default : Config).strictRoutes) .done)
    fun (inbound, strict, ()) => { inbound := inbound, strictRoutes := strict }

/-- The station as a document. -/
def Station.toJson (s : Station) : Value :=
  .object [("station_id", .string s.id), ("name", .string s.name)]

/-- The route as a document. -/
def Route.toJson (r : Route) : Value :=
  .object [("route_id", .string r.id), ("direction", .string r.direction),
    ("line_id", .string r.lineId), ("start_station_id", .string r.start),
    ("end_station_id", .string r.terminus), ("route_stops", .ofStrings r.stops)]

/-- The line as a document. -/
def Line.toJson (l : Line) : Value :=
  .object [("line_id", .string l.id), ("name", .string l.name),
    ("routes", .array (l.routes.map Route.toJson))]

/-- The travel time as a document. -/
def TravelTime.toJson (t : TravelTime) : Value :=
  .object [("start_station_id", .string t.start), ("end_station_id", .string t.terminus),
    ("travel_time", .ofInt t.time.toNat)]

/-- The layout as a document. -/
def Layout.toJson (l : Layout) : Value :=
  .object [("stations", .array (l.stations.map Station.toJson)),
    ("lines", .array (l.lines.map Line.toJson)),
    ("travel_times", .array (l.travelTimes.map TravelTime.toJson))]

/-- The passenger event as a document. -/
def PassengerEvent.toJson (e : PassengerEvent) : Value :=
  .object [("station_id", .string e.station), ("type", e.passage.toJson)]

/-- The message as a document. -/
def Message.toJson (m : Message) : Value :=
  .object [("station_id", .string m.station), ("passenger_event", .string m.word),
    ("datetime", (m.time.map fun t => Value.string (t.render "Z")).getD .null)]

/-- The configuration as a document. -/
def Config.toJson (c : Config) : Value :=
  .object [("inbound_travel_time", c.inbound.toJson), ("strict_routes", .bool c.strictRoutes)]

/-! ### Documents that a network takes -/

/-- Why a network does not take a document. -/
inductive DocumentError
  | malformed (e : ReadError)
  | rejected (e : NetworkError)

/-- The wording of the refusal. -/
def DocumentError.message : DocumentError → String
  | .malformed e => "Malformed document: " ++ e.message
  | .rejected e => "Network rejected document item: " ++ e.message

end Transit
