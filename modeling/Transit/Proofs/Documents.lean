import Transit.Document
import Transit.Proofs.Forms

/-!
# Layout documents

* `Layout.Form L v`: the value `v` writes the layout `L`. Every record in it, the layout itself
  included, is an object of its fields, perhaps with members of other keys, or the array of the
  fields, each record in the one form or the other.
* `Layout.decoder_forms`: what `toJson` writes is a form, the decoder takes the layout from every
  form, and a value without repeated keys that gives the layout is a form of it.
-/

namespace Transit

open Transit.Json

/-! ### The forms of descriptions -/

/-- The values that write the station. -/
def Station.Form (s : Station) : Value → Prop :=
  RecordForm [("station_id", TextForm s.id), ("name", TextForm s.name)]

/-- The values that write the route. -/
def Route.Form (r : Route) : Value → Prop :=
  RecordForm [("route_id", TextForm r.id), ("direction", TextForm r.direction),
    ("line_id", TextForm r.lineId), ("start_station_id", TextForm r.start),
    ("end_station_id", TextForm r.terminus), ("route_stops", ListForm TextForm r.stops)]

/-- The values that write the line. -/
def Line.Form (l : Line) : Value → Prop :=
  RecordForm [("line_id", TextForm l.id), ("name", TextForm l.name),
    ("routes", ListForm Route.Form l.routes)]

/-- The values that write the travel time. -/
def TravelTime.Form (t : TravelTime) : Value → Prop :=
  RecordForm [("start_station_id", TextForm t.start), ("end_station_id", TextForm t.terminus),
    ("travel_time", (· = .ofInt t.time.toNat))]

/-- The values that write the layout. -/
def Layout.Form (L : Layout) : Value → Prop :=
  RecordForm [("stations", ListForm Station.Form L.stations),
    ("lines", ListForm Line.Form L.lines),
    ("travel_times", ListForm TravelTime.Form L.travelTimes)]

/-! ### Encoders -/

theorem Station.form_toJson (s : Station) : s.Form s.toJson :=
  .of_forall₂ (by simp) (.cons ⟨rfl, rfl⟩ (.cons ⟨rfl, rfl⟩ .nil))

theorem Route.form_toJson (r : Route) : r.Form r.toJson := by
  have hstops : ListForm TextForm r.stops (.ofStrings r.stops) := .of_map fun _ _ => rfl
  exact .of_forall₂ (by simp) (.cons ⟨rfl, rfl⟩ (.cons ⟨rfl, rfl⟩ (.cons ⟨rfl, rfl⟩
    (.cons ⟨rfl, rfl⟩ (.cons ⟨rfl, rfl⟩ (.cons ⟨rfl, hstops⟩ .nil))))))

theorem Line.form_toJson (l : Line) : l.Form l.toJson :=
  .of_forall₂ (by simp) (.cons ⟨rfl, rfl⟩ (.cons ⟨rfl, rfl⟩
    (.cons ⟨rfl, .of_map fun r _ => r.form_toJson⟩ .nil)))

theorem TravelTime.form_toJson (t : TravelTime) : t.Form t.toJson :=
  .of_forall₂ (by simp) (.cons ⟨rfl, rfl⟩ (.cons ⟨rfl, rfl⟩ (.cons ⟨rfl, rfl⟩ .nil)))

theorem Layout.form_toJson (L : Layout) : L.Form L.toJson :=
  .of_forall₂ (by simp) (.cons ⟨rfl, .of_map fun s _ => s.form_toJson⟩
    (.cons ⟨rfl, .of_map fun l _ => l.form_toJson⟩
      (.cons ⟨rfl, .of_map fun t _ => t.form_toJson⟩ .nil)))

/-! ### Decoders -/

theorem fits_textField {τ : Type} {key s : String} {others : Fields τ} {t : τ}
    {rest : List (String × (Value → Prop))} (h : others.Fits t rest) :
    (textField key others).Fits (s, t) ((key, TextForm s) :: rest) :=
  .field (Decoder.string_readsAs _ s) h

theorem Station.decoder_readsAs (s : Station) : Station.decoder.ReadsAs s s.Form := by
  refine Decoder.record_readsAs (t := (s.id, s.name, ())) "Station" ?fits (by simp) ?build
  case fits => exact fits_textField (fits_textField .done)
  case build =>
    rintro ⟨_, _, _⟩ ⟨_, _, _⟩ ⟨⟩
    rfl

theorem Route.decoder_readsAs (r : Route) : Route.decoder.ReadsAs r r.Form := by
  refine Decoder.record_readsAs
    (t := (r.id, r.direction, r.lineId, r.start, r.terminus, r.stops, ())) "Route" ?fits (by simp)
    ?build
  case fits =>
    have hstops : (Decoder.string "a string").list.ReadsAs r.stops (ListForm TextForm r.stops) :=
      Decoder.list_readsAs fun s _ => Decoder.string_readsAs _ s
    exact fits_textField (fits_textField (fits_textField (fits_textField (fits_textField
      (.field hstops .done)))))
  case build =>
    rintro ⟨_, _, _, _, _, _, _⟩ ⟨_, _, _, _, _, _, _⟩ ⟨⟩
    rfl

theorem Line.decoder_readsAs (l : Line) : Line.decoder.ReadsAs l l.Form := by
  refine Decoder.record_readsAs (t := (l.id, l.name, l.routes, ())) "Line" ?fits (by simp) ?build
  case fits =>
    have hroutes : Route.decoder.list.ReadsAs l.routes (ListForm Route.Form l.routes) :=
      Decoder.list_readsAs fun r _ => r.decoder_readsAs
    exact fits_textField (fits_textField (.field hroutes .done))
  case build =>
    rintro ⟨_, _, _, _⟩ ⟨_, _, _, _⟩ ⟨⟩
    rfl

theorem TravelTime.decoder_readsAs (t : TravelTime) : TravelTime.decoder.ReadsAs t t.Form := by
  refine Decoder.record_readsAs (t := (t.start, t.terminus, t.time, ())) "TravelTimeEntry" ?fits
    (by simp) ?build
  case fits =>
    exact fits_textField (fits_textField (.field (Decoder.natural32_readsAs t.time) .done))
  case build =>
    rintro ⟨_, _, _, _⟩ ⟨_, _, _, _⟩ ⟨⟩
    rfl

theorem Layout.decoder_readsAs (L : Layout) : Layout.decoder.ReadsAs L L.Form := by
  refine Decoder.record_readsAs (t := (L.stations, L.lines, L.travelTimes, ())) "NetworkLayout"
    ?fits (by simp) ?build
  case fits =>
    have hstations := Decoder.list_readsAs fun s (_ : s ∈ L.stations) => s.decoder_readsAs
    have hlines := Decoder.list_readsAs fun l (_ : l ∈ L.lines) => l.decoder_readsAs
    have htimes := Decoder.list_readsAs fun t (_ : t ∈ L.travelTimes) => t.decoder_readsAs
    exact .field hstations (.field hlines (.field htimes .done))
  case build =>
    rintro ⟨_, _, _, _⟩ ⟨_, _, _, _⟩ ⟨⟩
    rfl

/-! ### Round trips -/

/-- Take a layout from a value and load it. -/
def Network.loadDocument (n : Network) (v : Value) : Except Mismatch (Checked Outcome) :=
  (Layout.decoder.ofValue v).map n.load

/-- A layout comes back from the value that is written for it, and from every other form of it, in
all of its fields, so that loading any of them into a network is loading the layout. No other value
gives the layout, unless it repeats a key. -/
theorem Layout.decoder_forms (L : Layout) :
    L.Form L.toJson ∧
      (∀ v, L.Form v → Layout.decoder.ofValue v = .ok L ∧
        ∀ n : Network, n.loadDocument v = .ok (n.load L)) ∧
      ∀ v, v.NoRepeats → Layout.decoder.ofValue v = .ok L → L.Form v := by
  refine ⟨L.form_toJson, fun v hv => ?_, L.decoder_readsAs.to_form⟩
  have hread := L.decoder_readsAs.of_form v hv
  refine ⟨hread, fun n => ?_⟩
  rw [Network.loadDocument, hread]
  rfl

/-- A shuttle between two stations. -/
def Layout.shuttle : Layout where
  stations := [{ id := "a", name := "Àrea" }, { id := "b", name := "B" }]
  lines := [{ id := "l", name := "L", routes := [.along "r" "outbound" "l" ["a", "b"]] }]
  travelTimes := [{ start := "a", terminus := "b", time := 4294967295 }]

/-- The shuttle, written with arrays for the layout, a station and the route, and with members of
other keys in a station, the line and the travel time. -/
def Layout.shuttleDocument : Value :=
  .array [
    .array [
      .object [("zone", .ofInt 1), ("name", .string "Àrea"), ("station_id", .string "a")],
      .array [.string "b", .string "B"]],
    .array [
      .object [("line_id", .string "l"), ("name", .string "L"), ("stations", .array []),
        ("routes", .array [.array [.string "r", .string "outbound", .string "l", .string "a",
          .string "b", .ofStrings ["a", "b"]]])]],
    .array [
      .object [("start_station_id", .string "a"), ("end_station_id", .string "b"),
        ("travel_time", .ofInt 4294967295), ("unit", .null)]]]

theorem Layout.decoder_forms_shuttle :
    shuttle.Form shuttleDocument ∧ decoder.ofValue shuttleDocument = .ok shuttle ∧
      ∀ n : Network, n.loadDocument shuttleDocument = n.loadDocument shuttle.toJson := by
  have hform : shuttle.Form shuttleDocument := by
    have hroute : (Route.along "r" "outbound" "l" ["a", "b"]).Form
        (.array [.string "r", .string "outbound", .string "l", .string "a", .string "b",
          .ofStrings ["a", "b"]]) :=
      .array (.cons rfl (.cons rfl (.cons rfl (.cons rfl (.cons rfl
        (.cons (ListForm.of_map fun _ _ => rfl) .nil))))))
    refine .array (.cons ?stations (.cons ?lines (.cons ?times .nil)))
    case stations =>
      exact .array (.cons (.object (by simp) (by simp [TextForm]))
        (.cons (.array (.cons rfl (.cons rfl .nil))) .nil))
    case lines =>
      have hroutes : ListForm Route.Form [.along "r" "outbound" "l" ["a", "b"]] _ :=
        .array (.cons hroute .nil)
      exact .array (.cons (.object (by simp) (by simpa [TextForm] using hroutes)) .nil)
    case times =>
      exact .array (.cons (.object (by simp) (by simp [TextForm, Value.ofInt])) .nil)
  have hread := (decoder_forms shuttle).2.1 shuttleDocument hform
  have hload := ((decoder_forms shuttle).2.1 shuttle.toJson (decoder_forms shuttle).1).2
  exact ⟨hform, hread.1, fun n => (hread.2 n).trans (hload n).symm⟩

end Transit
