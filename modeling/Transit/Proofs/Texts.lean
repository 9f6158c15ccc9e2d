import Transit.Proofs.Documents
import Transit.Proofs.RecordAgreement

/-!
# Documents as texts and as values

A layout or a message is taken from text, or from the value of the text. Where no key is repeated,
one is taken exactly when the other is, both are the same, and so is what they do to a network.

* `Layout.decoder_agrees`, `Message.decoder_agrees`: the decoders on texts and values.
* `documents_of_text`: whole texts, and networks that load or receive them.
-/

namespace Transit

open Transit.Json Transit.Json.Decoder

theorem agree_textField {τ : Type} {key : String} {others : Fields τ} (h : others.Agree) :
    (textField key others).Agree :=
  .field (string_agrees _) h

theorem Station.decoder_agrees : Station.decoder.Agrees :=
  record_agrees (agree_textField (agree_textField .done))

theorem Route.decoder_agrees : Route.decoder.Agrees :=
  record_agrees (agree_textField (agree_textField (agree_textField (agree_textField
    (agree_textField (.field (list_agrees (string_agrees _)) .done))))))

theorem Line.decoder_agrees : Line.decoder.Agrees :=
  record_agrees (agree_textField (agree_textField
    (.field (list_agrees Route.decoder_agrees) .done)))

theorem TravelTime.decoder_agrees : TravelTime.decoder.Agrees :=
  record_agrees (agree_textField (agree_textField (.field natural32_agrees .done)))

theorem Layout.decoder_agrees : Layout.decoder.Agrees :=
  record_agrees (.field (list_agrees Station.decoder_agrees)
    (.field (list_agrees Line.decoder_agrees)
      (.field (list_agrees TravelTime.decoder_agrees) .done)))

theorem Instant.decoder_agrees : Instant.decoder.Agrees := refine_agrees (string_agrees _)

theorem Message.decoder_agrees : Message.decoder.Agrees :=
  record_agrees (agree_textField (agree_textField
    (.field (optional_agrees Instant.decoder_agrees) .done)))

/-- Take a layout from text and load it. -/
def Network.loadText (n : Network) (s : String) : Except ReadError (Checked Outcome) :=
  (Layout.decoder.run s).map n.load

/-- Take a message from text and receive it. -/
def Network.receiveText (n : Network) (s : String) : Except ReadError (Checked Outcome) :=
  (Message.decoder.run s).map n.receive

/-- Take a message from a value and receive it. -/
def Network.receiveDocument (n : Network) (v : Value) : Except Mismatch (Checked Outcome) :=
  (Message.decoder.ofValue v).map n.receive

/-- A text whose value repeats no key gives a layout or a message exactly when the value does, and
the same one. Either has the same effect on every network. -/
theorem documents_of_text {s : String} {v : Value} (hs : Value.ofText s = .ok v)
    (hv : v.NoRepeats) :
    (∀ L, Layout.decoder.run s = .ok L ↔ Layout.decoder.ofValue v = .ok L) ∧
      (∀ m, Message.decoder.run s = .ok m ↔ Message.decoder.ofValue v = .ok m) ∧
      ∀ (n : Network) (o : Checked Outcome),
        (n.loadText s = .ok o ↔ n.loadDocument v = .ok o) ∧
          (n.receiveText s = .ok o ↔ n.receiveDocument v = .ok o) := by
  have hlayout (L : Layout) := Layout.decoder_agrees.run_eq_ok_iff (a := L) hs hv
  have hmessage (m : Message) := Message.decoder_agrees.run_eq_ok_iff (a := m) hs hv
  refine ⟨hlayout, hmessage, fun n o => ⟨?load, ?receive⟩⟩
  case load => simp only [Network.loadText, Network.loadDocument, Checked.map_eq_ok_iff, hlayout]
  case receive =>
    simp only [Network.receiveText, Network.receiveDocument, Checked.map_eq_ok_iff, hmessage]

/-- A layout with one station. -/
def Layout.pier : Layout where
  stations := [{ id := "p", name := "P" }]
  lines := []
  travelTimes := []

/-- The layout as an array, with the station as an object: its fields in another order, an escape in
a key, and a member that is no field. -/
def Layout.pierText : String :=
  " [[\x7b\"x\": [null],\"n\\u0061me\":\"P\",\"station_id\":\"p\"\x7d],[],[]]"

/-- The value of the text. -/
def Layout.pierDocument : Value :=
  .array [.array [.object [("x", .array [.null]), ("name", .string "P"),
    ("station_id", .string "p")]], .array [], .array []]

theorem Layout.ofText_pierText : Value.ofText pierText = .ok pierDocument := by
  -- the members of the station from the last one to the first, and then what is around them
  have hid : Gives (members false ",\"station_id\":\"p\"\x7d],[],[]]".toList)
      [("station_id", .string "p")] "],[],[]]".toList :=
    gives_members_cons.2 ⟨":\"p\"\x7d],[],[]]".toList, "\"p\"\x7d],[],[]]".toList,
      "\x7d],[],[]]".toList,
      ⟨⟨some "station_id", _, by decide⟩, by with_unfolding_all rfl, rfl, rfl⟩, rfl,
      gives_value rfl (.string ⟨⟨"p", _, by decide⟩, by with_unfolding_all rfl, rfl, rfl⟩),
      gives_members_nil.2 ⟨⟨none, _, by decide⟩, by with_unfolding_all rfl, rfl, rfl⟩⟩
  have hname : Gives (members false ",\"n\\u0061me\":\"P\",\"station_id\":\"p\"\x7d],[],[]]".toList)
      [("name", .string "P"), ("station_id", .string "p")] "],[],[]]".toList :=
    gives_members_cons.2 ⟨":\"P\",\"station_id\":\"p\"\x7d],[],[]]".toList,
      "\"P\",\"station_id\":\"p\"\x7d],[],[]]".toList, ",\"station_id\":\"p\"\x7d],[],[]]".toList,
      ⟨⟨some "name", _, by decide⟩, by with_unfolding_all rfl, rfl, rfl⟩, rfl,
      gives_value rfl (.string ⟨⟨"P", _, by decide⟩, by with_unfolding_all rfl, rfl, rfl⟩), hid⟩
  have hunknown : Gives (value
      " [null],\"n\\u0061me\":\"P\",\"station_id\":\"p\"\x7d],[],[]]".toList) (.array [.null])
      ",\"n\\u0061me\":\"P\",\"station_id\":\"p\"\x7d],[],[]]".toList :=
    gives_value rfl (.array (gives_values_cons.2
      ⟨_, _, rfl, gives_value rfl (.null rfl), gives_values_nil.2 ⟨rfl, rfl⟩⟩))
  have hstation : Gives (value
      "\x7b\"x\": [null],\"n\\u0061me\":\"P\",\"station_id\":\"p\"\x7d],[],[]]".toList)
      (.object [("x", .array [.null]), ("name", .string "P"), ("station_id", .string "p")])
      "],[],[]]".toList :=
    gives_value rfl (.object (gives_members_cons.2 ⟨_, _, _,
      ⟨⟨some "x", ": [null],\"n\\u0061me\":\"P\",\"station_id\":\"p\"\x7d],[],[]]".toList,
        by decide⟩, by with_unfolding_all rfl, rfl, rfl⟩, rfl, hunknown, hname⟩))
  refine readAll_eq_ok_iff.2 ⟨[], gives_value rfl (.array (gives_values_cons.2
    ⟨_, ",[],[]]".toList, rfl, gives_value rfl (.array (gives_values_cons.2
      ⟨_, _, rfl, hstation, gives_values_nil.2 ⟨rfl, rfl⟩⟩)), ?_⟩)), rfl⟩
  exact gives_values_cons.2 ⟨_, ",[]]".toList, rfl,
    gives_value rfl (.array (gives_values_nil.2 ⟨rfl, rfl⟩)),
    gives_values_cons.2 ⟨_, "]".toList, rfl,
      gives_value rfl (.array (gives_values_nil.2 ⟨rfl, rfl⟩)), gives_values_nil.2 ⟨rfl, rfl⟩⟩⟩

theorem documents_of_text_pier :
    Value.ofText Layout.pierText = .ok Layout.pierDocument ∧ Layout.pierDocument.NoRepeats ∧
      Layout.decoder.run Layout.pierText = .ok .pier ∧
      ∀ n : Network, n.loadText Layout.pierText = .ok (n.load .pier) := by
  have hrepeats : Layout.pierDocument.NoRepeats := by
    simp [Layout.pierDocument, Value.NoRepeats, Value.NoRepeatsItems, Value.NoRepeatsMembers]
  have hform : Layout.pier.Form Layout.pierDocument := by
    have hstation : Station.Form { id := "p", name := "P" } (.object [("x", .array [.null]),
        ("name", .string "P"), ("station_id", .string "p")]) :=
      .object (by simp) (by simp [TextForm])
    exact .array (.cons (.array (.cons hstation .nil))
      (.cons (.array .nil) (.cons (.array .nil) .nil)))
  have hread := Layout.pier.decoder_readsAs.of_form _ hform
  obtain ⟨hlayout, -, heffect⟩ := documents_of_text Layout.ofText_pierText hrepeats
  refine ⟨Layout.ofText_pierText, hrepeats, (hlayout _).2 hread, fun n => ((heffect n _).1).2 ?_⟩
  rw [Network.loadDocument, hread]
  rfl

end Transit
