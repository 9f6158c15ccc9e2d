import Transit.Proofs.Outcomes
import Transit.Proofs.Rendering
import Transit.Proofs.Texts

/-!
# Messages written back

A message that is taken from a value is written with its instant in universal time, whatever offset
and whatever spelling the value has. What is written gives the message again.

* `Message.decoder_ensures`: the instant of a message is in the calendar.
* `Message.ofValue_toJson`: a message whose instant is in the calendar comes back.
-/

namespace Transit

open Transit.Json

theorem Instant.ofValue_render {t : Instant} (h : t.IsValid) :
    Instant.decoder.ofValue (.string (t.render "Z")) = .ok t :=
  Decoder.refine_ofValue_eq_ok_iff.2
    ⟨_, rfl, Checked.mapError_eq_ok_iff.2 (Instant.ofString_render h)⟩

theorem Instant.decoder_ensures : Instant.decoder.Ensures Instant.IsValid := by
  intro v t h
  obtain ⟨s, hs⟩ := Decoder.refine_ensures _ _ v t h
  exact Instant.ofString_isValid (Checked.mapError_eq_ok_iff.1 hs)

theorem ensure_textField {τ : Type} {key : String} {others : Fields τ} {Q : τ → Prop}
    {S : others.Slots → Prop} (h : others.Ensure Q S) :
    (textField key others).Ensure (fun t => True ∧ Q t.2) fun ss => (∀ a ∈ ss.1, True) ∧ S ss.2 :=
  .field (Decoder.ensures_true _) nofun h

theorem Message.decoder_ensures : Message.decoder.Ensures fun m => ∀ t ∈ m.time, t.IsValid := by
  intro v m h
  have htime := Decoder.optional_ensures Instant.decoder_ensures
  have hnone : ∀ o ∈ some (none : Option Instant), ∀ t ∈ o, t.IsValid := by
    rintro _ ⟨⟩
    nofun
  obtain ⟨t, ht, rfl⟩ := Decoder.record_ensures "PassengerEventMessage"
    (ensure_textField (ensure_textField (.field htime hnone .done))) v m h
  exact ht.2.2.1

theorem Message.ofValue_toJson {m : Message} (h : ∀ t ∈ m.time, t.IsValid) :
    Message.decoder.ofValue m.toJson = .ok m := by
  have htime : (Decoder.optional Instant.decoder).ofValue
      ((m.time.map fun t => Value.string (t.render "Z")).getD .null) = .ok m.time := by
    cases ht : m.time with
    | none => rfl
    | some t =>
      rw [Option.map_some, Option.getD_some, Decoder.optional_ofValue_string,
        Instant.ofValue_render (h t ht)]
      rfl
  exact Decoder.record_ofValue_writes (.field rfl (.field rfl (.field htime .done))) (by simp)

/-- A message that is taken from a value comes back from the value that is written for it, in all of
its fields: with its instant to the nanosecond and leap seconds kept, however the instant was
spelled. Writing it again gives the same value, and receiving what is written does to every network what
receiving the first value does. -/
theorem Message.decoder_lossless {v : Value} {m : Message} (h : Message.decoder.ofValue v = .ok m) :
    Message.decoder.ofValue m.toJson = .ok m ∧
      (Message.decoder.ofValue m.toJson).map toJson = .ok m.toJson ∧
      ∀ n : Network, n.receiveDocument m.toJson = n.receiveDocument v := by
  have hback := ofValue_toJson (decoder_ensures v m h)
  refine ⟨hback, by rw [hback]; rfl, fun n => ?_⟩
  rw [Network.receiveDocument, Network.receiveDocument, hback, h]

/-- An entry in the leap second at the end of the year 2016. -/
def Message.leap : Message where
  station := "a"
  word := "in"
  time := some { date := ⟨2016, 12, 31⟩, second := 86399, nanos := 1500000000 }

/-- The entry as a clock tells it that is ahead of universal time and already in the next year: with
numbers that are not padded, and among a member that is no field. -/
def Message.leapDocument : Value :=
  .object [("datetime", .string "2017-1-1 5:29:60.5+05:30"), ("passenger_event", .string "in"),
    ("gate", .null), ("station_id", .string "a")]

theorem Message.decoder_lossless_leap :
    Message.decoder.ofValue leapDocument = .ok leap ∧
      Message.decoder.ofValue (.object [("station_id", .string "a"),
        ("passenger_event", .string "in"), ("datetime", .string "2016-12-31T23:59:60.500Z")]) =
        .ok leap ∧
      ∀ n : Network, n.receiveDocument leap.toJson = n.receiveDocument leapDocument := by
  have hread : Message.decoder.ofValue leapDocument = .ok leap := rfl
  have hwritten : leap.toJson = .object [("station_id", .string "a"),
      ("passenger_event", .string "in"), ("datetime", .string "2016-12-31T23:59:60.500Z")] := rfl
  obtain ⟨hback, -, heffect⟩ := Message.decoder_lossless hread
  exact ⟨hread, hwritten ▸ hback, heffect⟩

end Transit
