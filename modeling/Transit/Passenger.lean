/-!
# Passenger events

A passenger enters or leaves a station; `PassengerEvent.delta` is what that adds to the count of
the station.
-/

namespace Transit

/-- The two ways to pass a gate. -/
inductive Passage
  | entry
  | leave
  deriving DecidableEq, Repr

instance : Inhabited Passage := ⟨.entry⟩

/-- The word for a passage in documents. -/
def Passage.name : Passage → String
  | .entry => "in"
  | .leave => "out"

/-- The word for a passage in the journal. -/
def Passage.title : Passage → String
  | .entry => "In"
  | .leave => "Out"

/-- A passenger at the gate of a station. -/
structure PassengerEvent where
  station : String
  passage : Passage
  deriving DecidableEq, Repr

/-- One more passenger, or one fewer. -/
def PassengerEvent.delta (e : PassengerEvent) : Int :=
  match e.passage with
  | .entry => 1
  | .leave => -1

end Transit
