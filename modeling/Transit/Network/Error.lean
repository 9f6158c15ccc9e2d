import Transit.Descriptor

/-!
# Why a network refuses a call

Every cause is a constructor of `NetworkError`; `message` holds the wording.
-/

namespace Transit

/-- The causes for which a network refuses a call. -/
inductive NetworkError
  | stationNotFound (station : String)
  | stationAlreadyExists (station : String)
  | lineAlreadyExists (line : String)
  | routeAlreadyExists (route : String)
  | unknownStop (route station : String)
  | malformedRoute (route : String) (defect : RouteDefect)
  | malformedLine (line : String) (defect : LineDefect)
  | notAdjacent (a b : String)
  deriving DecidableEq, Repr

namespace NetworkError

/-- The wording of a refusal. -/
def message : NetworkError → String
  | stationNotFound s => "Station " ++ s ++ " not found"
  | stationAlreadyExists s => "Station " ++ s ++ " already exists"
  | lineAlreadyExists l => "Line " ++ l ++ " already exists"
  | routeAlreadyExists r => "Route " ++ r ++ " already exists"
  | unknownStop r s => "Route " ++ r ++ " stops at unknown station " ++ s
  | malformedRoute r d => "Route " ++ r ++ " is malformed: " ++ d.message
  | malformedLine l d => "Line " ++ l ++ " is malformed: " ++ d.message
  | notAdjacent a b => "Stations " ++ a ++ " and " ++ b ++ " are not adjacent"

/-- Whether the cause is a station that was never added. -/
def isNotFound : NetworkError → Bool
  | stationNotFound _ => true
  | _ => false

end NetworkError

end Transit
