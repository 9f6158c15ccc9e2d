import Transit.Consecutive

/-!
# Stations, routes and lines as they are described

Descriptors are what a caller hands to a network.

* `Route.check` and `Line.check` test the rules of shape that need no network and report the first
  one that is broken.
* Two descriptors of a kind are the same (`isSame`) when their ids are.
-/

namespace Transit

/-- A station: an id that is unique in its network, and a name. -/
structure Station where
  id : String := ""
  name : String := ""
  deriving DecidableEq, Repr

/-- A journey along a list of stops. -/
structure Route where
  id : String := ""
  direction : String := ""
  lineId : String := ""
  start : String := ""
  terminus : String := ""
  stops : List String := []
  deriving DecidableEq, Repr

/-- A named collection of routes. -/
structure Line where
  id : String := ""
  name : String := ""
  routes : List Route := []
  deriving DecidableEq, Repr

/-- Whether two descriptors name one station. -/
def Station.isSame (a b : Station) : Bool := a.id == b.id

/-! ### Routes -/

/-- A rule of shape that a route breaks. -/
inductive RouteDefect
  | tooShort (stops : Nat)
  | repeatedStop (stop : String)
  | wrongStart (station : String)
  | wrongTerminus (station : String)
  deriving DecidableEq, Repr

/-- The reason given for a defect. -/
def RouteDefect.message : RouteDefect → String
  | .tooShort n => "has " ++ toString n ++ " stop(s), at least 2 required"
  | .repeatedStop stop => "stop " ++ stop ++ " appears more than once"
  | .wrongStart station => "start station " ++ station ++ " is not the first stop"
  | .wrongTerminus station => "end station " ++ station ++ " is not the last stop"

namespace Route

/-- Whether two descriptors name one route. -/
def isSame (a b : Route) : Bool := a.id == b.id

/-- The route along `stops`, which starts and ends where they do. -/
def along (id direction lineId : String) (stops : List String) : Route where
  id := id
  direction := direction
  lineId := lineId
  start := stops.head?.getD ""
  terminus := stops.getLast?.getD ""
  stops := stops

/-- The first rule of shape that the route breaks: at least two stops, no stop twice, the start
first and the terminus last. -/
def check (r : Route) : Except RouteDefect Unit :=
  if r.stops.length < 2 then .error (.tooShort r.stops.length)
  else match firstRepeat [] r.stops with
    | some stop => .error (.repeatedStop stop)
    | none =>
      if r.stops.head? ≠ some r.start then .error (.wrongStart r.start)
      else if r.stops.getLast? ≠ some r.terminus then .error (.wrongTerminus r.terminus)
      else .ok ()

end Route

/-! ### Lines -/

/-- A rule of shape that a line breaks. -/
inductive LineDefect
  | noRoutes
  | foreignRoute (route line : String)
  deriving DecidableEq, Repr

/-- The reason given for a defect. -/
def LineDefect.message : LineDefect → String
  | .noRoutes => "has no routes"
  | .foreignRoute route line => "route " ++ route ++ " belongs to line " ++ line

namespace Line

/-- Whether two descriptors name one line. -/
def isSame (a b : Line) : Bool := a.id == b.id

/-- The first rule of shape that the line breaks: at least one route, and each of them its own.
The routes themselves are checked by `Route.check`. -/
def check (l : Line) : Except LineDefect Unit :=
  if l.routes.isEmpty then .error .noRoutes
  else match l.routes.find? (fun r => r.lineId != l.id) with
    | some r => .error (.foreignRoute r.id r.lineId)
    | none => .ok ()

end Line

end Transit
