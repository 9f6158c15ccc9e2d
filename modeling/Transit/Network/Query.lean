import Transit.Consecutive
import Transit.Network.Basic

/-!
# Looking things up

* Names, labels and routes by id.
* `routesServing` gathers the routes of every edge that touches a station.
* `stopPosition?` and `direction` place stations along a route.
-/

namespace Transit

/-- The direction of travel between two stops of a route. -/
inductive Direction
  /-- With the order of the stops. -/
  | outbound
  /-- Against it. -/
  | inbound
  deriving DecidableEq, Repr

/-- The word for a direction. -/
def Direction.name : Direction → String
  | .outbound => "outbound"
  | .inbound => "inbound"

/-- The direction between two positions: outbound unless the first comes after the second. -/
def Direction.between (a b : Nat) : Direction := if a ≤ b then .outbound else .inbound

namespace Network

variable (n : Network)

/-- Whether a station id is known. -/
def hasStation (id : String) : Bool := n.stationHandles.contains id

/-- Whether a line id is known. -/
def hasLine (id : String) : Bool := n.lineHandles.contains id

/-- Whether a route id is known. -/
def hasRoute (id : String) : Bool := n.routeHandles.contains id

/-- The name of a station. -/
def stationName? (id : String) : Checked (Option String) :=
  match n.station? id with
  | none => return none
  | some s => return some (← n.node s).name

/-- The ids of the stations, in the order in which they were added. -/
def stationIds : List String := n.nodes.toList.map (·.id)

/-- The name of a line. -/
def lineName? (id : String) : Checked (Option String) :=
  match n.line? id with
  | none => return none
  | some l => return some (← n.line l).name

/-- The route under an id. -/
def findRoute? (id : String) : Checked (Option StoredRoute) :=
  match n.route? id with
  | none => return none
  | some r => return some (← n.route r)

/-- The route under an id, provided that it belongs to the line under another. -/
def routeOnLine? (line route : String) : Checked (Option StoredRoute) := do
  match ← n.findRoute? route with
  | none => return none
  | some r => return if (← n.line r.line).id = line then some r else none

/-- The direction label of a route. -/
def routeDirection? (id : String) : Checked (Option String) := do
  return (← n.findRoute? id).map (·.direction)

/-- The ids of the routes of a line, in the order in which they were added. An unknown line has
none. -/
def routesOfLine (id : String) : Checked (List String) :=
  match n.line? id with
  | none => return []
  | some l => do (← n.line l).routes.mapM fun r => return (← n.route r).id

/-- The ids of all routes on the edges that touch a station, each once. An unknown station has
none. -/
def routesServing (station : String) : Checked (List String) :=
  match n.station? station with
  | none => return []
  | some s => do
    let edges ← (← n.node s).incident.mapM n.edge
    let routes := Roster.ofList (edges.flatMap (·.routes.members))
    routes.members.mapM fun r => return (← n.route r).id

/-- The position of the first stop of a route at a station. -/
def stopPosition? (station route : String) : Checked (Option Nat) := do
  match ← n.findRoute? route with
  | none => return none
  | some r => return (n.station? station).bind r.position?

/-- The position of a station on a route, zero for one that is not on it. -/
def stopNumber (station route : String) : Checked Nat := do
  return (← n.stopPosition? station route).getD 0

/-- The direction of travel from `a` to `b` on a route. -/
def direction (a b route : String) : Checked Direction := do
  return Direction.between (← n.stopNumber a route) (← n.stopNumber b route)

end Network

end Transit
