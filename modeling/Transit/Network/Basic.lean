import Transit.Config
import Transit.Directory
import Transit.Handle
import Transit.Network.Error
import Transit.Roster

/-!
# The network

A network is four tables (stations, directed edges, routes, lines) whose entries refer to each
other by handle, and three directories from ids to handles.

* Every table is read through a checked accessor. A handle outside its table is a `Fault`, so that
  "no access goes out of range" is a statement about results.
* `Outcome` pairs the verdict on a call with the network after it.
-/

namespace Transit

/-- A station in the network, with the edges that touch it and the passengers inside. -/
structure Node where
  id : String
  name : String
  /-- The edges that leave, by the station they lead to. -/
  outbound : Directory (Handle .station) (Handle .edge) := ∅
  /-- The edges that arrive, by the station they come from. -/
  inbound : Directory (Handle .station) (Handle .edge) := ∅
  /-- Negative when passengers leave who were inside before counting began. The number has no bound,
  but below 2⁶³ accepted events it stays within a signed word of 64 bits: that is what
  `Network.InRange` says of all counters and their sums, and `Network.session_ledger` shows. -/
  passengers : Int := 0
  deriving DecidableEq

/-- Every edge that touches the station, those that leave first. -/
def Node.incident (n : Node) : List (Handle .edge) := n.outbound.values ++ n.inbound.values

/-- A step from a station to a neighbour, shared by all routes that take it. -/
structure Edge where
  source : Handle .station
  target : Handle .station
  /-- The routes that use the edge or its reverse. -/
  routes : Roster (Handle .route) := ∅
  /-- Zero as long as no time is set. -/
  time : UInt32 := 0
  deriving DecidableEq

/-- A route in the network, its stops as handles. -/
structure StoredRoute where
  id : String
  direction : String
  line : Handle .line
  stops : List (Handle .station)
  deriving DecidableEq

/-- The position of the first stop at a station. -/
def StoredRoute.position? (r : StoredRoute) (s : Handle .station) : Option Nat :=
  r.stops.findIdx? (· == s)

/-- A line in the network, its routes as handles. -/
structure StoredLine where
  id : String
  name : String
  routes : List (Handle .route)
  deriving DecidableEq

/-- An access outside a table, or a span of stops outside its route. -/
inductive Fault
  | noStation (s : Handle .station)
  | noEdge (e : Handle .edge)
  | noRoute (r : Handle .route)
  | noLine (l : Handle .line)
  | noSpan (first last stops : Nat)
  deriving DecidableEq

/-- A computation whose accesses are checked. -/
abbrev Checked := Except Fault

/-- Stations, edges, routes and lines, and the handles of their ids. -/
structure Network where
  config : Config := {}
  nodes : Array Node := #[]
  edges : Array Edge := #[]
  routes : Array StoredRoute := #[]
  lines : Array StoredLine := #[]
  stationHandles : Directory String (Handle .station) := ∅
  routeHandles : Directory String (Handle .route) := ∅
  lineHandles : Directory String (Handle .line) := ∅
  deriving DecidableEq

instance : Inhabited Network := ⟨{}⟩

/-- What a call leaves behind: the verdict on it, and the network after it. -/
structure Outcome where
  verdict : Except NetworkError Unit
  network : Network

namespace Network

variable (n : Network)

/-! ### Checked access -/

/-- The station of a handle. -/
def node (s : Handle .station) : Checked Node :=
  match n.nodes[s.index]? with
  | some x => .ok x
  | none => .error (.noStation s)

/-- The edge of a handle. -/
def edge (e : Handle .edge) : Checked Edge :=
  match n.edges[e.index]? with
  | some x => .ok x
  | none => .error (.noEdge e)

/-- The route of a handle. -/
def route (r : Handle .route) : Checked StoredRoute :=
  match n.routes[r.index]? with
  | some x => .ok x
  | none => .error (.noRoute r)

/-- The line of a handle. -/
def line (l : Handle .line) : Checked StoredLine :=
  match n.lines[l.index]? with
  | some x => .ok x
  | none => .error (.noLine l)

/-- The network with the station of a handle changed by `f`. -/
def modifyNode (s : Handle .station) (f : Node → Node) : Checked Network :=
  if s.index < n.nodes.size then .ok { n with nodes := n.nodes.modify s.index f }
  else .error (.noStation s)

/-- The network with the edge of a handle changed by `f`. -/
def modifyEdge (e : Handle .edge) (f : Edge → Edge) : Checked Network :=
  if e.index < n.edges.size then .ok { n with edges := n.edges.modify e.index f }
  else .error (.noEdge e)

/-! ### Handles by id -/

/-- The handle of a station id. -/
def station? (id : String) : Option (Handle .station) := n.stationHandles.get? id

/-- The handle of a route id. -/
def route? (id : String) : Option (Handle .route) := n.routeHandles.get? id

/-- The handle of a line id. -/
def line? (id : String) : Option (Handle .line) := n.lineHandles.get? id

end Network

end Transit
