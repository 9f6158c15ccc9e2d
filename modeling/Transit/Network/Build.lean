import Transit.Consecutive
import Transit.Network.Basic

/-!
# Adding stations and lines

* `addStation` refuses an id that is taken.
* `addLine` first resolves the whole line (`resolveLine`) and installs it only when every check has
  passed, so a refused line leaves no trace.
* Neighbouring stops `a`, `b` of a route are joined by the edges `a → b` and `b → a`. An edge that
  is there already takes the route on and keeps its time.
-/

namespace Transit.Network

variable (n : Network)

/-- Add a station under a new id. -/
def addStation (s : Station) : Outcome :=
  if n.stationHandles.contains s.id then ⟨.error (.stationAlreadyExists s.id), n⟩
  else ⟨.ok (), { n with
    nodes := n.nodes.push { id := s.id, name := s.name }
    stationHandles := n.stationHandles.insert s.id ⟨n.nodes.size⟩ }⟩

/-! ### Resolving a line -/

/-- The handles of the stops of a route, or the first stop that is not a station. -/
def resolveStops (route : String) : List String → Except NetworkError (List (Handle .station))
  | [] => .ok []
  | stop :: rest =>
    match n.station? stop with
    | none => .error (.unknownStop route stop)
    | some s => do
      let handles ← resolveStops route rest
      return s :: handles

/-- The handles of the stops of one route. Its id has to be new, to the network and to the routes
`seen` before it in its line, and under strict rules its shape has to be right. -/
def resolveRoute (seen : List String) (r : Route) :
    Except NetworkError (List (Handle .station)) :=
  if n.routeHandles.contains r.id ∨ r.id ∈ seen then .error (.routeAlreadyExists r.id)
  else do
    if n.config.strictRoutes then
      if let .error defect := r.check then throw (.malformedRoute r.id defect)
    n.resolveStops r.id r.stops

/-- The routes of a line with the handles of their stops, or the first thing wrong with them. -/
def resolveRoutes (seen : List String) :
    List Route → Except NetworkError (List (Route × List (Handle .station)))
  | [] => .ok []
  | r :: rest => do
    let stops ← n.resolveRoute seen r
    let others ← resolveRoutes (r.id :: seen) rest
    return (r, stops) :: others

/-- The routes of a line with the handles of their stops, or the first thing wrong with the
line. -/
def resolveLine (l : Line) : Except NetworkError (List (Route × List (Handle .station))) :=
  if n.lineHandles.contains l.id then .error (.lineAlreadyExists l.id)
  else do
    if n.config.strictRoutes then
      if let .error defect := l.check then throw (.malformedLine l.id defect)
    n.resolveRoutes [] l.routes

/-! ### Installing a line -/

/-- Open a new edge and enter it at both of its ends. -/
def openEdge (a b : Handle .station) : Checked (Handle .edge × Network) := do
  let e : Handle .edge := ⟨n.edges.size⟩
  let n := { n with edges := n.edges.push { source := a, target := b } }
  let n ← n.modifyNode a fun x => { x with outbound := x.outbound.insert b e }
  let n ← n.modifyNode b fun x => { x with inbound := x.inbound.insert a e }
  return (e, n)

/-- Put a route on the edge `a → b`, which is opened when it is missing. -/
def link (r : Handle .route) (a b : Handle .station) : Checked Network := do
  let node ← n.node a
  let (e, n) ← match node.outbound.get? b with
    | some e => pure (e, n)
    | none => n.openEdge a b
  n.modifyEdge e fun x => { x with routes := x.routes.insert r }

/-- Put a route on the edges between two neighbouring stops, in both directions. -/
def linkPair (r : Handle .route) (pair : Handle .station × Handle .station) : Checked Network := do
  let n ← n.link r pair.1 pair.2
  n.link r pair.2 pair.1

/-- Install a resolved route of the line `l`. -/
def installRoute (l : Handle .line) (r : Route) (stops : List (Handle .station)) :
    Checked Network := do
  let handle : Handle .route := ⟨n.routes.size⟩
  let n ← (consecutive stops).foldlM (fun n pair => n.linkPair handle pair) n
  return { n with
    routes := n.routes.push { id := r.id, direction := r.direction, line := l, stops := stops }
    routeHandles := n.routeHandles.insert r.id handle }

/-- Install a resolved line. Its routes take the next handles, in order. -/
def installLine (l : Line) (resolved : List (Route × List (Handle .station))) :
    Checked Network := do
  let handle : Handle .line := ⟨n.lines.size⟩
  let first := n.routes.size
  let n ← resolved.foldlM (fun n entry => n.installRoute handle entry.1 entry.2) n
  let routes := (List.range resolved.length).map fun i => ⟨first + i⟩
  return { n with
    lines := n.lines.push { id := l.id, name := l.name, routes := routes }
    lineHandles := n.lineHandles.insert l.id handle }

/-- Add a line with all of its routes, or refuse it and change nothing. -/
def addLine (l : Line) : Checked Outcome :=
  match n.resolveLine l with
  | .error e => return ⟨.error e, n⟩
  | .ok resolved => return ⟨.ok (), ← n.installLine l resolved⟩

end Transit.Network
