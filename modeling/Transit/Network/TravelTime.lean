import Transit.Network.Query

/-!
# Travel times

A segment takes the same time in both directions, so a time is written on both edges between two
stations.

* `travelTime` reads the time between neighbours.
* `routeTime` adds up the segments between two stops of a route, clamped to the range of a time.
-/

namespace Transit

/-- The sum of two times, clamped to the largest one. -/
def addTimes (s t : UInt32) : UInt32 := UInt32.ofNat (min (s.toNat + t.toNat) 4294967295)

theorem toNat_addTimes (s t : UInt32) :
    (addTimes s t).toNat = min (s.toNat + t.toNat) 4294967295 := by
  unfold addTimes
  rw [UInt32.toNat_ofNat_of_lt']
  simp only [UInt32.size]
  omega

namespace Network

variable (n : Network)

/-- Set the time between two neighbours, in both directions. -/
def setTravelTime (a b : String) (time : UInt32) : Checked Outcome := do
  let edges ← match n.station? a, n.station? b with
    | some x, some y => do
      let node ← n.node x
      pure ((node.outbound.get? y).toList ++ (node.inbound.get? y).toList)
    | _, _ => pure []
  if edges.isEmpty then return ⟨.error (.notAdjacent a b), n⟩
  return ⟨.ok (), ← edges.foldlM (fun n e => n.modifyEdge e fun x => { x with time := time }) n⟩

/-- The time between two stations by handle: zero for a station and itself, and for two that are
not neighbours. -/
def segmentTime (a b : Handle .station) : Checked UInt32 :=
  if a = b then return 0
  else do
    let node ← n.node a
    match node.outbound.get? b <|> node.inbound.get? b with
    | none => return 0
    | some e => return (← n.edge e).time

/-- The time between two neighbours: zero for an id and itself, for stations that are not
neighbours, and as long as no time is set. -/
def travelTime (a b : String) : Checked UInt32 :=
  if a = b then return 0
  else match n.station? a, n.station? b with
    | some x, some y => n.segmentTime x y
    | _, _ => return 0

/-- The clamped sum of the segments from the stop at `first` to the one at `last`. -/
def spanTime (r : StoredRoute) (first last : Nat) : Checked UInt32 :=
  if first ≤ last + 1 ∧ last < r.stops.length then do
    let span := (r.stops.take (last + 1)).drop first
    let times ← (consecutive span).mapM fun pair => n.segmentTime pair.1 pair.2
    return times.foldl addTimes 0
  else throw (.noSpan first last r.stops.length)

/-- The position of a station on a route, zero for one that is not on it. -/
def stopNumberOn (r : StoredRoute) (station : String) : Nat :=
  ((n.station? station).bind r.position?).getD 0

/-- The time from `a` to `b` along a route of a line: zero for an id and itself, and for a route
that is not on the line. Against the direction of the route the policy of the network decides. -/
def routeTime (line route a b : String) : Checked UInt32 :=
  if a = b then return 0
  else do
    match ← n.routeOnLine? line route with
    | none => return 0
    | some r =>
      let i := n.stopNumberOn r a
      let j := n.stopNumberOn r b
      match Direction.between i j, n.config.inbound with
      | .outbound, _ => n.spanTime r i j
      | .inbound, .zero => return 0
      | .inbound, .reverseSum => n.spanTime r j i

end Network

end Transit
