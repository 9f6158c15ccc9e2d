import Transit.Feed
import Transit.Layout
import Transit.Network.Query

/-!
# Sessions

A session is what a network lives through: requests that may change it, and queries that do not.

* `Network.serve` makes the calls of a request, and `Network.session` serves a list of requests,
  whatever the verdicts.
* `Network.ask` answers a query.
* `Network.accepted` lists the calls that a session accepts. Whatever a network is, it is on their
  account.
-/

namespace Transit

/-- What may change a network: a call, a whole layout, or a message of the feed. -/
inductive Request
  | call (c : Call)
  | load (l : Layout)
  | receive (m : Message)

/-- The calls that a request makes, up to the first one that is refused. -/
def Request.calls : Request → List Call
  | .call c => [c]
  | .load l => l.calls
  | .receive m => [.record m.event]

/-- What can be asked of a network. -/
inductive Query
  | config
  | hasStation (id : String)
  | hasLine (id : String)
  | hasRoute (id : String)
  | stationName (id : String)
  | lineName (id : String)
  | routeDirection (id : String)
  | stationIds
  | routesOfLine (id : String)
  | routesServing (station : String)
  | stopPosition (station route : String)
  | stopNumber (station route : String)
  | direction (a b route : String)
  | travelTime (a b : String)
  | routeTime (line route a b : String)
  | passengerCount (station : String)
  | statistics

/-- What a query is answered with. -/
inductive Answer
  | config (c : Config)
  | flag (b : Bool)
  | text (t : Option String)
  | texts (ts : List String)
  | position (p : Option Nat)
  | number (n : Nat)
  | direction (d : Direction)
  | time (t : UInt32)
  | count (c : Except NetworkError Int)
  | statistics (s : Statistics)

namespace Network

/-- Serve a request. -/
def serve (n : Network) : Request → Checked Outcome
  | .call c => n.apply c
  | .load l => n.load l
  | .receive m => n.receive m

/-- Serve every request, whatever the verdicts. -/
def session (n : Network) : List Request → Checked Network
  | [] => return n
  | r :: rest => do
    let o ← n.serve r
    o.network.session rest

/-- Answer a query. -/
def ask (n : Network) : Query → Checked Answer
  | .config => return .config n.config
  | .hasStation id => return .flag (n.hasStation id)
  | .hasLine id => return .flag (n.hasLine id)
  | .hasRoute id => return .flag (n.hasRoute id)
  | .stationName id => return .text (← n.stationName? id)
  | .lineName id => return .text (← n.lineName? id)
  | .routeDirection id => return .text (← n.routeDirection? id)
  | .stationIds => return .texts n.stationIds
  | .routesOfLine id => return .texts (← n.routesOfLine id)
  | .routesServing station => return .texts (← n.routesServing station)
  | .stopPosition station route => return .position (← n.stopPosition? station route)
  | .stopNumber station route => return .number (← n.stopNumber station route)
  | .direction a b route => return .direction (← n.direction a b route)
  | .travelTime a b => return .time (← n.travelTime a b)
  | .routeTime line route a b => return .time (← n.routeTime line route a b)
  | .passengerCount station => return .count (← n.passengerCount station)
  | .statistics => return .statistics n.statistics

/-! ### Histories -/

/-- The calls of a list that `attempt` makes before the first refusal. -/
def granted (n : Network) : List Call → Checked (List Call)
  | [] => return []
  | c :: rest => do
    let o ← n.apply c
    match o.verdict with
    | .error _ => return []
    | .ok () => return c :: (← o.network.granted rest)

/-- The calls that a session accepts, in order. -/
def accepted (n : Network) : List Request → Checked (List Call)
  | [] => return []
  | r :: rest => do
    let now ← n.granted r.calls
    let o ← n.serve r
    return now ++ (← o.network.accepted rest)

/-- A network that some session makes of an empty one. -/
def Reachable (n : Network) : Prop :=
  ∃ config requests, session { config := config } requests = .ok n

end Network

end Transit
