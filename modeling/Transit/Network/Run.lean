import Transit.Network.Build
import Transit.Network.Ledger
import Transit.Network.TravelTime

/-!
# Runs of calls

* `apply` makes one call.
* `attempt` makes a list of calls and stops at the first refusal, keeping what came before it.
-/

namespace Transit

/-- A call that may change a network. -/
inductive Call
  | addStation (s : Station)
  | addLine (l : Line)
  | setTravelTime (a b : String) (time : UInt32)
  | record (e : PassengerEvent)
  deriving DecidableEq

namespace Network

/-- Make one call. -/
def apply (n : Network) : Call → Checked Outcome
  | .addStation s => return n.addStation s
  | .addLine l => n.addLine l
  | .setTravelTime a b time => n.setTravelTime a b time
  | .record e => n.record e

/-- Make the calls up to the first one that is refused. -/
def attempt (n : Network) : List Call → Checked Outcome
  | [] => return ⟨.ok (), n⟩
  | c :: rest => do
    let o ← n.apply c
    match o.verdict with
    | .error _ => return o
    | .ok () => attempt o.network rest

end Network

end Transit
