/-!
# Configuration of a network

Two switches: what a cumulative travel time answers against the direction of a route, and whether
lines and routes have to be well formed to be added.
-/

namespace Transit

/-- What a cumulative travel time answers when its first station comes after its second one. -/
inductive InboundPolicy
  /-- The answer is zero. -/
  | zero
  /-- The answer is the sum of the same segments walked backwards. -/
  | reverseSum
  deriving DecidableEq, Repr

/-- The word for a policy in documents. -/
def InboundPolicy.name : InboundPolicy → String
  | .zero => "zero"
  | .reverseSum => "reverse_sum"

/-- The switches of a network. -/
structure Config where
  inbound : InboundPolicy := .zero
  strictRoutes : Bool := false
  deriving DecidableEq, Repr

instance : Inhabited Config := ⟨{}⟩

end Transit
