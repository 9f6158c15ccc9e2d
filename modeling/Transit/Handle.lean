/-!
# Handles

A network keeps its stations, edges, routes and lines in four tables. A handle is a position in
one of them, and its kind says in which, so that handles of two kinds never mix.
-/

namespace Transit

/-- The four tables of a network. -/
inductive Kind
  | station
  | edge
  | route
  | line
  deriving DecidableEq

/-- The word that a handle of this kind is written with. -/
def Kind.label : Kind → String
  | .station => "StationIdx"
  | .edge => "EdgeIdx"
  | .route => "RouteIdx"
  | .line => "LineIdx"

/-- A position in the table of one kind. -/
structure Handle (kind : Kind) where
  index : Nat
  deriving DecidableEq

namespace Handle

variable {kind : Kind}

instance : LT (Handle kind) := ⟨fun a b => a.index < b.index⟩

instance (a b : Handle kind) : Decidable (a < b) :=
  inferInstanceAs (Decidable (a.index < b.index))

/-- The label of the kind, with the position in parentheses. -/
def render (h : Handle kind) : String :=
  kind.label ++ "(" ++ toString h.index ++ ")"

end Handle

end Transit
