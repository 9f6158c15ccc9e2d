/-!
# Neighbours in a list

* `consecutive` lists the pairs of neighbours of a list, from left to right.
* `firstRepeat` finds the first element that equals an earlier one.
-/

namespace Transit

variable {α : Type}

/-- The pairs of neighbouring elements, from left to right. -/
def consecutive : List α → List (α × α)
  | a :: b :: rest => (a, b) :: consecutive (b :: rest)
  | _ => []

@[simp] theorem consecutive_nil : consecutive ([] : List α) = [] := rfl

@[simp] theorem consecutive_singleton (a : α) : consecutive [a] = [] := rfl

@[simp] theorem consecutive_cons_cons (a b : α) (rest : List α) :
    consecutive (a :: b :: rest) = (a, b) :: consecutive (b :: rest) := rfl

/-- The first element that is among `seen` or equals an earlier one. -/
def firstRepeat [DecidableEq α] (seen : List α) : List α → Option α
  | [] => none
  | a :: rest => if a ∈ seen then some a else firstRepeat (a :: seen) rest

end Transit
