import Transit.Text.Quoted

/-!
# Data of the wrong shape

`ShapeError` lists the ways in which well written data can fail to be what a reader asks for. What
was found instead is of a type that each format chooses.
-/

namespace Transit

/-- Why data is not what was asked for. -/
inductive ShapeError (φ : Type)
  | missingField (name : String)
  | duplicateField (name : String)
  | invalidType (found : φ) (expected : String)
  | invalidValue (found : φ) (expected : String)
  | invalidLength (length : Nat) (expected : String)
  | unknownVariant (name : String) (known : List String)
  /-- The data has the right shape, but what it stands for refuses it. -/
  | refused (reason : String)

namespace ShapeError

/-- A name between grave accents. -/
def named (name : String) : String := "`" ++ name ++ "`"

/-- The names to choose from. -/
def choices : List String → String
  | [] => "nothing"
  | [a] => named a
  | [a, b] => named a ++ " or " ++ named b
  | as => "one of " ++ String.intercalate ", " (as.map named)

/-- The wording of the error, given a description of what was found. -/
def message {φ : Type} (describe : φ → String) : ShapeError φ → String
  | missingField f => "missing field " ++ named f
  | duplicateField f => "duplicate field " ++ named f
  | invalidType x expected => "invalid type: " ++ describe x ++ ", expected " ++ expected
  | invalidValue x expected => "invalid value: " ++ describe x ++ ", expected " ++ expected
  | invalidLength n expected => "invalid length " ++ toString n ++ ", expected " ++ expected
  | unknownVariant v known => "unknown variant " ++ named v ++ ", expected " ++ choices known
  | refused reason => reason

end ShapeError

end Transit
