/-
Why an operation or a sequence of operations is refused.
-/
import FieldQuery.Stream.Shape

namespace FieldQuery

/-- The causes for which an operation is refused. -/
inductive OperationError where
  | negativeCount (kind : OperationKind) (count : Int)
  | missingCapability (kind : OperationKind) (expected : CapabilityClass)
  | capabilityMismatch (kind : OperationKind) (expected found : CapabilityClass)
  | shapeTransition (kind : OperationKind) (input output : StreamShape)
  | shapeMismatch (index : Nat) (expected found : StreamShape)
deriving DecidableEq, Inhabited

/-- The wording of an error. -/
def OperationError.message : OperationError → String
  | negativeCount kind count =>
    kind.render ++ " argument must be non-negative, got " ++ toString count
  | missingCapability kind expected =>
    kind.render ++ " requires a " ++ expected.render ++ " capability"
  | capabilityMismatch kind expected found =>
    kind.render ++ " requires a " ++ expected.render ++ " capability, found " ++ found.render
  | shapeTransition kind input output =>
    kind.render ++ " cannot turn " ++ input.render ++ " into " ++ output.render
  | shapeMismatch index expected found =>
    "step " ++ toString index ++ " expects " ++ expected.render ++ " input, found " ++ found.render

end FieldQuery
