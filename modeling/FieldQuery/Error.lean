/-
The errors of the library, of all its parts.
-/
import FieldQuery.Compile.Policy
import FieldQuery.Predicate.Error
import FieldQuery.Stream.Error

namespace FieldQuery

/-- An error of one of the parts. -/
inductive QueryError where
  | predicate (error : PredicateError)
  | operation (error : OperationError)
  | policy (error : PolicyError)
deriving DecidableEq, Inhabited

namespace QueryError

/-- The class of an error. -/
def errorClass : QueryError → ErrorClass
  | predicate e => e.errorClass
  | operation _ => .construction
  | policy e => e.errorClass

/-- The wording of an error. -/
def message : QueryError → String
  | predicate e => e.message
  | operation e => e.message
  | policy e => e.message

/-- The wording of an error after its class. -/
def messageWithClass (e : QueryError) : String := e.errorClass.render ++ ": " ++ e.message

end QueryError

end FieldQuery
