/-
The making of operations on a stream of a known shape.
-/
import FieldQuery.Error
import FieldQuery.Predicate.Test
import FieldQuery.Stream.Operation

namespace FieldQuery

/-- Makes operations for streams of one shape. -/
structure OperationFactory where
  input : StreamShape := .elements
deriving DecidableEq, Inhabited

namespace OperationFactory

variable (f : OperationFactory)

/-- The structural text of a factory for elements of a named type. -/
def inspect (element : String) : String :=
  "OperationFactory \x7b element: " ++ Text.quote element ++ ", input: " ++ f.input.name ++ " \x7d"

/-- An operation that keeps the shape. -/
def keeping (kind : OperationKind) (capability : Capability) : Except OperationError Operation :=
  Operation.make kind f.input f.input capability

/-- An operation with a count, which must not be negative. -/
def counted (kind : OperationKind) (count : Int64) : Except OperationError Operation :=
  if count.toInt < 0 then .error (.negativeCount kind count.toInt)
  else f.keeping kind (.count (UInt64.ofNat count.toInt.toNat))

/-- An operation that maps every element, to one or to several. -/
def mapping (kind : OperationKind) (output : StreamShape) : Except OperationError Operation :=
  Operation.make kind f.input output (.mapper .function)

/-! ## Selection -/

def filter : Except OperationError Operation := f.keeping .filter (.predicate .function)
def takeWhile : Except OperationError Operation := f.keeping .takeWhile (.predicate .function)
def dropWhile : Except OperationError Operation := f.keeping .dropWhile (.predicate .function)
def limit (size : Int64) : Except OperationError Operation := f.counted .limit size
def skip (size : Int64) : Except OperationError Operation := f.counted .skip size

/-- Selection by a field predicate, whose operands are checked first. -/
def filterBy {ρ : Type} (p : Predicate ρ) : Except QueryError Operation :=
  match p.validate with
  | .error e => .error (.predicate e)
  | .ok () => (f.keeping .filter (.predicate (.predicate p))).mapError .operation

/-! ## Order and effects -/

def distinct : Except OperationError Operation := f.keeping .distinct .none
def sorted : Except OperationError Operation := f.keeping .sorted .none
def sortedBy : Except OperationError Operation := f.keeping .sorted (.comparator .function)
def peek : Except OperationError Operation := f.keeping .peek (.action .function)

/-- A sort by a field order. -/
def sortedByField {ρ : Type} (o : FieldOrder ρ) : Except OperationError Operation :=
  f.keeping .sorted (.comparator (.order o))

/-! ## Mapping -/

def map : Except OperationError Operation := f.mapping .map .elements
def mapToInt : Except OperationError Operation := f.mapping .mapToPrimitive .int
def mapToLong : Except OperationError Operation := f.mapping .mapToPrimitive .long
def mapToDouble : Except OperationError Operation := f.mapping .mapToPrimitive .double
def flatMap : Except OperationError Operation := f.mapping .flatMap .elements
def flatMapToInt : Except OperationError Operation := f.mapping .flatMapToPrimitive .int
def flatMapToLong : Except OperationError Operation := f.mapping .flatMapToPrimitive .long
def flatMapToDouble : Except OperationError Operation := f.mapping .flatMapToPrimitive .double

end OperationFactory

end FieldQuery
