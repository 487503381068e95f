/-
Sequences of operations in which every operation takes up the shape the one before it leaves, and
the account of a sequence for a planner.
-/
import FieldQuery.Stream.Operation

namespace FieldQuery

/-- Operations on a source of a known shape. -/
structure OperationSequence where
  source : StreamShape := .elements
  operations : List Operation := []

namespace OperationSequence

/-- The empty sequence on a source. -/
def empty (source : StreamShape) : OperationSequence := ⟨source, []⟩

/-- The shape after the last operation. -/
def output (s : OperationSequence) : StreamShape :=
  match s.operations.getLast? with
  | some op => op.output
  | none => s.source

/-- The number of operations. -/
def length (s : OperationSequence) : Nat := s.operations.length

/-- Whether there is no operation. -/
def isEmpty (s : OperationSequence) : Bool := s.operations.isEmpty

/-- The sequence with one more operation, refused if it does not take the shape reached so far. -/
def push (s : OperationSequence) (op : Operation) : Except OperationError OperationSequence :=
  if op.input = s.output then .ok ⟨s.source, s.operations ++ [op]⟩
  else .error (.shapeMismatch s.length s.output op.input)

/-- The fields of a sequence in structural text, under the given name. -/
def inspectAs (name : String) (s : OperationSequence) : String :=
  name ++ " \x7b source: " ++ s.source.name ++ ", operations: [" ++
    ", ".intercalate (s.operations.map (·.inspect)) ++ "] \x7d"

/-- The structural text of a sequence that can still grow. -/
def inspect (s : OperationSequence) : String := s.inspectAs "OperationSequence"

/-- The structural text of a finished sequence. -/
def inspectFrozen (s : OperationSequence) : String := s.inspectAs "FrozenOperations"

end OperationSequence

/-! ## Plans -/

/-- The account of one operation. -/
structure PlanStep where
  index : Nat
  kind : OperationKind
  input : StreamShape
  output : StreamShape
  capability : CapabilityClass
  callable : Bool
  count : Option UInt64
deriving DecidableEq

/-- The account of a sequence. -/
structure Plan where
  source : StreamShape
  output : StreamShape
  shortCircuiting : Bool
  steps : List PlanStep
deriving DecidableEq

/-- The account of an operation at a position. -/
def Operation.planStep (op : Operation) (index : Nat) : PlanStep :=
  ⟨index, op.kind, op.input, op.output, op.capability.classOf, op.capability.isCallable, op.count?⟩

/-- The account of a sequence, its operations numbered from zero. -/
def OperationSequence.explain (s : OperationSequence) : Plan where
  source := s.source
  output := s.output
  shortCircuiting := s.operations.any (·.kind.shortCircuiting)
  steps := s.operations.mapIdx fun index op => op.planStep index

end FieldQuery
