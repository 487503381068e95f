/-
Operations on streams, as they are recorded for inspection.
-/
import FieldQuery.Predicate.Basic
import FieldQuery.Schema.FieldOrder
import FieldQuery.Stream.Error

namespace FieldQuery

/-- A function carried by an operation. Conditions and orders of fields stay recoverable; of any
other function only its presence is known. -/
inductive Callable : Type 1 where
  | function
  | predicate {ρ : Type} (p : Predicate ρ)
  | order {ρ : Type} (o : FieldOrder ρ)

/-- What an operation carries. -/
inductive Capability : Type 1 where
  | none
  | predicate (callable : Callable)
  | mapper (callable : Callable)
  | comparator (callable : Callable)
  | action (callable : Callable)
  | count (n : UInt64)

namespace Capability

/-- The class of what is carried. -/
def classOf : Capability → CapabilityClass
  | none => .none
  | predicate _ => .predicate
  | mapper _ => .mapper
  | comparator _ => .comparator
  | action _ => .action
  | count _ => .count

/-- Whether a function is carried. -/
def isCallable : Capability → Bool
  | none | count _ => false
  | predicate _ | mapper _ | comparator _ | action _ => true

/-- The structural text of what is carried. -/
def inspect : Capability → String
  | none => "None"
  | predicate _ => "Predicate(Callable)"
  | mapper _ => "Mapper(Callable)"
  | comparator _ => "Comparator(Callable)"
  | action _ => "Action(Callable)"
  | count n => "Count(" ++ toString n.toNat ++ ")"

end Capability

/-- An operation: its kind, the shapes before and after, and what it carries. -/
structure Operation where
  kind : OperationKind
  input : StreamShape
  output : StreamShape
  capability : Capability
  accepted : kind.accepts capability.classOf = true
  turned : kind.turns input output = true

namespace Operation

/-- The operation with the given parts, if they fit together. What it carries is looked at first,
then the shapes. -/
def make (kind : OperationKind) (input output : StreamShape) (capability : Capability) :
    Except OperationError Operation :=
  if accepted : kind.accepts capability.classOf = true then
    if turned : kind.turns input output = true then
      .ok ⟨kind, input, output, capability, accepted, turned⟩
    else .error (.shapeTransition kind input output)
  else if capability.classOf = .none then .error (.missingCapability kind kind.capabilityClass)
  else .error (.capabilityMismatch kind kind.capabilityClass capability.classOf)

/-- The count of an operation that carries one. -/
def count? (op : Operation) : Option UInt64 :=
  match op.capability with
  | .count n => some n
  | _ => none

/-- The field predicate of an operation that selects by one. -/
def fieldPredicate? (op : Operation) : Option ((ρ : Type) × Predicate ρ) :=
  match op.capability with
  | .predicate (.predicate p) => some ⟨_, p⟩
  | _ => none

/-- The field order of an operation that sorts by one. -/
def fieldOrder? (op : Operation) : Option ((ρ : Type) × FieldOrder ρ) :=
  match op.capability with
  | .comparator (.order o) => some ⟨_, o⟩
  | _ => none

/-- The plain text of an operation. -/
def render (op : Operation) : String :=
  op.kind.render ++ " " ++ op.input.render ++ "->" ++ op.output.render ++
    match op.count? with
    | some n => " (" ++ toString n.toNat ++ ")"
    | none => ""

/-- The structural text of an operation. -/
def inspect (op : Operation) : String :=
  "Operation \x7b kind: " ++ op.kind.name ++ ", input: " ++ op.input.name ++ ", output: " ++
    op.output.name ++ ", capability: " ++ op.capability.inspect ++ " \x7d"

end Operation

end FieldQuery
