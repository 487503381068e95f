/-
Selection by a field predicate. A selection keeps the shape of the stream, so its operation fits a
stream of any shape; only the operand check can refuse it.
-/
import FieldQuery.Proofs.Predicate.Check
import FieldQuery.Stream.Pipeline

namespace FieldQuery

/-- Every operation is made from its parts. -/
theorem Operation.make_parts (op : Operation) : make op.kind op.input op.output op.capability = .ok op := by
  unfold make
  rw [dif_pos op.accepted, dif_pos op.turned]

theorem OperationSequence.push_of_fits {s : OperationSequence} {op : Operation} (h : op.input = s.output) :
    s.push op = .ok ⟨s.source, s.operations ++ [op]⟩ := by
  unfold push
  exact if_pos h

variable {ρ : Type} {p : Predicate ρ} {criterion : Criterion} {e : PredicateError}

/-- The operation of the selection by a predicate, on a stream of the given shape. -/
def Operation.selection (p : Predicate ρ) (shape : StreamShape) : Operation :=
  ⟨.filter, shape, shape, .predicate (.predicate p), rfl, beq_self_eq_true shape⟩

namespace OperationFactory

variable (f : OperationFactory)

theorem filterBy_of_check (h : p.check = .ok criterion) : f.filterBy p = .ok (.selection p f.input) := by
  have hmake : f.keeping .filter (.predicate (.predicate p)) = .ok (.selection p f.input) :=
    Operation.make_parts (.selection p f.input)
  unfold filterBy
  rw [Condition.validate_of_check h, hmake]
  rfl

theorem filterBy_of_refused (h : p.check = .error e) : f.filterBy p = .error (.predicate e) := by
  unfold filterBy
  rw [Condition.validate_of_refused h]

end OperationFactory

end FieldQuery
