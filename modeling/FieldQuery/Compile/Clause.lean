/-
Compilation to search clauses: the backend whose nodes are clauses over the columns of rows.
-/
import FieldQuery.Compile.Basic
import FieldQuery.Search.Eval

namespace FieldQuery

namespace Clause

/-- The backend of clauses; it has no state. -/
def builder : Builder Unit Term Clause where
  literal v := pure (.literal v)
  lower t := pure (.lower t)
  isTrue t := pure (.isTrue t)
  isFalse t := pure (.isFalse t)
  isNull t := pure (.isNull t)
  isNotNull t := pure (.isNotNull t)
  compare a op b := pure (.compare a op b)
  like t p := pure (.like t p false)
  notLike t p := pure (.like t p true)
  inList t vs := pure (.inList t vs)
  and a b := pure (.and a b)
  or a b := pure (.or a b)
  not a := pure (.not a)

/-- Attributes resolve to their columns; with an entity given, only those of this entity. -/
def columns (entity : Option String) : Resolver Unit Term := fun attr =>
  match entity with
  | some name =>
    if name = attr.entity then pure (.ok (.column attr.column))
    else pure (.error (.unresolved attr.qualifiedName))
  | none => pure (.ok (.column attr.column))

/-- What compilation to clauses works with. -/
def context (policy : Policy) (entity : Option String) : CompileContext Unit Term Clause :=
  ⟨builder, columns entity, policy⟩

end Clause

/-- The search clause of a condition. -/
def Condition.toClause (c : Condition) (policy : Policy := .standard) (entity : Option String := none) :
    Except PredicateError Clause :=
  ((Clause.context policy entity).compile c ⟨(), none⟩).1

end FieldQuery
