/-
Backends: the operations by which compilation builds expressions and nodes of a backend, and the
resolution of attributes to paths.
-/
import FieldQuery.Schema.Attribute
import FieldQuery.Predicate.Error
import FieldQuery.Search.Clause

namespace FieldQuery

/-- The operations of a backend with state `σ`, expressions `ε` and nodes `ν`. -/
structure Builder (σ ε ν : Type) where
  literal : Value → StateM σ ε
  lower : ε → StateM σ ε
  isTrue : ε → StateM σ ν
  isFalse : ε → StateM σ ν
  isNull : ε → StateM σ ν
  isNotNull : ε → StateM σ ν
  compare : ε → CompareOp → ε → StateM σ ν
  like : ε → LikePattern → StateM σ ν
  notLike : ε → LikePattern → StateM σ ν
  inList : ε → List Value → StateM σ ν
  and : ν → ν → StateM σ ν
  or : ν → ν → StateM σ ν
  not : ν → StateM σ ν

/-- The resolution of attributes to path expressions, which may fail. -/
abbrev Resolver (σ ε : Type) := Attribute → StateM σ (Except PredicateError ε)

end FieldQuery
