/-
The calls of a backend that build the tree of a clause: those of the operands first, from left to right,
then the one of the vertex itself. Whatever the backend, the node of a criterion is built by the calls of
its clause, with the resolved path in place of the column. A backend without state thus folds the tree.
-/
import FieldQuery.Proofs.Compile.Meaning

namespace FieldQuery

/-! ## The calls of a tree -/

section Replay

variable {σ ε ν : Type} (b : Builder σ ε ν) (path : ε)

/-- Builds a term; the column is the path, for which nothing is called. -/
def Term.replay : Term → StateM σ ε
  | column _ => pure path
  | literal v => b.literal v
  | lower inner => do
    let e ← inner.replay
    b.lower e

/-- Builds a clause, one call for each vertex. -/
def Clause.replay : Clause → StateM σ ν
  | isTrue t => do
    let e ← t.replay b path
    b.isTrue e
  | isFalse t => do
    let e ← t.replay b path
    b.isFalse e
  | isNull t => do
    let e ← t.replay b path
    b.isNull e
  | isNotNull t => do
    let e ← t.replay b path
    b.isNotNull e
  | compare left op right => do
    let l ← left.replay b path
    let r ← right.replay b path
    b.compare l op r
  | like t pattern negated => do
    let e ← t.replay b path
    if negated then b.notLike e pattern else b.like e pattern
  | inList t values => do
    let e ← t.replay b path
    b.inList e values
  | and left right => do
    let l ← left.replay
    let r ← right.replay
    b.and l r
  | or left right => do
    let l ← left.replay
    let r ← right.replay
    b.or l r
  | not inner => do
    let n ← inner.replay
    b.not n

variable (name : String)

theorem Clause.replay_constant (truth : Bool) : (Clause.constant truth).replay b path = b.constant truth := by
  cases truth <;> rfl

theorem Clause.replay_membership (items : List Value) :
    (Clause.membership (.column name) items).replay b path = b.membership path items := by
  cases items with
  | nil => exact replay_constant b path false
  | cons v rest => rfl

theorem Clause.replay_exclusion (items : List Value) :
    (Clause.exclusion (.column name) items).replay b path = b.exclusion path items := by
  cases items with
  | nil => exact replay_constant b path true
  | cons v rest => rfl

/-- The node of a criterion is built by the calls of its clause. -/
theorem Criterion.replay_clause (policy : Policy) (c : Criterion) :
    (c.clause policy (.column name)).replay b path = b.node policy path c := by
  cases c with
  | always truth => exact Clause.replay_constant b path truth
  | null negated => cases negated <;> rfl
  | equal negated v => rfl
  | equalFolded negated s => rfl
  | order relation bound => rfl
  | between negated first second inclusion => cases negated <;> rfl
  | member negated items =>
    cases negated with
    | false => exact Clause.replay_membership b path name items
    | true =>
      unfold clause Builder.node
      rcases policy.notIn with _ | _
      · exact Clause.replay_exclusion b path name items
      · show Clause.replay b path (.not (.membership (.column name) items)) = _
        rw [Clause.replay, Clause.replay_membership]
        rfl
  | text anchor folded negated s => cases folded <;> cases negated <;> rfl
  | empty negated => rfl

end Replay

/-! ## Backends without state -/

/-- The operations of a backend that has no state to read or to change. -/
structure PureBuilder (ε ν : Type) where
  literal : Value → ε
  lower : ε → ε
  isTrue : ε → ν
  isFalse : ε → ν
  isNull : ε → ν
  isNotNull : ε → ν
  compare : ε → CompareOp → ε → ν
  like : ε → LikePattern → ν
  notLike : ε → LikePattern → ν
  inList : ε → List Value → ν
  and : ν → ν → ν
  or : ν → ν → ν
  not : ν → ν

/-- The backend of operations that leave every state as it is. -/
def PureBuilder.builder {ε ν : Type} (b : PureBuilder ε ν) (σ : Type) : Builder σ ε ν where
  literal v := pure (b.literal v)
  lower e := pure (b.lower e)
  isTrue e := pure (b.isTrue e)
  isFalse e := pure (b.isFalse e)
  isNull e := pure (b.isNull e)
  isNotNull e := pure (b.isNotNull e)
  compare l op r := pure (b.compare l op r)
  like e pattern := pure (b.like e pattern)
  notLike e pattern := pure (b.notLike e pattern)
  inList e values := pure (b.inList e values)
  and l r := pure (b.and l r)
  or l r := pure (b.or l r)
  not n := pure (b.not n)

section Fold

variable {ε ν : Type} (b : PureBuilder ε ν) (path : ε)

/-- The fold of a term, with the path for the column. -/
def Term.fold : Term → ε
  | column _ => path
  | literal v => b.literal v
  | lower inner => b.lower inner.fold

/-- The fold of a clause. -/
def Clause.fold : Clause → ν
  | isTrue t => b.isTrue (t.fold b path)
  | isFalse t => b.isFalse (t.fold b path)
  | isNull t => b.isNull (t.fold b path)
  | isNotNull t => b.isNotNull (t.fold b path)
  | compare left op right => b.compare (left.fold b path) op (right.fold b path)
  | like t pattern negated =>
    if negated then b.notLike (t.fold b path) pattern else b.like (t.fold b path) pattern
  | inList t values => b.inList (t.fold b path) values
  | and left right => b.and left.fold right.fold
  | or left right => b.or left.fold right.fold
  | not inner => b.not inner.fold

variable {σ : Type}

theorem Term.replay_pure (t : Term) : t.replay (b.builder σ) path = pure (t.fold b path) := by
  induction t with
  | column name => rfl
  | literal v => rfl
  | lower inner ih =>
    rw [replay, ih]
    rfl

/-- The calls of a clause on a backend without state give the fold of the clause. -/
theorem Clause.replay_pure (c : Clause) : c.replay (b.builder σ) path = pure (c.fold b path) := by
  induction c with
  | isTrue t | isFalse t | isNull t | isNotNull t | inList t values =>
    rw [replay, t.replay_pure]
    rfl
  | compare left op right =>
    rw [replay, left.replay_pure, right.replay_pure]
    rfl
  | like t pattern negated =>
    rw [replay, t.replay_pure]
    cases negated <;> rfl
  | and left right ihl ihr | or left right ihl ihr =>
    rw [replay, ihl, ihr]
    rfl
  | not inner ih =>
    rw [replay, ih]
    rfl

end Fold

end FieldQuery
