/-
Search clauses over rows of a store: terms, comparisons and their combinations.
-/
import FieldQuery.Search.Like
import FieldQuery.Value.Text

namespace FieldQuery

/-- The comparisons of a clause. -/
inductive CompareOp where
  | eq
  | ne
  | lt
  | le
  | gt
  | ge
deriving DecidableEq, Inhabited

namespace CompareOp

/-- The symbol of a comparison. -/
def symbol : CompareOp → String
  | eq => "="
  | ne => "<>"
  | lt => "<"
  | le => "<="
  | gt => ">"
  | ge => ">="

/-- Whether the comparison holds of operands that stand so to each other. -/
def holds : CompareOp → Ordering → Bool
  | eq, o => o == .eq
  | ne, o => o != .eq
  | lt, o => o == .lt
  | le, o => o != .gt
  | gt, o => o == .gt
  | ge, o => o != .lt

end CompareOp

/-- What a clause computes a value from. -/
inductive Term where
  | column (name : String)
  | literal (value : Value)
  | lower (inner : Term)
deriving Inhabited

/-- A condition on a row. -/
inductive Clause where
  | isTrue (term : Term)
  | isFalse (term : Term)
  | isNull (term : Term)
  | isNotNull (term : Term)
  | compare (left : Term) (op : CompareOp) (right : Term)
  | like (term : Term) (pattern : LikePattern) (negated : Bool)
  | inList (term : Term) (values : List Value)
  | and (left right : Clause)
  | or (left right : Clause)
  | not (inner : Clause)
deriving Inhabited

/-! ## Equality -/

/-- Equality of terms, with the equality of values at the literals. -/
def Term.same : Term → Term → Bool
  | column a, column b => a == b
  | literal a, literal b => a == b
  | lower a, lower b => a.same b
  | _, _ => false

instance : BEq Term := ⟨Term.same⟩

/-- Equality of clauses, with the equality of values at the literals. -/
def Clause.same : Clause → Clause → Bool
  | isTrue a, isTrue b | isFalse a, isFalse b | isNull a, isNull b | isNotNull a, isNotNull b => a == b
  | compare a p b, compare c q d => a == c && p == q && b == d
  | like a p m, like b q n => a == b && p == q && m == n
  | inList a vs, inList b ws => a == b && Value.sameList vs ws
  | and a b, and c d | or a b, or c d => a.same c && b.same d
  | not a, not b => a.same b
  | _, _ => false

instance : BEq Clause := ⟨Clause.same⟩

/-! ## Text -/

/-- The plain text of a term. -/
def Term.render : Term → String
  | column name => name
  | literal value => value.render
  | lower inner => "lower(" ++ inner.render ++ ")"

/-- The plain text of a clause. -/
def Clause.render : Clause → String
  | isTrue t => t.render ++ " IS TRUE"
  | isFalse t => t.render ++ " IS FALSE"
  | isNull t => t.render ++ " IS NULL"
  | isNotNull t => t.render ++ " IS NOT NULL"
  | compare a op b => a.render ++ " " ++ op.symbol ++ " " ++ b.render
  | like t p negated =>
    t.render ++ (if negated then " NOT LIKE '" else " LIKE '") ++ p.render ++ "'"
  | inList t values => t.render ++ " IN " ++ (Value.list values).render
  | and a b => "(" ++ a.render ++ " AND " ++ b.render ++ ")"
  | or a b => "(" ++ a.render ++ " OR " ++ b.render ++ ")"
  | not a => "NOT (" ++ a.render ++ ")"

end FieldQuery
