/-
Laws of the three-valued logic of clauses: negation turns "and" into "or", and a comparison into the
opposite one.
-/
import FieldQuery.Search.Eval

namespace FieldQuery

namespace Truth

/-- A truth value as it is, or its opposite. -/
def signed (negated : Bool) (t : Truth) : Truth := t.map (· != negated)

theorem signed_false (t : Truth) : t.signed false = t := by
  rcases t with _ | _ | _ <;> rfl

theorem signed_true (t : Truth) : t.signed true = t.not := by
  rcases t with _ | _ | _ <;> rfl

theorem signed_not (negated : Bool) (t : Truth) : t.signed (!negated) = (t.signed negated).not := by
  cases negated <;> rcases t with _ | _ | _ <;> rfl

theorem not_not (t : Truth) : t.not.not = t := by
  rcases t with _ | _ | _ <;> rfl

theorem not_and (a b : Truth) : (a.and b).not = a.not.or b.not := by
  rcases a with _ | _ | _ <;> rcases b with _ | _ | _ <;> rfl

end Truth

/-! ## Opposite comparisons -/

/-- The comparison that holds of the other orderings. -/
def CompareOp.opposite : CompareOp → CompareOp
  | eq => ne
  | ne => eq
  | lt => ge
  | le => gt
  | gt => le
  | ge => lt

theorem CompareOp.holds_opposite (op : CompareOp) (o : Ordering) : op.opposite.holds o = !op.holds o := by
  cases op <;> cases o <;> rfl

end FieldQuery
