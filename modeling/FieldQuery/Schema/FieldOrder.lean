/-
Orders of records by one attribute: a direction, and a place for records without a value that does
not depend on the direction.
-/
import FieldQuery.Schema.Field
import FieldQuery.Value.Order

namespace FieldQuery

/-- Where records without a value go. -/
inductive NullOrder where
  | first
  | last
deriving DecidableEq, Inhabited

/-- The name of a null order in structural text. -/
def NullOrder.name : NullOrder → String
  | first => "First"
  | last => "Last"

/-- The order of two present values. Floats follow the total order of their words; values that
cannot be compared count as equal. -/
def Value.presentOrder : Value → Value → Ordering
  | .float a, .float b => a.totalCompare b
  | a, b => (a.compare? b).getD .eq

/-- An order of records by one field. -/
structure FieldOrder (ρ : Type) where
  field : Field ρ
  reversed : Bool := false
  nulls : NullOrder := .last

namespace FieldOrder

variable {ρ : Type}

/-- The ascending order of a field, nulls last. -/
def ofField (field : Field ρ) : FieldOrder ρ := ⟨field, false, .last⟩

/-- The other direction. -/
def reverse (o : FieldOrder ρ) : FieldOrder ρ := { o with reversed := !o.reversed }

/-- The order with nulls first. -/
def nullsFirst (o : FieldOrder ρ) : FieldOrder ρ := { o with nulls := .first }

/-- The order with nulls last. -/
def nullsLast (o : FieldOrder ρ) : FieldOrder ρ := { o with nulls := .last }

/-- How a null stands to a present value. -/
def nullPlacement (o : FieldOrder ρ) : Ordering :=
  match o.nulls with
  | .first => .lt
  | .last => .gt

/-- The order of two values of the field. -/
def compareValues (o : FieldOrder ρ) (a b : Value) : Ordering :=
  match a.isNull, b.isNull with
  | true, true => .eq
  | true, false => o.nullPlacement
  | false, true => o.nullPlacement.swap
  | false, false => if o.reversed then (a.presentOrder b).swap else a.presentOrder b

/-- The order of two records. -/
def compare (o : FieldOrder ρ) (a b : ρ) : Ordering :=
  o.compareValues (o.field.read a) (o.field.read b)

/-- Equality of attribute, direction and place of nulls. -/
def same (o p : FieldOrder ρ) : Bool :=
  o.field.attr == p.field.attr && o.reversed == p.reversed && o.nulls == p.nulls

/-- The plain text of an order. -/
def render (o : FieldOrder ρ) : String :=
  "(order by " ++ o.field.attr.qualifiedName ++
    (if o.reversed then " descending" else " ascending") ++
    (if o.nulls = .first then " nulls first" else "") ++ ")"

/-- The structural text of an order. -/
def inspect (o : FieldOrder ρ) : String :=
  "FieldComparator \x7b attribute: " ++ o.field.attr.inspect ++ ", reversed: " ++
    boolText o.reversed ++ ", null_order: " ++ o.nulls.name ++ " \x7d"

end FieldOrder

/-- The ascending order of an attribute with ordered values. -/
def Binding.order {ρ α : Type} [OrderedFieldValue α] (b : Binding ρ α) : FieldOrder ρ :=
  .ofField b.toField

end FieldQuery
