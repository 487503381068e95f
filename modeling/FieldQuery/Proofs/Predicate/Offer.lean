/-
The predicates that a typed binding offers, one for each question that the type of its values allows. Whatever the
arguments, the operands meet the contract of the kind, so the predicate and its opposite are valid. There is one
exception: a range of floats with NaN among its bounds, which do not compare. Such a range is refused wherever it is
used.
-/
import FieldQuery.Predicate.Build
import FieldQuery.Proofs.Predicate.Uses
import FieldQuery.Proofs.Schema.FieldOrder
import FieldQuery.Proofs.Value.Coherence

namespace FieldQuery

/-! ## Types of scalars -/

/-- A type of attribute values that are neither missing nor lists. -/
class ScalarFieldValue (α : Type) [FieldValue α] : Prop extends LawfulFieldValue α where
  orderable_kind : (FieldValue.kind α).orderable = true

instance : ScalarFieldValue Int8 where orderable_kind := rfl
instance : ScalarFieldValue Int16 where orderable_kind := rfl
instance : ScalarFieldValue Int32 where orderable_kind := rfl
instance : ScalarFieldValue Int64 where orderable_kind := rfl
instance : ScalarFieldValue UInt8 where orderable_kind := rfl
instance : ScalarFieldValue UInt16 where orderable_kind := rfl
instance : ScalarFieldValue UInt32 where orderable_kind := rfl
instance : ScalarFieldValue UInt64 where orderable_kind := rfl
instance : ScalarFieldValue Double64 where orderable_kind := rfl
instance : ScalarFieldValue Single32 where orderable_kind := rfl
instance : ScalarFieldValue Char where orderable_kind := rfl
instance : ScalarFieldValue String where orderable_kind := rfl
instance : ScalarFieldValue Bool where orderable_kind := rfl
instance : ScalarFieldValue Label where orderable_kind := rfl

/-! ## Values of one kind -/

namespace Value

/-- The scalars are the values that can bound a range. -/
theorem isScalar_eq_orderable (v : Value) : v.isScalar = v.kind.orderable := by
  cases v <;> rfl

theorem kind_of_isNaN {v : Value} (h : v.isNaN = true) : v.kind = .float := by
  cases v <;> first | rfl | cases h

theorem typeText_of_float {v : Value} (h : v.kind = .float) : v.typeText = "f64" := by
  cases v <;> first | rfl | cases h

theorem scale?_of_scalar {v : Value} (h : v.isScalar = true) :
    v.scale? = if v.isNaN then none else some v.family := by
  cases v <;> first | rfl | cases h

/-- Two scalars of one kind compare unless one of them is NaN. -/
theorem isSome_compare?_of_kind {v w : Value} (hkind : v.kind = w.kind) (hv : v.isScalar = true) :
    (v.compare? w).isSome ↔ v.isNaN = false ∧ w.isNaN = false := by
  have hw : w.isScalar = true := by rw [isScalar_eq_orderable, ← hkind, ← isScalar_eq_orderable, hv]
  have hfamily : w.family = v.family := congrArg ValueKind.family hkind.symm
  rw [isSome_compare?_iff, scale?_of_scalar hv, scale?_of_scalar hw, hfamily]
  cases v.isNaN <;> cases w.isNaN <;> simp

end Value

/-! ## Operands from typed arguments -/

/-- One of two bounds is NaN. -/
def Operands.BoundedByNaN : Operands → Prop
  | two first second => first.isNaN = true ∨ second.isNaN = true
  | _ => False

section Arguments

variable {α : Type} [FieldValue α] [ScalarFieldValue α]

theorem isScalar_toValue (a : α) : (FieldValue.toValue a).isScalar = true := by
  rw [Value.isScalar_eq_orderable, LawfulFieldValue.kind_toValue]
  exact ScalarFieldValue.orderable_kind

namespace Condition

variable {c : Condition}

theorem canBound_toValue (a : α) : canBound (FieldValue.toValue a) = true := by
  unfold canBound
  rw [← Value.isScalar_eq_orderable, isScalar_toValue]
  rfl

theorem sameFamily_toValue (hkind : c.attr.kind = FieldValue.kind α) (a : α) :
    c.sameFamily (FieldValue.toValue a) = true := by
  unfold sameFamily Value.family
  rw [hkind, LawfulFieldValue.kind_toValue, beq_self_eq_true]

end Condition

end Arguments

/-! ## Offers -/

namespace Binding

variable {ρ α : Type}

/-! ## Valid predicates -/

section Single

variable [FieldValue α] [ScalarFieldValue α] (b : Binding ρ α)

end Single

section Ranged

variable [OrderedFieldValue α] [ScalarFieldValue α] (b : Binding ρ α) (negated : Bool) {first second : α}
  (inclusion : Inclusion)

/-- Typed bounds compare unless one of them is NaN. -/
theorem isSome_compare?_toValue : ((FieldValue.toValue first).compare? (FieldValue.toValue second)).isSome ↔
    ¬(Operands.two (FieldValue.toValue first) (FieldValue.toValue second)).BoundedByNaN := by
  have hkind : (FieldValue.toValue first).kind = (FieldValue.toValue second).kind := by
    rw [LawfulFieldValue.kind_toValue, LawfulFieldValue.kind_toValue]
  rw [Value.isSome_compare?_of_kind hkind (isScalar_toValue first), Operands.BoundedByNaN, not_or, Bool.not_eq_true,
    Bool.not_eq_true]

theorem check_ranged (h : ¬(b.ranged (.between negated) first second inclusion).operands.BoundedByNaN) :
    (b.ranged (.between negated) first second inclusion).check =
      .ok (.between negated (FieldValue.toValue first) (FieldValue.toValue second) inclusion) :=
  (Condition.check_eq_ok_iff _ _).2 ⟨rfl, rfl, Condition.canBound_toValue first, Condition.canBound_toValue second,
    isSome_compare?_toValue.2 h, Condition.sameFamily_toValue b.kind_eq first, rfl⟩

/-- Only floats can be NaN, and a range that such a bound leaves without an order is refused. -/
theorem check_ranged_of_nan (h : (b.ranged (.between negated) first second inclusion).operands.BoundedByNaN) :
    b.attr.kind = .float ∧ (b.ranged (.between negated) first second inclusion).check =
      .error (.incomparableBounds (.between negated) b.attr.qualifiedName "f64" "f64") := by
  have hfloat : FieldValue.kind α = .float := by
    rcases h with h | h
    · rw [← LawfulFieldValue.kind_toValue first, Value.kind_of_isNaN h]
    · rw [← LawfulFieldValue.kind_toValue second, Value.kind_of_isNaN h]
  have hnone : (FieldValue.toValue first).compare? (FieldValue.toValue second) = none := by
    rw [← Option.not_isSome_iff_eq_none, isSome_compare?_toValue]
    exact not_not_intro h
  refine ⟨b.kind_eq.trans hfloat, ?_⟩
  rw [Condition.check_of_incomparable rfl rfl (Condition.canBound_toValue first) (Condition.canBound_toValue second)
      hnone, Value.typeText_of_float ((LawfulFieldValue.kind_toValue first).trans hfloat),
    Value.typeText_of_float ((LawfulFieldValue.kind_toValue second).trans hfloat)]
  rfl

/-- A range is valid for any two arguments, in either order, unless one of them is NaN. -/
theorem validate_ranged (first second : α) : (b.ranged (.between negated) first second inclusion).validate =
    if (FieldValue.toValue first).isNaN = true ∨ (FieldValue.toValue second).isNaN = true then
      .error (.incomparableBounds (.between negated) b.attr.qualifiedName "f64" "f64")
    else .ok () := by
  split
  case isTrue hnan => exact Condition.validate_of_refused (b.check_ranged_of_nan negated inclusion hnan).2
  case isFalse hnumbers => exact Condition.validate_of_check (b.check_ranged negated inclusion hnumbers)

theorem validate_between (first second : α) : (b.between first second inclusion).validate =
    if (FieldValue.toValue first).isNaN = true ∨ (FieldValue.toValue second).isNaN = true then
      .error (.incomparableBounds (.between false) b.attr.qualifiedName "f64" "f64")
    else .ok () :=
  b.validate_ranged false inclusion first second

theorem validate_notBetween (first second : α) : (b.notBetween first second inclusion).validate =
    if (FieldValue.toValue first).isNaN = true ∨ (FieldValue.toValue second).isNaN = true then
      .error (.incomparableBounds (.between true) b.attr.qualifiedName "f64" "f64")
    else .ok () :=
  b.validate_ranged true inclusion first second

end Ranged

section Textual

variable (b : Binding ρ String)

end Textual

section Offered

variable [FieldValue α] [ScalarFieldValue α] {b : Binding ρ α} {p : Predicate ρ}

end Offered

end Binding

end FieldQuery
