/-
Conditions and predicates. A condition asks one question of an attribute; a predicate is a condition
together with a way to read the attribute from a record.
-/
import FieldQuery.Predicate.Kind
import FieldQuery.Schema.Field

namespace FieldQuery

/-! ## Operands -/

/-- The operands of a condition. -/
inductive Operands where
  | none
  | one (value : Value)
  | two (first second : Value)
deriving Inhabited

namespace Operands

/-- The number of operands. -/
def arity : Operands → Nat
  | none => 0
  | one _ => 1
  | two _ _ => 2

/-- The types of the operands. -/
def typeText : Operands → String
  | none => "no operands"
  | one v => v.typeText
  | two a b => "(" ++ a.typeText ++ ", " ++ b.typeText ++ ")"

/-- Equality, operand by operand. -/
def same : Operands → Operands → Bool
  | none, none => true
  | one a, one b => a == b
  | two a b, two c d => a == c && b == d
  | _, _ => false

instance : BEq Operands := ⟨same⟩

/-- The structural text of operands. -/
def inspect : Operands → String
  | none => "None"
  | one v => "One(" ++ v.inspect ++ ")"
  | two a b => "Two(" ++ a.inspect ++ ", " ++ b.inspect ++ ")"

end Operands

/-! ## Conditions -/

/-- A question about the value of an attribute. -/
structure Condition where
  attr : Attribute
  kind : PredicateKind
  operands : Operands := .none
  inclusion : Inclusion := ⟨true, true⟩

namespace Condition

/-- The opposite question, with the same operands. -/
def negate (c : Condition) : Condition := { c with kind := c.kind.complement }

/-- The condition with the given bounds included. -/
def withInclusion (c : Condition) (inclusion : Inclusion) : Condition :=
  { c with inclusion := inclusion }

/-- Equality of attribute, kind, operands and included bounds. -/
def same (c d : Condition) : Bool :=
  c.attr == d.attr && c.kind == d.kind && c.operands == d.operands && c.inclusion == d.inclusion

instance : BEq Condition := ⟨same⟩

/-- The plain text of a condition. -/
def render (c : Condition) : String :=
  c.attr.qualifiedName ++ " " ++ c.kind.name ++
    match c.operands with
    | .none => ""
    | .one v => " " ++ v.render
    | .two a b => " " ++ a.render ++ " AND " ++ b.render ++ " (" ++ c.inclusion.name ++ ")"

/-- The structural text of a condition. -/
def inspect (c : Condition) : String :=
  "Predicate \x7b attribute: " ++ Text.quote c.attr.qualifiedName ++ ", kind: " ++
    c.kind.structuralName ++ ", operands: " ++ c.operands.inspect ++ ", inclusion: " ++
    c.inclusion.name ++ " \x7d"

end Condition

/-! ## Predicates -/

/-- A condition on records of type `ρ`. -/
structure Predicate (ρ : Type) extends Condition where
  read : ρ → Value

namespace Predicate

variable {ρ : Type}

/-- The predicate of a field, with both bounds of a range included. -/
def ofField (field : Field ρ) (kind : PredicateKind) (operands : Operands) : Predicate ρ :=
  ⟨⟨field.attr, kind, operands, ⟨true, true⟩⟩, field.read⟩

/-- The opposite predicate. -/
def negate (p : Predicate ρ) : Predicate ρ := ⟨p.toCondition.negate, p.read⟩

/-- The predicate with the given bounds included. -/
def withInclusion (p : Predicate ρ) (inclusion : Inclusion) : Predicate ρ :=
  ⟨p.toCondition.withInclusion inclusion, p.read⟩

end Predicate

end FieldQuery
