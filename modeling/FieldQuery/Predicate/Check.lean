/-
The operand check. A condition whose operands meet the contract of its kind becomes a criterion:
the question with operands of the right form.
-/
import FieldQuery.Predicate.Basic
import FieldQuery.Predicate.Error
import FieldQuery.Value.Order

namespace FieldQuery

/-- A question whose operands passed the check. -/
inductive Criterion where
  | always (truth : Bool)
  | null (negated : Bool)
  | equal (negated : Bool) (operand : Value)
  | equalFolded (negated : Bool) (operand : String)
  | order (relation : OrderRelation) (bound : Value)
  | between (negated : Bool) (first second : Value) (inclusion : Inclusion)
  | member (negated : Bool) (items : List Value)
  | text (anchor : Text.Anchor) (folded negated : Bool) (needle : String)
  | empty (negated : Bool)

namespace Criterion

/-- The kind of a criterion. -/
def kind : Criterion → PredicateKind
  | always truth => .always truth
  | null negated => .null negated
  | equal negated _ => .equal negated
  | equalFolded negated _ => .equalFolded negated
  | order relation _ => .order relation
  | between negated _ _ _ => .between negated
  | member negated _ => .member negated
  | text anchor folded negated _ => .text anchor folded negated
  | empty negated => .empty negated

/-- How a criterion is compiled, by the form of its operands. -/
def strategy : Criterion → String
  | always _ | null _ | empty _ => "zero_operand"
  | equal _ _ | equalFolded _ _ | order _ _ | text _ _ _ _ => "single_operand"
  | between _ _ _ _ => "dual_bound_range"
  | member _ _ => "set_membership"

end Criterion

namespace Condition

/-- The refusal of the operands, saying what was found. -/
def invalidOperand (c : Condition) (found : String) : PredicateError :=
  .invalidOperand c.kind c.attr.qualifiedName c.kind.contract found

/-- Whether the attribute and the value are of one family. -/
def sameFamily (c : Condition) (v : Value) : Bool := c.attr.kind.family == v.family

/-- Whether a value can be compared for equality with the attribute. -/
def acceptsScalar (c : Condition) (v : Value) : Bool := v.isScalar && c.sameFamily v

/-- Whether the attribute holds texts. -/
def isTextual (c : Condition) : Bool := c.attr.kind.family == .textual

/-- Whether a value can bound a range at all. -/
def canBound (v : Value) : Bool := v.isScalar && v.kind.orderable

/-- Checks the operands against the contract of the kind. For a range the bounds are looked at one
by one, then against each other, then against the attribute. -/
def check (c : Condition) : Except PredicateError Criterion :=
  let invalid : Except PredicateError Criterion := .error (c.invalidOperand c.operands.typeText)
  match c.kind, c.operands with
  | .always truth, .none => .ok (.always truth)
  | .null negated, .none => .ok (.null negated)
  | .empty negated, .none => if c.isTextual then .ok (.empty negated) else invalid
  | .equal negated, .one v => if c.acceptsScalar v then .ok (.equal negated v) else invalid
  | .order relation, .one v =>
    if canBound v && c.sameFamily v then .ok (.order relation v) else invalid
  | .equalFolded negated, .one (.text s) =>
    if c.isTextual then .ok (.equalFolded negated s) else invalid
  | .text anchor folded negated, .one (.text s) =>
    if c.isTextual then .ok (.text anchor folded negated s) else invalid
  | .between negated, .two a b =>
    if !(canBound a && canBound b) then invalid
    else if (a.compare? b).isNone then
      .error (.incomparableBounds c.kind c.attr.qualifiedName a.typeText b.typeText)
    else if c.sameFamily a then .ok (.between negated a b c.inclusion)
    else invalid
  | .member negated, .one (.list items) =>
    if items.all c.acceptsScalar then .ok (.member negated items) else invalid
  | _, _ => invalid

end Condition

end FieldQuery
