/-
Predicates by name: one function of a binding for every kind of question its type of values allows.
-/
import FieldQuery.Predicate.Basic

namespace FieldQuery

namespace Binding

variable {ρ : Type}

/-! ## Questions for every type -/

section Any

variable {α : Type} [FieldValue α] (b : Binding ρ α)

/-- The predicate of a kind with the given operands. -/
def predicate (kind : PredicateKind) (operands : Operands) : Predicate ρ :=
  .ofField b.toField kind operands

/-- The predicate of a kind with one typed operand. -/
def single (kind : PredicateKind) (a : α) : Predicate ρ :=
  b.predicate kind (.one (FieldValue.toValue a))

/-- The predicate of a kind with a list of typed items. -/
def listed (kind : PredicateKind) (items : List α) : Predicate ρ :=
  b.predicate kind (.one (.list (items.map FieldValue.toValue)))

def alwaysTrue : Predicate ρ := b.predicate (.always true) .none
def alwaysFalse : Predicate ρ := b.predicate (.always false) .none
def isNull : Predicate ρ := b.predicate (.null false) .none
def isNotNull : Predicate ρ := b.predicate (.null true) .none
def equal (a : α) : Predicate ρ := b.single (.equal false) a
def notEqual (a : α) : Predicate ρ := b.single (.equal true) a
def inSet (items : List α) : Predicate ρ := b.listed (.member false) items
def notIn (items : List α) : Predicate ρ := b.listed (.member true) items

end Any

/-! ## Questions for ordered types -/

section Ordered

variable {α : Type} [OrderedFieldValue α] (b : Binding ρ α)

/-- The predicate of a kind with two typed bounds. -/
def ranged (kind : PredicateKind) (first second : α) (inclusion : Inclusion) : Predicate ρ :=
  (b.predicate kind (.two (FieldValue.toValue first) (FieldValue.toValue second))).withInclusion
    inclusion

def lessThan (a : α) : Predicate ρ := b.single (.order .less) a
def lessOrEqual (a : α) : Predicate ρ := b.single (.order .lessOrEqual) a
def greaterThan (a : α) : Predicate ρ := b.single (.order .greater) a
def greaterOrEqual (a : α) : Predicate ρ := b.single (.order .greaterOrEqual) a

/-- The values between two bounds, both included unless told otherwise. -/
def between (first second : α) (inclusion : Inclusion := ⟨true, true⟩) : Predicate ρ :=
  b.ranged (.between false) first second inclusion

/-- The values outside two bounds. -/
def notBetween (first second : α) (inclusion : Inclusion := ⟨true, true⟩) : Predicate ρ :=
  b.ranged (.between true) first second inclusion

end Ordered

/-! ## Questions for texts -/

section Textual

variable (b : Binding ρ String)

def equalIgnoreCase (s : String) : Predicate ρ := b.single (.equalFolded false) s
def notEqualIgnoreCase (s : String) : Predicate ρ := b.single (.equalFolded true) s

/-- The texts with a needle at an anchor. -/
def holding (anchor : Text.Anchor) (folded negated : Bool) (needle : String) : Predicate ρ :=
  b.single (.text anchor folded negated) needle

def startsWith (s : String) : Predicate ρ := b.holding .head false false s
def notStartsWith (s : String) : Predicate ρ := b.holding .head false true s
def startsWithIgnoreCase (s : String) : Predicate ρ := b.holding .head true false s
def notStartsWithIgnoreCase (s : String) : Predicate ρ := b.holding .head true true s
def endsWith (s : String) : Predicate ρ := b.holding .tail false false s
def notEndsWith (s : String) : Predicate ρ := b.holding .tail false true s
def endsWithIgnoreCase (s : String) : Predicate ρ := b.holding .tail true false s
def notEndsWithIgnoreCase (s : String) : Predicate ρ := b.holding .tail true true s
def contains (s : String) : Predicate ρ := b.holding .anywhere false false s
def notContains (s : String) : Predicate ρ := b.holding .anywhere false true s
def containsIgnoreCase (s : String) : Predicate ρ := b.holding .anywhere true false s
def notContainsIgnoreCase (s : String) : Predicate ρ := b.holding .anywhere true true s
def isEmpty : Predicate ρ := b.predicate (.empty false) .none
def isNotEmpty : Predicate ρ := b.predicate (.empty true) .none

end Textual

end Binding

end FieldQuery
