/-
The kinds of conditions on an attribute. Every kind has a complement, a contract for its operands,
a name and a tag.
-/
import FieldQuery.Text.Match

namespace FieldQuery

/-! ## Order relations -/

/-- The four relations between a value and a bound. -/
inductive OrderRelation where
  | less
  | lessOrEqual
  | greater
  | greaterOrEqual
deriving DecidableEq, Inhabited

namespace OrderRelation

/-- The relation that holds of the other orderings. -/
def complement : OrderRelation → OrderRelation
  | less => greaterOrEqual
  | lessOrEqual => greater
  | greater => lessOrEqual
  | greaterOrEqual => less

/-- Whether the relation holds of a value that stands so to the bound. -/
def holds : OrderRelation → Ordering → Bool
  | less, o => o == .lt
  | lessOrEqual, o => o != .gt
  | greater, o => o == .gt
  | greaterOrEqual, o => o != .lt

end OrderRelation

/-! ## Operand contracts -/

/-- What a kind expects as operands. -/
inductive OperandContract where
  | none
  | scalar
  | ordered
  | text
  | range
  | set
deriving DecidableEq, Inhabited

namespace OperandContract

/-- The number of operands. -/
def arity : OperandContract → Nat
  | none => 0
  | scalar | ordered | text | set => 1
  | range => 2

/-- The wording of a contract in messages. -/
def describe : OperandContract → String
  | none => "no operands"
  | scalar => "one scalar of the attribute's family"
  | ordered => "one orderable scalar of the attribute's family"
  | text => "one text operand"
  | range => "two orderable scalars of the attribute's family"
  | set => "one list of scalars of the attribute's family"

/-- The name of a contract in structural text. -/
def name : OperandContract → String
  | none => "None"
  | scalar => "Scalar"
  | ordered => "Ordered"
  | text => "Text"
  | range => "Range"
  | set => "Set"

/-- Every contract. -/
def all : List OperandContract := [none, scalar, ordered, text, range, set]

end OperandContract

/-! ## Kinds -/

/-- The thirty kinds of conditions: nine questions, most of them with their negations. -/
inductive PredicateKind where
  /-- A constant. -/
  | always (truth : Bool)
  /-- Whether the value is missing, or present when negated. -/
  | null (negated : Bool)
  /-- Whether the value equals the operand. -/
  | equal (negated : Bool)
  /-- Whether the value is the operand up to letter case. -/
  | equalFolded (negated : Bool)
  /-- How the value stands to the operand. -/
  | order (relation : OrderRelation)
  /-- Whether the value lies between two bounds. -/
  | between (negated : Bool)
  /-- Whether the value is an item of a list. -/
  | member (negated : Bool)
  /-- Whether the operand stands in the value at an anchor, up to letter case when folded. -/
  | text (anchor : Text.Anchor) (folded negated : Bool)
  /-- Whether the value is the empty text. -/
  | empty (negated : Bool)
deriving DecidableEq, Inhabited

namespace PredicateKind

/-- The kind that asks for the opposite. -/
def complement : PredicateKind → PredicateKind
  | always truth => always !truth
  | null negated => null !negated
  | equal negated => equal !negated
  | equalFolded negated => equalFolded !negated
  | order relation => order relation.complement
  | between negated => between !negated
  | member negated => member !negated
  | text anchor folded negated => text anchor folded !negated
  | empty negated => empty !negated

/-- The operands a kind expects. -/
def contract : PredicateKind → OperandContract
  | always _ | null _ | empty _ => .none
  | equal _ => .scalar
  | order _ => .ordered
  | equalFolded _ | text _ _ _ => .text
  | between _ => .range
  | member _ => .set

/-- Every kind, in the order of the tags. -/
def all : List PredicateKind :=
  [always true, always false, null false, null true, equal false, equal true, equalFolded false,
    equalFolded true, order .less, order .lessOrEqual, order .greater, order .greaterOrEqual,
    between false, between true, member false, member true,
    text .head false false, text .head false true, text .head true false, text .head true true,
    text .tail false false, text .tail false true, text .tail true false, text .tail true true,
    text .anywhere false false, text .anywhere false true, text .anywhere true false,
    text .anywhere true true, empty false, empty true]

/-- The number of a kind, counted from one. -/
def tag (kind : PredicateKind) : UInt8 := UInt8.ofNat (all.idxOf kind + 1)

/-- The words of a kind's name. -/
def words : PredicateKind → List String
  | always truth => ["Always", if truth then "True" else "False"]
  | null negated => "Is" :: negation negated ++ ["Null"]
  | equal negated => negation negated ++ ["Equal"]
  | equalFolded negated => negation negated ++ ["Equal", "Ignore", "Case"]
  | order .less => ["Less", "Than"]
  | order .lessOrEqual => ["Less", "Or", "Equal"]
  | order .greater => ["Greater", "Than"]
  | order .greaterOrEqual => ["Greater", "Or", "Equal"]
  | between negated => negation negated ++ ["Between"]
  | member negated => negation negated ++ ["In"]
  | text anchor folded negated =>
    negation negated ++ anchorWords anchor ++ (if folded then ["Ignore", "Case"] else [])
  | empty negated => "Is" :: negation negated ++ ["Empty"]
where
  negation (negated : Bool) : List String := if negated then ["Not"] else []
  anchorWords : Text.Anchor → List String
    | .head => ["Starts", "With"]
    | .tail => ["Ends", "With"]
    | .anywhere => ["Contains"]

/-- The name of a kind: capitals, with underscores between the words. -/
def name (kind : PredicateKind) : String :=
  "_".intercalate (kind.words.map (·.map Char.toUpper))

/-- The name of a kind in structural text: the words run together. -/
def structuralName (kind : PredicateKind) : String := String.join kind.words

/-- The kind with the given tag. -/
def ofTag? (tag : Nat) : Option PredicateKind := all.find? (·.tag.toNat = tag)

/-- The kind with the given name. -/
def ofName? (name : String) : Option PredicateKind := all.find? (·.name = name)

end PredicateKind

/-! ## Bounds -/

/-- Which bounds belong to a range. -/
structure Inclusion where
  start : Bool := true
  finish : Bool := true
deriving DecidableEq

namespace Inclusion

/-- Ranges include both bounds unless told otherwise. -/
instance : Inhabited Inclusion := ⟨⟨true, true⟩⟩

/-- Every combination, in the order of the tags. -/
def all : List Inclusion := [⟨false, false⟩, ⟨true, false⟩, ⟨false, true⟩, ⟨true, true⟩]

/-- The number of a combination, counted from zero. -/
def tag (i : Inclusion) : UInt8 := UInt8.ofNat (all.idxOf i)

/-- The name of a combination. -/
def name (i : Inclusion) : String :=
  "Start" ++ side i.start ++ "End" ++ side i.finish
where
  side (inclusive : Bool) : String := if inclusive then "Inclusive" else "Exclusive"

/-- Whether a value that stands so to the lower and the upper bound lies in the range. -/
def admits (i : Inclusion) (lower upper : Ordering) : Bool :=
  (if i.start then lower != .lt else lower == .gt) &&
    (if i.finish then upper != .gt else upper == .lt)

end Inclusion

end FieldQuery
