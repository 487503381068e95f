/-
Values: what attributes hold and what conditions compare them with. The kinds fall into families,
and only values of one family can be compared.
-/
import FieldQuery.Double.Basic

namespace FieldQuery

/-! ## Kinds and families -/

/-- The families within which values are compared. Characters are numbers: they stand for their code
points. -/
inductive Family where
  | bool
  | collection
  | null
  | numeric
  | textual
deriving DecidableEq, Inhabited

/-- The kinds of values. -/
inductive ValueKind where
  | bool
  | char
  | float
  | int
  | list
  | null
  | text
  | uint
deriving DecidableEq, Inhabited

namespace ValueKind

/-- The family of a kind. -/
def family : ValueKind → Family
  | bool => .bool
  | char | float | int | uint => .numeric
  | list => .collection
  | null => .null
  | text => .textual

/-- The short name of a kind in messages. -/
def typeName : ValueKind → String
  | bool => "bool"
  | char => "char"
  | float => "f64"
  | int => "i64"
  | list => "list"
  | null => "null"
  | text => "text"
  | uint => "u64"

/-- Whether values of this kind can bound a range. -/
def orderable (kind : ValueKind) : Bool :=
  match kind.family with
  | .bool | .numeric | .textual => true
  | .collection | .null => false

end ValueKind

/-! ## Values -/

/-- A value of an attribute or an operand of a condition. `null` is the missing value, and lists
appear as operands of set membership. -/
inductive Value where
  | bool (truth : Bool)
  | char (character : Char)
  | float (number : Double64)
  | int (number : Int64)
  | list (items : List Value)
  | null
  | text (content : String)
  | uint (number : UInt64)
deriving Inhabited

namespace Value

/-- The kind of a value. -/
def kind : Value → ValueKind
  | bool _ => .bool
  | char _ => .char
  | float _ => .float
  | int _ => .int
  | list _ => .list
  | null => .null
  | text _ => .text
  | uint _ => .uint

/-- The family of a value. -/
def family (v : Value) : Family := v.kind.family

/-- Whether the value is missing. -/
def isNull : Value → Bool
  | null => true
  | _ => false

/-- Whether the value is neither missing nor a list. -/
def isScalar : Value → Bool
  | null | list _ => false
  | _ => true

/-- The content of a text. -/
def asText? : Value → Option String
  | text s => some s
  | _ => none

/-- A character becomes the integer of its code point; other values stay. -/
def widenChar : Value → Value
  | char c => int (Int64.ofNat c.toNat)
  | v => v

/-! ## Structural equality -/

mutual

/-- Equality of kind and content; floats are compared as numbers, so NaN differs from itself. -/
def same : Value → Value → Bool
  | bool a, bool b => a == b
  | char a, char b => a == b
  | float a, float b => a.equal b
  | int a, int b => a == b
  | list as, list bs => sameList as bs
  | null, null => true
  | text a, text b => a == b
  | uint a, uint b => a == b
  | _, _ => false

/-- Equality of lists, item by item. -/
def sameList : List Value → List Value → Bool
  | [], [] => true
  | a :: as, b :: bs => same a b && sameList as bs
  | _, _ => false

end

instance : BEq Value := ⟨same⟩

end Value

end FieldQuery
