/-
The types that can stand behind an attribute, each with its kind of value.
-/
import FieldQuery.Double.Single
import FieldQuery.Value.Basic

namespace FieldQuery

/-- A type of attribute values: `toValue` embeds it, `ofValue?` reads a fitting value back. -/
class FieldValue (α : Type) where
  kind : ValueKind
  toValue : α → Value
  ofValue? : Value → Option α

/-- The types whose values can bound a range. -/
class OrderedFieldValue (α : Type) extends FieldValue α

/-- A text that is only compared for equality. -/
structure Label where
  text : String
deriving DecidableEq, Inhabited

/-! ## Signed integers -/

instance : OrderedFieldValue Int8 where
  kind := .int
  toValue n := .int (Int64.ofInt n.toInt)
  ofValue?
    | .int n => if -128 ≤ n.toInt ∧ n.toInt ≤ 127 then some (Int8.ofInt n.toInt) else none
    | _ => none

instance : OrderedFieldValue Int16 where
  kind := .int
  toValue n := .int (Int64.ofInt n.toInt)
  ofValue?
    | .int n => if -32768 ≤ n.toInt ∧ n.toInt ≤ 32767 then some (Int16.ofInt n.toInt) else none
    | _ => none

instance : OrderedFieldValue Int32 where
  kind := .int
  toValue n := .int (Int64.ofInt n.toInt)
  ofValue?
    | .int n =>
      if -2147483648 ≤ n.toInt ∧ n.toInt ≤ 2147483647 then some (Int32.ofInt n.toInt) else none
    | _ => none

instance : OrderedFieldValue Int64 where
  kind := .int
  toValue n := .int n
  ofValue?
    | .int n => some n
    | _ => none

/-! ## Unsigned integers -/

instance : OrderedFieldValue UInt8 where
  kind := .uint
  toValue n := .uint (UInt64.ofNat n.toNat)
  ofValue?
    | .uint n => if n.toNat < 2 ^ 8 then some (UInt8.ofNat n.toNat) else none
    | _ => none

instance : OrderedFieldValue UInt16 where
  kind := .uint
  toValue n := .uint (UInt64.ofNat n.toNat)
  ofValue?
    | .uint n => if n.toNat < 2 ^ 16 then some (UInt16.ofNat n.toNat) else none
    | _ => none

instance : OrderedFieldValue UInt32 where
  kind := .uint
  toValue n := .uint (UInt64.ofNat n.toNat)
  ofValue?
    | .uint n => if n.toNat < 2 ^ 32 then some (UInt32.ofNat n.toNat) else none
    | _ => none

instance : OrderedFieldValue UInt64 where
  kind := .uint
  toValue n := .uint n
  ofValue?
    | .uint n => some n
    | _ => none

/-! ## Other numbers, characters, texts and truth values -/

instance : OrderedFieldValue Double64 where
  kind := .float
  toValue x := .float x
  ofValue?
    | .float x => some x
    | _ => none

instance : OrderedFieldValue Single32 where
  kind := .float
  toValue x := .float x.toDouble
  ofValue?
    | .float x => some x.toSingle
    | _ => none

instance : OrderedFieldValue Char where
  kind := .char
  toValue c := .char c
  ofValue?
    | .char c => some c
    | _ => none

instance : OrderedFieldValue String where
  kind := .text
  toValue s := .text s
  ofValue?
    | .text s => some s
    | _ => none

instance : FieldValue Bool where
  kind := .bool
  toValue b := .bool b
  ofValue?
    | .bool b => some b
    | _ => none

instance : FieldValue Label where
  kind := .text
  toValue l := .text l.text
  ofValue?
    | .text s => some ⟨s⟩
    | _ => none

end FieldQuery
