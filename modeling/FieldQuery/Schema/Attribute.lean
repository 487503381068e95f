/-
Attributes: named columns of an entity with the kind of their values, and an optional conversion
between the values records hold and the values a store holds.
-/
import FieldQuery.Value.Text

namespace FieldQuery

/-- A conversion between the values of records and the values of a store. -/
structure Converter where
  toStore : Value → Value
  fromStore : Value → Value

/-- A column of an entity. -/
structure Attribute where
  entity : String
  column : String
  kind : ValueKind
  converter : Option Converter := none
  unique : Bool := false

namespace Attribute

/-- The name of an attribute with its entity. -/
def qualifiedName (a : Attribute) : String := a.entity ++ "." ++ a.column

/-- The stored form of a value of a record; a missing value is never converted. -/
def toStore (a : Attribute) : Value → Value
  | .null => .null
  | v => match a.converter with
    | some c => c.toStore v
    | none => v

/-- The value of a record behind a stored one; a missing value is never converted. -/
def fromStore (a : Attribute) : Value → Value
  | .null => .null
  | v => match a.converter with
    | some c => c.fromStore v
    | none => v

/-- Equality of attributes, which does not look at the conversion. -/
def same (a b : Attribute) : Bool :=
  a.entity == b.entity && a.column == b.column && a.kind == b.kind && a.unique == b.unique

instance : BEq Attribute := ⟨same⟩

/-- The structural text of an attribute. -/
def inspect (a : Attribute) : String :=
  "Attribute \x7b entity: " ++ Text.quote a.entity ++ ", column: " ++ Text.quote a.column ++
    ", kind: " ++ a.kind.name ++ ", converter: " ++ boolText a.converter.isSome ++
    ", unique: " ++ boolText a.unique ++ " \x7d"

end Attribute

end FieldQuery
