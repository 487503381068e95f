/-
Fields: attributes together with a way to read them from a record, either as values of any kind or
through a typed getter.
-/
import FieldQuery.Schema.Attribute
import FieldQuery.Schema.FieldValue

namespace FieldQuery

/-- An attribute that can be read from records of type `ρ`. -/
structure Field (ρ : Type) where
  attr : Attribute
  read : ρ → Value

/-- An attribute with a typed getter; a record without the attribute gives `none`. -/
structure Binding (ρ α : Type) [FieldValue α] where
  attr : Attribute
  get : ρ → Option α
  kind_eq : attr.kind = FieldValue.kind α := by rfl

namespace Binding

variable {ρ α : Type} [FieldValue α]

/-- A binding for a column without conversion. -/
def make (entity column : String) (get : ρ → Option α) : Binding ρ α :=
  ⟨⟨entity, column, FieldValue.kind α, none, false⟩, get, rfl⟩

/-- The binding with a conversion to stored values. -/
def withConverter (b : Binding ρ α) (c : Converter) : Binding ρ α :=
  ⟨{ b.attr with converter := some c }, b.get, b.kind_eq⟩

/-- The binding marked as unique. -/
def unique (b : Binding ρ α) : Binding ρ α :=
  ⟨{ b.attr with unique := true }, b.get, b.kind_eq⟩

/-- The value a record has for the attribute, null if there is none. -/
def read (b : Binding ρ α) (record : ρ) : Value :=
  match b.get record with
  | some a => FieldValue.toValue a
  | none => .null

/-- The field of a binding. -/
def toField (b : Binding ρ α) : Field ρ := ⟨b.attr, b.read⟩

/-- The structural text of a binding. -/
def inspect (b : Binding ρ α) : String := "AttributeRef(" ++ b.attr.inspect ++ ")"

end Binding

end FieldQuery
