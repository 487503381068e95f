/-
Evaluation of clauses on rows, in the three-valued logic of query languages.
-/
import FieldQuery.Search.Clause
import FieldQuery.Text.Casing
import FieldQuery.Value.Order

namespace FieldQuery

/-! ## Truth -/

/-- A truth value; `none` is UNKNOWN. -/
abbrev Truth := Option Bool

namespace Truth

/-- True if both are, false if one is. -/
def and : Truth → Truth → Truth
  | some false, _ | _, some false => some false
  | some true, some true => some true
  | _, _ => none

/-- True if one is, false if both are. -/
def or : Truth → Truth → Truth
  | some true, _ | _, some true => some true
  | some false, some false => some false
  | _, _ => none

/-- The opposite; UNKNOWN stays. -/
def not (t : Truth) : Truth := t.map (!·)

end Truth

/-! ## Rows -/

/-- A row of a store: its cells by column, null where there is none. -/
abbrev Row := String → Value

/-- The row with the given cells; of several cells of a column the first one counts. -/
def Row.ofCells (cells : List (String × Value)) : Row := fun column =>
  ((cells.find? (·.1 == column)).map (·.2)).getD .null

/-- The value of a term on a row. -/
def Term.eval (row : Row) : Term → Value
  | column name => row name
  | literal value => value
  | lower inner =>
    match inner.eval row with
    | .text s => .text (Text.lowercase s)
    | _ => .null

namespace Clause

/-- The truth of a clause on a row. -/
def eval (row : Row) : Clause → Truth
  | isTrue t => some (t.eval row == .bool true)
  | isFalse t => some (t.eval row == .bool false)
  | isNull t => some (t.eval row).isNull
  | isNotNull t => some !(t.eval row).isNull
  | compare a op b => ((a.eval row).compare? (b.eval row)).map op.holds
  | like t p negated => (t.eval row).asText?.map fun s => p.holds s != negated
  | inList t values =>
    let v := t.eval row
    if v.isNull then none else some (values.any fun item => v.compare? item == some .eq)
  | and a b => (a.eval row).and (b.eval row)
  | or a b => (a.eval row).or (b.eval row)
  | not a => (a.eval row).not

/-- Whether a row is selected: UNKNOWN does not select it. -/
def selects (c : Clause) (row : Row) : Bool := c.eval row == some true

end Clause

end FieldQuery
