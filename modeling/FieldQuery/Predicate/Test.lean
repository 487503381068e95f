/-
Testing a predicate in memory: the operands are checked first, then the value of the record decides.
-/
import FieldQuery.Predicate.Check
import FieldQuery.Text.Casing

namespace FieldQuery

namespace Criterion

/-- Whether some item of a list equals the value. -/
def contains (items : List Value) (v : Value) : Bool :=
  items.any fun item => v.equal? item == some true

/-- Whether a value lies in a range; missing when it does not compare with one of the bounds. -/
def inRange? (v first second : Value) (inclusion : Inclusion) : Option Bool :=
  match v.compare? first, v.compare? second with
  | some lower, some upper => some (inclusion.admits lower upper)
  | _, _ => none

/-- Whether a text holds a needle at an anchor, up to letter case when folded. -/
def holdsText (anchor : Text.Anchor) (folded : Bool) (text needle : String) : Bool :=
  if folded then anchor.holds (Text.casefold text) (Text.casefold needle)
  else anchor.holds text needle

/-- Whether a value that is not null meets the criterion. A comparison that cannot be made counts
neither for nor against, so both a kind and its complement refuse it. -/
def acceptsPresent : Criterion → Value → Bool
  | always truth, _ => truth
  | null negated, _ => negated
  | equal negated operand, v => v.equal? operand == some !negated
  | equalFolded negated operand, .text s =>
    (Text.casefold s == Text.casefold operand) != negated
  | order relation bound, v =>
    match v.compare? bound with
    | some ordering => relation.holds ordering
    | none => false
  | between negated first second inclusion, v =>
    inRange? v first second inclusion == some !negated
  | member negated items, v => contains items v != negated
  | text anchor folded negated needle, .text s => holdsText anchor folded s needle != negated
  | empty negated, .text s => s.isEmpty != negated
  | equalFolded _ _, _ | text _ _ _ _, _ | empty _, _ => false

/-- Whether a value meets the criterion. A null meets only the constant truth, the question for null
and the exclusion from a list. -/
def accepts (c : Criterion) (v : Value) : Bool :=
  if v.isNull then
    match c with
    | always truth => truth
    | null negated => !negated
    | member negated _ => negated
    | _ => false
  else c.acceptsPresent v

end Criterion

/-- The operand check on its own. -/
def Condition.validate (c : Condition) : Except PredicateError Unit :=
  match c.check with
  | .ok _ => .ok ()
  | .error e => .error e

/-- Whether a record meets the predicate. -/
def Predicate.test {ρ : Type} (p : Predicate ρ) (record : ρ) : Except PredicateError Bool :=
  match p.check with
  | .ok criterion => .ok (criterion.accepts (p.read record))
  | .error e => .error e

end FieldQuery
