/-
The order of values. Numbers of every kind compare with each other: whole numbers exactly, and a
whole number with a float after conversion to the nearest float.
-/
import FieldQuery.Text.Match
import FieldQuery.Value.Basic

namespace FieldQuery

/-- The number a value denotes. -/
inductive Number where
  | whole (n : Int)
  | float (x : Double64)

namespace Number

/-- The number as a float, the nearest one for a whole number. -/
def toDouble : Number → Double64
  | whole n => Double64.ofInt n
  | float x => x

/-- The order of two numbers, missing if one is NaN. -/
def compare? : Number → Number → Option Ordering
  | whole a, whole b => some (compare a b)
  | a, b => a.toDouble.compare? b.toDouble

end Number

namespace Value

/-- The number a value denotes, a character denoting its code point. -/
def number? : Value → Option Number
  | char c => some (.whole c.toNat)
  | float x => some (.float x)
  | int i => some (.whole i.toInt)
  | uint n => some (.whole n.toNat)
  | _ => none

/-- The order of two values. It is missing when one of them is null or a list, when the families
differ, and when a float comparison meets NaN. -/
def compare? : Value → Value → Option Ordering
  | char a, char b => some (compare a.toNat b.toNat)
  | text a, text b => some (Text.compare a b)
  | bool a, bool b => some (compare a.toNat b.toNat)
  | a, b =>
    match a.number?, b.number? with
    | some x, some y => x.compare? y
    | _, _ => none

/-- Equality across kinds; missing when the values cannot be compared. -/
def equal? (a b : Value) : Option Bool := (a.compare? b).map (· = .eq)

end Value

end FieldQuery
