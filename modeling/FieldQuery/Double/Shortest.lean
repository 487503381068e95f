/-
The shortest decimal that rounds back to a double: the coarsest power of ten with a multiple inside
the number's rounding interval, and of two such multiples the nearer one.
-/
import FieldQuery.Double.Basic

namespace FieldQuery

/-- The decimal `digits · 10 ^ exponent`. -/
structure Decimal where
  digits : Nat
  exponent : Int
deriving DecidableEq

/-- What to do when the number lies half way between two decimals of the same length. -/
inductive DecimalTie where
  | up
  | even
deriving DecidableEq

namespace Double64

/-- Quarter units of the last place: the number, the lower and the upper end of the interval that
rounds to it, and whether the ends belong to it. -/
structure Interval where
  value : Nat
  lower : Nat
  upper : Nat
  closed : Bool
  /-- The exponent of two of one quarter unit. -/
  exponent : Int

/-- The rounding interval of a finite number that is not zero. Below a power of two the next number
is only half as far away. -/
def interval (x : Double64) : Interval :=
  let (m, e) := x.scaled
  let narrow := m = 2 ^ 52 ∧ 2 * 2 ^ 52 ≤ x.magnitude
  ⟨4 * m, 4 * m - (if narrow then 1 else 2), 4 * m + 2, m % 2 = 0, e - 2⟩

namespace Interval

/-- Scales quarter units so that `10 ^ place` becomes the second component. -/
def onGrid (i : Interval) (place : Int) (n : Nat) : Nat × Nat :=
  (n * 2 ^ i.exponent.toNat * 10 ^ (-place).toNat, 2 ^ (-i.exponent).toNat * 10 ^ place.toNat)

/-- Whether `c · 10 ^ place` rounds to the number. -/
def contains (i : Interval) (place : Int) (c : Nat) : Bool :=
  let (low, unit) := i.onGrid place i.lower
  let (high, _) := i.onGrid place i.upper
  if i.closed then low ≤ c * unit && c * unit ≤ high else low < c * unit && c * unit < high

/-- The multiple of `10 ^ place` nearest to the number among its two neighbours that round to it. -/
def nearest? (tie : DecimalTie) (i : Interval) (place : Int) : Option Nat :=
  let (value, unit) := i.onGrid place i.value
  let c := value / unit
  match i.contains place c, i.contains place (c + 1) with
  | false, false => none
  | true, false => some c
  | false, true => some (c + 1)
  | true, true =>
    let middle := (2 * c + 1) * unit
    if 2 * value < middle then some c
    else if middle < 2 * value then some (c + 1)
    else match tie with
      | .up => some (c + 1)
      | .even => some (c + c % 2)

/-- The first hit on the grids `place`, `place - 1`, …. -/
def search (tie : DecimalTie) (i : Interval) : Nat → Int → Decimal
  | 0, place => ⟨0, place⟩
  | tries + 1, place =>
    match i.nearest? tie place with
    | some c => ⟨c, place⟩
    | none => i.search tie tries (place - 1)

end Interval

/-- Moves trailing zeros into the exponent. -/
def stripZeros : Nat → Decimal → Decimal
  | 0, d => d
  | tries + 1, d =>
    if d.digits ≠ 0 ∧ d.digits % 10 = 0 then stripZeros tries ⟨d.digits / 10, d.exponent + 1⟩ else d

/-- The shortest decimal of a finite number that is not zero, without its sign. Seventeen digits
always suffice, and the first grid lies at most two places above the leading digit. -/
def shortest (tie : DecimalTie) (x : Double64) : Decimal :=
  let i := x.interval
  let leading := i.exponent + i.value.log2
  stripZeros 20 (i.search tie 22 (leading * 30103 / 100000 + 1))

end Double64

end FieldQuery
