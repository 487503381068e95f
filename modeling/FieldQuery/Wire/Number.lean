/-
The numbers of JSON text. Whole numbers of 64 bits are exact. For any other number the leading
digits are read as one whole number, rounded to a float, and then multiplied or divided by the power
of ten, with a second rounding.
-/
import FieldQuery.Wire.Json

namespace FieldQuery

namespace Double64

/-- The product of two finite numbers that are not negative. -/
def product (x y : Double64) : Double64 :=
  let (m, e) := x.scaled
  let (n, f) := y.scaled
  ofRatio false (m * n * 2 ^ (e + f).toNat) (2 ^ (-(e + f)).toNat)

/-- The quotient of a finite number by a positive one, neither of them negative. -/
def quotient (x y : Double64) : Double64 :=
  let (m, e) := x.scaled
  let (n, f) := y.scaled
  ofRatio false (m * 2 ^ (e - f).toNat) (n * 2 ^ (f - e).toNat)

/-- The largest power of ten that is finite. -/
def greatestTenPower : Nat := 308

/-- The power of ten, rounded. -/
def tenPower (n : Nat) : Double64 := ofRatio false (10 ^ n) 1

/-- Divides by a power of ten, in steps of the largest one. -/
def divideByTen : Nat → Double64 → Nat → Double64
  | 0, x, _ => x
  | tries + 1, x, n =>
    if n ≤ greatestTenPower then x.quotient (tenPower n)
    else if x.isZero then x
    else divideByTen tries (x.quotient (tenPower greatestTenPower)) (n - greatestTenPower)

/-- A whole number of 64 bits times a power of ten; too great a number is refused. -/
def ofDecimal? (significand : Nat) (exponent : Int) : Option Double64 :=
  let x := ofInt significand
  if exponent < 0 then some (divideByTen 8 x (-exponent).toNat)
  else if x.isZero then some x
  else if exponent ≤ greatestTenPower then
    let y := x.product (tenPower exponent.toNat)
    if y.isInfinite then none else some y
  else none

/-- The number with its sign set. -/
def withSign (negative : Bool) (x : Double64) : Double64 := ofMagnitude negative x.magnitude

end Double64

namespace Json

/-- Digits read so far: the number they make, how many could not be kept, and whether there was one. -/
structure Digits where
  value : Nat := 0
  dropped : Nat := 0
  kept : Nat := 0

/-- The value of a decimal digit. -/
def digit? (c : Char) : Option Nat :=
  if 48 ≤ c.toNat ∧ c.toNat ≤ 57 then some (c.toNat - 48) else none

/-- Reads digits as long as their number fits 64 bits; the others are counted and dropped. -/
def takeDigits (d : Digits) : List Char → Digits × List Char
  | [] => (d, [])
  | c :: rest =>
    match digit? c with
    | none => (d, c :: rest)
    | some n =>
      if d.dropped = 0 ∧ d.value * 10 + n < 2 ^ 64 then
        takeDigits { d with value := d.value * 10 + n, kept := d.kept + 1 } rest
      else takeDigits { d with dropped := d.dropped + 1 } rest

/-- The sign and the digits of an exponent, clamped far outside the range of floats. -/
def exponent? (cs : List Char) : Option (Int × List Char) :=
  let (negative, rest) := match cs with
    | '-' :: rest => (true, rest)
    | '+' :: rest => (false, rest)
    | rest => (false, rest)
  let (d, rest) := takeDigits {} rest
  if d.kept = 0 ∧ d.dropped = 0 then none
  else
    let size : Nat := if d.dropped = 0 then min d.value 100000 else 100000
    some (if negative then -(size : Int) else size, rest)

/-- The number with the given sign, significand and exponent. -/
def scaled? (negative : Bool) (significand : Nat) (exponent : Int) (rest : List Char) :
    Option (Json × List Char) :=
  (Double64.ofDecimal? significand exponent).map fun x => (float (x.withSign negative), rest)

/-- What follows the fraction: an exponent or the end. -/
def afterFraction? (negative : Bool) (significand : Nat) (exponent : Int) :
    List Char → Option (Json × List Char)
  | 'e' :: rest | 'E' :: rest =>
    match exponent? rest with
    | some (shift, rest) => scaled? negative significand (exponent + shift) rest
    | none => none
  | rest => scaled? negative significand exponent rest

/-- Reads a number after its sign. -/
def number? (negative : Bool) (cs : List Char) : Option (Json × List Char) :=
  let (d, rest) := takeDigits {} cs
  let leadingZero := cs.head? == some '0' && decide (1 < d.kept + d.dropped)
  if d.kept = 0 ∨ leadingZero then none
  else
    match rest with
    | '.' :: rest =>
      let (f, rest) := takeDigits { d with dropped := 0, kept := 0 } rest
      if f.kept = 0 ∧ f.dropped = 0 then none
      else afterFraction? negative f.value ((d.dropped : Int) - f.kept) rest
    | 'e' :: _ | 'E' :: _ => afterFraction? negative d.value d.dropped rest
    | _ =>
      if d.dropped ≠ 0 then scaled? negative d.value d.dropped rest
      else if !negative then some (whole d.value, rest)
      else if d.value = 0 then some (float (Double64.zero.withSign true), rest)
      else if d.value ≤ 2 ^ 63 then some (whole (-(d.value : Int)), rest)
      else scaled? true d.value 0 rest

end Json

end FieldQuery
