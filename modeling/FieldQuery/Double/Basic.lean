/-
Binary floating-point numbers as words of bits: the numeric order (partial, because of NaN), the
total order of the words, and the rounding of exact fractions to the nearest representable number.
-/

namespace FieldQuery

/-- A power is the one that comes with the numbers, also where the powers of monoids are in scope. -/
@[default_instance 20000]
instance (priority := 20000) powOfNumber {α : Type} [NatPow α] : Pow α Nat := instPowNat

/-- A double-precision number, kept as its 64 bits. -/
structure Double64 where
  bits : UInt64
deriving DecidableEq, Inhabited

/-! ## Rounding to a format -/

/-- The quotient of `num` by `den`, rounded to the nearest integer, halves to the even one. -/
def roundDiv (num den : Nat) : Nat :=
  let floor := num / den
  let twice := 2 * (num % den)
  if twice < den then floor
  else if den < twice then floor + 1
  else floor + floor % 2

/-- The parameters of a binary format: significand width, exponent of the last place of the
smallest numbers, and the word of infinity. -/
structure FloatFormat where
  precision : Nat
  leastExponent : Int
  infinity : Nat

namespace FloatFormat

/-- The largest `e` with `2 ^ e ≤ num / den`, for positive arguments. -/
def binaryExponent (num den : Nat) : Int :=
  let guess : Int := (num.log2 : Int) - (den.log2 : Int)
  let below := num * 2 ^ (-guess).toNat < den * 2 ^ guess.toNat
  if below then guess - 1 else guess

/-- The word of the number of this format nearest to `num / den`, without its sign. -/
def roundMagnitude (fmt : FloatFormat) (num den : Nat) : Nat :=
  if num = 0 then 0
  else
    let place := max (binaryExponent num den - (fmt.precision - 1 : Nat)) fmt.leastExponent
    let significand := roundDiv (num * 2 ^ (-place).toNat) (den * 2 ^ place.toNat)
    min ((place - fmt.leastExponent).toNat * 2 ^ (fmt.precision - 1) + significand) fmt.infinity

/-- Double precision. -/
def double : FloatFormat := ⟨53, -1074, 0x7ff0000000000000⟩

/-- Single precision. -/
def single : FloatFormat := ⟨24, -149, 0x7f800000⟩

end FloatFormat

namespace Double64

/-! ## Fields -/

/-- The word without its sign bit. -/
def magnitude (x : Double64) : Nat := x.bits.toNat % 2 ^ 63

/-- Whether the sign bit is set. -/
def negative (x : Double64) : Bool := 2 ^ 63 ≤ x.bits.toNat

/-- The magnitude word of infinity; larger ones are NaN. -/
def infinityWord : Nat := 0x7ff0000000000000

def isNaN (x : Double64) : Bool := infinityWord < x.magnitude

def isInfinite (x : Double64) : Bool := x.magnitude = infinityWord

def isZero (x : Double64) : Bool := x.magnitude = 0

/-- The number with the given sign and magnitude word. -/
def ofMagnitude (negative : Bool) (magnitude : Nat) : Double64 :=
  ⟨UInt64.ofNat ((if negative then 2 ^ 63 else 0) + magnitude)⟩

/-- Positive zero. -/
def zero : Double64 := ⟨0⟩

/-- `(m, e)` such that a finite number is `±m · 2 ^ e`. -/
def scaled (x : Double64) : Nat × Int :=
  let field : Nat := x.magnitude / 2 ^ 52
  let fraction : Nat := x.magnitude % 2 ^ 52
  if field = 0 then (fraction, -1074) else (2 ^ 52 + fraction, (field : Int) - 1075)

/-! ## Orders -/

/-- The position of a number that is not NaN; both zeros stand at `0`. -/
def rank (x : Double64) : Int :=
  if x.negative then -(x.magnitude : Int) else x.magnitude

/-- The numeric order; nothing compares with NaN. -/
def compare? (x y : Double64) : Option Ordering :=
  if x.isNaN || y.isNaN then none else some (compare x.rank y.rank)

/-- Numeric equality: NaN differs from itself and the two zeros are equal. -/
def equal (x y : Double64) : Bool := x.compare? y = some .eq

/-- The position in the total order: a set sign bit goes below, larger words further out. -/
def totalRank (x : Double64) : Int :=
  if x.negative then -(x.magnitude : Int) - 1 else x.magnitude

/-- The total order of all words, the NaNs included. -/
def totalCompare (x y : Double64) : Ordering := compare x.totalRank y.totalRank

/-! ## Conversions -/

/-- The double nearest to `± num / den`; halves go to the even word, overflow to infinity. -/
def ofRatio (negative : Bool) (num den : Nat) : Double64 :=
  ofMagnitude negative (FloatFormat.double.roundMagnitude num den)

/-- The double nearest to an integer. -/
def ofInt (n : Int) : Double64 := ofRatio (n < 0) n.natAbs 1

/-- The integer part, clamped to the 64-bit range; NaN gives zero. -/
def truncate (x : Double64) : Int64 :=
  if x.isNaN then 0
  else
    let (m, e) := x.scaled
    let size : Nat := if x.isInfinite then 2 ^ 63 else m * 2 ^ (min e 64).toNat / 2 ^ (-e).toNat
    if x.negative then Int64.ofInt (max (-(size : Int)) (-(2 ^ 63)))
    else Int64.ofInt (min (size : Int) (2 ^ 63 - 1))

end Double64

end FieldQuery
