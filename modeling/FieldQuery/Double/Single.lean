/-
Single-precision numbers: narrowing from a double and widening back.
-/
import FieldQuery.Double.Basic

namespace FieldQuery

/-- A single-precision number, kept as its 32 bits. -/
structure Single32 where
  bits : UInt32
deriving DecidableEq, Inhabited

namespace Single32

/-- The word without its sign bit. -/
def magnitude (x : Single32) : Nat := x.bits.toNat % 2 ^ 31

/-- Whether the sign bit is set. -/
def negative (x : Single32) : Bool := 2 ^ 31 ≤ x.bits.toNat

/-- The magnitude word of infinity; larger ones are NaN. -/
def infinityWord : Nat := 0x7f800000

/-- `(m, e)` such that a finite number is `±m · 2 ^ e`. -/
def scaled (x : Single32) : Nat × Int :=
  let field : Nat := x.magnitude / 2 ^ 23
  let fraction : Nat := x.magnitude % 2 ^ 23
  if field = 0 then (fraction, -149) else (2 ^ 23 + fraction, (field : Int) - 150)

/-- The same number in double precision, always exact; a NaN keeps its payload and becomes quiet. -/
def toDouble (x : Single32) : Double64 :=
  if infinityWord < x.magnitude then
    let payload := x.magnitude % 2 ^ 22
    Double64.ofMagnitude x.negative (Double64.infinityWord + 2 ^ 51 + payload * 2 ^ 29)
  else if x.magnitude = infinityWord then
    Double64.ofMagnitude x.negative Double64.infinityWord
  else
    let (m, e) := x.scaled
    Double64.ofRatio x.negative (m * 2 ^ e.toNat) (2 ^ (-e).toNat)

end Single32

namespace Double64

/-- The nearest single-precision number; a NaN keeps the high part of its payload and becomes
quiet. -/
def toSingle (x : Double64) : Single32 :=
  let sign : Nat := if x.negative then 2 ^ 31 else 0
  let size : Nat :=
    if x.isNaN then Single32.infinityWord + 2 ^ 22 + x.magnitude / 2 ^ 29 % 2 ^ 22
    else if x.isInfinite then Single32.infinityWord
    else
      let (m, e) := x.scaled
      FloatFormat.single.roundMagnitude (m * 2 ^ e.toNat) (2 ^ (-e).toNat)
  ⟨UInt32.ofNat (sign + size)⟩

end Double64

end FieldQuery
