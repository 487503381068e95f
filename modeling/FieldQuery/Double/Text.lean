/-
The written forms of doubles: one selection of digits, and a layout that says where positional
notation ends and whether a whole number shows its fraction.
-/
import FieldQuery.Double.Shortest

namespace FieldQuery

/-- The decisions of one written form. -/
structure DoubleLayout where
  /-- The least and the greatest decimal exponent written positionally; `none` for all of them. -/
  positional : Option (Int × Int)
  /-- Whether a whole number in positional notation ends in `.0`. -/
  fraction : Bool
  /-- Whether a positive exponent has a sign. -/
  plusSign : Bool
  /-- The choice between two equally near decimals. -/
  tie : DecimalTie

namespace DoubleLayout

/-- Plain text: never an exponent, and no fraction on whole numbers. -/
def plain : DoubleLayout := ⟨none, false, false, .up⟩

/-- Structural text: an exponent outside `1e-4 … 1e16`. -/
def structural : DoubleLayout := ⟨some (-4, 15), true, false, .up⟩

/-- Document text: an exponent outside `1e-5 … 1e16`, always with its sign. -/
def document : DoubleLayout := ⟨some (-5, 15), true, true, .even⟩

/-- The digits with a point where the exponent puts it. -/
def positionalText (layout : DoubleLayout) (digits : List Char) (exponent : Int) : List Char :=
  let whole := (digits.length : Int) + exponent
  if 0 ≤ exponent then
    digits ++ List.replicate exponent.toNat '0' ++ (if layout.fraction then ['.', '0'] else [])
  else if 0 < whole then
    digits.take whole.toNat ++ '.' :: digits.drop whole.toNat
  else
    '0' :: '.' :: List.replicate (-whole).toNat '0' ++ digits

/-- One digit, a point before the others, and the decimal exponent. -/
def scientificText (layout : DoubleLayout) (digits : List Char) (exponent : Int) : List Char :=
  let leading := (digits.length : Int) + exponent - 1
  let mantissa := match digits with
    | first :: second :: rest => first :: '.' :: second :: rest
    | short => short
  let sign := if layout.plusSign && 0 < leading then ['+'] else []
  mantissa ++ 'e' :: sign ++ (toString leading).toList

/-- The text of a finite number that is not zero, without its sign. -/
def decimalText (layout : DoubleLayout) (d : Decimal) : List Char :=
  let digits := Nat.toDigits 10 d.digits
  let leading := (digits.length : Int) + d.exponent - 1
  match layout.positional with
  | none => layout.positionalText digits d.exponent
  | some (least, greatest) =>
    if least ≤ leading ∧ leading ≤ greatest then layout.positionalText digits d.exponent
    else layout.scientificText digits d.exponent

/-- The text of a number in this layout. -/
def text (layout : DoubleLayout) (x : Double64) : String :=
  if x.isNaN then "NaN"
  else
    let size :=
      if x.isInfinite then ['i', 'n', 'f']
      else if x.isZero then (if layout.fraction then ['0', '.', '0'] else ['0'])
      else layout.decimalText (x.shortest layout.tie)
    String.ofList (if x.negative then '-' :: size else size)

end DoubleLayout

end FieldQuery
