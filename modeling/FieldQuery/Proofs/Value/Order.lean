/-
Which values the order compares: two truth values, two texts, or two numbers of which neither is
NaN. A value that compares with one of two comparable values compares with the other, and a
character stands in the order where the integer of its code point stands.
-/
import FieldQuery.Value.Order

namespace FieldQuery

/-! ## Whole numbers as floats -/

namespace Double64

theorem roundMagnitude_le_infinity (fmt : FloatFormat) (num den : Nat) :
    fmt.roundMagnitude num den ≤ fmt.infinity := by
  unfold FloatFormat.roundMagnitude
  split
  · exact Nat.zero_le _
  · exact Nat.min_le_right _ _

theorem magnitude_ofMagnitude (negative : Bool) {m : Nat} (hm : m < 2 ^ 63) :
    (ofMagnitude negative m).magnitude = m := by
  unfold ofMagnitude magnitude
  simp only [UInt64.toNat_ofNat']
  cases negative
  · simp only [Bool.false_eq_true, if_false]; omega
  · simp only [if_true]; omega

/-- A rounded fraction overflows to infinity and never to NaN. -/
theorem isNaN_ofRatio (negative : Bool) (num den : Nat) : (ofRatio negative num den).isNaN = false := by
  have hle := roundMagnitude_le_infinity .double num den
  have hinf : FloatFormat.double.infinity = infinityWord := rfl
  have hword : infinityWord < 2 ^ 63 := by decide
  unfold ofRatio isNaN
  rw [magnitude_ofMagnitude negative (by omega), decide_eq_false_iff_not]
  omega

theorem isNaN_ofInt (n : Int) : (ofInt n).isNaN = false := isNaN_ofRatio _ _ _

end Double64

/-! ## Numbers -/

namespace Number

/-- Whether the number is the float NaN, which stands outside the order. -/
def isNaN : Number → Bool
  | whole _ => false
  | float x => x.isNaN

theorem isNaN_toDouble (x : Number) : x.toDouble.isNaN = x.isNaN := by
  cases x with
  | whole n => exact Double64.isNaN_ofInt n
  | float x => rfl

theorem isSome_compare? (x y : Number) : (x.compare? y).isSome = (!x.isNaN && !y.isNaN) := by
  have hdouble : (x.toDouble.compare? y.toDouble).isSome = (!x.isNaN && !y.isNaN) := by
    unfold Double64.compare?
    rw [isNaN_toDouble, isNaN_toDouble]
    cases x.isNaN <;> cases y.isNaN <;> rfl
  cases x with
  | whole a =>
    cases y with
    | whole b => rfl
    | float y => exact hdouble
  | float x => exact hdouble

end Number

/-! ## Values -/

namespace Value

/-- The scale on which the order places a value: values of one scale compare. NaN, null and lists
stand on no scale. -/
def scale? : Value → Option Family
  | bool _ => some .bool
  | text _ => some .textual
  | float x => if x.isNaN then none else some .numeric
  | char _ | int _ | uint _ => some .numeric
  | null | list _ => none

/-- Numbers compare as what they denote, two characters included. -/
theorem compare?_of_number {a b : Value} {x y : Number} (ha : a.number? = some x) (hb : b.number? = some y) :
    a.compare? b = x.compare? y := by
  cases a <;> cases b <;> simp only [number?, Option.some.injEq, reduceCtorEq] at ha hb <;> subst ha hb
  case char.char c d =>
    simp only [compare?, Number.compare?, Nat.compare_eq_ite_lt, Int.compare_eq_ite_lt, Int.ofNat_lt]
  all_goals rfl

theorem scale?_of_number {a : Value} {x : Number} (ha : a.number? = some x) :
    a.scale? = if x.isNaN then none else some .numeric := by
  cases a <;> simp only [number?, Option.some.injEq, reduceCtorEq] at ha <;> subst ha <;> rfl

theorem isSome_compare?_of_not_number {a b : Value} (h : a.number? = none ∨ b.number? = none) :
    (a.compare? b).isSome ↔ ∃ scale, a.scale? = some scale ∧ b.scale? = some scale := by
  cases a <;> cases b <;> simp [number?] at h <;> simp [compare?, number?, scale?]

/-- Two values compare exactly when they stand on one scale. -/
theorem isSome_compare?_iff (a b : Value) :
    (a.compare? b).isSome ↔ ∃ scale, a.scale? = some scale ∧ b.scale? = some scale := by
  rcases hx : a.number? with _ | x
  · exact isSome_compare?_of_not_number (.inl hx)
  rcases hy : b.number? with _ | y
  · exact isSome_compare?_of_not_number (.inr hy)
  rw [compare?_of_number hx hy, Number.isSome_compare?, scale?_of_number hx, scale?_of_number hy]
  cases x.isNaN <;> cases y.isNaN <;> simp

/-- A value compares with both of two comparable values or with neither. -/
theorem isSome_compare?_congr {a b : Value} (h : (a.compare? b).isSome) (v : Value) :
    (v.compare? a).isSome ↔ (v.compare? b).isSome := by
  obtain ⟨scale, ha, hb⟩ := (isSome_compare?_iff a b).1 h
  rw [isSome_compare?_iff, isSome_compare?_iff, ha, hb]

theorem compare?_null (v : Value) : null.compare? v = none := by
  cases v <;> rfl

/-! ## Characters -/

theorem number?_widenChar (v : Value) : v.widenChar.number? = v.number? := by
  cases v with
  | char c =>
    have hc : c.toNat < 2 ^ 32 := c.val.toNat_lt
    show some (Number.whole (Int64.ofNat c.toNat).toInt) = some (.whole c.toNat)
    rw [Int64.toInt_ofNat_of_lt (by omega)]
  | _ => rfl

/-- Widening a character changes no comparison with it. -/
theorem compare?_widenChar (v bound : Value) : v.compare? bound.widenChar = v.compare? bound := by
  rcases hx : v.number? with _ | x
  · cases bound with
    | char c => cases v <;> simp only [number?, reduceCtorEq] at hx <;> rfl
    | _ => rfl
  rcases hy : bound.number? with _ | y
  · cases bound <;> simp only [number?, reduceCtorEq] at hy <;> rfl
  rw [compare?_of_number hx hy, compare?_of_number hx ((number?_widenChar bound).trans hy)]

end Value

end FieldQuery
