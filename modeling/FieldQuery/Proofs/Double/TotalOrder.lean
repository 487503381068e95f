/-
The total order of floats, which the words carry out, is the one of the floating-point standard: numbers in
numeric order, negative zero before positive zero, and every NaN outside the numbers on the side of its sign
bit. So a NaN stands after all numbers only if its sign bit is clear, and only equal words are equal.
-/
import FieldQuery.Double.Basic

namespace FieldQuery.Double64

/-! ## The order of the standard -/

/-- The total order of the floating-point standard, clause by clause. NaNs of one sign differ in the fraction only,
whose first bit tells the quiet from the signalling ones, so they stand in the order of their magnitudes. -/
inductive Precedes (x y : Double64) : Prop where
  /-- Numbers stand in numeric order. -/
  | less (h : x.compare? y = some .lt)
  /-- Two equal numbers are one, or they are the two zeros, of which the negative one stands first. -/
  | equal (h : x.compare? y = some .eq) (hsigns : y.negative = true → x.negative = true)
  /-- A NaN whose sign bit is set stands before every number. -/
  | negativeNaN (hx : x.isNaN = true) (hy : y.isNaN = false) (hsign : x.negative = true)
  /-- A NaN whose sign bit is clear stands after every number. -/
  | positiveNaN (hx : x.isNaN = false) (hy : y.isNaN = true) (hsign : y.negative = false)
  /-- The NaNs whose sign bits are set stand before the others. -/
  | signs (hx : x.isNaN = true) (hy : y.isNaN = true) (hxsign : x.negative = true) (hysign : y.negative = false)
  /-- NaNs whose sign bits are clear ascend with the fractions. -/
  | upwards (hx : x.isNaN = true) (hy : y.isNaN = true) (hxsign : x.negative = false) (hysign : y.negative = false)
    (h : x.magnitude ≤ y.magnitude)
  /-- NaNs whose sign bits are set ascend against the fractions. -/
  | downwards (hx : x.isNaN = true) (hy : y.isNaN = true) (hxsign : x.negative = true) (hysign : y.negative = true)
    (h : y.magnitude ≤ x.magnitude)

variable {x y : Double64}

/-! ## The order of the words -/

/-- A word is its sign bit and its magnitude. -/
theorem eq_of_fields (hsign : x.negative = y.negative) (hmagnitude : x.magnitude = y.magnitude) : x = y := by
  obtain ⟨a⟩ := x
  obtain ⟨b⟩ := y
  have ha := a.toNat_lt
  have hb := b.toNat_lt
  simp only [negative, magnitude, decide_eq_decide] at hsign hmagnitude
  have hword : a.toNat = b.toNat := by omega
  rw [UInt64.toNat_inj.1 hword]

theorem compare_rank_of_some {o : Ordering} (h : x.compare? y = some o) : compare x.rank y.rank = o := by
  unfold compare? at h
  split at h
  · cases h
  · exact Option.some.inj h

theorem isNaN_iff : x.isNaN = true ↔ infinityWord < x.magnitude := decide_eq_true_iff

theorem not_isNaN_iff : x.isNaN = false ↔ x.magnitude ≤ infinityWord := by
  rw [← Bool.not_eq_true, isNaN_iff, Nat.not_lt]

theorem totalRank_inj (h : x.totalRank = y.totalRank) : x = y := by
  unfold totalRank at h
  cases hx : x.negative <;> cases hy : y.negative <;> simp only [hx, hy, Bool.false_eq_true, if_false, if_true] at h
  case false.false | true.true => exact eq_of_fields (hx.trans hy.symm) (by omega)
  all_goals omega

/-- Only equal words are equal in the total order. -/
theorem totalCompare_eq_iff : x.totalCompare y = .eq ↔ x = y := by
  unfold totalCompare
  rw [Int.compare_eq_eq]
  constructor
  · exact totalRank_inj
  · rintro rfl
    rfl

/-- The total order refines the numeric order of the positions: at zero the signs decide. -/
theorem totalRank_le_iff :
    x.totalRank ≤ y.totalRank ↔ x.rank < y.rank ∨ x.rank = y.rank ∧ (y.negative = true → x.negative = true) := by
  unfold totalRank rank
  cases x.negative <;> cases y.negative <;>
    simp only [Bool.false_eq_true, if_false, if_true, false_implies, true_implies, and_true, and_false, or_false]
  all_goals omega

/-- A NaN stands outside the numbers, on the side of its sign bit. -/
theorem totalCompare_of_isNaN (hx : x.isNaN = true) (hy : y.isNaN = false) :
    x.totalCompare y = if x.negative then .lt else .gt := by
  have hnan := isNaN_iff.1 hx
  have hnumber := not_isNaN_iff.1 hy
  unfold totalCompare totalRank
  cases x.negative with
  | false =>
    simp only [Bool.false_eq_true, if_false, Int.compare_eq_gt]
    split <;> omega
  | true =>
    simp only [if_true, Int.compare_eq_lt]
    split <;> omega

theorem totalCompare_swap (x y : Double64) : x.totalCompare y = (y.totalCompare x).swap := by
  have hint : ∀ a b : Int, compare a b = (compare b a).swap := fun _ _ => Std.OrientedCmp.eq_swap
  exact hint x.totalRank y.totalRank

/-! ## One order -/

theorem precedes_of_numbers (hx : x.isNaN = false) (hy : y.isNaN = false) (h : x.totalRank ≤ y.totalRank) :
    x.Precedes y := by
  have hcompare : x.compare? y = some (compare x.rank y.rank) := by
    unfold compare?
    rw [hx, hy]
    rfl
  rcases totalRank_le_iff.1 h with hlt | ⟨heq, hsigns⟩
  · exact .less (hcompare.trans (congrArg some (Int.compare_eq_lt.2 hlt)))
  · exact .equal (hcompare.trans (congrArg some (Int.compare_eq_eq.2 heq))) hsigns

theorem precedes_of_nans (hx : x.isNaN = true) (hy : y.isNaN = true) (h : x.totalRank ≤ y.totalRank) :
    x.Precedes y := by
  unfold totalRank at h
  cases hxsign : x.negative <;> cases hysign : y.negative <;>
    simp only [hxsign, hysign, Bool.false_eq_true, if_false, if_true] at h
  case false.false => exact .upwards hx hy hxsign hysign (by omega)
  case false.true => omega
  case true.false => exact .signs hx hy hxsign hysign
  case true.true => exact .downwards hx hy hxsign hysign (by omega)

/-- The order of the words is the total order of the standard. -/
theorem totalCompare_ne_gt_iff : x.totalCompare y ≠ .gt ↔ x.Precedes y := by
  have hrank : x.totalCompare y ≠ .gt ↔ x.totalRank ≤ y.totalRank := Int.compare_ne_gt
  constructor
  · intro h
    cases hx : x.isNaN <;> cases hy : y.isNaN
    case false.false => exact precedes_of_numbers hx hy (hrank.1 h)
    case true.true => exact precedes_of_nans hx hy (hrank.1 h)
    case false.true =>
      refine .positiveNaN hx hy ?_
      rw [totalCompare_swap, totalCompare_of_isNaN hy hx] at h
      cases hsign : y.negative with
      | false => rfl
      | true => simp [hsign] at h
    case true.false =>
      refine .negativeNaN hx hy ?_
      rw [totalCompare_of_isNaN hx hy] at h
      cases hsign : x.negative with
      | false => simp [hsign] at h
      | true => rfl
  · intro h
    cases h with
    | less h => exact hrank.2 (totalRank_le_iff.2 (.inl (Int.compare_eq_lt.1 (compare_rank_of_some h))))
    | equal h hsigns =>
      exact hrank.2 (totalRank_le_iff.2 (.inr ⟨Int.compare_eq_eq.1 (compare_rank_of_some h), hsigns⟩))
    | negativeNaN hx hy hsign => simp [totalCompare_of_isNaN hx hy, hsign]
    | positiveNaN hx hy hsign => simp [totalCompare_swap x y, totalCompare_of_isNaN hy hx, hsign]
    | signs _ _ hxsign hysign | upwards _ _ hxsign hysign h | downwards _ _ hxsign hysign h =>
      rw [hrank, totalRank, totalRank, hxsign, hysign]
      simp only [Bool.false_eq_true, if_false, if_true]
      omega

end FieldQuery.Double64
