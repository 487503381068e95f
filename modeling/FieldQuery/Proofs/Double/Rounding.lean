/-
Rounding keeps the order of whole numbers. A quotient is rounded to one of the two whole numbers next to
it, so a greater number of the same binade is never rounded to a smaller word; a number of a greater binade
starts where the words of the smaller binade end.
-/
import FieldQuery.Proofs.Value.Order

namespace FieldQuery

/-! ## Quotients -/

theorem roundDiv_bounds (num den : Nat) : num / den ≤ roundDiv num den ∧ roundDiv num den ≤ num / den + 1 := by
  unfold roundDiv
  dsimp only
  split
  · omega
  · split <;> omega

theorem roundDiv_mono {num num' : Nat} (den : Nat) (h : num ≤ num') : roundDiv num den ≤ roundDiv num' den := by
  have hquotient : num / den ≤ num' / den := Nat.div_le_div_right h
  rcases Nat.lt_or_eq_of_le hquotient with hlt | heq
  · have hbelow := (roundDiv_bounds num den).2
    have habove := (roundDiv_bounds num' den).1
    omega
  · -- with one quotient the remainders decide, and they are in the order of the numbers
    have hnum := Nat.div_add_mod num den
    have hnum' := Nat.div_add_mod num' den
    rw [heq] at hnum
    have hremainder : num % den ≤ num' % den := by omega
    unfold roundDiv
    dsimp only
    rw [heq]
    repeat' split
    all_goals omega

/-! ## Whole numbers -/

namespace FloatFormat

theorem binaryExponent_whole {n : Nat} (hn : n ≠ 0) : binaryExponent n 1 = n.log2 := by
  have hpow : ¬ n < 2 ^ n.log2 := Nat.not_lt.2 (Nat.log2_self_le hn)
  have hlog : Nat.log2 1 = 0 := by decide
  unfold binaryExponent
  simp [hlog, hpow]

/-- The significand of a positive whole number, before a carry into the next binade. -/
def wholeSignificand (n : Nat) : Nat := roundDiv (n * 2 ^ (52 - n.log2)) (2 ^ (n.log2 - 52))

theorem wholeSignificand_bounds {n : Nat} (hn : n ≠ 0) :
    2 ^ 52 ≤ wholeSignificand n ∧ wholeSignificand n ≤ 2 ^ 53 := by
  have hlow := Nat.log2_self_le hn
  have hhigh := Nat.lt_log2_self (n := n)
  obtain ⟨hbelow, habove⟩ := roundDiv_bounds (n * 2 ^ (52 - n.log2)) (2 ^ (n.log2 - 52))
  have hquotient : 2 ^ 52 ≤ n * 2 ^ (52 - n.log2) / 2 ^ (n.log2 - 52) ∧
      n * 2 ^ (52 - n.log2) / 2 ^ (n.log2 - 52) < 2 ^ 53 := by
    have hpos := Nat.two_pow_pos (n.log2 - 52)
    have hscale := Nat.two_pow_pos (52 - n.log2)
    rw [Nat.le_div_iff_mul_le hpos, Nat.div_lt_iff_lt_mul hpos, ← Nat.pow_add, ← Nat.pow_add]
    constructor
    · calc 2 ^ (52 + (n.log2 - 52)) = 2 ^ n.log2 * 2 ^ (52 - n.log2) := by
            rw [← Nat.pow_add]; congr 1; omega
        _ ≤ n * 2 ^ (52 - n.log2) := Nat.mul_le_mul_right _ hlow
    · calc n * 2 ^ (52 - n.log2) < 2 ^ (n.log2 + 1) * 2 ^ (52 - n.log2) := Nat.mul_lt_mul_of_pos_right hhigh hscale
        _ = 2 ^ (53 + (n.log2 - 52)) := by rw [← Nat.pow_add]; congr 1; omega
  unfold wholeSignificand
  omega

/-- The word of a positive whole number: its binade, then its significand. -/
theorem roundMagnitude_whole {n : Nat} (hn : n ≠ 0) :
    double.roundMagnitude n 1 =
      min ((n.log2 + 1022) * 2 ^ 52 + wholeSignificand n) double.infinity := by
  have hplace : max ((n.log2 : Int) - (53 - 1 : Nat)) (-1074) = (n.log2 : Int) - 52 := by omega
  have hup : (-((n.log2 : Int) - 52)).toNat = 52 - n.log2 := by omega
  have hdown : ((n.log2 : Int) - 52).toNat = n.log2 - 52 := by omega
  have hbinade : ((n.log2 : Int) - 52 - -1074).toNat = n.log2 + 1022 := by omega
  unfold roundMagnitude wholeSignificand
  simp only [hn, if_false, double, binaryExponent_whole hn, hplace, hup, hdown, hbinade, Nat.one_mul]

theorem roundMagnitude_whole_mono {n m : Nat} (h : n ≤ m) :
    double.roundMagnitude n 1 ≤ double.roundMagnitude m 1 := by
  rcases Nat.eq_zero_or_pos n with rfl | hpos
  · exact Nat.zero_le _
  have hn : n ≠ 0 := by omega
  have hm : m ≠ 0 := by omega
  have hlog : n.log2 ≤ m.log2 := (Nat.le_log2 hm).2 (Nat.le_trans (Nat.log2_self_le hn) h)
  have hword : (n.log2 + 1022) * 2 ^ 52 + wholeSignificand n ≤ (m.log2 + 1022) * 2 ^ 52 + wholeSignificand m := by
    rcases Nat.lt_or_eq_of_le hlog with hlt | heq
    · have hcarry := (wholeSignificand_bounds hn).2
      have hstart := (wholeSignificand_bounds hm).1
      omega
    · have hsignificand : wholeSignificand n ≤ wholeSignificand m := by
        unfold wholeSignificand
        rw [heq]
        exact roundDiv_mono _ (Nat.mul_le_mul_right _ h)
      omega
  rw [roundMagnitude_whole hn, roundMagnitude_whole hm]
  omega

end FloatFormat

/-! ## Ranks -/

namespace Double64

theorem rank_ofMagnitude (negative : Bool) {m : Nat} (hm : m < 2 ^ 63) :
    (ofMagnitude negative m).rank = if negative then -(m : Int) else m := by
  have hnegative : (ofMagnitude negative m).negative = negative := by
    unfold ofMagnitude Double64.negative
    rw [UInt64.toNat_ofNat']
    cases negative <;> simp <;> omega
  unfold rank
  rw [hnegative, magnitude_ofMagnitude negative hm]

theorem rank_ofInt (n : Int) :
    (ofInt n).rank =
      if n < 0 then -(FloatFormat.double.roundMagnitude n.natAbs 1 : Int)
      else FloatFormat.double.roundMagnitude n.natAbs 1 := by
  have hle := roundMagnitude_le_infinity .double n.natAbs 1
  have hinf : FloatFormat.double.infinity < 2 ^ 63 := by decide
  unfold ofInt ofRatio
  rw [rank_ofMagnitude _ (by omega)]
  simp only [decide_eq_true_eq]

/-- A greater whole number is never rounded to a smaller float. -/
theorem rank_ofInt_mono {n m : Int} (h : n ≤ m) : (ofInt n).rank ≤ (ofInt m).rank := by
  rw [rank_ofInt, rank_ofInt]
  split <;> split
  · have hword := FloatFormat.roundMagnitude_whole_mono (n := m.natAbs) (m := n.natAbs) (by omega)
    omega
  · omega
  · omega
  · have hword := FloatFormat.roundMagnitude_whole_mono (n := n.natAbs) (m := m.natAbs) (by omega)
    omega

end Double64

end FieldQuery
