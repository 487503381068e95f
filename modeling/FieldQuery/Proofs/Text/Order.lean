/-
The order of texts is a total order: it finds two texts equal exactly when they are the same text.
-/
import FieldQuery.Text.Match

namespace FieldQuery.Text

theorem compareChars_eq_iff : ∀ as bs : List Char, compareChars as bs = .eq ↔ as = bs
  | [], [] => by simp [compareChars]
  | [], _ :: _ => by simp [compareChars]
  | _ :: _, [] => by simp [compareChars]
  | a :: as, b :: bs => by
    unfold compareChars
    rw [Ordering.then_eq_eq, Nat.compare_eq_eq, compareChars_eq_iff as bs, Char.toNat_inj, List.cons.injEq]

theorem compare_eq_iff (a b : String) : compare a b = .eq ↔ a = b := by
  unfold compare
  rw [compareChars_eq_iff, String.toList_inj]

/-! ## Transitivity -/

theorem compareChars_eq_compareLex : ∀ as bs : List Char,
    compareChars as bs = List.compareLex (compareOn Char.toNat) as bs
  | [], [] => rfl
  | [], _ :: _ => rfl
  | _ :: _, [] => rfl
  | a :: as, b :: bs => by
    unfold compareChars
    rw [List.compareLex_cons_cons, compareChars_eq_compareLex as bs]
    rfl

instance : Std.TransCmp compare where
  eq_swap {a b} := by
    unfold compare
    rw [compareChars_eq_compareLex, compareChars_eq_compareLex]
    exact Std.OrientedCmp.eq_swap
  isLE_trans {a b c} := by
    unfold compare
    rw [compareChars_eq_compareLex, compareChars_eq_compareLex, compareChars_eq_compareLex]
    exact Std.TransCmp.isLE_trans

end FieldQuery.Text
