/-
The order of records by a field. If the values of the field that are not null have one kind, it is a total
preorder, for either direction and either place of the nulls. Turning the direction turns the order of the
present values and leaves the nulls where they are; floats stand in the total order of their words, in which a
NaN comes after the numbers only if its sign bit is clear.
-/
import FieldQuery.Proofs.Double.TotalOrder
import FieldQuery.Proofs.Text.Order
import FieldQuery.Schema.FieldOrder

namespace FieldQuery

/-! ## Kinds of fields -/

/-- All values of the field that are not null have one kind. -/
def Field.OneKind {ρ : Type} (f : Field ρ) : Prop :=
  ∃ kind, ∀ record, (f.read record).isNull = false → (f.read record).kind = kind

/-- A type of attribute values that are all of its kind. -/
class LawfulFieldValue (α : Type) [FieldValue α] : Prop where
  kind_toValue : ∀ a : α, (FieldValue.toValue a).kind = FieldValue.kind α

instance : LawfulFieldValue Int8 := ⟨fun _ => rfl⟩
instance : LawfulFieldValue Int16 := ⟨fun _ => rfl⟩
instance : LawfulFieldValue Int32 := ⟨fun _ => rfl⟩
instance : LawfulFieldValue Int64 := ⟨fun _ => rfl⟩
instance : LawfulFieldValue UInt8 := ⟨fun _ => rfl⟩
instance : LawfulFieldValue UInt16 := ⟨fun _ => rfl⟩
instance : LawfulFieldValue UInt32 := ⟨fun _ => rfl⟩
instance : LawfulFieldValue UInt64 := ⟨fun _ => rfl⟩
instance : LawfulFieldValue Double64 := ⟨fun _ => rfl⟩
instance : LawfulFieldValue Single32 := ⟨fun _ => rfl⟩
instance : LawfulFieldValue Char := ⟨fun _ => rfl⟩
instance : LawfulFieldValue String := ⟨fun _ => rfl⟩
instance : LawfulFieldValue Bool := ⟨fun _ => rfl⟩
instance : LawfulFieldValue Label := ⟨fun _ => rfl⟩

/-- What a typed getter reads is null or of the kind of its type. -/
theorem Binding.oneKind_toField {ρ α : Type} [FieldValue α] [LawfulFieldValue α] (b : Binding ρ α) :
    b.toField.OneKind := by
  refine ⟨FieldValue.kind α, ?_⟩
  intro record
  show (b.read record).isNull = false → (b.read record).kind = FieldValue.kind α
  unfold read
  cases b.get record with
  | none =>
    intro hpresent
    cases hpresent
  | some a => exact fun _ => LawfulFieldValue.kind_toValue a

/-! ## Present values -/

namespace Value

theorem presentOrder_swap {a b : Value} (h : a.kind = b.kind) : a.presentOrder b = (b.presentOrder a).swap := by
  have htext : ∀ x y, Text.compare x y = (Text.compare y x).swap := fun _ _ => Std.OrientedCmp.eq_swap
  have hint : ∀ x y : Int, compare x y = (compare y x).swap := fun _ _ => Std.OrientedCmp.eq_swap
  have hnat : ∀ x y : Nat, compare x y = (compare y x).swap := fun _ _ => Std.OrientedCmp.eq_swap
  cases a <;> cases b <;> simp only [kind, reduceCtorEq] at h
  case list.list | null.null => rfl
  case text.text => exact htext _ _
  case float.float | int.int | uint.uint => exact hint _ _
  case bool.bool | char.char => exact hnat _ _

theorem presentOrder_trans {a b c : Value} (hab : a.kind = b.kind) (hbc : b.kind = c.kind)
    (h₁ : (a.presentOrder b).isLE = true) (h₂ : (b.presentOrder c).isLE = true) :
    (a.presentOrder c).isLE = true := by
  have htext : ∀ x y z, (Text.compare x y).isLE = true → (Text.compare y z).isLE = true →
      (Text.compare x z).isLE = true := fun _ _ _ => Std.TransCmp.isLE_trans
  have hint : ∀ x y z : Int, (compare x y).isLE = true → (compare y z).isLE = true →
      (compare x z).isLE = true := fun _ _ _ => Std.TransCmp.isLE_trans
  have hnat : ∀ x y z : Nat, (compare x y).isLE = true → (compare y z).isLE = true →
      (compare x z).isLE = true := fun _ _ _ => Std.TransCmp.isLE_trans
  cases a <;> cases b <;> simp only [kind, reduceCtorEq] at hab <;>
    cases c <;> simp only [kind, reduceCtorEq] at hbc
  case list.list.list | null.null.null => rfl
  case text.text.text => exact htext _ _ _ h₁ h₂
  case float.float.float | int.int.int | uint.uint.uint => exact hint _ _ _ h₁ h₂
  case bool.bool.bool | char.char.char => exact hnat _ _ _ h₁ h₂

end Value

/-! ## Records -/

namespace FieldOrder

variable {ρ : Type} (o : FieldOrder ρ) {a b c : Value}

theorem compareValues_swap (h : a.isNull = false → b.isNull = false → a.kind = b.kind) :
    o.compareValues a b = (o.compareValues b a).swap := by
  unfold compareValues
  cases ha : a.isNull <;> cases hb : b.isNull
  case false.false =>
    rw [Value.presentOrder_swap (h ha hb)]
    cases o.reversed <;> simp
  all_goals simp

/-- With the direction taken into account, the present values of one kind are in a total preorder. -/
theorem directed_trans (hab : a.kind = b.kind) (hbc : b.kind = c.kind) :
    (if o.reversed then (a.presentOrder b).swap else a.presentOrder b).isLE = true →
    (if o.reversed then (b.presentOrder c).swap else b.presentOrder c).isLE = true →
    (if o.reversed then (a.presentOrder c).swap else a.presentOrder c).isLE = true := by
  cases o.reversed with
  | false =>
    simp only [Bool.false_eq_true, if_false]
    exact Value.presentOrder_trans hab hbc
  | true =>
    -- against the direction the chain runs from the last value to the first
    simp only [if_true]
    rw [← Value.presentOrder_swap hab.symm, ← Value.presentOrder_swap hbc.symm,
      ← Value.presentOrder_swap (hab.trans hbc).symm]
    intro h₁ h₂
    exact Value.presentOrder_trans hbc.symm hab.symm h₂ h₁

theorem compareValues_trans (hab : a.isNull = false → b.isNull = false → a.kind = b.kind)
    (hbc : b.isNull = false → c.isNull = false → b.kind = c.kind)
    (h₁ : (o.compareValues a b).isLE = true) (h₂ : (o.compareValues b c).isLE = true) :
    (o.compareValues a c).isLE = true := by
  unfold compareValues at *
  cases ha : a.isNull <;> cases hb : b.isNull <;> cases hc : c.isNull <;> simp only [ha, hb, hc] at h₁ h₂ ⊢
  case false.false.false => exact o.directed_trans (hab ha hb) (hbc hb hc) h₁ h₂
  case false.true.false =>
    -- a null in between would stand on both sides of the present values
    unfold nullPlacement at h₁ h₂
    cases hn : o.nulls <;> simp [hn] at h₁ h₂
  case true.true.true | true.false.true => rfl
  case true.false.false | false.true.true => exact h₁
  case true.true.false | false.false.true => exact h₂

theorem transCmp_compare (h : o.field.OneKind) : Std.TransCmp o.compare := by
  obtain ⟨kind, hkind⟩ := h
  have hpair : ∀ r s, (o.field.read r).isNull = false → (o.field.read s).isNull = false →
      (o.field.read r).kind = (o.field.read s).kind := by
    intro r s hr hs
    rw [hkind r hr, hkind s hs]
  exact
    { eq_swap := fun {r s} => o.compareValues_swap (hpair r s)
      isLE_trans := fun {r s t} => o.compareValues_trans (hpair r s) (hpair s t) }

/-! ## Directions -/

/-- The other direction turns the order of present values. -/
theorem compareValues_reverse_of_present (ha : a.isNull = false) (hb : b.isNull = false) :
    o.reverse.compareValues a b = (o.compareValues a b).swap := by
  unfold compareValues reverse
  rw [ha, hb]
  cases o.reversed <;> simp

/-- The other direction leaves the nulls where they are. -/
theorem compareValues_reverse_of_isNull (h : a.isNull = true ∨ b.isNull = true) :
    o.reverse.compareValues a b = o.compareValues a b := by
  unfold compareValues
  rcases h with h | h
  · rw [h]
    cases b.isNull <;> rfl
  · rw [h]
    cases a.isNull <;> rfl

/-! ## Floats -/

theorem compareValues_float (x y : Double64) :
    o.compareValues (.float x) (.float y) = if o.reversed then y.totalCompare x else x.totalCompare y := by
  rw [Double64.totalCompare_swap y x]
  rfl

theorem compareValues_float_eq_iff (x y : Double64) : o.compareValues (.float x) (.float y) = .eq ↔ x = y := by
  rw [compareValues_float]
  cases o.reversed with
  | false => exact Double64.totalCompare_eq_iff
  | true => exact Double64.totalCompare_eq_iff.trans eq_comm

theorem compareValues_float_ne_gt_iff (x y : Double64) :
    o.compareValues (.float x) (.float y) ≠ .gt ↔ if o.reversed then y.Precedes x else x.Precedes y := by
  rw [compareValues_float]
  cases o.reversed <;> exact Double64.totalCompare_ne_gt_iff

/-- Upwards, a NaN stands after the numbers if its sign bit is clear, and before them if it is set. -/
theorem compareValues_nan (hup : o.reversed = false) {x y : Double64} (hx : x.isNaN = true) (hy : y.isNaN = false) :
    o.compareValues (.float x) (.float y) = if x.negative then .lt else .gt := by
  rw [compareValues_float, hup]
  exact Double64.totalCompare_of_isNaN hx hy

/-- Records are in a total preorder by a field whose present values have one kind. The other direction turns the
order of two present values and no other. Floats stand in the total order of their words, so that only equal words
compare as equal. -/
theorem compare_totalPreorder (h : o.field.OneKind) (r s t : ρ) :
    o.compare r r = .eq ∧ o.compare s r = (o.compare r s).swap ∧
      (o.compare r s ≠ .gt → o.compare s t ≠ .gt → o.compare r t ≠ .gt) ∧
      ((o.field.read r).isNull = false → (o.field.read s).isNull = false →
        o.reverse.compare r s = (o.compare r s).swap) ∧
      ((o.field.read r).isNull = true ∨ (o.field.read s).isNull = true → o.reverse.compare r s = o.compare r s) ∧
      ∀ x y, o.field.read r = .float x → o.field.read s = .float y →
        (o.compare r s = .eq ↔ x = y) ∧
        (o.compare r s ≠ .gt ↔ if o.reversed then y.Precedes x else x.Precedes y) := by
  have := o.transCmp_compare h
  refine ⟨Std.ReflCmp.compare_self, Std.OrientedCmp.eq_swap, ?_, o.compareValues_reverse_of_present,
    o.compareValues_reverse_of_isNull, ?_⟩
  · simp only [← Ordering.isLE_iff_ne_gt]
    exact Std.TransCmp.isLE_trans
  · intro x y hx hy
    unfold compare
    rw [hx, hy]
    exact ⟨o.compareValues_float_eq_iff x y, o.compareValues_float_ne_gt_iff x y⟩

/-- Downwards, zero stands before its negative, which it does not equal, and before a record without a score. -/
theorem compare_totalPreorder_zeros :
    let score : Binding (Option Double64) Double64 := Binding.make "player" "score" id
    let down : FieldOrder (Option Double64) := score.order.reverse
    let negativeZero : Double64 := ⟨0x8000000000000000⟩
    down.field.OneKind ∧ down.compare (some .zero) (some negativeZero) = .lt ∧
      down.reverse.compare (some .zero) (some negativeZero) = .gt ∧
      down.compare (some .zero) none ≠ .gt ∧ down.reverse.compare (some .zero) none = down.compare (some .zero) none := by
  intro score down negativeZero
  have hkind : down.field.OneKind := score.oneKind_toField
  obtain ⟨-, -, htrans, hturned, -, hfloat⟩ := down.compare_totalPreorder hkind (some .zero) (some negativeZero) none
  obtain ⟨hsame, hbefore⟩ := hfloat .zero negativeZero rfl rfl
  have hfirst : down.compare (some .zero) (some negativeZero) ≠ .gt :=
    hbefore.2 (.equal (by decide) (by decide))
  have hother : down.compare (some .zero) (some negativeZero) ≠ .eq := fun h => absurd (hsame.1 h) (by decide)
  have hlt : down.compare (some .zero) (some negativeZero) = .lt := by
    cases h : down.compare (some .zero) (some negativeZero) with
    | lt => rfl
    | eq => exact absurd h hother
    | gt => exact absurd h hfirst
  have hnull := (down.compare_totalPreorder hkind (some .zero) none none).2.2.2.2.1 (.inr rfl)
  exact ⟨hkind, hlt, (hturned rfl rfl).trans (congrArg Ordering.swap hlt), htrans hfirst (by decide), hnull⟩

end FieldOrder

end FieldQuery
