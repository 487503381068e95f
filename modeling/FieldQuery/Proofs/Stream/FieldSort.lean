/-
Sorting by a field. The sorted records ascend in the order of the field, equals keep their order, and the records
without a value are one block in the order in which they came, at the end that the order puts nulls. The
direction of the order does not move or turn this block, and no other list is so arranged. Upwards, a NaN whose
sign bit is clear stands after all numbers, and one whose sign bit is set before all of them.
-/
import FieldQuery.Proofs.Stream.Meaning

namespace FieldQuery

variable {ρ : Type}

/-- Whether a record has no value for a field. -/
def Field.lacking (f : Field ρ) (r : ρ) : Bool := (f.read r).isNull

/-- If everything after an element that passes a test passes it too, then those that pass are the end of the list. -/
theorem Stream.eq_filter_append_filter {α : Type} {p : α → Bool} {as : List α}
    (h : as.Pairwise fun a b => p a = true → p b = true) : as = (as.filter fun a => !p a) ++ as.filter p := by
  induction h with
  | nil => rfl
  | @cons a rest hrest _ ih =>
    cases ha : p a with
    | false =>
      simp only [List.filter_cons, ha, Bool.not_false, if_true, Bool.false_eq_true, if_false, List.cons_append]
      rw [← ih]
    | true =>
      have hall : ∀ b ∈ a :: rest, p b = true := List.forall_mem_cons.2 ⟨ha, fun b hb => hrest b hb ha⟩
      have hnone : ((a :: rest).filter fun b => !p b) = [] := by
        rw [List.filter_eq_nil_iff]
        intro b hb
        simp [hall b hb]
      rw [hnone, List.filter_eq_self.2 hall, List.nil_append]

namespace FieldOrder

/-- The records without a value stand before or after the others. -/
def place (o : FieldOrder ρ) (without others : List ρ) : List ρ :=
  match o.nulls with
  | .first => without ++ others
  | .last => others ++ without

/-- A list is another one arranged by a field order. -/
structure Arranges (o : FieldOrder ρ) (arranged records : List ρ) : Prop
    extends Stream.SortsStably o.compare arranged records where
  placed : arranged = o.place (records.filter o.field.lacking) (arranged.filter fun r => !o.field.lacking r)

variable {o : FieldOrder ρ} {r s : ρ} {arranged records : List ρ}

/-! ## Records without a value -/

theorem compare_of_lacking (h : o.field.lacking r = true) : o.compare r s = .eq ↔ o.field.lacking s = true := by
  unfold Field.lacking at *
  unfold compare compareValues nullPlacement
  rw [h]
  cases (o.field.read s).isNull <;> cases o.nulls <;> simp

/-- In an ascending list, only records without a value stand before one if nulls go first, and only such records
stand after one if nulls go last. -/
theorem lacking_of_ascending (h : o.compare r s ≠ .gt) :
    (o.nulls = .first → o.field.lacking s = true → o.field.lacking r = true) ∧
      (o.nulls = .last → o.field.lacking r = true → o.field.lacking s = true) := by
  unfold Field.lacking
  unfold compare compareValues nullPlacement at h
  cases hr : (o.field.read r).isNull <;> cases hs : (o.field.read s).isNull <;> cases hn : o.nulls <;>
    simp [hr, hs, hn] at h ⊢

/-! ## One block -/

/-- A stable sort keeps the order of the records without a value: they are one class of equals. -/
theorem filter_lacking (h : Stream.SortsStably o.compare arranged records) :
    arranged.filter o.field.lacking = records.filter o.field.lacking := by
  rcases hnulls : records.filter o.field.lacking with _ | ⟨r, rest⟩
  · have hperm := h.perm.filter o.field.lacking
    rw [hnulls] at hperm
    exact hperm.eq_nil
  · have hr : r ∈ records.filter o.field.lacking := by
      rw [hnulls]
      exact List.mem_cons_self ..
    have hclass : (fun s => decide (o.compare r s = .eq)) = o.field.lacking := by
      funext s
      rw [Bool.eq_iff_iff, decide_eq_true_eq]
      exact compare_of_lacking (List.of_mem_filter hr)
    rw [← hnulls, ← hclass]
    exact h.stable r

theorem arranges_of_sortsStably (h : Stream.SortsStably o.compare arranged records) : o.Arranges arranged records := by
  refine ⟨h, ?_⟩
  rw [← filter_lacking h]
  unfold place
  cases hnulls : o.nulls with
  | first =>
    -- the block stands first because what has a value stands last
    have hpresent : arranged.Pairwise fun r s => (!o.field.lacking r) = true → (!o.field.lacking s) = true := by
      refine h.ascending.imp ?_
      intro r s hrs hr
      cases hs : o.field.lacking s with
      | false => rfl
      | true =>
        rw [(lacking_of_ascending hrs).1 hnulls hs] at hr
        cases hr
    have hsplit := Stream.eq_filter_append_filter hpresent
    simp only [Bool.not_not] at hsplit
    exact hsplit
  | last => exact Stream.eq_filter_append_filter (h.ascending.imp fun hrs => (lacking_of_ascending hrs).2 hnulls)

/-! ## Directions and places -/

/-- With nulls first, whatever the place was before, the records without a value stand before all others. -/
theorem prefix_of_arranges_nullsFirst (h : o.nullsFirst.Arranges arranged records) :
    records.filter o.field.lacking <+: arranged := by
  rw [h.placed]
  exact List.prefix_append _ _

/-- With nulls last they stand after all others. -/
theorem suffix_of_arranges_nullsLast (h : o.nullsLast.Arranges arranged records) :
    records.filter o.field.lacking <:+ arranged := by
  rw [h.placed]
  exact List.suffix_append _ _

/-- The place of nulls does not matter to records with a value. -/
theorem compare_nulls_of_present (place : NullOrder) (hr : o.field.lacking r = false) (hs : o.field.lacking s = false) :
    { o with nulls := place }.compare r s = o.compare r s := by
  unfold Field.lacking at hr hs
  unfold compare compareValues
  rw [hr, hs]

/-- The other direction turns the records with a value and leaves the others where they are. -/
theorem compare_reverse (r s : ρ) : o.reverse.compare r s =
    if o.field.lacking r = true ∨ o.field.lacking s = true then o.compare r s else (o.compare r s).swap := by
  split
  case isTrue hlacking => exact o.compareValues_reverse_of_isNull hlacking
  case isFalse hpresent =>
    obtain ⟨hr, hs⟩ := not_or.1 hpresent
    exact o.compareValues_reverse_of_present (Bool.not_eq_true _ ▸ hr) (Bool.not_eq_true _ ▸ hs)

/-- The other direction leaves the block of records without a value at its end of the list. -/
theorem placed_of_arranges_reverse (h : o.reverse.Arranges arranged records) :
    arranged = o.place (records.filter o.field.lacking) (arranged.filter fun r => !o.field.lacking r) :=
  h.placed

end FieldOrder

/-! ## Sorting -/

namespace Pipeline

variable {ε α : Type}

/-- Sorting by a field arranges the records that the pipeline gives so far. -/
theorem items_sortedByField_iff (p : Pipeline ε α ρ) {o : FieldOrder ρ} (hkind : o.field.OneKind) :
    ∃ q, p.sortedByField o = .ok q ∧
      ∀ as arranged, (q.execute as).1 = arranged ↔ o.Arranges arranged (p.execute as).1 := by
  have hadmitted : ∀ e, ¬ (Step.sortedByField o : Step ε ρ ρ).Refused e := by
    intro e hrefused
    cases hrefused
  have := o.transCmp_compare hkind
  refine ⟨_, p.add_of_admitted hadmitted, ?_⟩
  intro as arranged
  rw [items_execute, items_execute]
  exact (Feed.items_sort_iff _ arranged).trans ⟨FieldOrder.arranges_of_sortsStably, (·.toSortsStably)⟩

/-- What the typed getters read has one kind, and for any field that reads values of one kind, sorting records by
it gives the one list that is so arranged, for either direction and either place of the nulls. -/
theorem execute_sortedByField (ε : Type) (source : StreamShape) :
    (∀ (α : Type) [FieldValue α] [LawfulFieldValue α] (b : Binding ρ α), b.toField.OneKind) ∧
      ∀ o : FieldOrder ρ, o.field.OneKind → ∃ q : Pipeline ε ρ ρ, («over» source).sortedByField o = .ok q ∧
        ∀ records arranged, (q.execute records).1 = arranged ↔ o.Arranges arranged records := by
  refine ⟨fun α _ _ b => b.oneKind_toField, ?_⟩
  intro o hkind
  obtain ⟨q, hsorted, hexecute⟩ := items_sortedByField_iff («over» source : Pipeline ε ρ ρ) hkind
  refine ⟨q, hsorted, ?_⟩
  intro records arranged
  have hitems : ((«over» source : Pipeline ε ρ ρ).execute records).1 = records := by
    rw [items_execute]
    exact Flow.items_ofList records
  rw [hexecute, hitems]

/-- Downwards with nulls first: after them not a number, the two equal scores as they came, and zero before its
negative. -/
theorem execute_sortedByField_scores :
    let one : Double64 := ⟨0x3ff0000000000000⟩
    let nan : Double64 := ⟨0x7ff8000000000000⟩
    let negativeZero : Double64 := ⟨0x8000000000000000⟩
    let score : Binding (Nat × Option Double64) Double64 := Binding.make "player" "score" (·.2)
    let order : FieldOrder (Nat × Option Double64) := score.order.reverse.nullsFirst
    order.field.OneKind ∧
      order.Arranges
        [(2, none), (6, none), (7, some nan), (1, some one), (4, some one), (5, some .zero), (3, some negativeZero)]
        [(1, some one), (2, none), (3, some negativeZero), (4, some one), (5, some .zero), (6, none), (7, some nan)] := by
  intro one nan negativeZero score order
  obtain ⟨hgetters, hsorts⟩ := execute_sortedByField (ρ := Nat × Option Double64) Nat .elements
  have hkind : order.field.OneKind := hgetters Double64 score
  obtain ⟨q, hsorted, hexecute⟩ := hsorts order hkind
  cases hsorted
  exact ⟨hkind, (hexecute _ _).1 (by decide +kernel)⟩

/-! ## Not a number -/

/-- Upwards, a NaN is greater than every number if its sign bit is clear, and smaller if it is set; so in the sorted
records only a NaN whose sign bit is set stands before a number, and only one whose sign bit is clear after one. -/
theorem items_sortedByField_nan (p : Pipeline ε α ρ) {o : FieldOrder ρ} (hup : o.reversed = false) :
    (∀ r s x y, o.field.read r = .float x → o.field.read s = .float y → x.isNaN = true → y.isNaN = false →
      o.compare r s = if x.negative then .lt else .gt) ∧
    (o.field.OneKind → ∃ q, p.sortedByField o = .ok q ∧
      ∀ as, (q.execute as).1.Perm (p.execute as).1 ∧ (q.execute as).1.Pairwise fun r s =>
        ∀ x y, o.field.read r = .float x → o.field.read s = .float y →
          (x.isNaN = true → y.isNaN = false → x.negative = true) ∧
          (x.isNaN = false → y.isNaN = true → y.negative = false)) := by
  have hnan : ∀ r s x y, o.field.read r = .float x → o.field.read s = .float y → x.isNaN = true →
      y.isNaN = false → o.compare r s = if x.negative then .lt else .gt := by
    intro r s x y hr hs hx hy
    unfold FieldOrder.compare
    rw [hr, hs]
    exact o.compareValues_nan hup hx hy
  refine ⟨hnan, ?_⟩
  intro hkind
  have := o.transCmp_compare hkind
  obtain ⟨q, hsorted, hexecute⟩ := p.items_sortedByField_iff hkind
  refine ⟨q, hsorted, ?_⟩
  intro as
  have harranged : o.Arranges (q.execute as).1 (p.execute as).1 := (hexecute as _).1 rfl
  refine ⟨harranged.perm, harranged.ascending.imp ?_⟩
  intro r s hascends x y hr hs
  constructor
  · intro hx hy
    rw [hnan r s x y hr hs hx hy] at hascends
    cases hsign : x.negative with
    | true => rfl
    | false => simp [hsign] at hascends
  · intro hx hy
    -- the number stands first, so the NaN is compared with it the other way round
    have hswap : o.compare r s = (o.compare s r).swap := Std.OrientedCmp.eq_swap
    rw [hswap, hnan s r y x hs hr hy hx] at hascends
    cases hsign : y.negative with
    | false => rfl
    | true => simp [hsign] at hascends

/-- A signalling NaN whose sign bit is clear is greater than infinity and does not stay before it. -/
theorem items_sortedByField_nan_infinity :
    let nan : Double64 := ⟨0x7ff0000000000001⟩
    let infinity : Double64 := ⟨0x7ff0000000000000⟩
    let score : Binding (Option Double64) Double64 := Binding.make "player" "score" id
    nan.isNaN = true ∧ infinity.isNaN = false ∧ score.order.field.OneKind ∧
      score.order.compare (some nan) (some infinity) = .gt ∧
      ∃ q : Pipeline Nat (Option Double64) (Option Double64), («over» .elements).sortedByField score.order = .ok q ∧
        (q.execute [some nan, some infinity]).1.Perm [some nan, some infinity] ∧
        (q.execute [some nan, some infinity]).1 ≠ [some nan, some infinity] := by
  intro nan infinity score
  have hkind : score.order.field.OneKind := score.oneKind_toField
  have hnan : nan.isNaN = true := by decide
  have hnumber : infinity.isNaN = false := by decide
  obtain ⟨hcompare, hsorts⟩ :=
    items_sortedByField_nan («over» .elements : Pipeline Nat (Option Double64) (Option Double64)) (o := score.order) rfl
  obtain ⟨q, hsorted, hexecute⟩ := hsorts hkind
  obtain ⟨hperm, hpairs⟩ := hexecute [some nan, some infinity]
  refine ⟨hnan, hnumber, hkind, hcompare _ _ nan infinity rfl rfl hnan hnumber, q, hsorted, hperm, ?_⟩
  intro hkept
  rw [hkept] at hpairs
  have hsign := ((List.pairwise_cons.1 hpairs).1 (some infinity) List.mem_cons_self nan infinity rfl rfl).1 hnan hnumber
  exact absurd hsign (by decide)

/-- A NaN whose sign bit is set is smaller than a number and is sorted before it. -/
theorem items_sortedByField_nan_negative :
    let nan : Double64 := ⟨0xfff8000000000000⟩
    let one : Double64 := ⟨0x3ff0000000000000⟩
    let score : Binding (Option Double64) Double64 := Binding.make "player" "score" id
    nan.isNaN = true ∧ one.isNaN = false ∧ score.order.compare (some nan) (some one) = .lt ∧
      ∃ q : Pipeline Nat (Option Double64) (Option Double64), («over» .elements).sortedByField score.order = .ok q ∧
        (q.execute [some one, some nan]).1 = [some nan, some one] := by
  intro nan one score
  exact ⟨by decide, by decide, by decide, _, rfl, by decide⟩

end Pipeline

end FieldQuery
