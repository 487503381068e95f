/-
Stable sorting by a total preorder. A stable sort of a list is a permutation of it that ascends and keeps
the order of the elements of each class of equals; there is only one, and insertion and merging both
give it.
-/
import FieldQuery.Stream.Sort
import Mathlib.Data.List.Perm.Basic

namespace FieldQuery.Stream

variable {α : Type} {order : α → α → Ordering}

/-- A list is the stable sort of another. -/
structure SortsStably (order : α → α → Ordering) (sorted items : List α) : Prop where
  perm : sorted.Perm items
  ascending : sorted.Pairwise fun a b => order a b ≠ .gt
  stable : ∀ a, (sorted.filter fun b => order a b = .eq) = items.filter fun b => order a b = .eq

/-! ## Total preorders -/

section Preorder

variable [Std.TransCmp order]

theorem ne_gt_of_ne_lt {a b : α} (h : order a b ≠ .lt) : order b a ≠ .gt := by
  intro hgt
  have hswap : order a b = (order b a).swap := Std.OrientedCmp.eq_swap
  rw [hswap, hgt] at h
  exact h rfl

theorem ne_gt_trans {a b c : α} (hab : order a b ≠ .gt) (hbc : order b c ≠ .gt) : order a c ≠ .gt := by
  have hle := Std.TransCmp.isLE_trans (Ordering.isLE_iff_ne_gt.2 hab) (Ordering.isLE_iff_ne_gt.2 hbc)
  exact Ordering.isLE_iff_ne_gt.1 hle

theorem eq_of_ne_gt {a b : α} (hab : order a b ≠ .gt) (hba : order b a ≠ .gt) : order a b = .eq := by
  have hswap : order b a = (order a b).swap := Std.OrientedCmp.eq_swap
  rw [hswap] at hba
  cases h : order a b with
  | lt => rw [h] at hba; exact absurd rfl hba
  | eq => rfl
  | gt => exact absurd h hab

/-- Two elements equal to a third are equal. -/
theorem eq_of_eq_eq {a b c : α} (hb : order a b = .eq) (hc : order a c = .eq) : order b c = .eq :=
  Std.TransCmp.eq_trans (Std.OrientedCmp.eq_symm hb) hc

/-! ## Only one stable sort -/

theorem ne_gt_of_mem {a b : α} {as : List α} (h : (a :: as).Pairwise fun a b => order a b ≠ .gt)
    (hb : b ∈ a :: as) : order a b ≠ .gt := by
  rcases List.mem_cons.1 hb with rfl | hb
  · simp [Std.ReflCmp.compare_self]
  · exact (List.pairwise_cons.1 h).1 b hb

theorem mem_of_classes {as bs : List α}
    (h : ∀ a, (as.filter fun b => order a b = .eq) = bs.filter fun b => order a b = .eq) {b : α} (hb : b ∈ bs) :
    b ∈ as := by
  have hself : order b b = .eq := Std.ReflCmp.compare_self
  have hclass : b ∈ bs.filter fun c => order b c = .eq := by simp [hb, hself]
  rw [← h b] at hclass
  exact List.mem_of_mem_filter hclass

/-- Ascending lists with the same classes are the same: their first elements are each no greater than the
other, so they are the first elements of one class. -/
theorem eq_of_ascending : ∀ {as bs : List α}, as.Pairwise (fun a b => order a b ≠ .gt) →
    bs.Pairwise (fun a b => order a b ≠ .gt) →
    (∀ a, (as.filter fun b => order a b = .eq) = bs.filter fun b => order a b = .eq) → as = bs
  | [], [], _, _, _ => rfl
  | [], b :: bs, _, _, h => by cases mem_of_classes h (List.mem_cons_self ..)
  | a :: as, [], _, _, h => by cases mem_of_classes (fun c => (h c).symm) (List.mem_cons_self ..)
  | a :: as, b :: bs, ha, hb, h => by
    have hself : order a a = .eq := Std.ReflCmp.compare_self
    have hab : order a b ≠ .gt := ne_gt_of_mem ha (mem_of_classes h (List.mem_cons_self ..))
    have hba : order b a ≠ .gt := ne_gt_of_mem hb (mem_of_classes (fun c => (h c).symm) (List.mem_cons_self ..))
    have heq : a = b := by
      have hclass := h a
      simp only [List.filter_cons, hself, eq_of_ne_gt hab hba, decide_true, if_true, List.cons.injEq] at hclass
      exact hclass.1
    subst heq
    have htail := eq_of_ascending ha.of_cons hb.of_cons fun c => by
      have hclass := h c
      by_cases hc : order c a = .eq <;> simpa [List.filter_cons, hc] using hclass
    rw [htail]

theorem SortsStably.unique {items as bs : List α} (ha : SortsStably order as items)
    (hb : SortsStably order bs items) : as = bs :=
  eq_of_ascending ha.ascending hb.ascending fun a => (ha.stable a).trans (hb.stable a).symm

end Preorder

/-! ## Insertion -/

theorem insertDown_perm (a : α) (items : List α) : (insertDown order a items).Perm (a :: items) := by
  induction items with
  | nil => exact .refl _
  | cons b rest ih =>
    unfold insertDown
    split
    · exact (ih.cons b).trans (.swap a b rest)
    · exact .refl _

theorem foldl_insertDown_perm (items : List α) : ∀ down : List α,
    (items.foldl (fun sorted a => insertDown order a sorted) down).Perm (items ++ down) := by
  induction items with
  | nil => intro down; exact .refl _
  | cons a rest ih =>
    intro down
    refine (ih (insertDown order a down)).trans ?_
    exact ((insertDown_perm a down).append_left rest).trans List.perm_middle

theorem insertionSort_perm (items : List α) : (insertionSort order items).Perm items := by
  have h : (items.foldl (fun sorted a => insertDown order a sorted) []).Perm (items ++ []) :=
    foldl_insertDown_perm items []
  rw [List.append_nil] at h
  exact (List.reverse_perm _).trans h

theorem stableSort_perm (items : List α) : (stableSort order items).Perm items := by
  unfold stableSort
  split
  · exact insertionSort_perm items
  · exact List.mergeSort_perm items _

variable [Std.TransCmp order]

theorem insertDown_descending (a : α) {items : List α} (h : items.Pairwise fun b c => order c b ≠ .gt) :
    (insertDown order a items).Pairwise fun b c => order c b ≠ .gt := by
  induction items with
  | nil => exact List.pairwise_singleton _ a
  | cons b rest ih =>
    obtain ⟨hb, hrest⟩ := List.pairwise_cons.1 h
    unfold insertDown
    split
    next hab =>
      refine List.pairwise_cons.2 ⟨?_, ih hrest⟩
      intro c hc
      rcases List.mem_cons.1 ((insertDown_perm a rest).mem_iff.1 hc) with rfl | hc
      · simp [hab]
      · exact hb c hc
    next hab =>
      refine List.pairwise_cons.2 ⟨?_, h⟩
      intro c hc
      rcases List.mem_cons.1 hc with rfl | hc
      · exact ne_gt_of_ne_lt hab
      · exact ne_gt_trans (hb c hc) (ne_gt_of_ne_lt hab)

theorem foldl_insertDown_descending (items : List α) : ∀ {down : List α},
    down.Pairwise (fun b c => order c b ≠ .gt) →
    (items.foldl (fun sorted a => insertDown order a sorted) down).Pairwise fun b c => order c b ≠ .gt := by
  induction items with
  | nil => intro down h; exact h
  | cons a rest ih => intro down h; exact ih (insertDown_descending a h)

/-- An element is inserted before its equals: those it passes are greater. -/
theorem filter_insertDown (a c : α) (items : List α) :
    ((insertDown order a items).filter fun b => order c b = .eq) =
      ([a].filter fun b => order c b = .eq) ++ items.filter fun b => order c b = .eq := by
  induction items with
  | nil => simp [insertDown]
  | cons b rest ih =>
    unfold insertDown
    split
    next hab =>
      by_cases hc : order c a = .eq
      · have hcb : order c b ≠ .eq := by
          intro hcb
          rw [eq_of_eq_eq hc hcb] at hab
          cases hab
        simp [hc, hcb, ih]
      · simp [List.filter_cons, hc, ih]
    next hab => exact List.filter_append [a] (b :: rest)

/-- The equals of an element end up in front of those inserted before them. -/
theorem filter_foldl_insertDown (c : α) (items : List α) : ∀ down : List α,
    ((items.foldl (fun sorted a => insertDown order a sorted) down).filter fun b => order c b = .eq) =
      (items.filter fun b => order c b = .eq).reverse ++ down.filter fun b => order c b = .eq := by
  induction items with
  | nil => intro down; rfl
  | cons a rest ih =>
    intro down
    rw [List.foldl_cons, ih, filter_insertDown]
    by_cases hc : order c a = .eq <;> simp [hc]

theorem insertionSort_sortsStably (items : List α) : SortsStably order (insertionSort order items) items := by
  refine ⟨insertionSort_perm items, ?_, ?_⟩
  · exact List.pairwise_reverse.2 (foldl_insertDown_descending items List.Pairwise.nil)
  · intro c
    unfold insertionSort
    rw [List.filter_reverse, filter_foldl_insertDown]
    simp

/-! ## Merging -/

theorem mergeSort_sortsStably (items : List α) :
    SortsStably order (items.mergeSort fun a b => order a b != .gt) items := by
  have htrans : ∀ a b c : α, (order a b != .gt) = true → (order b c != .gt) = true → (order a c != .gt) = true := by
    intro a b c hab hbc
    simp only [bne_iff_ne] at *
    exact ne_gt_trans hab hbc
  have htotal : ∀ a b : α, ((order a b != .gt) || (order b a != .gt)) = true := by
    intro a b
    simp only [Bool.or_eq_true, bne_iff_ne]
    by_cases h : order a b = .lt
    · exact .inl (by simp [h])
    · exact .inr (ne_gt_of_ne_lt h)
  have hperm := List.mergeSort_perm items fun a b => order a b != .gt
  refine ⟨hperm, ?_, ?_⟩
  · exact (List.pairwise_mergeSort htrans htotal items).imp fun h => bne_iff_ne.1 h
  · intro a
    -- a class is a sublist that already ascends, so sorting keeps it, and nothing joins it
    have hclass : (items.filter fun b => order a b = .eq).Pairwise fun b c => (order b c != .gt) = true := by
      refine List.pairwise_of_forall_mem_list ?_
      intro b hb c hc
      simp only [List.mem_filter, decide_eq_true_eq] at hb hc
      simp [eq_of_eq_eq hb.2 hc.2]
    have hkept := (List.sublist_mergeSort htrans htotal hclass List.filter_sublist).filter fun b => order a b = .eq
    rw [List.filter_filter] at hkept
    simp only [Bool.and_self] at hkept
    exact (hkept.eq_of_length (hperm.filter _).length_eq.symm).symm

theorem stableSort_sortsStably (items : List α) : SortsStably order (stableSort order items) items := by
  unfold stableSort
  split
  · exact insertionSort_sortsStably items
  · exact mergeSort_sortsStably items

theorem stableSort_eq_iff {items sorted : List α} :
    stableSort order items = sorted ↔ SortsStably order sorted items := by
  constructor
  · rintro rfl
    exact stableSort_sortsStably items
  · exact (stableSort_sortsStably items).unique

end FieldQuery.Stream
