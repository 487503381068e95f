/-
Pipelines that do not depend on the order of their source. When no recorded operation is order sensitive,
a permutation of the source only permutes the result.
-/
import FieldQuery.Proofs.Stream.Sort
import FieldQuery.Proofs.Stream.Steps

namespace FieldQuery

variable {ε α β : Type}

/-! ## First occurrences of identical elements -/

namespace Stream

variable {same : α → α → Bool} (hsame : ∀ a b, same a b = true ↔ a = b)

include hsame

theorem mem_firstOccurrences (b : α) (as : List α) : b ∈ firstOccurrences same as ↔ b ∈ as := by
  induction as with
  | nil => exact Iff.rfl
  | cons a rest ih =>
    have hother : same a b = false ↔ a ≠ b := by
      rw [← Bool.not_eq_true, hsame]
    simp only [firstOccurrences, List.mem_cons, List.mem_filter, ih, Bool.not_eq_true', hother]
    constructor
    · rintro (rfl | ⟨hb, -⟩)
      · exact .inl rfl
      · exact .inr hb
    · rintro (rfl | hb)
      · exact .inl rfl
      · by_cases hab : a = b
        · exact .inl hab.symm
        · exact .inr ⟨hb, hab⟩

theorem nodup_firstOccurrences (as : List α) : (firstOccurrences same as).Nodup := by
  induction as with
  | nil => exact List.nodup_nil
  | cons a rest ih =>
    refine List.nodup_cons.2 ⟨?_, ih.filter _⟩
    intro hmem
    have hself : same a a = true := (hsame a a).2 rfl
    simp [hself] at hmem

theorem firstOccurrences_perm {as bs : List α} (h : as.Perm bs) :
    (firstOccurrences same as).Perm (firstOccurrences same bs) := by
  rw [List.perm_ext_iff_of_nodup (nodup_firstOccurrences hsame as) (nodup_firstOccurrences hsame bs)]
  intro b
  rw [mem_firstOccurrences hsame, mem_firstOccurrences hsame]
  exact h.mem_iff

end Stream

theorem Feed.items_sort_perm (order : α → α → Ordering) (feed : Feed ε α) :
    (feed.sort order).flow.items.Perm feed.flow.items := by
  rw [sort_eq, Flow.items_ofList]
  exact Stream.stableSort_perm feed.flow.items

theorem Feed.items_onFlow_perm {g : Flow ε α → Flow ε β} {image : List α → List β}
    (hg : ∀ f, (g f).items = image f.items) {feed other : Feed ε α}
    (h : (image feed.flow.items).Perm (image other.flow.items)) :
    (feed.onFlow g).flow.items.Perm (other.onFlow g).flow.items := by
  show (g feed.flow).items.Perm (g other.flow).items
  rw [hg, hg]
  exact h

/-! ## Steps -/

/-- A step that looks for repetitions takes only identical elements for the same. -/
def Step.Discerning : Step ε α β → Prop
  | distinct same => ∀ a b, same a b = true ↔ a = b
  | _ => True

/-- A step that is not order sensitive gives a permutation when it is given one. -/
theorem Step.items_stage_perm {step : Step ε α β} (hdiscerning : step.Discerning)
    (hfree : step.kind.orderSensitive = false) {feed other : Feed ε α}
    (h : feed.flow.items.Perm other.flow.items) :
    (step.stage feed).flow.items.Perm (step.stage other).flow.items := by
  cases step with
  | takeWhile | dropWhile | limit | skip => cases hfree
  | filter keep => exact Feed.items_onFlow_perm (Flow.items_filter keep) (h.filter keep)
  | filterBy p => exact Feed.items_onFlow_perm (Flow.items_filter (passes p)) (h.filter (passes p))
  | peek observe =>
    show (feed.flow.peek observe).items.Perm (other.flow.peek observe).items
    rw [Flow.items_peek, Flow.items_peek]
    exact h
  | distinct same =>
    have htrans : ∀ a b c, same a b = true → same b c = true → same a c = true := by
      intro a b c hab hbc
      rw [hdiscerning] at *
      exact hab.trans hbc
    exact Feed.items_onFlow_perm (Flow.items_distinct_nil htrans) (Stream.firstOccurrences_perm hdiscerning h)
  | sorted natural => exact ((feed.items_sort_perm natural).trans h).trans (other.items_sort_perm natural).symm
  | sortedBy order => exact ((feed.items_sort_perm order).trans h).trans (other.items_sort_perm order).symm
  | sortedByField o => exact ((feed.items_sort_perm o.compare).trans h).trans (other.items_sort_perm o.compare).symm
  | map target f => exact Feed.items_onFlow_perm (Flow.items_map f) (h.map f)
  | flatMap target f => exact Feed.items_onFlow_perm (Flow.items_flatMap f) (h.flatMap_right f)

theorem Steps.items_stage_perm {steps : Steps ε α β} (hdiscerning : steps.All Step.Discerning)
    (hfree : ∀ kind ∈ steps.kinds, kind.orderSensitive = false) {feed other : Feed ε α}
    (h : feed.flow.items.Perm other.flow.items) :
    (steps.stage feed).flow.items.Perm (steps.stage other).flow.items := by
  induction steps with
  | nil => exact h
  | cons step rest ih =>
    obtain ⟨hstep, hrest⟩ := hdiscerning
    have hnext := step.items_stage_perm hstep (hfree _ (List.mem_cons_self ..)) h
    exact ih hrest (fun kind hkind => hfree kind (List.mem_cons_of_mem _ hkind)) hnext

/-! ## Pipelines -/

namespace Pipeline

/-- If no operation of a pipeline is order sensitive, a permuted source gives a permuted result. -/
theorem execute_perm {source : StreamShape} {steps : Steps ε α β} {p : Pipeline ε α β}
    (hbuilt : ofSteps source steps = .ok p) (hdiscerning : steps.All Step.Discerning)
    (hfree : ∀ op ∈ p.operations.operations, op.kind.orderSensitive = false) {as bs : List α}
    (h : as.Perm bs) : (p.execute as).1.Perm (p.execute bs).1 := by
  have hkinds : ∀ kind ∈ steps.kinds, kind.orderSensitive = false := by
    intro kind hkind
    rw [← kinds_of_ofSteps hbuilt] at hkind
    obtain ⟨op, hop, rfl⟩ := List.mem_map.1 hkind
    exact hfree op hop
  rw [execute_of_ofSteps hbuilt, execute_of_ofSteps hbuilt]
  refine steps.items_stage_perm hdiscerning hkinds ?_
  rw [Flow.items_ofList, Flow.items_ofList]
  exact h

/-- A sort by parity alone leaves the order within each parity to the source. -/
theorem execute_perm_shuffled :
    let steps : Steps Nat Nat Nat :=
      .cons (.flatMap .elements fun n => [n, n % 3]) (.cons (.distinct fun a b => a = b)
        (.cons (.sortedBy fun a b => compare (a % 2) (b % 2)) (.cons (.filter (· != 4)) .nil)))
    ∃ p : Pipeline Nat Nat Nat, ofSteps .elements steps = .ok p ∧ [5, 4, 8, 4].Perm [4, 4, 5, 8] ∧
      (p.execute [5, 4, 8, 4]).1 = [2, 8, 5, 1] ∧ (p.execute [4, 4, 5, 8]).1 = [2, 8, 1, 5] ∧
      (p.execute [5, 4, 8, 4]).1.Perm (p.execute [4, 4, 5, 8]).1 := by
  intro steps
  have hdiscerning : steps.All Step.Discerning := ⟨trivial, fun _ _ => decide_eq_true_iff, trivial, trivial, trivial⟩
  have hbuilt : ofSteps .elements steps = .ok _ := rfl
  have hperm : [5, 4, 8, 4].Perm [4, 4, 5, 8] := by decide
  exact ⟨_, hbuilt, hperm, rfl, rfl, execute_perm hbuilt hdiscerning (by decide) hperm⟩

end Pipeline

end FieldQuery
