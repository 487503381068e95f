/-
What the observer at the start of a pipeline sees. It sees a first part of the source in the order of the
source, whatever steps follow, and the whole source if none of them is short circuiting: every other step
pulls the stream before it to the end.
-/
import FieldQuery.Proofs.Stream.Steps

namespace FieldQuery

variable {ε α β : Type} {counted : ε → Bool}

/-! ## Steps -/

/-- An observer among the steps causes no event that is counted. -/
def Step.Uncounted (counted : ε → Bool) : Step ε α β → Prop
  | peek observe => ∀ a, counted (observe a) = false
  | _ => True

/-- The events of a feed that are counted. -/
def Feed.tally (counted : ε → Bool) (feed : Feed ε α) : List ε := feed.log.filter counted

theorem Feed.tally_eq (feed : Feed ε α) :
    feed.tally counted = feed.opening.filter counted ++ feed.flow.events.filter counted :=
  List.filter_append ..

/-- A sort pulls the stream before it while the stages are set up, with the same events. -/
theorem Feed.tally_sort (order : α → α → Ordering) (feed : Feed ε α) :
    (feed.sort order).tally counted = feed.tally counted := by
  rw [sort_eq]
  unfold tally log
  rw [Flow.events_ofList, List.append_nil]

theorem Feed.tally_onFlow {g : Flow ε α → Flow ε β} {feed : Feed ε α}
    (h : (g feed.flow).events.filter counted = feed.flow.events.filter counted) :
    (feed.onFlow g).tally counted = feed.tally counted := by
  rw [tally_eq, tally_eq, ← h]
  rfl

theorem Feed.tally_onFlow_prefix {g : Flow ε α → Flow ε β} {feed : Feed ε α}
    (h : (g feed.flow).events <+: feed.flow.events) :
    (feed.onFlow g).tally counted <+: feed.tally counted := by
  rw [tally_eq, tally_eq]
  exact (List.prefix_append_right_inj _).2 (h.filter counted)

theorem Step.tally_stage {step : Step ε α β} (hstep : step.Uncounted counted)
    (hfull : step.kind.shortCircuiting = false) (feed : Feed ε α) :
    (step.stage feed).tally counted = feed.tally counted := by
  cases step with
  | takeWhile | limit => cases hfull
  | filter keep => exact Feed.tally_onFlow (by rw [Flow.events_filter])
  | filterBy p => exact Feed.tally_onFlow (by rw [Flow.events_filter])
  | dropWhile drop => exact Feed.tally_onFlow (by rw [Flow.events_dropWhile])
  | skip size => exact Feed.tally_onFlow (by rw [Flow.events_drop])
  | peek observe => exact Feed.tally_onFlow (Flow.filter_events_peek hstep feed.flow)
  | distinct same => exact Feed.tally_onFlow (by rw [Flow.events_distinct])
  | sorted natural => exact feed.tally_sort natural
  | sortedBy order => exact feed.tally_sort order
  | sortedByField o => exact feed.tally_sort o.compare
  | map target f => exact Feed.tally_onFlow (by rw [Flow.events_map])
  | flatMap target f => exact Feed.tally_onFlow (by rw [Flow.events_flatMap])

theorem Step.tally_stage_prefix {step : Step ε α β} (hstep : step.Uncounted counted) (feed : Feed ε α) :
    (step.stage feed).tally counted <+: feed.tally counted := by
  by_cases hfull : step.kind.shortCircuiting = false
  · have hsame := step.tally_stage hstep hfull feed
    exact hsame ▸ List.prefix_refl _
  cases step with
  | takeWhile keep => exact Feed.tally_onFlow_prefix (Flow.events_takeWhile keep feed.flow)
  | limit size => exact Feed.tally_onFlow_prefix (Flow.events_take feed.flow _)
  | map target f => cases target <;> exact absurd rfl hfull
  | flatMap target f => cases target <;> exact absurd rfl hfull
  | _ => exact absurd rfl hfull

theorem Steps.tally_stage {steps : Steps ε α β} (hsteps : steps.All (Step.Uncounted counted))
    (hfull : ∀ kind ∈ steps.kinds, kind.shortCircuiting = false) (feed : Feed ε α) :
    (steps.stage feed).tally counted = feed.tally counted := by
  induction steps with
  | nil => rfl
  | cons step rest ih =>
    obtain ⟨hstep, hrest⟩ := hsteps
    calc (rest.stage (step.stage feed)).tally counted
      _ = (step.stage feed).tally counted :=
        ih hrest (fun kind hkind => hfull kind (List.mem_cons_of_mem _ hkind)) _
      _ = feed.tally counted := step.tally_stage hstep (hfull _ (List.mem_cons_self ..)) feed

theorem Steps.tally_stage_prefix {steps : Steps ε α β} (hsteps : steps.All (Step.Uncounted counted)) (feed : Feed ε α) :
    (steps.stage feed).tally counted <+: feed.tally counted := by
  induction steps with
  | nil => exact List.prefix_refl _
  | cons step rest ih =>
    obtain ⟨hstep, hrest⟩ := hsteps
    exact (ih hrest (step.stage feed)).trans (step.tally_stage_prefix hstep feed)

/-! ## Pipelines -/

/-- At the start of a pipeline an observer sees each element of the source once, in order. -/
theorem Feed.tally_peek_ofList {observe : α → ε} (hcounted : ∀ a, counted (observe a) = true) (as : List α) :
    ((Step.peek observe).stage ⟨[], .ofList as⟩).tally counted = as.map observe := by
  show ([] ++ ((Flow.ofList as).peek observe).events).filter counted = as.map observe
  rw [Flow.events_peek_ofList, List.nil_append, List.filter_eq_self]
  intro e he
  obtain ⟨a, -, rfl⟩ := List.mem_map.1 he
  exact hcounted a

namespace Pipeline

/-- The events of an observer at the start of a pipeline, told from those of later observers by `counted`,
are those of a first part of the source, and of the whole source if the pipeline is not short circuiting. -/
theorem observed_of_peek {source : StreamShape} {observe : α → ε} {rest : Steps ε α β} {p : Pipeline ε α β}
    (hbuilt : ofSteps source (.cons (.peek observe) rest) = .ok p) (hcounted : ∀ a, counted (observe a) = true)
    (hrest : rest.All (Step.Uncounted counted)) (as : List α) :
    (p.execute as).2.filter counted <+: as.map observe ∧
      (p.explain.shortCircuiting = false → (p.execute as).2.filter counted = as.map observe) := by
  have hexecute : (p.execute as).2.filter counted =
      (rest.stage ((Step.peek observe).stage ⟨[], .ofList as⟩)).tally counted := by
    rw [execute_of_ofSteps hbuilt]
    rfl
  rw [hexecute, ← Feed.tally_peek_ofList hcounted as]
  refine ⟨rest.tally_stage_prefix hrest _, fun hplan => rest.tally_stage hrest ?_ _⟩
  intro kind hkind
  have hrecorded : kind ∈ p.operations.operations.map (·.kind) := by
    rw [kinds_of_ofSteps hbuilt]
    exact List.mem_cons_of_mem _ hkind
  obtain ⟨op, hop, rfl⟩ := List.mem_map.1 hrecorded
  exact Bool.not_eq_true _ ▸ List.any_eq_false.1 hplan op hop

/-- The first observer sees the whole source although everything is skipped in the end. -/
theorem observed_of_peek_skipped :
    let ofFirst : Nat × Nat → Bool := fun e => e.1 == 1
    let rest : Steps (Nat × Nat) Nat Nat :=
      .cons (.filter (· != 3)) (.cons (.flatMap .elements fun n => [n, n]) (.cons (.sorted compare)
        (.cons (.peek (2, ·)) (.cons (.dropWhile (· < 2)) (.cons (.skip 10) .nil)))))
    ∃ p : Pipeline (Nat × Nat) Nat Nat, ofSteps .elements (.cons (.peek (1, ·)) rest) = .ok p ∧
      (∀ a, ofFirst (1, a) = true) ∧ rest.All (Step.Uncounted ofFirst) ∧ p.explain.shortCircuiting = false ∧
      p.execute [2, 3, 1] = ([], [(1, 2), (1, 3), (1, 1), (2, 1), (2, 1), (2, 2), (2, 2)]) ∧
      (p.execute [2, 3, 1]).2.filter ofFirst = [2, 3, 1].map (1, ·) := by
  intro ofFirst rest
  have hfirst : ∀ a, ofFirst (1, a) = true := fun _ => rfl
  have hrest : rest.All (Step.Uncounted ofFirst) := ⟨trivial, trivial, trivial, fun _ => rfl, trivial, trivial, trivial⟩
  have hbuilt : ofSteps .elements (.cons (.peek (1, ·)) rest) = .ok _ := rfl
  refine ⟨_, hbuilt, hfirst, hrest, rfl, rfl, ?_⟩
  exact (observed_of_peek hbuilt hfirst hrest [2, 3, 1]).2 rfl

end Pipeline

end FieldQuery
