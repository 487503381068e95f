/-
What an observer just before a cut sees. It sees what the cut pulls, and a cut pulls no more than it has to: a limit
pulls the elements it gives and then nothing, the cut at the first element that fails a test pulls this element and
nothing after it. Whatever steps come before, they cause no event of this observer.
-/
import FieldQuery.Proofs.Stream.Observation

namespace FieldQuery

variable {ε α β γ : Type} {counted : ε → Bool} {observe : α → ε}

/-! ## Flows -/

namespace Flow

variable (hcounted : ∀ a, counted (observe a) = true)
include hcounted

/-- Pulling the first elements shows the observer these elements. With none to pull it sees nothing, and after the last
one the flow is not asked again. -/
theorem filter_events_take_peek (f : Flow ε α) (hf : f.events.filter counted = []) :
    ∀ n, ((f.peek observe).take n).events.filter counted = (f.items.take n).map observe := by
  induction f with
  | done => rintro (_ | n) <;> rfl
  | event e rest ih =>
    obtain ⟨he, hrest⟩ := List.filter_eq_nil_iff.1 hf |> List.forall_mem_cons.1
    rintro (_ | n)
    · rfl
    · simp only [peek, take, events, items, List.filter_cons_of_neg he]
      exact ih () (List.filter_eq_nil_iff.2 hrest) (n + 1)
  | item a rest ih =>
    rintro (_ | _ | n)
    · rfl
    · simp [peek, take, events, items, hcounted a]
    · simp [peek, take, events, items, hcounted a, ih () hf (n + 1)]

/-- Pulling up to the first element that fails a test shows the observer this element too, and nothing after it. -/
theorem filter_events_takeWhile_peek (keep : α → Bool) (f : Flow ε α) (hf : f.events.filter counted = []) :
    ((f.peek observe).takeWhile keep).events.filter counted =
      (f.items.takeWhile keep ++ (f.items.find? fun a => !keep a).toList).map observe := by
  induction f with
  | done => rfl
  | event e rest ih =>
    obtain ⟨he, hrest⟩ := List.filter_eq_nil_iff.1 hf |> List.forall_mem_cons.1
    simp only [peek, takeWhile, events, items, List.filter_cons_of_neg he]
    exact ih () (List.filter_eq_nil_iff.2 hrest)
  | item a rest ih =>
    by_cases h : keep a = true
    · simp [peek, takeWhile, events, items, hcounted a, h, ih () hf]
    · simp [peek, takeWhile, events, items, hcounted a, h]

end Flow

/-! ## Steps before the observer -/

/-- Steps whose own observers are not counted cause no counted event on the elements of a list. -/
theorem Steps.tally_stage_ofList {steps : Steps ε α β} (hsteps : steps.All (Step.Uncounted counted)) (as : List α) :
    (steps.stage ⟨[], .ofList as⟩).tally counted = [] := by
  have hsource : (⟨[], .ofList as⟩ : Feed ε α).tally counted = [] := by
    unfold Feed.tally Feed.log
    rw [Flow.events_ofList]
    rfl
  have hprefix := steps.tally_stage_prefix hsteps ⟨[], .ofList as⟩
  rw [hsource] at hprefix
  exact List.prefix_nil.1 hprefix

/-- When nothing was counted so far, what is counted later are the events of the flow. -/
theorem Feed.tally_onFlow_of_nil {g : Flow ε α → Flow ε β} {feed : Feed ε α} (h : feed.tally counted = []) :
    feed.flow.events.filter counted = [] ∧ (feed.onFlow g).tally counted = (g feed.flow).events.filter counted := by
  rw [tally_eq] at h
  obtain ⟨hopening, hflow⟩ := List.append_eq_nil_iff.1 h
  refine ⟨hflow, ?_⟩
  rw [tally_eq]
  show feed.opening.filter counted ++ _ = _
  rw [hopening]
  rfl

/-! ## Pipelines -/

namespace Pipeline

/-- The pipeline with an observer and then one more step. -/
theorem add_peek_add (p : Pipeline ε α β) (observe : β → ε) {step : Step ε β γ} (h : ∀ e, ¬ step.Refused e) :
    ∃ q r, p.peek observe = .ok q ∧ q.add step = .ok r ∧
      ∀ feed, r.stage feed = step.stage ((p.stage feed).onFlow (.peek observe)) := by
  have hpeek : ∀ e, ¬ (Step.peek observe : Step ε β β).Refused e := by
    rintro e ⟨⟩
  exact ⟨_, _, p.add_of_admitted hpeek, add_of_admitted _ h, fun _ => rfl⟩

section Observed

variable {source : StreamShape} {steps : Steps ε α β} {p : Pipeline ε α β} {observe : β → ε}
  (hbuilt : ofSteps source steps = .ok p) (hsteps : steps.All (Step.Uncounted counted))
  (hcounted : ∀ b, counted (observe b) = true)

include hbuilt hsteps

/-- Behind any steps, an observer and then one more step that changes the flow: what the pipeline gives, and what the
observer sees. -/
theorem execute_peek_add {step : Step ε β γ} {g : Flow ε β → Flow ε γ} (given : List β → List γ)
    (seen : List β → List β) (hstep : ∀ feed, step.stage feed = feed.onFlow g) (h : ∀ e, ¬ step.Refused e)
    (hgiven : ∀ f : Flow ε β, (g f).items = given f.items)
    (hseen : ∀ f : Flow ε β, f.events.filter counted = [] →
      (g (f.peek observe)).events.filter counted = (seen f.items).map observe) :
    ∃ q r, p.peek observe = .ok q ∧ q.add step = .ok r ∧ ∀ as,
      (r.execute as).1 = given (p.execute as).1 ∧
        (r.execute as).2.filter counted = (seen (p.execute as).1).map observe := by
  obtain ⟨q, r, hq, hr, hstage⟩ := p.add_peek_add observe h
  refine ⟨q, r, hq, hr, fun as => ?_⟩
  have hnil : (p.stage ⟨[], .ofList as⟩).tally counted = [] := by
    rw [(of_addAll steps hbuilt).1]
    exact steps.tally_stage_ofList hsteps as
  obtain ⟨hflow, htally⟩ := Feed.tally_onFlow_of_nil (g := fun f => g (f.peek observe)) hnil
  rw [execute_eq, execute_eq, hstage, hstep]
  constructor
  · show (g ((p.stage ⟨[], .ofList as⟩).flow.peek observe)).items = _
    rw [hgiven, Flow.items_peek]
  · exact htally.trans (hseen _ hflow)

include hcounted

/-- An observer behind any steps and before a limit sees the elements that the pipeline gives, in order, and nothing
else: nothing at all for a limit of zero, and not one more element to notice that the limit is spent. Before the cut at
the first element that fails a test it sees the elements that the pipeline gives and then this one, if there is one. -/
theorem observed_before_cut :
    (∀ size : Int64, 0 ≤ size.toInt → ∃ q r, p.peek observe = .ok q ∧ q.limit size = .ok r ∧ ∀ as,
      (r.execute as).1 = (p.execute as).1.take size.toInt.toNat ∧
        (r.execute as).2.filter counted = (r.execute as).1.map observe) ∧
    (∀ keep : β → Bool, ∃ q r, p.peek observe = .ok q ∧ q.takeWhile keep = .ok r ∧ ∀ as,
      (r.execute as).1 = (p.execute as).1.takeWhile keep ∧
        (r.execute as).2.filter counted =
          ((r.execute as).1 ++ ((p.execute as).1.find? fun b => !keep b).toList).map observe) := by
  constructor
  · intro size hsize
    have hadmitted : ∀ e, ¬ (Step.limit size : Step ε β β).Refused e := by
      rintro e ⟨hnegative⟩
      omega
    obtain ⟨q, r, hq, hr, hruns⟩ :=
      execute_peek_add hbuilt hsteps (List.take size.toInt.toNat) (List.take size.toInt.toNat) (fun _ => rfl)
        hadmitted (fun f => f.items_take _) (fun f hf => f.filter_events_take_peek hcounted hf _)
    refine ⟨q, r, hq, hr, fun as => ?_⟩
    obtain ⟨hgiven, hseen⟩ := hruns as
    exact ⟨hgiven, hgiven ▸ hseen⟩
  · intro keep
    have hadmitted : ∀ e, ¬ (Step.takeWhile keep : Step ε β β).Refused e := by
      rintro e ⟨⟩
    obtain ⟨q, r, hq, hr, hruns⟩ :=
      execute_peek_add hbuilt hsteps (List.takeWhile keep)
        (fun bs => bs.takeWhile keep ++ (bs.find? fun b => !keep b).toList) (fun _ => rfl)
        hadmitted (fun f => f.items_takeWhile keep) (fun f hf => f.filter_events_takeWhile_peek hcounted keep hf)
    refine ⟨q, r, hq, hr, fun as => ?_⟩
    obtain ⟨hgiven, hseen⟩ := hruns as
    exact ⟨hgiven, hgiven ▸ hseen⟩

end Observed

/-- A sort pulls the whole source before it gives anything, and yet the observer behind it sees two of the five sorted
elements before a limit of two, and before the cut at the first element that is not below three also this one. -/
theorem observed_before_cut_sorted :
    let ofLast : Nat × Nat → Bool := fun e => e.1 == 2
    let steps : Steps (Nat × Nat) Nat Nat :=
      .cons (.peek (1, ·)) (.cons (.flatMap .elements fun n => [n, n + 5]) (.cons (.sorted compare)
        (.cons (.skip 1) .nil)))
    ∃ p q limited cut : Pipeline (Nat × Nat) Nat Nat, ofSteps .elements steps = .ok p ∧
      steps.All (Step.Uncounted ofLast) ∧ (∀ a, ofLast (2, a) = true) ∧ 0 ≤ (2 : Int64).toInt ∧
      p.peek (2, ·) = .ok q ∧ q.limit 2 = .ok limited ∧ q.takeWhile (· < 3) = .ok cut ∧
      p.execute [2, 0, 1] = ([1, 2, 5, 6, 7], [(1, 2), (1, 0), (1, 1)]) ∧
      (limited.execute [2, 0, 1]).2.filter ofLast = [(2, 1), (2, 2)] ∧
      (cut.execute [2, 0, 1]).2.filter ofLast = [(2, 1), (2, 2), (2, 5)] := by
  intro ofLast steps
  have hsteps : steps.All (Step.Uncounted ofLast) := ⟨fun _ => rfl, trivial, trivial, trivial, trivial⟩
  have hlast : ∀ a, ofLast (2, a) = true := fun _ => rfl
  have htwo : 0 ≤ (2 : Int64).toInt := by decide
  have hbuilt : ofSteps .elements steps = .ok _ := rfl
  obtain ⟨hlimits, hcuts⟩ := observed_before_cut hbuilt hsteps hlast
  obtain ⟨q, limited, hq, hlimited, hlimit⟩ := hlimits 2 htwo
  obtain ⟨q', cut, hq', hcutting, hcut⟩ := hcuts (· < 3)
  obtain rfl := Except.ok.inj (hq.symm.trans hq')
  refine ⟨_, q, limited, cut, hbuilt, hsteps, hlast, htwo, hq, hlimited, hcutting, rfl, ?_, ?_⟩
  · obtain ⟨hgiven, hseen⟩ := hlimit [2, 0, 1]
    rw [hseen, hgiven]
    rfl
  · obtain ⟨hgiven, hseen⟩ := hcut [2, 0, 1]
    rw [hseen, hgiven]
    rfl

end Pipeline

end FieldQuery
