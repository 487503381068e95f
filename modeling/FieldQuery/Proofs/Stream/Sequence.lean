/-
Sequences of operations as they grow. Whatever is appended and whatever is refused on the way, the
operations of a sequence form a chain of shapes from its source to its output, and the account for a
planner shows the same chain.
-/
import FieldQuery.Proofs.Stream.Selection
import Mathlib.Data.List.Chain

namespace FieldQuery

/-! ## Operations -/

/-- Whether elements are mapped, to one or to several each. -/
def OperationKind.isMap : OperationKind → Bool
  | map | mapToPrimitive | flatMap | flatMapToPrimitive => true
  | _ => false

/-- Only a map gives another shape than it takes. -/
theorem Operation.output_eq_input {op : Operation} (h : op.kind.isMap = false) : op.output = op.input := by
  have hturned := op.turned
  cases hkind : op.kind <;> rw [hkind] at h hturned
  case map | mapToPrimitive | flatMap | flatMapToPrimitive => cases h
  all_goals exact (beq_iff_eq.1 hturned).symm

/-- A count goes with the two kinds that cut at a number. -/
theorem Operation.isSome_count? (op : Operation) :
    op.count?.isSome = true ↔ op.kind = .limit ∨ op.kind = .skip := by
  have haccepted := op.accepted
  unfold count?
  constructor
  · intro hcount
    split at hcount
    next n hn =>
      rw [hn] at haccepted
      revert haccepted
      cases op.kind <;> simp [OperationKind.accepts, OperationKind.capabilityClass, Capability.classOf]
    next => cases hcount
  · intro hkind
    have hclass : op.capability.classOf = .count := by
      rcases hkind with hkind | hkind <;> rw [hkind] at haccepted <;>
        simpa [OperationKind.accepts, OperationKind.capabilityClass] using haccepted
    cases hcapability : op.capability <;> rw [hcapability] at hclass <;> cases hclass
    rfl

theorem Capability.isCallable_iff (capability : Capability) :
    capability.isCallable = true ↔ capability.classOf ≠ .none ∧ capability.classOf ≠ .count := by
  cases capability <;> simp [isCallable, classOf]

theorem OperationKind.shortCircuiting_iff (kind : OperationKind) :
    kind.shortCircuiting = true ↔ kind = .limit ∨ kind = .takeWhile := by
  cases kind <;> simp [shortCircuiting]

/-! ## Growing -/

namespace OperationSequence

/-- The sequence after the attempt to append an operation: a refusal leaves it as it is. -/
def attempt (s : OperationSequence) (op : Operation) : OperationSequence :=
  match s.push op with
  | .ok longer => longer
  | .error _ => s

/-- The sequence after attempts to append operations one after the other. -/
def attemptAll (s : OperationSequence) (ops : List Operation) : OperationSequence := ops.foldl attempt s

theorem push_of_misfit {s : OperationSequence} {op : Operation} (h : op.input ≠ s.output) :
    s.push op = .error (.shapeMismatch s.length s.output op.input) := by
  unfold push
  exact if_neg h

theorem of_push {s longer : OperationSequence} {op : Operation} (h : s.push op = .ok longer) :
    op.input = s.output ∧ longer = ⟨s.source, s.operations ++ [op]⟩ := by
  by_cases hfits : op.input = s.output
  · rw [push_of_fits hfits] at h
    exact ⟨hfits, (Except.ok.inj h).symm⟩
  · rw [push_of_misfit hfits] at h
    cases h

theorem attempt_of_fits {s : OperationSequence} {op : Operation} (h : op.input = s.output) :
    s.attempt op = ⟨s.source, s.operations ++ [op]⟩ := by
  unfold attempt
  rw [push_of_fits h]

theorem attempt_of_misfit {s : OperationSequence} {op : Operation} (h : op.input ≠ s.output) :
    s.attempt op = s := by
  unfold attempt
  rw [push_of_misfit h]

theorem output_eq_getLast? (s : OperationSequence) :
    s.output = (s.operations.getLast?.map (·.output)).getD s.source := by
  unfold output
  cases s.operations.getLast? <;> rfl

theorem output_append (source : StreamShape) (operations : List Operation) (op : Operation) :
    output ⟨source, operations ++ [op]⟩ = op.output := by
  rw [output_eq_getLast?, List.getLast?_append]
  rfl

/-- The operations of a sequence on a source form a chain of shapes. -/
structure Chained (source : StreamShape) (s : OperationSequence) : Prop where
  source_eq : s.source = source
  first : ∀ op, s.operations.head? = some op → op.input = source
  later : s.operations.IsChain fun before op => op.input = before.output
  /-- The shape reached is the one that the last map leaves. -/
  output_eq : s.output = ((s.operations.reverse.find? (·.kind.isMap)).map (·.output)).getD source

theorem chained_empty (source : StreamShape) : (empty source).Chained source where
  source_eq := rfl
  first op h := by cases h
  later := List.IsChain.nil
  output_eq := rfl

/-- An operation that takes the shape reached so far lengthens the chain. -/
theorem Chained.append {source : StreamShape} {s : OperationSequence} {op : Operation} (h : s.Chained source)
    (hfits : op.input = s.output) : Chained source ⟨s.source, s.operations ++ [op]⟩ := by
  rw [output_eq_getLast?] at hfits
  refine ⟨h.source_eq, ?_, ?_, ?_⟩
  · intro first hfirst
    rcases hops : s.operations with _ | ⟨head, rest⟩ <;> simp only [hops] at hfirst hfits
    · cases hfirst
      exact hfits.trans h.source_eq
    · cases hfirst
      exact h.first _ (by rw [hops]; rfl)
  · refine List.isChain_append.2 ⟨h.later, List.IsChain.singleton op, ?_⟩
    intro before hbefore next hnext
    cases hnext
    rw [hfits, Option.mem_def.1 hbefore]
    rfl
  · rw [output_append, List.reverse_append]
    cases hmap : op.kind.isMap with
    | true => simp [hmap]
    | false =>
      -- an operation that is not a map hands on the shape that the last map before it left
      rw [Operation.output_eq_input hmap, hfits, ← output_eq_getLast?, h.output_eq]
      simp [hmap]

theorem Chained.attempt {source : StreamShape} {s : OperationSequence} (h : s.Chained source) (op : Operation) :
    (s.attempt op).Chained source := by
  by_cases hfits : op.input = s.output
  · rw [attempt_of_fits hfits]
    exact h.append hfits
  · rw [attempt_of_misfit hfits]
    exact h

theorem Chained.attemptAll {source : StreamShape} (ops : List Operation) : ∀ {s : OperationSequence},
    s.Chained source → (s.attemptAll ops).Chained source := by
  induction ops with
  | nil => intro s h; exact h
  | cons op rest ih => intro s h; exact ih (h.attempt op)

end OperationSequence

/-! ## Accounts -/

/-- A plan is the account of a sequence. -/
structure Plan.AccountsFor (plan : Plan) (s : OperationSequence) : Prop where
  source_eq : plan.source = s.source
  output_eq : plan.output = s.output
  steps_eq : ∀ i, plan.steps[i]? = s.operations[i]?.map fun op =>
    (⟨i, op.kind, op.input, op.output, op.capability.classOf, op.capability.isCallable, op.count?⟩ : PlanStep)
  first : ∀ step, plan.steps.head? = some step → step.input = plan.source
  later : plan.steps.IsChain fun before step => step.input = before.output
  last : plan.output = (plan.steps.getLast?.map (·.output)).getD plan.source
  count : ∀ step ∈ plan.steps, step.count.isSome = true ↔ step.kind = .limit ∨ step.kind = .skip
  callable : ∀ step ∈ plan.steps, step.callable = true ↔ step.capability ≠ .none ∧ step.capability ≠ .count
  shortCircuiting : plan.shortCircuiting = true ↔
    ∃ step ∈ plan.steps, step.kind = .limit ∨ step.kind = .takeWhile

namespace OperationSequence

theorem mem_explain_steps {s : OperationSequence} {step : PlanStep} (h : step ∈ s.explain.steps) :
    ∃ op ∈ s.operations, ∃ i, step = op.planStep i := by
  obtain ⟨i, hi, rfl⟩ := List.mem_mapIdx.1 h
  exact ⟨_, List.getElem_mem _, i, rfl⟩

theorem explain_shapes (s : OperationSequence) :
    (s.explain.steps.map fun step => (step.input, step.output)) = s.operations.map fun op => (op.input, op.output) := by
  refine List.ext_getElem? fun i => ?_
  simp only [explain, List.getElem?_map, List.getElem?_mapIdx, Option.map_map]
  rfl

theorem Chained.accountsFor {source : StreamShape} {s : OperationSequence} (h : s.Chained source) :
    s.explain.AccountsFor s where
  source_eq := rfl
  output_eq := rfl
  steps_eq i := List.getElem?_mapIdx
  first step hstep := by
    have hhead := congrArg List.head? s.explain_shapes
    rw [List.head?_map, List.head?_map, hstep] at hhead
    obtain ⟨op, hop, hshapes⟩ := Option.map_eq_some_iff.1 hhead.symm
    have hinput : op.input = step.input := congrArg Prod.fst hshapes
    rw [← hinput, h.first op hop]
    exact h.source_eq.symm
  later := by
    have hshapes : (s.explain.steps.map fun step => (step.input, step.output)).IsChain fun a b => b.1 = a.2 := by
      rw [explain_shapes]
      exact (List.isChain_map _).2 h.later
    exact (List.isChain_map _).1 hshapes
  last := by
    have hlast := congrArg (fun shapes => shapes.getLast?.map Prod.snd) s.explain_shapes
    simp only [List.getLast?_map, Option.map_map] at hlast
    exact s.output_eq_getLast?.trans (congrArg (·.getD s.source) hlast.symm)
  count step hstep := by
    obtain ⟨op, -, i, rfl⟩ := mem_explain_steps hstep
    exact op.isSome_count?
  callable step hstep := by
    obtain ⟨op, -, i, rfl⟩ := mem_explain_steps hstep
    exact op.capability.isCallable_iff
  shortCircuiting := by
    have hany : s.explain.shortCircuiting = true ↔ ∃ op ∈ s.operations, op.kind = .limit ∨ op.kind = .takeWhile := by
      simp only [explain, List.any_eq_true, OperationKind.shortCircuiting_iff]
    rw [hany]
    constructor
    · rintro ⟨op, hop, hkind⟩
      obtain ⟨i, hi, rfl⟩ := List.getElem_of_mem hop
      exact ⟨_, List.mem_mapIdx.2 ⟨i, hi, rfl⟩, hkind⟩
    · rintro ⟨step, hstep, hkind⟩
      obtain ⟨op, hop, i, rfl⟩ := mem_explain_steps hstep
      exact ⟨op, hop, hkind⟩

/-! ## Every run -/

/-- A sequence that is a chain from its source, appends what fits and nothing else, and is accounted for. -/
structure WellFormed (source : StreamShape) (s : OperationSequence) : Prop where
  chained : s.Chained source
  push_iff : ∀ op, (∃ longer, s.push op = .ok longer) ↔ op.input = s.output
  pushed : ∀ op longer, s.push op = .ok longer →
    longer = ⟨source, s.operations ++ [op]⟩ ∧ s.attempt op = longer
  refused : ∀ op, op.input ≠ s.output →
    s.push op = .error (.shapeMismatch s.operations.length s.output op.input) ∧ s.attempt op = s
  accounted : s.explain.AccountsFor s

theorem Chained.wellFormed {source : StreamShape} {s : OperationSequence} (h : s.Chained source) :
    s.WellFormed source where
  chained := h
  push_iff op := by
    constructor
    · rintro ⟨longer, hpush⟩
      exact (of_push hpush).1
    · intro hfits
      exact ⟨_, push_of_fits hfits⟩
  pushed op longer hpush := by
    obtain ⟨hfits, rfl⟩ := of_push hpush
    exact ⟨by rw [h.source_eq], attempt_of_fits hfits⟩
  refused op hmisfit := ⟨push_of_misfit hmisfit, attempt_of_misfit hmisfit⟩
  accounted := h.accountsFor

/-- Whatever is appended to the empty sequence on a source and whatever is refused, the result is well
formed. -/
theorem attemptAll_wellFormed (source : StreamShape) (ops : List Operation) :
    ((empty source).attemptAll ops).WellFormed source :=
  (Chained.attemptAll ops (chained_empty source)).wellFormed

end OperationSequence

end FieldQuery
