/-
Sequences of steps, from which every pipeline is built. A step is a call of one of the methods that make a pipeline
grow. A pipeline runs the stages of its steps one after the other and records one operation for each of them. The
record of a step says its kind, the shapes before and after it, and what it runs as far as that can be read; a step
is refused for its own arguments only.
-/
import FieldQuery.Proofs.Stream.Flow
import FieldQuery.Proofs.Stream.Sequence

namespace FieldQuery

variable {ε α β γ δ : Type}

/-! ## Steps -/

/-- The result of a mapping step: elements of any type, or numbers in a stream of their width. -/
inductive Target : Type → Type 1 where
  | elements {β : Type} : Target β
  | int : Target Int32
  | long : Target Int64
  | double : Target Double64

/-- One step of a pipeline, with the functions it runs. Events are of type `ε`. -/
inductive Step (ε : Type) : Type → Type → Type 1 where
  | filter {α : Type} (keep : α → Bool) : Step ε α α
  | filterBy {α : Type} (p : Predicate α) : Step ε α α
  | takeWhile {α : Type} (keep : α → Bool) : Step ε α α
  | dropWhile {α : Type} (drop : α → Bool) : Step ε α α
  | limit {α : Type} (size : Int64) : Step ε α α
  | skip {α : Type} (size : Int64) : Step ε α α
  | peek {α : Type} (observe : α → ε) : Step ε α α
  | distinct {α : Type} (same : α → α → Bool) : Step ε α α
  | sorted {α : Type} (natural : α → α → Ordering) : Step ε α α
  | sortedBy {α : Type} (order : α → α → Ordering) : Step ε α α
  | sortedByField {α : Type} (order : FieldOrder α) : Step ε α α
  | map {α β : Type} (target : Target β) (f : α → β) : Step ε α β
  | flatMap {α β : Type} (target : Target β) (f : α → List β) : Step ε α β

/-- Steps one after the other, each on the elements that the one before it gives. -/
inductive Steps (ε : Type) : Type → Type → Type 1 where
  | nil {α : Type} : Steps ε α α
  | cons {α β γ : Type} (step : Step ε α β) (rest : Steps ε β γ) : Steps ε α γ

/-- Each of the steps meets a condition. -/
def Steps.All {ε : Type} (P : {α β : Type} → Step ε α β → Prop) : {α β : Type} → Steps ε α β → Prop
  | _, _, nil => True
  | _, _, cons step rest => P step ∧ rest.All P

namespace Pipeline

/-- The pipeline with one more step: the call of the method that the step names. -/
def add (p : Pipeline ε α β) : Step ε β γ → Except QueryError (Pipeline ε α γ)
  | .filter keep => p.filter keep
  | .filterBy q => p.filterBy q
  | .takeWhile keep => p.takeWhile keep
  | .dropWhile drop => p.dropWhile drop
  | .limit size => p.limit size
  | .skip size => p.skip size
  | .peek observe => p.peek observe
  | .distinct same => @distinct _ _ _ p ⟨same⟩
  | .sorted natural => @sorted _ _ _ p ⟨natural⟩
  | .sortedBy order => p.sortedBy order
  | .sortedByField order => p.sortedByField order
  | .map .elements f => p.map f
  | .map .int f => p.mapToInt f
  | .map .long f => p.mapToLong f
  | .map .double f => p.mapToDouble f
  | .flatMap .elements f => p.flatMap f
  | .flatMap .int f => p.flatMapToInt f
  | .flatMap .long f => p.flatMapToLong f
  | .flatMap .double f => p.flatMapToDouble f

/-- The pipeline with more steps, if each of them can be added. -/
def addAll {ε α : Type} : {β γ : Type} → Pipeline ε α β → Steps ε β γ → Except QueryError (Pipeline ε α γ)
  | _, _, p, .nil => .ok p
  | _, _, p, .cons step rest =>
    match p.add step with
    | .error e => .error e
    | .ok q => q.addAll rest

/-- The pipeline with the given steps over a source of the given shape. -/
def ofSteps (source : StreamShape) (steps : Steps ε α β) : Except QueryError (Pipeline ε α β) :=
  addAll («over» source) steps

end Pipeline

/-! ## Kinds -/

/-- The kind of the operation that records a step. -/
def Step.kind : Step ε α β → OperationKind
  | filter _ | filterBy _ => .filter
  | takeWhile _ => .takeWhile
  | dropWhile _ => .dropWhile
  | limit _ => .limit
  | skip _ => .skip
  | peek _ => .peek
  | distinct _ => .distinct
  | sorted _ | sortedBy _ | sortedByField _ => .sorted
  | map .elements _ => .map
  | map .int _ | map .long _ | map .double _ => .mapToPrimitive
  | flatMap .elements _ => .flatMap
  | flatMap .int _ | flatMap .long _ | flatMap .double _ => .flatMapToPrimitive

/-- The kinds of the operations that record the steps. -/
def Steps.kinds {ε : Type} : {α β : Type} → Steps ε α β → List OperationKind
  | _, _, nil => []
  | _, _, cons step rest => step.kind :: rest.kinds

/-! ## Records -/

/-- The shape of the stream that a mapping step gives. -/
def Target.shape : Target β → StreamShape
  | elements => .elements
  | int => .int
  | long => .long
  | double => .double

/-- The shape of the stream after a step on a stream of the given shape. -/
def Step.outputShape (shape : StreamShape) : Step ε α β → StreamShape
  | map target _ | flatMap target _ => target.shape
  | _ => shape

/-- What the operation that records a step carries. -/
def Step.capability : Step ε α β → Capability
  | filter _ | takeWhile _ | dropWhile _ => .predicate .function
  | filterBy p => .predicate (.predicate p)
  | limit size | skip size => .count (UInt64.ofNat size.toInt.toNat)
  | peek _ => .action .function
  | distinct _ | sorted _ => .none
  | sortedBy _ => .comparator .function
  | sortedByField o => .comparator (.order o)
  | map _ _ | flatMap _ _ => .mapper .function

theorem Step.accepts_capability (step : Step ε α β) : step.kind.accepts step.capability.classOf = true := by
  cases step with
  | map target f | flatMap target f => cases target <;> rfl
  | _ => rfl

theorem Step.turns_outputShape (step : Step ε α β) (shape : StreamShape) :
    step.kind.turns shape (step.outputShape shape) = true := by
  cases step with
  | map target f | flatMap target f => cases target <;> rfl
  | _ => exact beq_self_eq_true shape

/-- The operation that records a step on a stream of the given shape. -/
def Step.record (step : Step ε α β) (shape : StreamShape) : Operation where
  kind := step.kind
  input := shape
  output := step.outputShape shape
  capability := step.capability
  accepted := step.accepts_capability
  turned := step.turns_outputShape shape

/-- The causes for which a step can be refused: a count below zero, and a predicate whose operands do not pass
the check. -/
inductive Step.Refused {ε : Type} : {α β : Type} → Step ε α β → QueryError → Prop
  | limit {α : Type} {size : Int64} (h : size.toInt < 0) :
    Refused (.limit size : Step ε α α) (.operation (.negativeCount .limit size.toInt))
  | skip {α : Type} {size : Int64} (h : size.toInt < 0) :
    Refused (.skip size : Step ε α α) (.operation (.negativeCount .skip size.toInt))
  | filterBy {α : Type} {p : Predicate α} {e : PredicateError} (h : p.validate = .error e) :
    Refused (.filterBy p) (.predicate e)

theorem Operation.capability_of_make {kind : OperationKind} {input output : StreamShape} {capability : Capability}
    {op : Operation} (h : make kind input output capability = .ok op) : op.capability = capability := by
  unfold make at h
  split at h
  · split at h
    · cases h
      rfl
    · cases h
  · split at h <;> cases h

/-- A count fits the word that records it. -/
theorem toNat_ofNat_toInt (size : Int64) : (UInt64.ofNat size.toInt.toNat).toNat = size.toInt.toNat := by
  have hsize : size.toInt < 2 ^ 63 := size.toInt_lt
  exact UInt64.toNat_ofNat_of_lt' (by simp only [UInt64.size]; omega)

namespace OperationFactory

variable (f : OperationFactory) (kind : OperationKind) {size : Int64}

theorem counted_of_negative (h : size.toInt < 0) : f.counted kind size = .error (.negativeCount kind size.toInt) :=
  if_pos h

theorem counted_of_nonneg (h : ¬ size.toInt < 0) :
    f.counted kind size = f.keeping kind (.count (UInt64.ofNat size.toInt.toNat)) :=
  if_neg h

/-- An operation made with a count counts as many elements. -/
theorem amount_of_counted {op : Operation} (h : (f.counted kind size).mapError QueryError.operation = .ok op) :
    op.amount = size.toInt.toNat := by
  by_cases hnegative : size.toInt < 0
  · rw [f.counted_of_negative kind hnegative] at h
    cases h
  · rw [f.counted_of_nonneg kind hnegative] at h
    rcases hmade : f.keeping kind (.count (UInt64.ofNat size.toInt.toNat)) with e | made <;> rw [hmade] at h <;> cases h
    unfold Operation.amount Operation.count?
    rw [Operation.capability_of_make hmade]
    exact toNat_ofNat_toInt size

end OperationFactory

namespace Step

/-- What the factory makes for a step, by the entry point with the name of the step. -/
def operation (f : OperationFactory) : Step ε α β → Except QueryError Operation
  | filter _ => f.filter.mapError .operation
  | filterBy p => f.filterBy p
  | takeWhile _ => f.takeWhile.mapError .operation
  | dropWhile _ => f.dropWhile.mapError .operation
  | limit size => (f.limit size).mapError .operation
  | skip size => (f.skip size).mapError .operation
  | peek _ => f.peek.mapError .operation
  | distinct _ => f.distinct.mapError .operation
  | sorted _ => f.sorted.mapError .operation
  | sortedBy _ => f.sortedBy.mapError .operation
  | sortedByField o => (f.sortedByField o).mapError .operation
  | map .elements _ => f.map.mapError .operation
  | map .int _ => f.mapToInt.mapError .operation
  | map .long _ => f.mapToLong.mapError .operation
  | map .double _ => f.mapToDouble.mapError .operation
  | flatMap .elements _ => f.flatMap.mapError .operation
  | flatMap .int _ => f.flatMapToInt.mapError .operation
  | flatMap .long _ => f.flatMapToLong.mapError .operation
  | flatMap .double _ => f.flatMapToDouble.mapError .operation

variable (f : OperationFactory)

theorem operation_of_refused {step : Step ε α β} {e : QueryError} (h : step.Refused e) :
    step.operation f = .error e := by
  cases h with
  | limit hsize => exact congrArg (Except.mapError QueryError.operation) (f.counted_of_negative .limit hsize)
  | skip hsize => exact congrArg (Except.mapError QueryError.operation) (f.counted_of_negative .skip hsize)
  | filterBy hinvalid => exact f.filterBy_of_refused (Condition.refused_of_validate hinvalid)

/-- A step that is not refused is recorded, whatever the shape of the stream. -/
theorem operation_of_admitted {step : Step ε α β} (h : ∀ e, ¬ step.Refused e) :
    step.operation f = .ok (step.record f.input) := by
  have hmake := congrArg (Except.mapError QueryError.operation) (Operation.make_parts (step.record f.input))
  cases step with
  | limit size =>
    have hcounted := f.counted_of_nonneg .limit fun hnegative => h _ (.limit hnegative)
    exact (congrArg (Except.mapError QueryError.operation) hcounted).trans hmake
  | skip size =>
    have hcounted := f.counted_of_nonneg .skip fun hnegative => h _ (.skip hnegative)
    exact (congrArg (Except.mapError QueryError.operation) hcounted).trans hmake
  | filterBy p =>
    rcases hvalid : p.validate with e | ⟨⟨⟩⟩
    · exact absurd (.filterBy hvalid) (h (.predicate e))
    · obtain ⟨criterion, hcheck⟩ := Condition.check_of_validate hvalid
      exact f.filterBy_of_check hcheck
  | map target g | flatMap target g => cases target <;> exact hmake
  | _ => exact hmake

end Step

/-! ## Stages -/

/-- A field predicate keeps the elements that test true. -/
theorem Step.passes_eq (p : Predicate α) : passes p = fun a => decide (p.test a = .ok true) := by
  funext a
  unfold passes
  rcases p.test a with e | _ | _ <;> rfl

/-- What a step does to a feed. -/
def Step.stage : Step ε α β → Feed ε α → Feed ε β
  | filter keep => Feed.onFlow (.filter keep)
  | filterBy p => Feed.onFlow (.filter (passes p))
  | takeWhile keep => Feed.onFlow (.takeWhile keep)
  | dropWhile drop => Feed.onFlow (.dropWhile drop)
  | limit size => Feed.onFlow (.take size.toInt.toNat)
  | skip size => Feed.onFlow (.drop size.toInt.toNat)
  | peek observe => Feed.onFlow (.peek observe)
  | distinct same => Feed.onFlow (.distinct same [])
  | sorted natural => Feed.sort natural
  | sortedBy order => Feed.sort order
  | sortedByField o => Feed.sort o.compare
  | map _ f => Feed.onFlow (.map f)
  | flatMap _ f => Feed.onFlow (.flatMap f)

/-- What a sequence of steps does to a feed. -/
def Steps.stage {ε : Type} : {α β : Type} → Steps ε α β → Feed ε α → Feed ε β
  | _, _, nil => id
  | _, _, cons step rest => fun feed => rest.stage (step.stage feed)

/-! ## Building -/

namespace Pipeline

section Adding

variable (p : Pipeline ε α β)

theorem extend_congr {made : Except QueryError Operation} {next other : Operation → Feed ε β → Feed ε γ}
    (h : ∀ op, made = .ok op → next op = other op) : p.extend made next = p.extend made other := by
  cases made with
  | error e => rfl
  | ok op =>
    unfold extend
    simp only [h op rfl]

/-- Every method appends what the factory makes for its step, and runs the stage of the step. -/
theorem add_eq_extend (step : Step ε β γ) : p.add step = p.extend (step.operation p.factory) fun _ => step.stage := by
  cases step with
  | limit size =>
    refine p.extend_congr fun op hop => ?_
    rw [p.factory.amount_of_counted .limit hop]
    rfl
  | skip size =>
    refine p.extend_congr fun op hop => ?_
    rw [p.factory.amount_of_counted .skip hop]
    rfl
  | map target f | flatMap target f => cases target <;> rfl
  | _ => rfl

theorem add_of_refused {step : Step ε β γ} {e : QueryError} (h : step.Refused e) : p.add step = .error e := by
  rw [add_eq_extend, Step.operation_of_refused _ h]
  rfl

/-- A step that is not refused can be added to any pipeline: its record takes up the shape reached so far. -/
theorem add_of_admitted {step : Step ε β γ} (h : ∀ e, ¬ step.Refused e) :
    p.add step = .ok ⟨fun feed => step.stage (p.stage feed),
      ⟨p.operations.source, p.operations.operations ++ [step.record p.shape]⟩⟩ := by
  have hpush : p.operations.push (step.record p.shape) = _ := OperationSequence.push_of_fits rfl
  rw [add_eq_extend, Step.operation_of_admitted _ h]
  unfold extend
  simp only [factory, hpush]

end Adding

theorem admitted_of_add {p : Pipeline ε α β} {step : Step ε β γ} {q : Pipeline ε α γ} (h : p.add step = .ok q)
    (e : QueryError) : ¬ step.Refused e := by
  intro hrefused
  rw [p.add_of_refused hrefused] at h
  cases h

theorem of_add {p : Pipeline ε α β} {step : Step ε β γ} {q : Pipeline ε α γ} (h : p.add step = .ok q) :
    q = ⟨fun feed => step.stage (p.stage feed),
      ⟨p.operations.source, p.operations.operations ++ [step.record p.shape]⟩⟩ := by
  rw [p.add_of_admitted (admitted_of_add h)] at h
  exact (Except.ok.inj h).symm

theorem of_addAll_cons {p : Pipeline ε α β} {step : Step ε β γ} {rest : Steps ε γ δ} {q : Pipeline ε α δ}
    (h : p.addAll (.cons step rest) = .ok q) : ∃ next, p.add step = .ok next ∧ next.addAll rest = .ok q := by
  unfold addAll at h
  rcases hadd : p.add step with e | next
  · rw [hadd] at h
    cases h
  · rw [hadd] at h
    exact ⟨next, rfl, h⟩

theorem of_addAll (steps : Steps ε β γ) : ∀ {p : Pipeline ε α β} {q : Pipeline ε α γ},
    p.addAll steps = .ok q → (∀ feed, q.stage feed = steps.stage (p.stage feed)) ∧
      q.operations.operations.map (·.kind) = p.operations.operations.map (·.kind) ++ steps.kinds := by
  induction steps with
  | nil =>
    intro p q h
    cases h
    exact ⟨fun _ => rfl, (List.append_nil _).symm⟩
  | cons step rest ih =>
    intro p q h
    obtain ⟨next, hadd, hrest⟩ := of_addAll_cons h
    obtain rfl := of_add hadd
    obtain ⟨hstage, hkinds⟩ := ih hrest
    refine ⟨hstage, ?_⟩
    rw [hkinds]
    simp [Steps.kinds, Step.record]

theorem kinds_of_ofSteps {source : StreamShape} {steps : Steps ε α β} {p : Pipeline ε α β}
    (h : ofSteps source steps = .ok p) : p.operations.operations.map (·.kind) = steps.kinds :=
  (of_addAll steps h).2

section filterBy

variable (p : Pipeline ε α β) {selected : Predicate β} {criterion : Criterion} {e : PredicateError}

theorem filterBy_of_check (h : selected.check = .ok criterion) :
    p.filterBy selected = .ok ⟨fun feed => Feed.onFlow (.filter (Step.passes selected)) (p.stage feed),
      ⟨p.operations.source, p.operations.operations ++ [.selection selected p.shape]⟩⟩ := by
  have hadmitted : ∀ e, ¬ (Step.filterBy selected : Step ε β β).Refused e := by
    intro e hrefused
    cases hrefused with
    | filterBy hinvalid =>
      rw [Condition.validate_of_check h] at hinvalid
      cases hinvalid
  exact p.add_of_admitted hadmitted

theorem filterBy_of_refused (h : selected.check = .error e) : p.filterBy selected = .error (.predicate e) :=
  p.add_of_refused (.filterBy (Condition.validate_of_refused h))

end filterBy

end Pipeline

/-! ## Running -/

namespace Feed

/-- The events of setting up the stages and of pulling everything. -/
def log (feed : Feed ε α) : List ε := feed.opening ++ feed.flow.events

theorem sort_eq (order : α → α → Ordering) (feed : Feed ε α) :
    feed.sort order = ⟨feed.log, .ofList (Stream.stableSort order feed.flow.items)⟩ := by
  unfold sort
  rw [Flow.drain_eq]
  rfl

end Feed

theorem Pipeline.execute_eq (p : Pipeline ε α β) (as : List α) :
    p.execute as = ((p.stage ⟨[], .ofList as⟩).flow.items, (p.stage ⟨[], .ofList as⟩).log) := by
  simp only [execute, run, Flow.drain_eq, Feed.log]

theorem Pipeline.items_execute (p : Pipeline ε α β) (as : List α) :
    (p.execute as).1 = (p.stage ⟨[], .ofList as⟩).flow.items := by
  rw [execute_eq]

theorem Pipeline.execute_of_ofSteps {source : StreamShape} {steps : Steps ε α β} {p : Pipeline ε α β}
    (h : ofSteps source steps = .ok p) (xs : List α) :
    p.execute xs = ((steps.stage ⟨[], .ofList xs⟩).flow.items, (steps.stage ⟨[], .ofList xs⟩).log) := by
  have hstage : p.stage ⟨[], .ofList xs⟩ = steps.stage ⟨[], .ofList xs⟩ := (of_addAll steps h).1 _
  rw [execute_eq, hstage]

end FieldQuery
