/-
What a pipeline records while it is built. Whatever steps it has, each method that adds one more is refused only for
a negative count or for a predicate with invalid operands; otherwise it appends one operation, of the kind of the
method, made for the shape reached so far, and what can be read from this operation (a count, a field predicate, a
field order) is what the step runs on the elements.
-/
import FieldQuery.Proofs.Stream.Steps

namespace FieldQuery

variable {ε α β γ : Type}

/-! ## Arguments of steps -/

namespace Step

/-- The count given to a step. -/
def count? : Step ε α β → Option Int
  | limit size | skip size => some size.toInt
  | _ => none

/-- The field predicate given to a step. -/
def fieldPredicate? : Step ε α β → Option ((ρ : Type) × Predicate ρ)
  | filterBy p => some ⟨_, p⟩
  | _ => none

/-- The field order given to a step. -/
def fieldOrder? : Step ε α β → Option ((ρ : Type) × FieldOrder ρ)
  | sortedByField o => some ⟨_, o⟩
  | _ => none

/-- The elements `bs` are what a step makes of the elements `as` with the arguments read from an operation; of a
step whose arguments cannot be read nothing is said. -/
def RunsRecorded (op : Operation) : Step ε α β → List α → List β → Prop
  | limit _, as, bs => ∃ n, op.count? = some n ∧ bs = as.take n.toNat
  | skip _, as, bs => ∃ n, op.count? = some n ∧ bs = as.drop n.toNat
  | filterBy _, as, bs => ∃ p : Predicate α, op.fieldPredicate? = some ⟨α, p⟩ ∧
    bs = as.filter fun a => p.test a = .ok true
  | sortedByField _, as, bs => ∃ o : FieldOrder α, op.fieldOrder? = some ⟨α, o⟩ ∧
    bs = Stream.stableSort o.compare as
  | _, _, _ => True

/-! ## Arguments in records -/

/-- A count that is not negative fits the word that records it. -/
theorem toInt_ofNat_toInt {size : Int64} (h : ¬ size.toInt < 0) :
    ((UInt64.ofNat size.toInt.toNat).toNat : Int) = size.toInt := by
  rw [toNat_ofNat_toInt, Int.toNat_of_nonneg (Int.not_lt.1 h)]

theorem count?_record {step : Step ε α β} (h : ∀ e, ¬ step.Refused e) (shape : StreamShape) :
    (step.record shape).count?.map (fun n => (n.toNat : Int)) = step.count? := by
  cases step with
  | limit size => exact congrArg some (toInt_ofNat_toInt fun hnegative => h _ (.limit hnegative))
  | skip size => exact congrArg some (toInt_ofNat_toInt fun hnegative => h _ (.skip hnegative))
  | _ => rfl

theorem fieldPredicate?_record (step : Step ε α β) (shape : StreamShape) :
    (step.record shape).fieldPredicate? = step.fieldPredicate? := by
  cases step <;> rfl

theorem fieldOrder?_record (step : Step ε α β) (shape : StreamShape) :
    (step.record shape).fieldOrder? = step.fieldOrder? := by
  cases step <;> rfl

/-- The stage of a step runs with the arguments that its record shows. -/
theorem runsRecorded_stage (step : Step ε α β) (shape : StreamShape) (feed : Feed ε α) :
    step.RunsRecorded (step.record shape) feed.flow.items (step.stage feed).flow.items := by
  cases step with
  | limit size =>
    refine ⟨UInt64.ofNat size.toInt.toNat, rfl, ?_⟩
    rw [toNat_ofNat_toInt]
    exact Flow.items_take feed.flow _
  | skip size =>
    refine ⟨UInt64.ofNat size.toInt.toNat, rfl, ?_⟩
    rw [toNat_ofNat_toInt]
    exact Flow.items_drop feed.flow _
  | filterBy p =>
    refine ⟨p, rfl, ?_⟩
    rw [← passes_eq]
    exact Flow.items_filter (passes p) feed.flow
  | sortedByField o =>
    refine ⟨o, rfl, ?_⟩
    show (feed.sort o.compare).flow.items = _
    rw [Feed.sort_eq, Flow.items_ofList]
  | _ => trivial

end Step

/-! ## Growing pipelines -/

namespace Pipeline

/-- One step was added to a pipeline, and this operation was appended for it. -/
structure Adds (p : Pipeline ε α β) (step : Step ε β γ) (kind : OperationKind) (output : StreamShape)
    (q : Pipeline ε α γ) (op : Operation) : Prop where
  operations_eq : q.operations = ⟨p.operations.source, p.operations.operations ++ [op]⟩
  kind_eq : op.kind = kind
  input_eq : op.input = p.shape
  output_eq : op.output = output
  shape_eq : q.shape = output
  count_eq : op.count?.map (fun n => (n.toNat : Int)) = step.count?
  predicate_eq : op.fieldPredicate? = step.fieldPredicate?
  order_eq : op.fieldOrder? = step.fieldOrder?
  runs : ∀ as, step.RunsRecorded op (p.execute as).1 (q.execute as).1

/-- What a method does with a pipeline: it refuses the step for the arguments of the step, or it adds the step under
this kind, with this shape after it. -/
structure Records (p : Pipeline ε α β) (step : Step ε β γ) (kind : OperationKind) (output : StreamShape)
    (outcome : Except QueryError (Pipeline ε α γ)) : Prop where
  refused_iff : ∀ e, outcome = .error e ↔ step.Refused e
  added : ∀ q, outcome = .ok q → ∃ op, p.Adds step kind output q op

/-- What the methods do with a pipeline, each with the kind and the shape that it is named for. -/
structure MethodsRecord (p : Pipeline ε α β) : Prop where
  filter : ∀ keep, p.Records (.filter keep) .filter p.shape (p.filter keep)
  filterBy : ∀ q, p.Records (.filterBy q) .filter p.shape (p.filterBy q)
  takeWhile : ∀ keep, p.Records (.takeWhile keep) .takeWhile p.shape (p.takeWhile keep)
  dropWhile : ∀ drop, p.Records (.dropWhile drop) .dropWhile p.shape (p.dropWhile drop)
  limit : ∀ size, p.Records (.limit size) .limit p.shape (p.limit size)
  skip : ∀ size, p.Records (.skip size) .skip p.shape (p.skip size)
  peek : ∀ observe, p.Records (.peek observe) .peek p.shape (p.peek observe)
  distinct : ∀ [BEq β], p.Records (.distinct (· == ·)) .distinct p.shape p.distinct
  sorted : ∀ [Ord β], p.Records (.sorted Ord.compare) .sorted p.shape p.sorted
  sortedBy : ∀ order, p.Records (.sortedBy order) .sorted p.shape (p.sortedBy order)
  sortedByField : ∀ order, p.Records (.sortedByField order) .sorted p.shape (p.sortedByField order)
  map : ∀ {γ : Type} (f : β → γ), p.Records (.map .elements f) .map .elements (p.map f)
  mapToInt : ∀ f, p.Records (.map .int f) .mapToPrimitive .int (p.mapToInt f)
  mapToLong : ∀ f, p.Records (.map .long f) .mapToPrimitive .long (p.mapToLong f)
  mapToDouble : ∀ f, p.Records (.map .double f) .mapToPrimitive .double (p.mapToDouble f)
  flatMap : ∀ {γ : Type} (f : β → List γ), p.Records (.flatMap .elements f) .flatMap .elements (p.flatMap f)
  flatMapToInt : ∀ f, p.Records (.flatMap .int f) .flatMapToPrimitive .int (p.flatMapToInt f)
  flatMapToLong : ∀ f, p.Records (.flatMap .long f) .flatMapToPrimitive .long (p.flatMapToLong f)
  flatMapToDouble : ∀ f, p.Records (.flatMap .double f) .flatMapToPrimitive .double (p.flatMapToDouble f)

theorem adds_of_add {p : Pipeline ε α β} {step : Step ε β γ} {q : Pipeline ε α γ} (h : p.add step = .ok q) :
    p.Adds step step.kind (step.outputShape p.shape) q (step.record p.shape) := by
  have hadmitted := admitted_of_add h
  obtain rfl := of_add h
  exact
    { operations_eq := rfl
      kind_eq := rfl
      input_eq := rfl
      output_eq := rfl
      shape_eq := OperationSequence.output_append ..
      count_eq := Step.count?_record hadmitted p.shape
      predicate_eq := step.fieldPredicate?_record p.shape
      order_eq := step.fieldOrder?_record p.shape
      runs := by
        intro as
        rw [items_execute, items_execute]
        exact step.runsRecorded_stage p.shape _ }

section Records

variable (p : Pipeline ε α β)

theorem add_eq_error_iff (step : Step ε β γ) (e : QueryError) : p.add step = .error e ↔ step.Refused e := by
  constructor
  · intro h
    by_cases hrefused : ∃ e, step.Refused e
    · obtain ⟨e', hrefused⟩ := hrefused
      rw [p.add_of_refused hrefused] at h
      exact Except.error.inj h ▸ hrefused
    · rw [p.add_of_admitted (not_exists.1 hrefused)] at h
      cases h
  · exact p.add_of_refused

theorem records_add (step : Step ε β γ) : p.Records step step.kind (step.outputShape p.shape) (p.add step) where
  refused_iff := p.add_eq_error_iff step
  added _ hadd := ⟨_, adds_of_add hadd⟩

/-- Each method is the one that its step calls, and its kind and shape are those of the step. -/
theorem methodsRecord : p.MethodsRecord where
  filter keep := p.records_add (.filter keep)
  filterBy q := p.records_add (.filterBy q)
  takeWhile keep := p.records_add (.takeWhile keep)
  dropWhile drop := p.records_add (.dropWhile drop)
  limit size := p.records_add (.limit size)
  skip size := p.records_add (.skip size)
  peek observe := p.records_add (.peek observe)
  distinct := p.records_add (.distinct (· == ·))
  sorted := p.records_add (.sorted Ord.compare)
  sortedBy order := p.records_add (.sortedBy order)
  sortedByField order := p.records_add (.sortedByField order)
  map f := p.records_add (.map .elements f)
  mapToInt f := p.records_add (.map .int f)
  mapToLong f := p.records_add (.map .long f)
  mapToDouble f := p.records_add (.map .double f)
  flatMap f := p.records_add (.flatMap .elements f)
  flatMapToInt f := p.records_add (.flatMap .int f)
  flatMapToLong f := p.records_add (.flatMap .long f)
  flatMapToDouble f := p.records_add (.flatMap .double f)

/-- The factory of a pipeline refuses a step if its method does, and otherwise makes the operation that the method
appends. -/
theorem operation_factory (step : Step ε β γ) :
    (∀ e, step.operation p.factory = .error e ↔ p.add step = .error e) ∧
      ∀ q, p.add step = .ok q → ∃ op, step.operation p.factory = .ok op ∧
        q.operations = ⟨p.operations.source, p.operations.operations ++ [op]⟩ := by
  constructor
  · intro e
    constructor
    · intro h
      rw [add_eq_extend, h]
      rfl
    · intro h
      exact Step.operation_of_refused p.factory ((p.add_eq_error_iff step e).1 h)
  · intro q hadd
    exact ⟨_, Step.operation_of_admitted p.factory (admitted_of_add hadd), (adds_of_add hadd).operations_eq⟩

end Records

/-- The operations of a pipeline stay a chain of shapes as steps are added. -/
theorem chained_of_addAll {source : StreamShape} (steps : Steps ε β γ) :
    ∀ {p : Pipeline ε α β} {q : Pipeline ε α γ}, p.operations.Chained source → p.addAll steps = .ok q →
      q.operations.Chained source := by
  induction steps with
  | nil =>
    intro p q hp h
    cases h
    exact hp
  | cons step rest ih =>
    intro p q hp h
    obtain ⟨next, hadd, hrest⟩ := of_addAll_cons h
    obtain rfl := of_add hadd
    exact ih (hp.append rfl) hrest

/-- A pipeline built by any steps is a chain of shapes, and each method refuses one more step only for the arguments of
the step, a negative count or the operands of a predicate. A step that is added appends one operation, of the kind of
the method, from the shape reached so far to the shape that the method gives, which shows the arguments that the step
runs with. -/
theorem methodsRecord_of_ofSteps {source : StreamShape} {steps : Steps ε α β} {p : Pipeline ε α β}
    (hbuilt : ofSteps source steps = .ok p) : p.operations.Chained source ∧ p.MethodsRecord := by
  have hempty : (Pipeline.operations («over» source : Pipeline ε α α)).Chained source :=
    OperationSequence.chained_empty source
  exact ⟨chained_of_addAll steps hempty hbuilt, p.methodsRecord⟩

/-- After the ages as whole numbers, the first two of them; a negative count is refused. -/
theorem methodsRecord_of_ofSteps_ages :
    let steps : Steps Nat (Nat × Int32) Int32 := .cons (.skip 1) (.cons (.map .int Prod.snd) .nil)
    ∃ (p q : Pipeline Nat (Nat × Int32) Int32) (op : Operation), ofSteps .elements steps = .ok p ∧
      p.limit (-1) = .error (.operation (.negativeCount .limit (-1))) ∧ p.limit 2 = .ok q ∧
      op.kind = .limit ∧ op.input = .int ∧ op.output = .int ∧ op.count? = some 2 ∧
      (q.execute [(1, 20), (2, 30), (3, 40), (4, 50)]).1 = [30, 40] := by
  intro steps
  have hbuilt : ofSteps .elements steps = .ok _ := rfl
  obtain ⟨-, hmethods⟩ := methodsRecord_of_ofSteps hbuilt
  obtain ⟨op, hop⟩ := (hmethods.limit 2).added _ rfl
  refine ⟨_, _, op, hbuilt, ((hmethods.limit (-1)).refused_iff _).2 (.limit (by decide)), rfl, hop.kind_eq,
    hop.input_eq, hop.output_eq, ?_, rfl⟩
  obtain ⟨n, hn, hcount⟩ := Option.map_eq_some_iff.1 hop.count_eq
  have htwo : n = 2 := UInt64.toNat_inj.1 (Int.ofNat_inj.1 hcount)
  rw [hn, htwo]

end Pipeline

end FieldQuery
