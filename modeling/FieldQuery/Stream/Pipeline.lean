/-
Pipelines: sequences of typed steps. Every step is recorded as an operation for planners, and
composed into a stage that runs it in memory.
-/
import FieldQuery.Double.Basic
import FieldQuery.Stream.Factory
import FieldQuery.Stream.Flow
import FieldQuery.Stream.Sequence
import FieldQuery.Stream.Sort

namespace FieldQuery

/-! ## Feeds -/

/-- A stream at the start of a run: the events of setting up the stages, and the flow to pull. -/
structure Feed (ε α : Type) where
  opening : List ε := []
  flow : Flow ε α

namespace Feed

variable {ε α β : Type}

/-- The feed with its flow transformed; nothing is pulled for it. -/
def onFlow (f : Flow ε α → Flow ε β) (feed : Feed ε α) : Feed ε β :=
  ⟨feed.opening, f feed.flow⟩

/-- The feed of the sorted elements. The whole flow is pulled while the stages are set up. -/
def sort (order : α → α → Ordering) (feed : Feed ε α) : Feed ε α :=
  let (items, events) := feed.flow.drain
  ⟨feed.opening ++ events, .ofList (Stream.stableSort order items)⟩

end Feed

/-- Whether a predicate accepts a record; a refused predicate accepts none. -/
def Step.passes {α : Type} (p : Predicate α) (a : α) : Bool :=
  match p.test a with
  | .ok truth => truth
  | .error _ => false

/-- The number of elements that an operation counts, none if it carries no count. -/
def Operation.amount (op : Operation) : Nat :=
  match op.count? with
  | some n => n.toNat
  | none => 0

/-! ## Pipelines -/

/-- A pipeline from elements of type `α` to elements of type `β`: what it runs and what it records. -/
structure Pipeline (ε α β : Type) where
  stage : Feed ε α → Feed ε β
  operations : OperationSequence

namespace Pipeline

variable {ε α β γ : Type}

/-- The pipeline without steps, over a source of the given shape. -/
def «over» (source : StreamShape := .elements) : Pipeline ε α α := ⟨id, .empty source⟩

section Growing

variable (p : Pipeline ε α β)

/-- The shape of the stream after the last step. -/
def shape : StreamShape := p.operations.output

/-- Makes the operations for the stream after the last step. -/
def factory : OperationFactory := ⟨p.shape⟩

/-- The pipeline with one more stage, unless the operation that records it cannot be made or appended. -/
def extend (made : Except QueryError Operation) (next : Operation → Feed ε β → Feed ε γ) :
    Except QueryError (Pipeline ε α γ) :=
  match made with
  | .error e => .error e
  | .ok op =>
    match p.operations.push op with
    | .error e => .error (.operation e)
    | .ok operations => .ok ⟨fun feed => next op (p.stage feed), operations⟩

/-! ## Selection -/

def filter (keep : β → Bool) : Except QueryError (Pipeline ε α β) :=
  p.extend (p.factory.filter.mapError .operation) fun _ => .onFlow (.filter keep)

/-- Selects by a field predicate, whose operands are checked here. -/
def filterBy (q : Predicate β) : Except QueryError (Pipeline ε α β) :=
  p.extend (p.factory.filterBy q) fun _ => .onFlow (.filter (Step.passes q))

def takeWhile (keep : β → Bool) : Except QueryError (Pipeline ε α β) :=
  p.extend (p.factory.takeWhile.mapError .operation) fun _ => .onFlow (.takeWhile keep)

def dropWhile (drop : β → Bool) : Except QueryError (Pipeline ε α β) :=
  p.extend (p.factory.dropWhile.mapError .operation) fun _ => .onFlow (.dropWhile drop)

/-- Cuts after as many elements as the operation counts. -/
def limit (size : Int64) : Except QueryError (Pipeline ε α β) :=
  p.extend ((p.factory.limit size).mapError .operation) fun op => .onFlow (.take op.amount)

/-- Leaves out as many elements as the operation counts. -/
def skip (size : Int64) : Except QueryError (Pipeline ε α β) :=
  p.extend ((p.factory.skip size).mapError .operation) fun op => .onFlow (.drop op.amount)

/-! ## Order and effects -/

def peek (observe : β → ε) : Except QueryError (Pipeline ε α β) :=
  p.extend (p.factory.peek.mapError .operation) fun _ => .onFlow (.peek observe)

/-- Keeps the first occurrence of each element. -/
def distinct [BEq β] : Except QueryError (Pipeline ε α β) :=
  p.extend (p.factory.distinct.mapError .operation) fun _ => .onFlow (.distinct (· == ·) [])

/-- Sorts by the natural order of the elements. -/
def sorted [Ord β] : Except QueryError (Pipeline ε α β) :=
  p.extend (p.factory.sorted.mapError .operation) fun _ => .sort compare

def sortedBy (order : β → β → Ordering) : Except QueryError (Pipeline ε α β) :=
  p.extend (p.factory.sortedBy.mapError .operation) fun _ => .sort order

def sortedByField (order : FieldOrder β) : Except QueryError (Pipeline ε α β) :=
  p.extend ((p.factory.sortedByField order).mapError .operation) fun _ => .sort order.compare

/-! ## Mapping -/

/-- Maps every element to one; the method that calls it gives the kind and the shape of the result. -/
def mapInto (kind : OperationKind) (output : StreamShape) (f : β → γ) : Except QueryError (Pipeline ε α γ) :=
  p.extend ((p.factory.mapping kind output).mapError .operation) fun _ => .onFlow (.map f)

/-- Maps every element to several. -/
def flatMapInto (kind : OperationKind) (output : StreamShape) (f : β → List γ) :
    Except QueryError (Pipeline ε α γ) :=
  p.extend ((p.factory.mapping kind output).mapError .operation) fun _ => .onFlow (.flatMap f)

def map (f : β → γ) : Except QueryError (Pipeline ε α γ) := p.mapInto .map .elements f

def mapToInt (f : β → Int32) : Except QueryError (Pipeline ε α Int32) :=
  p.mapInto .mapToPrimitive .int f

def mapToLong (f : β → Int64) : Except QueryError (Pipeline ε α Int64) :=
  p.mapInto .mapToPrimitive .long f

def mapToDouble (f : β → Double64) : Except QueryError (Pipeline ε α Double64) :=
  p.mapInto .mapToPrimitive .double f

def flatMap (f : β → List γ) : Except QueryError (Pipeline ε α γ) := p.flatMapInto .flatMap .elements f

def flatMapToInt (f : β → List Int32) : Except QueryError (Pipeline ε α Int32) :=
  p.flatMapInto .flatMapToPrimitive .int f

def flatMapToLong (f : β → List Int64) : Except QueryError (Pipeline ε α Int64) :=
  p.flatMapInto .flatMapToPrimitive .long f

def flatMapToDouble (f : β → List Double64) : Except QueryError (Pipeline ε α Double64) :=
  p.flatMapInto .flatMapToPrimitive .double f

end Growing

/-! ## Running and inspecting -/

/-- Runs a pipeline over a source that is pulled as far as the steps need it: the elements it gives,
and the events in the order they happened. -/
def run (p : Pipeline ε α β) (source : Flow ε α) : List β × List ε :=
  let feed := p.stage ⟨[], source⟩
  let (items, events) := feed.flow.drain
  (items, feed.opening ++ events)

/-- Runs a pipeline over a list. -/
def execute (p : Pipeline ε α β) (source : List α) : List β × List ε := p.run (.ofList source)

/-- The account of the steps for a planner. -/
def explain (p : Pipeline ε α β) : Plan := p.operations.explain

/-- The structural text of a pipeline that can still grow. -/
def inspect (p : Pipeline ε α β) : String :=
  "Pipeline \x7b operations: " ++ p.operations.inspect ++ ", .. \x7d"

/-- The structural text of a finished pipeline. -/
def inspectFrozen (p : Pipeline ε α β) : String :=
  "FrozenPipeline \x7b operations: " ++ p.operations.inspectFrozen ++ ", .. \x7d"

end Pipeline

end FieldQuery
