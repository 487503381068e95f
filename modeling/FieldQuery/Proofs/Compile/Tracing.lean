/-
What a listener hears of a run of compilations. It hears two events of each, the start and then the one end that tells
how the compilation went, in the order of the calls. That someone listens changes nothing: the results and the backend
are those of the run that nobody listens to.
-/
import FieldQuery.Proofs.Compile.Outcome

namespace FieldQuery

variable {σ ε ν : Type}

/-! ## Strategies -/

/-- The strategy by which conditions of a contract are compiled. -/
def OperandContract.strategy : OperandContract → String
  | none => "zero_operand"
  | scalar | ordered | text => "single_operand"
  | range => "dual_bound_range"
  | set => "set_membership"

/-- The form of checked operands is that of the contract. -/
theorem Criterion.strategy_eq (criterion : Criterion) : criterion.strategy = criterion.kind.contract.strategy := by
  cases criterion <;> rfl

theorem CompileContext.strategy_of_emit (ctx : CompileContext σ ε ν) {c : Condition} {b after : σ} {node : ν}
    {strategy : String} (h : ctx.emit c b = (.ok (node, strategy), after)) : strategy = c.kind.contract.strategy := by
  rcases hcheck : c.check with e | criterion
  · rw [ctx.emit_of_refused hcheck] at h
    cases h
  rcases hpath : ctx.resolver c.attr b with ⟨e | path, resolved⟩
  · rw [ctx.emit_of_unresolved hcheck hpath] at h
    cases h
  rcases hstored : c.stored criterion with e | stored
  · rw [ctx.emit_of_unstored hcheck hpath hstored] at h
    cases h
  · rw [ctx.emit_of_stored hcheck hpath hstored] at h
    cases h
    rw [criterion.strategy_eq, Condition.kind_of_check hcheck]

/-! ## One compilation -/

/-- The end of the compilation of a condition with the given result: with the strategy of the contract if there is a
node, with the class of the error if there is none. -/
def Condition.finalEvent (c : Condition) : Except PredicateError ν → TraceEvent
  | .ok _ => .finish c.kind c.kind.contract.strategy
  | .error e => .error c.kind e.errorClass

/-- What a listener hears of the compilation of a condition with the given result. -/
def Condition.events (c : Condition) (result : Except PredicateError ν) : List TraceEvent :=
  [.start c.kind c.attr.entity c.attr.column, c.finalEvent result]

theorem Session.heard_append (trace : Option (List TraceEvent)) (before later : List TraceEvent) :
    (trace.map (· ++ before)).map (· ++ later) = trace.map (· ++ (before ++ later)) := by
  rcases trace with _ | heard
  · rfl
  · exact congrArg some (List.append_assoc heard before later)

/-- A compilation does what it does when nobody listens, and a listener hears its two events. -/
theorem CompileContext.compile_eq_quiet (ctx : CompileContext σ ε ν) (c : Condition) (s : Session σ) :
    ctx.compile c s =
      let quiet := ctx.compile c ⟨s.backend, none⟩
      (quiet.1, ⟨quiet.2.backend, s.trace.map (· ++ c.events quiet.1)⟩) := by
  rw [compile_eq, compile_eq]
  rcases hemit : ctx.emit c s.backend with ⟨e | ⟨node, strategy⟩, backend⟩
  · exact Prod.ext rfl (congrArg (Session.mk backend) (Session.heard_append s.trace _ _))
  · obtain rfl := ctx.strategy_of_emit hemit
    exact Prod.ext rfl (congrArg (Session.mk backend) (Session.heard_append s.trace _ _))

/-! ## Runs -/

/-- One compilation of a run. The compilations of a run may differ in everything but the state of the backend. -/
structure Call (σ : Type) where
  {ε ν : Type}
  context : CompileContext σ ε ν
  condition : Condition

/-- A compilation with its result. -/
structure Reply (σ : Type) where
  call : Call σ
  result : Except PredicateError call.ν

/-- What a listener hears of a compilation with this result. -/
def Reply.events (reply : Reply σ) : List TraceEvent := reply.call.condition.events reply.result

/-- Compiles one condition after the other in a session. -/
def compileAll : List (Call σ) → Session σ → List (Reply σ) × Session σ
  | [], s => ([], s)
  | call :: rest, s =>
    let (result, next) := call.context.compile call.condition s
    let (replies, last) := compileAll rest next
    (⟨call, result⟩ :: replies, last)

/-- A run does what it does when nobody listens, and a listener hears the events of its compilations in a row. -/
theorem compileAll_eq_quiet (calls : List (Call σ)) : ∀ s : Session σ,
    compileAll calls s =
      let quiet := compileAll calls ⟨s.backend, none⟩
      (quiet.1, ⟨quiet.2.backend, s.trace.map (· ++ quiet.1.flatMap Reply.events)⟩) := by
  induction calls with
  | nil =>
    rintro ⟨b, _ | heard⟩
    · rfl
    · exact Prod.ext rfl (congrArg (fun trace => Session.mk b (some trace)) (List.append_nil heard).symm)
  | cons call rest ih =>
    intro s
    rcases hquiet : call.context.compile call.condition ⟨s.backend, none⟩ with ⟨result, after⟩
    have hcompile : call.context.compile call.condition s =
        (result, ⟨after.backend, s.trace.map (· ++ call.condition.events result)⟩) := by
      rw [call.context.compile_eq_quiet, hquiet]
    simp only [compileAll, hquiet, hcompile]
    rw [ih after, ih ⟨after.backend, _⟩]
    exact Prod.ext rfl (congrArg (Session.mk _) (Session.heard_append s.trace _ _))

theorem map_call_compileAll (calls : List (Call σ)) : ∀ s : Session σ,
    (compileAll calls s).1.map Reply.call = calls := by
  induction calls with
  | nil => exact fun _ => rfl
  | cons call rest ih => exact fun s => congrArg (call :: ·) (ih _)

/-- Traces are faithful and inert. Whoever listens to a run of compilations, with any conditions, backends, resolvers
and policies, the results and the backend are those of the same run without a listener. What is heard of it, after what
was heard before, are two events for each compilation in the order of the calls: its start, with the kind, the entity
and the column, and then either the strategy of the contract of its kind, if there is a node, or the class of the
error. -/
theorem compileAll_traced (calls : List (Call σ)) (b : σ) (heard : List TraceEvent) :
    let quiet := compileAll calls ⟨b, none⟩
    let traced := compileAll calls ⟨b, some heard⟩
    traced.1 = quiet.1 ∧ traced.2.backend = quiet.2.backend ∧ traced.1.map Reply.call = calls ∧
      traced.2.trace = some (heard ++ traced.1.flatMap Reply.events) := by
  intro quiet traced
  have htraced : traced = (quiet.1, ⟨quiet.2.backend, some (heard ++ quiet.1.flatMap Reply.events)⟩) :=
    compileAll_eq_quiet calls ⟨b, some heard⟩
  have hcalls : traced.1.map Reply.call = calls := map_call_compileAll calls _
  rw [htraced] at hcalls ⊢
  exact ⟨rfl, rfl, hcalls, rfl⟩

end FieldQuery
