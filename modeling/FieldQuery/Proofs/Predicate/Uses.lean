/-
The ways in which a predicate is used: it is checked on its own, tested on a record, compiled for a
backend, and made an operation or the next step of a pipeline. They refuse the same predicates, with the
error of the operand check. An admitted predicate is refused by compilation alone, and there only if its
attribute has no path or its text has no text as stored form; its test is never refused, so the step of a
pipeline that counts a refused test as false never does so.
-/
import FieldQuery.Compile.Recording
import FieldQuery.Proofs.Compile.Agreement
import FieldQuery.Proofs.Compile.Staged
import FieldQuery.Proofs.Stream.Steps

namespace FieldQuery

/-! ## Unsupported kinds -/

/-- Emission reports a kind as unsupported only if the resolution of the attribute does. -/
theorem CompileContext.resolver_of_emit_unsupported {σ ε ν : Type} (ctx : CompileContext σ ε ν) {c : Condition}
    {name : String} {b : σ} (h : (ctx.emit c b).1 = .error (.unsupportedKind name)) :
    (ctx.resolver c.attr b).1 = .error (.unsupportedKind name) := by
  rcases hcheck : c.check with e | criterion
  · rw [ctx.emit_of_refused hcheck] at h
    cases Except.error.inj h
    exact absurd hcheck (c.check_ne_unsupported name)
  rcases hpath : ctx.resolver c.attr b with ⟨e | path, resolved⟩
  · rw [ctx.emit_of_unresolved hcheck hpath] at h
    exact congrArg Except.error (Except.error.inj h)
  rcases hstored : c.stored criterion with e | ready
  · rw [ctx.emit_of_unstored hcheck hpath hstored] at h
    obtain ⟨found, -, rfl⟩ := (Condition.stored_eq_error_iff hcheck).1 hstored
    cases h
  · rw [ctx.emit_of_stored hcheck hpath hstored] at h
    cases h

theorem CompileContext.emit_of_compile_error {σ ε ν : Type} (ctx : CompileContext σ ε ν) {c : Condition}
    {s : Session σ} {e : PredicateError} (h : (ctx.compile c s).1 = .error e) :
    (ctx.emit c s.backend).1 = .error e := by
  rw [compile_eq] at h
  rcases hemit : ctx.emit c s.backend with ⟨found | ⟨node, strategy⟩, backend⟩
  · rw [hemit] at h
    exact congrArg Except.error (Except.error.inj h)
  · rw [hemit] at h
    cases h

namespace Predicate

variable {ρ : Type}

/-! ## Refusal and admission -/

/-- A predicate is refused with an error wherever it is used. -/
structure RefusedWith (p : Predicate ρ) (e : PredicateError) : Prop where
  validate : p.validate = .error e
  test : ∀ record, p.test record = .error e
  /-- The result and the session after it are the same for every backend and every resolution, and
  the state of the backend is the one before. -/
  compile : ∀ {σ ε ν : Type} (ctx : CompileContext σ ε ν) (s : Session σ), ctx.compile p.toCondition s =
    (.error e, (s.record (.start p.kind p.attr.entity p.attr.column)).record (.error p.kind e.errorClass))
  operation : ∀ f : OperationFactory, f.filterBy p = .error (.predicate e)
  pipeline : ∀ {ε α : Type} (q : Pipeline ε α ρ), q.filterBy p = .error (.predicate e)

/-- A predicate is let through wherever it is used, but for the compilation of an attribute without a path
or of a text without a stored text. -/
structure Admitted (p : Predicate ρ) : Prop where
  validate : p.validate = .ok ()
  /-- What a pipeline takes for the answer of the test is the answer. -/
  test : ∀ record, p.test record = .ok (Step.passes p record)
  operation : ∀ f : OperationFactory, f.filterBy p = .ok (.selection p f.input)
  pipeline : ∀ {ε α : Type} (q : Pipeline ε α ρ), ∃ operations, q.filterBy p =
    .ok ⟨fun feed => Feed.onFlow (.filter (Step.passes p)) (q.stage feed), operations⟩
  unresolved : ∀ {σ ε ν : Type} (ctx : CompileContext σ ε ν) (s : Session σ) {e : PredicateError} {resolved : σ},
    ctx.resolver p.attr s.backend = (.error e, resolved) →
      (ctx.compile p.toCondition s).1 = .error e ∧ (ctx.compile p.toCondition s).2.backend = resolved
  /-- The backend is left as the resolution of the attribute leaves it. -/
  unstored : ∀ {σ ε ν : Type} (ctx : CompileContext σ ε ν) (s : Session σ) {path : ε} {resolved : σ} {found : String},
    ctx.resolver p.attr s.backend = (.ok path, resolved) → p.LosesText found →
      (ctx.compile p.toCondition s).1 = .error (p.invalidOperand found) ∧
        (ctx.compile p.toCondition s).2.backend = resolved
  compiled : ∀ {σ ε ν : Type} (ctx : CompileContext σ ε ν) (s : Session σ) {path : ε} {resolved : σ},
    ctx.resolver p.attr s.backend = (.ok path, resolved) → (¬∃ found, p.LosesText found) →
      ∃ node, (ctx.compile p.toCondition s).1 = .ok node

/-- No use of a predicate reports the name of a kind as unsupported, unless the resolution of the attribute
does. -/
structure Supported (p : Predicate ρ) (name : String) : Prop where
  validate : p.validate ≠ .error (.unsupportedKind name)
  test : ∀ record, p.test record ≠ .error (.unsupportedKind name)
  compile : ∀ {σ ε ν : Type} (ctx : CompileContext σ ε ν) (s : Session σ),
    (ctx.compile p.toCondition s).1 = .error (.unsupportedKind name) →
      (ctx.resolver p.attr s.backend).1 = .error (.unsupportedKind name)
  operation : ∀ f : OperationFactory, f.filterBy p ≠ .error (.predicate (.unsupportedKind name))
  pipeline : ∀ {ε α : Type} (q : Pipeline ε α ρ), q.filterBy p ≠ .error (.predicate (.unsupportedKind name))

variable {p : Predicate ρ} {criterion : Criterion} {e : PredicateError}

theorem test_eq_passes (h : p.check = .ok criterion) (record : ρ) : p.test record = .ok (Step.passes p record) := by
  unfold Step.passes
  rw [test_of_check h]

theorem refusedWith_of_check (h : p.check = .error e) : p.RefusedWith e where
  validate := Condition.validate_of_refused h
  test := test_of_refused h
  compile ctx s := ctx.compile_of_refused s h
  operation f := f.filterBy_of_refused h
  pipeline q := q.filterBy_of_refused h

theorem admitted_of_check (h : p.check = .ok criterion) : p.Admitted where
  validate := Condition.validate_of_check h
  test := test_eq_passes h
  operation f := f.filterBy_of_check h
  pipeline q := ⟨_, q.filterBy_of_check h⟩
  unresolved ctx s _ _ hpath := ctx.compile_of_unresolved s h hpath
  unstored ctx s path resolved found hpath hlost := by
    have hstored : p.stored criterion = .error (p.invalidOperand found) :=
      (Condition.stored_eq_error_iff h).2 ⟨found, hlost, rfl⟩
    exact ctx.compile_of_unstored s h hpath hstored
  compiled ctx s path resolved hpath hkept := by
    rcases hstored : p.stored criterion with e | stored
    · obtain ⟨found, hlost, -⟩ := (Condition.stored_eq_error_iff h).1 hstored
      exact absurd ⟨found, hlost⟩ hkept
    · exact ⟨_, (ctx.compile_of_stored s h hpath hstored).1⟩

theorem supported (p : Predicate ρ) (name : String) : p.Supported name := by
  have hcompile : ∀ {σ ε ν : Type} (ctx : CompileContext σ ε ν) (s : Session σ),
      (ctx.compile p.toCondition s).1 = .error (.unsupportedKind name) →
        (ctx.resolver p.attr s.backend).1 = .error (.unsupportedKind name) :=
    fun ctx s h => ctx.resolver_of_emit_unsupported (ctx.emit_of_compile_error h)
  rcases hcheck : p.check with e | criterion
  · have hrefused := refusedWith_of_check hcheck
    have hne : e ≠ .unsupportedKind name := by
      rintro rfl
      exact p.check_ne_unsupported name hcheck
    exact
      { validate := by rw [hrefused.validate]; simpa using hne
        test := fun record => by rw [hrefused.test]; simpa using hne
        compile := hcompile
        operation := fun f => by rw [hrefused.operation]; simpa using hne
        pipeline := fun q => by rw [hrefused.pipeline]; simpa using hne }
  · have hadmitted := admitted_of_check hcheck
    exact
      { validate := by rw [hadmitted.validate]; nofun
        test := fun record => by rw [hadmitted.test]; nofun
        compile := hcompile
        operation := fun f => by rw [hadmitted.operation]; nofun
        pipeline := fun q => by obtain ⟨_, hq⟩ := hadmitted.pipeline q; rw [hq]; nofun }

/-- Every use of a predicate follows the operand check, and none reports an unsupported kind. Compilation is
the emission that takes the operands in the shape the kind asks for and converts each of them only where
its literal is built: the errors it could meet on the way never come up after a call. -/
theorem uses_follow_check (p : Predicate ρ) :
    (∀ e, p.check = .error e → p.RefusedWith e) ∧ (∀ criterion, p.check = .ok criterion → p.Admitted) ∧
      (∀ name, p.Supported name) ∧
      ∀ {σ ε ν : Type} (ctx : CompileContext σ ε ν), ctx.emit p.toCondition = (ctx.staged p.toCondition).run :=
  ⟨fun _ => refusedWith_of_check, fun _ => admitted_of_check, p.supported, fun ctx => ctx.emit_eq_staged _⟩

/-- Names stored by their length can be tested and selected by how they begin, but not searched for: the
backend hears of the attribute and of nothing else. -/
theorem uses_follow_check_length :
    let length : Value → Value := fun v => match v with
      | .text s => .int (Int64.ofNat s.length)
      | v => v
    let p : Predicate Value :=
      ⟨⟨⟨"person", "name", .text, some ⟨length, id⟩, false⟩, .text .head false false, .one (.text "Li"),
        ⟨true, true⟩⟩, id⟩
    let ctx : CompileContext Recording ExprId NodeId :=
      ⟨Recording.builder, Recording.resolver fun _ => true, .standard⟩
    p.test (.text "Lisa") = .ok true ∧ OperationFactory.filterBy ⟨.elements⟩ p = .ok (.selection p .elements) ∧
      (ctx.compile p.toCondition ⟨{}, none⟩).1 =
        .error (.invalidOperand (.text .head false false) "person.name" .text "i64 after conversion") ∧
      (ctx.compile p.toCondition ⟨{}, none⟩).2.backend.calls = [.expr (.resolve "person.name") ⟨0⟩] := by
  intro length p ctx
  have hcheck : p.check = .ok (.text .head false false "Li") := rfl
  have hadmitted : p.Admitted := p.uses_follow_check.2.1 _ hcheck
  have hlost : p.LosesText "i64 after conversion" := ⟨rfl, .text "Li", rfl, rfl, rfl⟩
  obtain ⟨herror, hbackend⟩ := hadmitted.unstored ctx ⟨{}, none⟩ rfl hlost
  refine ⟨hadmitted.test _, hadmitted.operation _, herror, ?_⟩
  rw [hbackend]
  rfl

end Predicate

end FieldQuery
