/-
The outcomes of compilation, whatever the backend. There are four: the operands are refused before
anything else happens; the resolution of the attribute fails; a text to search for has no text as its
stored form; or the backend builds the node of the stored criterion. In the first the backend is not
touched, in the second and the third only the resolution has touched it.
-/
import FieldQuery.Proofs.Compile.Negation

namespace FieldQuery

/-! ## Texts without a stored text -/

namespace Condition

theorem storedText_eq_error_iff {c : Condition} {s : String} {e : PredicateError} :
    c.storedText s = .error e ↔ (c.attr.toStore (.text s)).asText? = none ∧
      e = c.invalidOperand ((c.attr.toStore (.text s)).typeText ++ " after conversion") := by
  unfold storedText
  cases c.attr.toStore (.text s) <;> simp [Value.asText?, eq_comm]

/-- The operand of a condition is a text to search for, and its stored form is no text: `found`
describes it. -/
def LosesText (c : Condition) (found : String) : Prop :=
  c.kind.contract = .text ∧ ∃ v, c.operands = .one v ∧ (c.attr.toStore v).asText? = none ∧
    found = (c.attr.toStore v).typeText ++ " after conversion"

theorem stored_eq_error_iff {c : Condition} {criterion : Criterion} (hcheck : c.check = .ok criterion)
    {e : PredicateError} : c.stored criterion = .error e ↔ ∃ found, c.LosesText found ∧ e = c.invalidOperand found := by
  obtain ⟨hkind, hoperands, -⟩ := (check_eq_ok_iff c criterion).1 hcheck
  -- the two criteria about texts; no other one is ever refused
  have htext : ∀ {s : String}, c.kind.contract = .text → c.operands = .one (.text s) →
      (c.storedText s = .error e ↔ ∃ found, c.LosesText found ∧ e = c.invalidOperand found) := by
    intro s hcontract hone
    rw [storedText_eq_error_iff]
    constructor
    · rintro ⟨hnone, rfl⟩
      exact ⟨_, ⟨hcontract, _, hone, hnone, rfl⟩, rfl⟩
    · rintro ⟨found, ⟨-, v, hv, hnone, rfl⟩, rfl⟩
      cases hone.symm.trans hv
      exact ⟨hnone, rfl⟩
  have hother : c.kind.contract ≠ .text → ¬∃ found, c.LosesText found ∧ e = c.invalidOperand found := by
    rintro hcontract ⟨found, ⟨htext, -⟩, -⟩
    exact hcontract htext
  cases criterion with
  | equalFolded negated s =>
    rw [stored_equalFolded, ← htext (by rw [← hkind]; rfl) hoperands.symm]
    cases c.storedText s <;> simp [Except.map]
  | text anchor folded negated s =>
    rw [stored_text, ← htext (by rw [← hkind]; rfl) hoperands.symm]
    cases c.storedText s <;> simp [Except.map]
  | _ =>
    refine iff_of_false (by simp [stored]) (hother ?_)
    rw [← hkind]
    simp [Criterion.kind, PredicateKind.contract]

end Condition

/-! ## Strategies -/

/-- The strategy of a criterion depends on its kind alone. -/
theorem Criterion.strategy_congr {c d : Criterion} (h : d.kind = c.kind) : d.strategy = c.strategy := by
  cases c <;> cases d <;> first | rfl | cases h

/-! ## Outcomes -/

namespace CompileContext

variable {σ ε ν : Type} (ctx : CompileContext σ ε ν) {c : Condition}

/-- Compilation of refused operands asks nothing of the backend. -/
theorem emit_of_refused {e : PredicateError} (hcheck : c.check = .error e) : ctx.emit c = pure (.error e) := by
  unfold emit
  rw [hcheck]

theorem emit_of_unresolved {criterion : Criterion} {e : PredicateError} {b resolved : σ}
    (hcheck : c.check = .ok criterion) (hpath : ctx.resolver c.attr b = (.error e, resolved)) :
    ctx.emit c b = (.error e, resolved) := by
  unfold emit
  simp only [hcheck, bind, StateT.bind, hpath]
  rfl

theorem emit_of_unstored {criterion : Criterion} {path : ε} {e : PredicateError} {b resolved : σ}
    (hcheck : c.check = .ok criterion) (hpath : ctx.resolver c.attr b = (.ok path, resolved))
    (hstored : c.stored criterion = .error e) : ctx.emit c b = (.error e, resolved) := by
  unfold emit
  simp only [hcheck, bind, StateT.bind, hpath, hstored]
  rfl

theorem emit_of_stored {criterion stored : Criterion} {path : ε} {b resolved : σ}
    (hcheck : c.check = .ok criterion) (hpath : ctx.resolver c.attr b = (.ok path, resolved))
    (hstored : c.stored criterion = .ok stored) :
    ctx.emit c b = (.ok ((ctx.builder.node ctx.policy path stored resolved).1, criterion.strategy),
      (ctx.builder.node ctx.policy path stored resolved).2) := by
  unfold emit
  simp only [hcheck, bind, StateT.bind, hpath, hstored]
  rfl

variable (s : Session σ)

/-- The result of a compilation and the session after it, from the node or the error and the state of
the backend. -/
def conclude (kind : PredicateKind) (started : Session σ) :
    Except PredicateError (ν × String) × σ → Except PredicateError ν × Session σ
  | (.ok (node, strategy), backend) =>
    (.ok node, Session.record (.finish kind strategy) { started with backend := backend })
  | (.error e, backend) => (.error e, Session.record (.error kind e.errorClass) { started with backend := backend })

theorem compile_eq (c : Condition) : ctx.compile c s =
    conclude c.kind (s.record (.start c.kind c.attr.entity c.attr.column)) (ctx.emit c s.backend) := by
  have hrun : (ctx.emit c).run (s.record (.start c.kind c.attr.entity c.attr.column)).backend =
    ctx.emit c s.backend := rfl
  unfold compile
  simp only [hrun]
  rcases ctx.emit c s.backend with ⟨e | ⟨node, strategy⟩, backend⟩ <;> rfl

/-- Refused operands leave the session as it was, but for the two events of a failure; neither the
backend nor the resolution has a part in it. -/
theorem compile_of_refused {e : PredicateError} (hcheck : c.check = .error e) :
    ctx.compile c s =
      (.error e, (s.record (.start c.kind c.attr.entity c.attr.column)).record (.error c.kind e.errorClass)) := by
  rw [compile_eq, emit_of_refused ctx hcheck]
  rfl

theorem compile_of_unresolved {criterion : Criterion} {e : PredicateError} {resolved : σ}
    (hcheck : c.check = .ok criterion) (hpath : ctx.resolver c.attr s.backend = (.error e, resolved)) :
    (ctx.compile c s).1 = .error e ∧ (ctx.compile c s).2.backend = resolved := by
  rw [compile_eq, emit_of_unresolved ctx hcheck hpath]
  exact ⟨rfl, rfl⟩

theorem compile_of_unstored {criterion : Criterion} {path : ε} {e : PredicateError} {resolved : σ}
    (hcheck : c.check = .ok criterion) (hpath : ctx.resolver c.attr s.backend = (.ok path, resolved))
    (hstored : c.stored criterion = .error e) :
    (ctx.compile c s).1 = .error e ∧ (ctx.compile c s).2.backend = resolved := by
  rw [compile_eq, emit_of_unstored ctx hcheck hpath hstored]
  exact ⟨rfl, rfl⟩

theorem compile_of_stored {criterion stored : Criterion} {path : ε} {resolved : σ}
    (hcheck : c.check = .ok criterion) (hpath : ctx.resolver c.attr s.backend = (.ok path, resolved))
    (hstored : c.stored criterion = .ok stored) :
    (ctx.compile c s).1 = .ok (ctx.builder.node ctx.policy path stored resolved).1 ∧
      (ctx.compile c s).2.backend = (ctx.builder.node ctx.policy path stored resolved).2 := by
  rw [compile_eq, emit_of_stored ctx hcheck hpath hstored]
  exact ⟨rfl, rfl⟩

/-! ## Conditions compiled alike -/

/-- Two conditions with the same events and the same resolution, whose stored criteria have the same node on every
path, compile alike: to the same node or the same error, in the same session. -/
theorem compile_congr {d : Condition} {criterion criterion' stored stored' : Criterion}
    (hcheck : c.check = .ok criterion) (hcheck' : d.check = .ok criterion') (hkind : d.kind = c.kind)
    (hentity : d.attr.entity = c.attr.entity) (hcolumn : d.attr.column = c.attr.column)
    (hpath : ctx.resolver d.attr s.backend = ctx.resolver c.attr s.backend)
    (hstored : c.stored criterion = .ok stored) (hstored' : d.stored criterion' = .ok stored')
    (hnode : ∀ path, ctx.builder.node ctx.policy path stored' = ctx.builder.node ctx.policy path stored) :
    ctx.compile d s = ctx.compile c s := by
  have hstrategy : criterion'.strategy = criterion.strategy := by
    apply Criterion.strategy_congr
    rw [Condition.kind_of_check hcheck', hkind, Condition.kind_of_check hcheck]
  have hemit : ctx.emit d s.backend = ctx.emit c s.backend := by
    rcases hresolved : ctx.resolver c.attr s.backend with ⟨e | path, resolved⟩
    · rw [ctx.emit_of_unresolved hcheck hresolved, ctx.emit_of_unresolved hcheck' (hpath.trans hresolved)]
    · rw [ctx.emit_of_stored hcheck hresolved hstored, ctx.emit_of_stored hcheck' (hpath.trans hresolved) hstored',
        hnode, hstrategy]
  rw [compile_eq, compile_eq, hemit, hkind, hentity, hcolumn]

end CompileContext

end FieldQuery
