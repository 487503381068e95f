/-
Folding is one function for records, for operands and for rows. It is the lower-casing that a clause does to a column,
and folded twice a text stays as it is. A question that ignores letter case is therefore the same question once its
operand is folded: the test in memory has the same result, and compilation the same node or the same error.
-/
import FieldQuery.Proofs.Compile.Conversion
import FieldQuery.Proofs.Text.Casing

namespace FieldQuery

/-! ## Kinds that ignore letter case -/

/-- The questions that ignore letter case. -/
def PredicateKind.ignoresCase : PredicateKind → Bool
  | equalFolded _ => true
  | text _ folded _ => folded
  | _ => false

theorem PredicateKind.ignoresCase_iff {kind : PredicateKind} : kind.ignoresCase = true ↔
    (∃ negated, kind = .equalFolded negated) ∨ ∃ anchor negated, kind = .text anchor true negated := by
  constructor
  · intro h
    cases kind with
    | equalFolded negated => exact .inl ⟨negated, rfl⟩
    | text anchor folded negated =>
      obtain rfl : folded = true := h
      exact .inr ⟨anchor, negated, rfl⟩
    | _ => cases h
  · rintro (⟨negated, rfl⟩ | ⟨anchor, negated, rfl⟩) <;> rfl

/-! ## Folded operands -/

namespace Value

theorem typeText_casefold (v : Value) : v.casefold.typeText = v.typeText := by
  cases v <;> rfl

theorem typeTexts_casefold (items : List Value) : typeTexts (items.map casefold) = typeTexts items := by
  induction items with
  | nil => rfl
  | cons item rest ih =>
    rw [List.map_cons, typeTexts, typeTexts, item.typeText_casefold, ih]

end Value

/-- Folding changes the type of no operand. -/
theorem Operands.typeText_casefold (o : Operands) : (o.map Value.casefold).typeText = o.typeText := by
  rcases o with _ | v | ⟨first, second⟩
  case none => rfl
  case one =>
    cases v with
    | list items =>
      show Value.typeText (.list _) = _
      rw [Value.typeText, Value.typeTexts_casefold]
      rfl
    | _ => rfl
  case two => rw [map, typeText, first.typeText_casefold, second.typeText_casefold, typeText]

namespace Criterion

/-- The criterion with its operand folded if letter case is ignored. -/
def casefold : Criterion → Criterion
  | equalFolded negated s => equalFolded negated (Text.casefold s)
  | text anchor true negated s => text anchor true negated (Text.casefold s)
  | c => c

/-- A needle is found folded where it is found, if letter case is ignored. -/
theorem holdsText_casefold (anchor : Text.Anchor) (text needle : String) :
    holdsText anchor true text (Text.casefold needle) = holdsText anchor true text needle :=
  congrArg (anchor.holds (Text.casefold text)) (Text.casefold_casefold needle)

/-- A value meets the folded criterion when it meets the criterion. -/
theorem accepts_casefold (c : Criterion) (v : Value) : c.casefold.accepts v = c.accepts v := by
  cases c with
  | equalFolded negated s =>
    cases v with
    | text t => simp only [casefold, accepts, acceptsPresent, Text.casefold_casefold]
    | _ => rfl
  | text anchor folded negated s =>
    cases folded with
    | false => rfl
    | true =>
      cases v with
      | text t => simp only [casefold, accepts, acceptsPresent, holdsText_casefold]
      | _ => rfl
  | _ => rfl

end Criterion

/-- The folded criterion has the node of the criterion. -/
theorem Builder.node_casefold {σ ε ν : Type} (b : Builder σ ε ν) (policy : Policy) (path : ε) (c : Criterion) :
    b.node policy path c.casefold = b.node policy path c := by
  cases c with
  | equalFolded negated s => simp only [Criterion.casefold, node, Text.casefold_casefold]
  | text anchor folded negated s =>
    cases folded with
    | false => rfl
    | true =>
      exact congrArg (fun needle => b.search path ⟨anchor, needle, policy.likeEscape⟩ true negated)
        (Text.casefold_casefold s)
  | _ => rfl

/-! ## The operand check -/

namespace Condition

variable (c : Condition)

/-- The condition with every text among its operands folded. -/
def foldOperands : Condition := { c with operands := c.operands.map Value.casefold }

/-- A refusal has the same words for folded operands. -/
theorem invalidOperand_foldOperands :
    c.foldOperands.invalidOperand c.foldOperands.operands.typeText = c.invalidOperand c.operands.typeText :=
  congrArg c.invalidOperand c.operands.typeText_casefold

variable {c}

/-- If letter case is ignored, the check accepts the folded operands when it accepts the operands, with the folded
criterion, and it refuses them with the same error. -/
theorem check_foldOperands (h : c.kind.ignoresCase = true) : c.foldOperands.check = c.check.map Criterion.casefold := by
  have hwords := c.invalidOperand_foldOperands
  obtain ⟨attr, kind, operands, inclusion⟩ := c
  rcases PredicateKind.ignoresCase_iff.1 h with ⟨negated, rfl⟩ | ⟨anchor, negated, rfl⟩
  all_goals
    rcases operands with _ | v | ⟨first, second⟩
    case one =>
      cases v with
      | text s =>
        -- the guard asks for the kind of the attribute only
        obtain ⟨entity, column, held, converter, unique⟩ := attr
        cases held <;> rfl
      | _ => exact congrArg Except.error hwords
    all_goals exact congrArg Except.error hwords

end Condition

/-! ## Folded questions -/

/-- Compilation has the same outcome for the folded operands: the same node or the same error, in the same session. -/
theorem CompileContext.compile_foldOperands {σ ε ν : Type} (ctx : CompileContext σ ε ν) (s : Session σ) {c : Condition}
    (hcase : c.kind.ignoresCase = true) (hconverter : c.attr.converter = none) :
    ctx.compile c.foldOperands s = ctx.compile c s := by
  have hfolded := Condition.check_foldOperands hcase
  rcases hcheck : c.check with e | criterion
  · rw [hcheck] at hfolded
    rw [ctx.compile_of_refused s hcheck, ctx.compile_of_refused s hfolded]
    rfl
  · rw [hcheck] at hfolded
    have hconverter' : c.foldOperands.attr.converter = none := hconverter
    exact ctx.compile_congr s hcheck hfolded rfl rfl rfl rfl (Condition.stored_of_none hconverter _)
      (Condition.stored_of_none hconverter' _) fun path => ctx.builder.node_casefold ctx.policy path criterion

namespace Predicate

variable {ρ : Type} {p : Predicate ρ}

/-- The predicate with every text among its operands folded. -/
def foldOperands (p : Predicate ρ) : Predicate ρ := ⟨p.toCondition.foldOperands, p.read⟩

/-- A test has the same result for the folded operands. -/
theorem test_foldOperands (hcase : p.kind.ignoresCase = true) (record : ρ) :
    p.foldOperands.test record = p.test record := by
  have hfolded : p.foldOperands.check = p.check.map Criterion.casefold := Condition.check_foldOperands hcase
  rcases hcheck : p.check with e | criterion
  · rw [hcheck] at hfolded
    rw [test_of_refused hcheck, test_of_refused hfolded]
  · rw [hcheck] at hfolded
    rw [test_of_check hcheck, test_of_check hfolded, Criterion.accepts_casefold]
    rfl

/-- Folding is what a clause does to lower the case of a column, and folding twice is folding once. A predicate that
ignores letter case is therefore the same with its operands folded: every record has the same test, and without a
conversion every backend gets the same node. -/
theorem agrees_foldOperands :
    (∀ s, Text.casefold s = Text.lowercase s) ∧
    (∀ (row : Row) (t : Term) (s : String), t.eval row = .text s → t.lower.eval row = .text (Text.casefold s)) ∧
    (∀ s, Text.casefold (Text.casefold s) = Text.casefold s) ∧
    ∀ {ρ : Type} (p : Predicate ρ), p.kind.ignoresCase = true →
      (∀ record, p.foldOperands.test record = p.test record) ∧
      (p.attr.converter = none → ∀ {σ ε ν : Type} (ctx : CompileContext σ ε ν) (s : Session σ),
        ctx.compile p.foldOperands.toCondition s = ctx.compile p.toCondition s) := by
  refine ⟨Text.casefold_eq_lowercase, ?_, Text.casefold_casefold, ?_⟩
  · intro row t s h
    rw [Term.eval, h, Text.casefold_eq_lowercase]
  · intro ρ p hcase
    exact ⟨test_foldOperands hcase, fun hconverter σ ε ν ctx s => ctx.compile_foldOperands s hcase hconverter⟩

/-- The capital I with a dot becomes two characters, and the sigma behind it takes its final form; folded again, both
stay, in memory and in the clause. -/
theorem agrees_foldOperands_dotted :
    let name : Attribute := ⟨"person", "name", .text, none, false⟩
    let p : Predicate Value := ⟨⟨name, .text .tail true false, .one (.text "İΣ"), ⟨true, true⟩⟩, id⟩
    p.kind.ignoresCase = true ∧ name.converter = none ∧ p.foldOperands.operands = .one (.text "i\u0307ς") ∧
      p.foldOperands.test (.text "ΑİΣ") = .ok true ∧
      p.foldOperands.toClause = .ok (.like (.lower (.column "name")) ⟨.tail, "i\u0307ς", '\\'⟩ false) := by
  intro name p
  obtain ⟨-, -, -, hfolded⟩ := agrees_foldOperands
  obtain ⟨htest, hcompile⟩ := hfolded p rfl
  have hneedle : Text.casefold "İΣ" = "i\u0307ς" := by decide +kernel
  have hclause : p.foldOperands.toClause = p.toClause :=
    congrArg Prod.fst (hcompile rfl (Clause.context .standard none) ⟨(), none⟩)
  refine ⟨rfl, rfl, congrArg (fun s => Operands.one (.text s)) hneedle, ?_, ?_⟩
  · have hcheck : p.check = .ok (.text .tail true false "İΣ") := rfl
    rw [htest, p.test_of_check hcheck]
    exact congrArg Except.ok (by decide +kernel)
  · rw [hclause, ← hneedle]
    rfl

end Predicate

end FieldQuery
