/-
A character among the operands means its code point. Writing the integer for the character changes neither what the
check accepts, nor the test in memory, nor the truth of the clause on any row. The clauses themselves may differ, since
only the bound of an order relation is widened when its node is built: there the two nodes are one.
-/
import FieldQuery.Compile.Recording
import FieldQuery.Proofs.Compile.Agreement
import FieldQuery.Proofs.Compile.Outcome
import FieldQuery.Proofs.Value.Coherence

namespace FieldQuery

/-! ## Widened values -/

namespace Value

theorem widenChar_widenChar (v : Value) : v.widenChar.widenChar = v.widenChar := by
  cases v <;> rfl

/-- Two values compare as before once both are widened. -/
theorem compare?_widenChar_both (a b : Value) : a.widenChar.compare? b.widenChar = a.compare? b := by
  rw [compare?_widenChar, compare?_swap, compare?_widenChar, ← compare?_swap]

end Value

/-! ## The operand check -/

namespace Condition

variable (c : Condition)

/-- The condition with the integer of its code point for every character among its operands. -/
def widenChars : Condition := { c with operands := c.operands.map Value.widenChar }

theorem sameFamily_widenChar (v : Value) : c.sameFamily v.widenChar = c.sameFamily v := by
  cases v <;> rfl

theorem acceptsScalar_widenChar (v : Value) : c.acceptsScalar v.widenChar = c.acceptsScalar v := by
  cases v <;> rfl

theorem canBound_widenChar (v : Value) : canBound v.widenChar = canBound v := by
  cases v <;> rfl

/-- Two guarded results succeed alike, whatever the errors say: they name types, which the widening changes. -/
theorem toOption_ite {α ε : Type} {guard : Bool} {a b : α} {e e' : ε} (f : α → α) (h : b = f a) :
    (if guard then Except.ok b else .error e').toOption = (if guard then Except.ok a else .error e).toOption.map f := by
  subst h
  cases guard <;> rfl

/-- The check accepts the widened operands when it accepts the operands, with the widened criterion. -/
theorem toOption_check_widenChars :
    c.widenChars.check.toOption = c.check.toOption.map (·.mapOperands Value.widenChar) := by
  obtain ⟨attr, kind, operands, inclusion⟩ := c
  -- operands of another form are refused on both sides; those of the right form meet the same guard
  rcases operands with _ | v | ⟨first, second⟩
  case none => cases kind <;> first | rfl | exact toOption_ite _ rfl
  case one =>
    cases v with
    | list items =>
      cases kind with
      | member negated =>
        simp only [check, widenChars, Operands.map, List.all_map, Function.comp_def, acceptsScalar_widenChar]
        exact toOption_ite _ rfl
      | _ => rfl
    | _ => cases kind <;> first | rfl | exact toOption_ite _ rfl
  case two =>
    cases kind with
    | between negated =>
      simp only [check, widenChars, Operands.map, canBound_widenChar, Value.compare?_widenChar_both,
        sameFamily_widenChar]
      -- the guards of a range one by one, each with its own error
      cases canBound first && canBound second with
      | false => rfl
      | true =>
        cases (first.compare? second).isNone with
        | true => rfl
        | false => exact toOption_ite _ rfl
    | _ => rfl

variable {c}

theorem check_widenChars {criterion : Criterion} (h : c.check = .ok criterion) :
    c.widenChars.check = .ok (criterion.mapOperands Value.widenChar) := by
  have hwidened := c.toOption_check_widenChars
  rw [h] at hwidened
  rcases hcheck : c.widenChars.check with e | widened
  · rw [hcheck] at hwidened
    cases hwidened
  · rw [hcheck] at hwidened
    exact congrArg Except.ok (Option.some.inj hwidened)

theorem validate_widenChars : c.widenChars.validate = .ok () ↔ c.validate = .ok () := by
  constructor
  · intro h
    obtain ⟨widened, hcheck⟩ := check_of_validate h
    have hwidened := c.toOption_check_widenChars
    rcases horiginal : c.check with e | criterion
    · rw [hcheck, horiginal] at hwidened
      cases hwidened
    · exact validate_of_check horiginal
  · intro h
    obtain ⟨criterion, hcheck⟩ := check_of_validate h
    exact validate_of_check (check_widenChars hcheck)

end Condition

/-! ## Truth and nodes -/

/-- A criterion is as true with its operands widened, of every value. -/
theorem Criterion.truth_widenChar {c : Condition} {criterion : Criterion} (hmeets : c.Meets criterion)
    (mode : NotInMode) (v : Value) :
    (criterion.mapOperands Value.widenChar).truth mode v = criterion.truth mode v := by
  cases criterion with
  | always | null | equalFolded | text | empty => rfl
  | equal | order | between | member =>
    exact truth_mapOperands hmeets nofun nofun mode rfl fun o _ => Value.compare?_widenChar v o

theorem Builder.node_order_widenChar {σ ε ν : Type} (b : Builder σ ε ν) (policy : Policy) (path : ε)
    (relation : OrderRelation) (bound : Value) :
    b.node policy path (.order relation bound.widenChar) = b.node policy path (.order relation bound) := by
  exact congrArg (b.compareWith path relation.compareOp) bound.widenChar_widenChar

/-! ## Agreement -/

/-- Without a conversion, the clause of a condition is that of its criterion. -/
theorem Condition.compile_of_none {c : Condition} (hconverter : c.attr.converter = none) {criterion : Criterion}
    (hcheck : c.check = .ok criterion) {resolver : Resolver Unit Term} {path : Term} (policy : Policy)
    (hpath : resolver c.attr () = (.ok path, ())) (s : Session Unit) :
    (CompileContext.compile ⟨Clause.builder, resolver, policy⟩ c s).1 = .ok (criterion.clause policy path) := by
  rw [compile_clause policy hpath, ready, hcheck]
  simp only [stored_of_none hconverter]
  rfl

namespace Predicate

variable {ρ : Type} {p : Predicate ρ}

/-- The predicate with the integer of its code point for every character among its operands. -/
def widenChars (p : Predicate ρ) : Predicate ρ := ⟨p.toCondition.widenChars, p.read⟩

theorem test_widenChars {criterion : Criterion} (hcheck : p.check = .ok criterion) (record : ρ) :
    p.widenChars.test record = p.test record := by
  have hcheck' : p.widenChars.check = .ok (criterion.mapOperands Value.widenChar) := Condition.check_widenChars hcheck
  rw [test_eq_truth hcheck, test_eq_truth hcheck', Criterion.truth_widenChar (Condition.meets_of_check hcheck)]
  rfl

/-- Without a conversion both predicates compile, into clauses that are equally true on every row. -/
theorem compile_widenChars (hconverter : p.attr.converter = none) {criterion : Criterion}
    (hcheck : p.check = .ok criterion) {resolver : Resolver Unit Term} {path : Term} (policy : Policy)
    (hpath : resolver p.attr () = (.ok path, ())) (s : Session Unit) :
    ∃ clause widened,
      (CompileContext.compile ⟨Clause.builder, resolver, policy⟩ p.toCondition s).1 = .ok clause ∧
      (CompileContext.compile ⟨Clause.builder, resolver, policy⟩ p.widenChars.toCondition s).1 = .ok widened ∧
      ∀ row : Row, widened.eval row = clause.eval row := by
  have hconverter' : p.widenChars.attr.converter = none := hconverter
  refine ⟨criterion.clause policy path, (criterion.mapOperands Value.widenChar).clause policy path, ?_, ?_, ?_⟩
  · exact Condition.compile_of_none hconverter hcheck policy hpath s
  · exact Condition.compile_of_none hconverter' (Condition.check_widenChars hcheck) policy hpath s
  · intro row
    rw [Criterion.eval_clause, Criterion.eval_clause, Criterion.truth_widenChar (Condition.meets_of_check hcheck)]

/-- The node of an order relation is the same for a character and for its code point, whatever the backend. -/
theorem compile_order_widenChars (hconverter : p.attr.converter = none) {criterion : Criterion}
    (hcheck : p.check = .ok criterion) {relation : OrderRelation} (hkind : p.kind = .order relation)
    {σ ε ν : Type} (ctx : CompileContext σ ε ν) (s : Session σ) :
    ctx.compile p.widenChars.toCondition s = ctx.compile p.toCondition s := by
  have hcheck' : p.widenChars.check = .ok (criterion.mapOperands Value.widenChar) := Condition.check_widenChars hcheck
  have hconverter' : p.widenChars.attr.converter = none := hconverter
  have hrelation := Condition.kind_of_check hcheck
  rw [hkind] at hrelation
  cases criterion <;> cases hrelation
  case order bound =>
    refine ctx.compile_congr s hcheck hcheck' rfl rfl rfl rfl (Condition.stored_of_none hconverter _)
      (Condition.stored_of_none hconverter' _) fun path => ?_
    exact ctx.builder.node_order_widenChar ctx.policy path relation bound

/-- A character among the operands means its code point, also as an item of a list: the predicate with the integer
written for it is valid when the predicate is, and then it tests every record alike and its clause is equally true on
every row, under every policy. For an order relation both compile to one node. -/
theorem agrees_widenChars (hconverter : p.attr.converter = none) :
    (p.widenChars.validate = .ok () ↔ p.validate = .ok ()) ∧
    (p.validate = .ok () →
      (∀ record, p.widenChars.test record = p.test record) ∧
      (∀ {resolver : Resolver Unit Term} {path : Term} (policy : Policy) (s : Session Unit),
        resolver p.attr () = (.ok path, ()) → ∃ clause widened,
          (CompileContext.compile ⟨Clause.builder, resolver, policy⟩ p.toCondition s).1 = .ok clause ∧
          (CompileContext.compile ⟨Clause.builder, resolver, policy⟩ p.widenChars.toCondition s).1 = .ok widened ∧
          ∀ row : Row, widened.eval row = clause.eval row) ∧
      ∀ {σ ε ν : Type} (ctx : CompileContext σ ε ν) (s : Session σ) (relation : OrderRelation),
        p.kind = .order relation → ctx.compile p.widenChars.toCondition s = ctx.compile p.toCondition s) := by
  refine ⟨Condition.validate_widenChars, fun hvalid => ?_⟩
  obtain ⟨criterion, hcheck⟩ := Condition.check_of_validate hvalid
  refine ⟨test_widenChars hcheck, ?_, ?_⟩
  · intro resolver path policy s hpath
    exact compile_widenChars hconverter hcheck policy hpath s
  · intro σ ε ν ctx s relation hkind
    exact compile_order_widenChars hconverter hcheck hkind ctx s

/-- The float 65 is in a list for the character 'A' as it is for the integer 65, and the bound 'A' is written down as
that integer. -/
theorem agrees_widenChars_code :
    let code : Attribute := ⟨"glyph", "code", .uint, none, false⟩
    let listed : Predicate Value := ⟨⟨code, .member false, .one (.list [.char 'A', .uint 97]), ⟨true, true⟩⟩, id⟩
    let below : Predicate Value := ⟨⟨code, .order .less, .one (.char 'A'), ⟨true, true⟩⟩, id⟩
    let ctx : CompileContext Recording ExprId NodeId :=
      ⟨Recording.builder, Recording.resolver fun _ => true, .standard⟩
    let sixtyFive : Value := .float ⟨0x4050400000000000⟩
    code.converter = none ∧ listed.validate = .ok () ∧ below.validate = .ok () ∧
      listed.widenChars.operands = .one (.list [.int 65, .uint 97]) ∧
      listed.widenChars.test sixtyFive = .ok true ∧
      (∃ clause, listed.widenChars.toClause = .ok clause ∧ clause.eval (fun _ => sixtyFive) = some true) ∧
      (ctx.compile below.toCondition ⟨{}, none⟩).2.backend.calls =
        [.expr (.resolve "glyph.code") ⟨0⟩, .expr (.literal (.int 65)) ⟨1⟩, .node (.compare ⟨0⟩ .lt ⟨1⟩) ⟨0⟩] := by
  intro code listed below ctx sixtyFive
  have hlisted : listed.validate = .ok () := rfl
  have hbelow : below.validate = .ok () := rfl
  have hcolumn : Clause.columns none code () = (.ok (.column "code"), ()) := rfl
  obtain ⟨htest, hclauses, -⟩ := (agrees_widenChars (p := listed) rfl).2 hlisted
  obtain ⟨-, -, hnode⟩ := (agrees_widenChars (p := below) rfl).2 hbelow
  refine ⟨rfl, hlisted, hbelow, rfl, ?_, ?_, ?_⟩
  · rw [htest]
    rfl
  · obtain ⟨clause, widened, hclause, hwidened, heval⟩ := hclauses .standard ⟨(), none⟩ hcolumn
    obtain rfl := Except.ok.inj hclause
    refine ⟨widened, hwidened, ?_⟩
    rw [heval]
    decide
  · rw [← hnode ctx ⟨{}, none⟩ .less rfl]
    rfl

end Predicate

end FieldQuery
