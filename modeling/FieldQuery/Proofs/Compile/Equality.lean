/-
Equal predicates on one field cannot be told apart. Their operands may differ in the signs of zeros, at any depth of a
list, and neither the operand check, nor the test in memory, nor the truth of the clause on a row sees these. Without a
conversion the clauses themselves are equal.
-/
import FieldQuery.Proofs.Compile.Widening
import FieldQuery.Proofs.Value.Equality

namespace FieldQuery

/-- Two outcomes are one refusal, or results that stand so to each other. -/
inductive SameOutcome {α : Type} (R : α → α → Prop) : Except PredicateError α → Except PredicateError α → Prop where
  | refused {e e' : PredicateError} (h : e = e') : SameOutcome R (.error e) (.error e')
  | accepted {a b : α} (h : R a b) : SameOutcome R (.ok a) (.ok b)

/-! ## Criteria with equal operands -/

theorem Operands.typeText_of_same {o p : Operands} (h : o.same p = true) : o.typeText = p.typeText := by
  cases o with
  | none =>
    cases p with
    | none => rfl
    | _ => cases h
  | one v =>
    cases p with
    | one w => exact Value.typeText_of_same v w h
    | _ => cases h
  | two first second =>
    cases p with
    | two first' second' =>
      obtain ⟨hfirst, hsecond⟩ := Bool.and_eq_true_iff.1 h
      simp only [typeText, Value.typeText_of_same first first' hfirst, Value.typeText_of_same second second' hsecond]
    | _ => cases h

/-- Criteria of one kind with equal operands. -/
inductive Criterion.Alike : Criterion → Criterion → Prop where
  | always (truth : Bool) : Alike (.always truth) (.always truth)
  | null (negated : Bool) : Alike (.null negated) (.null negated)
  | empty (negated : Bool) : Alike (.empty negated) (.empty negated)
  | equalFolded (negated : Bool) (s : String) : Alike (.equalFolded negated s) (.equalFolded negated s)
  | text (anchor : Text.Anchor) (folded negated : Bool) (s : String) :
    Alike (.text anchor folded negated s) (.text anchor folded negated s)
  | equal (negated : Bool) {v w : Value} (h : v.same w = true) : Alike (.equal negated v) (.equal negated w)
  | order (relation : OrderRelation) {v w : Value} (h : v.same w = true) : Alike (.order relation v) (.order relation w)
  | between (negated : Bool) {first second first' second' : Value} (inclusion : Inclusion)
    (hfirst : first.same first' = true) (hsecond : second.same second' = true) :
    Alike (.between negated first second inclusion) (.between negated first' second' inclusion)
  | member (negated : Bool) {items items' : List Value} (h : Value.sameList items items' = true) :
    Alike (.member negated items) (.member negated items')

namespace Condition

theorem sameFamily_of_same (c : Condition) {v w : Value} (h : v.same w = true) : c.sameFamily v = c.sameFamily w := by
  unfold sameFamily Value.family
  rw [Value.kind_of_same h]

theorem acceptsScalar_of_same (c : Condition) {v w : Value} (h : v.same w = true) :
    c.acceptsScalar v = c.acceptsScalar w := by
  unfold acceptsScalar
  rw [Value.isScalar_of_same h, c.sameFamily_of_same h]

theorem canBound_of_same {v w : Value} (h : v.same w = true) : canBound v = canBound w := by
  unfold canBound
  rw [Value.isScalar_of_same h, Value.kind_of_same h]

theorem compare?_isNone_of_same {first second first' second' : Value} (hfirst : first.same first' = true)
    (hsecond : second.same second' = true) :
    (first.compare? second).isNone = (first'.compare? second').isNone := by
  rw [Value.compare?_of_same hsecond, Value.compare?_swap, Value.compare?_of_same hfirst, ← Value.compare?_swap]

/-- Two equal guards pass alike criteria, or refuse with equal errors. -/
theorem alike_guarded {guard guard' : Bool} {a b : Criterion} {e e' : PredicateError} (hguard : guard = guard')
    (ha : a.Alike b) (he : e = e') :
    SameOutcome Criterion.Alike (if guard then .ok a else .error e) (if guard' then .ok b else .error e') := by
  subst hguard
  cases guard with
  | true => exact .accepted ha
  | false => exact .refused he

/-- The check passes equal operands alike, and refuses them with one error: the types that it names are equal. -/
theorem alike_check (c : Condition) {operands : Operands} (h : c.operands.same operands = true) :
    SameOutcome Criterion.Alike c.check { c with operands := operands }.check := by
  have herror :
      c.invalidOperand c.operands.typeText = { c with operands := operands }.invalidOperand operands.typeText :=
    congrArg c.invalidOperand (Operands.typeText_of_same h)
  obtain ⟨attr, kind, operands', inclusion⟩ := c
  dsimp only at h herror
  -- only operands of one number are equal
  rcases operands' with _ | v | ⟨first, second⟩ <;> rcases operands with _ | w | ⟨first', second'⟩ <;> try cases h
  case none.none =>
    cases kind with
    | always truth => exact .accepted (.always truth)
    | null negated => exact .accepted (.null negated)
    | empty negated => exact alike_guarded rfl (.empty negated) rfl
    | _ => exact .refused rfl
  case one.one =>
    cases kind with
    | equal negated => exact alike_guarded (acceptsScalar_of_same _ h) (.equal negated h) herror
    | order relation =>
      refine alike_guarded ?_ (.order relation h) herror
      rw [canBound_of_same h, sameFamily_of_same _ h]
      rfl
    | equalFolded negated =>
      cases v with
      | text s =>
        obtain rfl := Value.eq_text_of_same h
        exact alike_guarded rfl (.equalFolded negated s) rfl
      | _ => cases w <;> first | exact .refused herror | cases h
    | text anchor folded negated =>
      cases v with
      | text s =>
        obtain rfl := Value.eq_text_of_same h
        exact alike_guarded rfl (.text anchor folded negated s) rfl
      | _ => cases w <;> first | exact .refused herror | cases h
    | member negated =>
      cases v with
      | list items =>
        cases w with
        | list items' =>
          exact alike_guarded (Value.all_of_sameList (acceptsScalar_of_same _) h) (.member negated h) herror
        | _ => cases h
      | _ => cases w <;> first | exact .refused herror | cases h
    | _ => exact .refused herror
  case two.two =>
    obtain ⟨hfirst, hsecond⟩ := Bool.and_eq_true_iff.1 h
    cases kind with
    | between negated =>
      have hfamily := sameFamily_of_same ⟨attr, .between negated, .none, inclusion⟩ hfirst
      simp only [check, canBound_of_same hfirst, canBound_of_same hsecond, compare?_isNone_of_same hfirst hsecond]
      -- the guards of a range one by one, each with its own error
      cases canBound first' && canBound second' with
      | false => exact .refused herror
      | true =>
        cases (first'.compare? second').isNone with
        | true =>
          refine .refused ?_
          rw [Value.typeText_of_same first first' hfirst, Value.typeText_of_same second second' hsecond]
        | false => exact alike_guarded hfamily (.between negated inclusion hfirst hsecond) herror
    | _ => exact .refused herror

end Condition

/-! ## Truth and clauses -/

namespace Clause

/-- Equal clauses that are equally true on every row. -/
def Exchangeable (a b : Clause) : Prop := (a == b) = true ∧ ∀ row : Row, a.eval row = b.eval row

theorem same_constant (truth : Bool) : (constant truth).same (constant truth) = true := by
  cases truth <;> rfl

variable {path : Term} (hpath : path.same path = true)
include hpath

theorem same_compare (op : CompareOp) {v w : Value} (h : v.same w = true) :
    (compare path op (.literal v)).same (compare path op (.literal w)) = true := by
  show (path.same path && (op == op) && v.same w) = true
  rw [hpath, h, beq_self_eq_true]
  rfl

theorem same_like (pattern : LikePattern) (negated : Bool) :
    (like path pattern negated).same (like path pattern negated) = true := by
  show (path.same path && (pattern == pattern) && (negated == negated)) = true
  rw [hpath, beq_self_eq_true, beq_self_eq_true]
  rfl

theorem same_membership {items items' : List Value} (h : Value.sameList items items' = true) :
    (membership path items).same (membership path items') = true := by
  unfold membership
  rw [Value.isEmpty_of_sameList h]
  cases items'.isEmpty with
  | true => exact same_constant false
  | false => exact Bool.and_eq_true_iff.2 ⟨hpath, h⟩

theorem same_exclusion {items items' : List Value} (h : Value.sameList items items' = true) :
    (exclusion path items).same (exclusion path items') = true := by
  unfold exclusion
  rw [Value.isEmpty_of_sameList h]
  cases items'.isEmpty with
  | true => exact same_constant true
  | false => exact Bool.and_eq_true_iff.2 ⟨hpath, same_membership hpath h⟩

end Clause

theorem Criterion.contains_of_sameList {items items' : List Value} (h : Value.sameList items items' = true)
    (v : Value) : contains items v = contains items' v := by
  refine Value.any_of_sameList ?_ h
  intro item item' hitem
  unfold Value.equal?
  rw [Value.compare?_of_same hitem]

namespace Criterion.Alike

variable {a b : Criterion}

theorem truth_eq (h : a.Alike b) (mode : NotInMode) (v : Value) : a.truth mode v = b.truth mode v := by
  cases h with
  | always | null | empty | equalFolded | text => rfl
  | equal negated h => simp only [truth, Value.equal?, Value.compare?_of_same h]
  | order relation h => simp only [truth, Value.compare?_of_same h]
  | between negated inclusion hfirst hsecond =>
    simp only [truth, rangeTruth, Value.compare?_of_same hfirst, Value.compare?_of_same hsecond]
  | member negated h =>
    have hcontains := contains_of_sameList h v
    cases negated <;> simp only [truth, memberTruth, hcontains, Value.isEmpty_of_sameList h]

/-- Alike criteria have equal clauses on a path that equals itself. -/
theorem same_clause (h : a.Alike b) (policy : Policy) {path : Term} (hpath : path.same path = true) :
    (a.clause policy path).same (b.clause policy path) = true := by
  have hlower : (Term.lower path).same (.lower path) = true := hpath
  cases h with
  | always truth => exact Clause.same_constant truth
  | null negated => cases negated <;> exact hpath
  | empty negated => exact Clause.same_compare hpath _ (beq_self_eq_true "")
  | equalFolded negated s => exact Clause.same_compare hlower _ (beq_self_eq_true (Text.casefold s))
  | text anchor folded negated s =>
    cases folded with
    | false => exact Clause.same_like hpath _ negated
    | true => exact Clause.same_like hlower _ negated
  | equal negated h => exact Clause.same_compare hpath _ h
  | order relation h => exact Clause.same_compare hpath _ (Value.same_widenChar h)
  | between negated inclusion hfirst hsecond =>
    cases negated <;>
      exact Bool.and_eq_true_iff.2 ⟨Clause.same_compare hpath _ hfirst, Clause.same_compare hpath _ hsecond⟩
  | member negated h =>
    cases negated with
    | false => exact Clause.same_membership hpath h
    | true =>
      unfold clause
      rcases policy.notIn with _ | _
      · exact Clause.same_exclusion hpath h
      · exact Clause.same_membership hpath h

end Criterion.Alike

/-! ## Equal predicates -/

namespace Condition

variable {c d : Condition}

/-- Equal conditions on one attribute differ in their operands alone, and the check passes or refuses them alike. -/
theorem alike_check_of_same (hattr : d.attr = c.attr) (h : (c == d) = true) :
    SameOutcome Criterion.Alike c.check d.check := by
  obtain ⟨-, hkind, hoperands, hinclusion⟩ := same_iff.1 h
  have hd : d = { c with operands := d.operands } := by
    obtain ⟨attr, kind, operands, inclusion⟩ := d
    dsimp only at hattr hkind hinclusion
    rw [hattr, hkind, hinclusion]
  rw [hd]
  exact c.alike_check hoperands

/-- Without a conversion, conditions that the check treats alike have equal clauses, or are refused alike by the check
or by the resolution. -/
theorem alike_compile (hattr : d.attr = c.attr) (hconverter : c.attr.converter = none)
    (h : SameOutcome Criterion.Alike c.check d.check) {resolver : Resolver Unit Term}
    (hpath : ∀ path, resolver c.attr () = (.ok path, ()) → path.same path = true) (policy : Policy) (s : Session Unit) :
    SameOutcome Clause.Exchangeable (CompileContext.compile ⟨Clause.builder, resolver, policy⟩ c s).1
      (CompileContext.compile ⟨Clause.builder, resolver, policy⟩ d s).1 := by
  generalize hc : c.check = left at h
  generalize hd : d.check = right at h
  cases h with
  | refused he =>
    rw [CompileContext.compile_of_refused _ s hc, CompileContext.compile_of_refused _ s hd]
    exact .refused he
  | accepted halike =>
    rcases hresolved : resolver c.attr () with ⟨e | path, ⟨⟩⟩
    · have hresolved' : resolver d.attr () = (.error e, ()) := by rw [hattr, hresolved]
      rw [(CompileContext.compile_of_unresolved _ s hc hresolved).1,
        (CompileContext.compile_of_unresolved _ s hd hresolved').1]
      exact .refused rfl
    · have hresolved' : resolver d.attr () = (.ok path, ()) := by rw [hattr, hresolved]
      rw [compile_of_none hconverter hc policy hresolved, compile_of_none (hattr ▸ hconverter) hd policy hresolved']
      refine .accepted ⟨halike.same_clause policy (hpath path hresolved), fun row => ?_⟩
      rw [Criterion.eval_clause, Criterion.eval_clause, halike.truth_eq]

end Condition

/-- The paths of columns equal themselves. -/
theorem Clause.same_columns {entity : Option String} {attr : Attribute} {path : Term}
    (h : columns entity attr () = (.ok path, ())) : path.same path = true := by
  have hcolumn : ∀ name : String, (Term.column name).same (.column name) = true := fun name => beq_self_eq_true name
  rcases entity with _ | name
  · cases h
    exact hcolumn _
  · by_cases hname : name = attr.entity
    · simp only [columns, if_pos hname] at h
      cases h
      exact hcolumn _
    · simp only [columns, if_neg hname] at h
      cases h

namespace Predicate

variable {ρ : Type} {p q : Predicate ρ}

theorem test_of_alike (hread : q.read = p.read) (h : SameOutcome Criterion.Alike p.check q.check) (record : ρ) :
    q.test record = p.test record := by
  generalize hp : p.check = left at h
  generalize hq : q.check = right at h
  cases h with
  | refused he => rw [test_of_refused hp, test_of_refused hq, he]
  | accepted halike => rw [test_eq_truth hp, test_eq_truth hq, halike.truth_eq, hread]

theorem validate_of_alike (h : SameOutcome Criterion.Alike p.check q.check) : q.validate = p.validate := by
  generalize hp : p.check = left at h
  generalize hq : q.check = right at h
  cases h with
  | refused he => rw [Condition.validate_of_refused hp, Condition.validate_of_refused hq, he]
  | accepted halike => rw [Condition.validate_of_check hp, Condition.validate_of_check hq]

/-- Equal predicates on one field without a conversion are exchangeable: they are valid alike, or refused with one
error; they test every record alike; their opposites are equal; and under every policy they compile into equal clauses
that are equally true on every row, or fail with one error. This is so for columns and for any other resolution to a
path that equals itself. -/
theorem exchangeable_of_same (hattr : q.attr = p.attr) (hread : q.read = p.read) (hconverter : p.attr.converter = none)
    (h : (p.toCondition == q.toCondition) = true) :
    q.validate = p.validate ∧
    (∀ record, q.test record = p.test record) ∧
    (p.negate.toCondition == q.negate.toCondition) = true ∧
    (∀ (policy : Policy) (entity : Option String),
      SameOutcome Clause.Exchangeable (p.toClause policy entity) (q.toClause policy entity)) ∧
    ∀ {resolver : Resolver Unit Term} (policy : Policy) (s : Session Unit),
      (∀ path, resolver p.attr () = (.ok path, ()) → path.same path = true) →
        SameOutcome Clause.Exchangeable
          (CompileContext.compile ⟨Clause.builder, resolver, policy⟩ p.toCondition s).1
          (CompileContext.compile ⟨Clause.builder, resolver, policy⟩ q.toCondition s).1 := by
  have halike : SameOutcome Criterion.Alike p.check q.check := Condition.alike_check_of_same hattr h
  refine ⟨validate_of_alike halike, test_of_alike hread halike, Condition.same_negate h, ?_, ?_⟩
  · intro policy entity
    exact Condition.alike_compile hattr hconverter halike (fun path => Clause.same_columns) policy _
  · intro resolver policy s hpath
    exact Condition.alike_compile hattr hconverter halike hpath policy s

/-- A list with a negative zero excludes what the list with a positive one excludes, by an equal clause, and inside of
a list of lists both zeros have one type in the refusal. -/
theorem exchangeable_of_same_zeros :
    let score : Attribute := ⟨"player", "score", .float, none, false⟩
    let positive : Value := .float ⟨0⟩
    let negative : Value := .float ⟨0x8000000000000000⟩
    let outside (zero : Value) : Predicate Value :=
      ⟨⟨score, .member true, .one (.list [.int 7, zero]), ⟨true, true⟩⟩, id⟩
    let nested (zero : Value) : Predicate Value :=
      ⟨⟨score, .equal false, .one (.list [.list [zero]]), ⟨true, true⟩⟩, id⟩
    score.converter = none ∧
      ((outside positive).toCondition == (outside negative).toCondition) = true ∧
      (outside negative).test (.uint 0) = .ok false ∧
      (∃ clause clause', (outside positive).toClause = .ok clause ∧ (outside negative).toClause = .ok clause' ∧
        (clause == clause') = true ∧ clause'.eval (fun _ => .uint 0) = some false) ∧
      ((nested positive).toCondition == (nested negative).toCondition) = true ∧
      (nested negative).validate =
        .error (.invalidOperand (.equal false) "player.score" .scalar "list<list<f64>>") := by
  intro score positive negative outside nested
  have houtside : ((outside positive).toCondition == (outside negative).toCondition) = true := by decide
  have hnested : ((nested positive).toCondition == (nested negative).toCondition) = true := by decide
  obtain ⟨-, htest, -, hclauses, -⟩ :=
    exchangeable_of_same (p := outside positive) (q := outside negative) rfl rfl rfl houtside
  obtain ⟨hvalidate, -⟩ := exchangeable_of_same (p := nested positive) (q := nested negative) rfl rfl rfl hnested
  refine ⟨rfl, houtside, ?_, ?_, hnested, ?_⟩
  · rw [htest]
    rfl
  · have hclause := hclauses .standard none
    generalize hpositive : (outside positive).toClause = left at hclause ⊢
    generalize hnegative : (outside negative).toClause = right at hclause ⊢
    cases hclause with
    | refused he => cases hpositive
    | accepted h =>
      refine ⟨_, _, rfl, rfl, h.1, ?_⟩
      rw [← h.2, ← Except.ok.inj hpositive]
      decide
  · rw [hvalidate]
    rfl

end Predicate

end FieldQuery
