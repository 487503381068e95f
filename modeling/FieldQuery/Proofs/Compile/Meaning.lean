/-
What a compiled condition means. The clause that compilation builds from a criterion is written down
as a function of the criterion, and so is its truth: the three-valued answer that the clause gives
for the value of its path. Compilation to clauses is then the operand check, the conversion of the
operands and this clause, and evaluation of the result is this truth.
-/
import FieldQuery.Compile.Clause
import FieldQuery.Predicate.Test
import FieldQuery.Proofs.Search.Truth
import FieldQuery.Proofs.Text.Casing
import FieldQuery.Proofs.Text.Order
import FieldQuery.Proofs.Value.Order

namespace FieldQuery

/-! ## Clauses of criteria -/

namespace Clause

/-- The clause that is always true or always false. -/
def constant (truth : Bool) : Clause :=
  if truth then .isTrue (.literal (.bool true)) else .isFalse (.literal (.bool true))

/-- The clause of membership in a list. -/
def membership (path : Term) (items : List Value) : Clause :=
  if items.isEmpty then constant false else .inList path items

/-- The clause of exclusion from a list that is true of a null. -/
def exclusion (path : Term) (items : List Value) : Clause :=
  if items.isEmpty then constant true else .or (.isNull path) (.not (membership path items))

end Clause

namespace Criterion

/-- The clause of a criterion whose operands are in stored form. -/
def clause (policy : Policy) (path : Term) : Criterion → Clause
  | always truth => .constant truth
  | null negated => if negated then .isNotNull path else .isNull path
  | empty negated => .compare path (Builder.equalityOp negated) (.literal (.text ""))
  | equal negated v => .compare path (Builder.equalityOp negated) (.literal v)
  | order relation v => .compare path relation.compareOp (.literal v.widenChar)
  | equalFolded negated s =>
    .compare (.lower path) (Builder.equalityOp negated) (.literal (.text (Text.casefold s)))
  | between false first second inclusion =>
    .and (.compare path inclusion.lowerOp (.literal first)) (.compare path inclusion.upperOp (.literal second))
  | between true first second inclusion =>
    .or (.compare path inclusion.belowOp (.literal first)) (.compare path inclusion.aboveOp (.literal second))
  | member false items => .membership path items
  | member true items =>
    match policy.notIn with
    | .complement => .exclusion path items
    | .backendNegation => .not (.membership path items)
  | text anchor folded negated s =>
    .like (if folded then .lower path else path)
      ⟨anchor, if folded then Text.casefold s else s, policy.likeEscape⟩ negated

theorem constant_eq (truth : Bool) : Clause.builder.constant truth = pure (Clause.constant truth) := by
  cases truth <;> rfl

theorem membership_eq (path : Term) (items : List Value) :
    Clause.builder.membership path items = pure (Clause.membership path items) := by
  cases items with
  | nil => exact constant_eq false
  | cons v rest => rfl

theorem exclusion_eq (path : Term) (items : List Value) :
    Clause.builder.exclusion path items = pure (Clause.exclusion path items) := by
  cases items with
  | nil => exact constant_eq true
  | cons v rest => rfl

/-- The backend of clauses builds the clause of the criterion. -/
theorem node_eq (policy : Policy) (path : Term) (c : Criterion) :
    Clause.builder.node policy path c = pure (c.clause policy path) := by
  cases c with
  | always truth => exact constant_eq truth
  | null negated => cases negated <;> rfl
  | equal negated v => rfl
  | equalFolded negated s => rfl
  | order relation v => rfl
  | between negated first second inclusion => cases negated <;> rfl
  | member negated items =>
    cases negated with
    | false => exact membership_eq path items
    | true =>
      unfold Builder.node clause
      rcases policy.notIn with _ | _
      · exact exclusion_eq path items
      · show Clause.builder.negatedMembership path items = _
        unfold Builder.negatedMembership
        rw [membership_eq]
        rfl
  | text anchor folded negated s => cases folded <;> cases negated <;> rfl
  | empty negated => rfl

end Criterion

/-! ## Compilation to clauses -/

namespace Condition

/-- What a condition is compiled from: its criterion with the operands in stored form. -/
def ready (c : Condition) : Except PredicateError Criterion :=
  match c.check with
  | .ok criterion => c.stored criterion
  | .error e => .error e

/-- With a path for the attribute, compilation gives the clause of the stored criterion, whoever
listens. -/
theorem compile_clause {resolver : Resolver Unit Term} (policy : Policy) {c : Condition} {path : Term}
    (hpath : resolver c.attr () = (.ok path, ())) (s : Session Unit) :
    (CompileContext.compile ⟨Clause.builder, resolver, policy⟩ c s).1 = c.ready.map (·.clause policy path) := by
  unfold CompileContext.compile CompileContext.emit ready
  rcases c.check with e | criterion
  · rfl
  simp only [StateT.run, bind, StateT.bind, Session.record, hpath]
  rcases c.stored criterion with e | stored
  · rfl
  · simp only [Criterion.node_eq]
    rfl

theorem toClause_eq (c : Condition) (policy : Policy) :
    c.toClause policy = c.ready.map (·.clause policy (.column c.attr.column)) :=
  compile_clause policy rfl _

end Condition

/-! ## Truth of criteria -/

namespace Inclusion

theorem admits_eq (i : Inclusion) (lower upper : Ordering) :
    i.admits lower upper = (i.lowerOp.holds lower && i.upperOp.holds upper) := by
  obtain ⟨start, finish⟩ := i
  cases start <;> cases finish <;> rfl

theorem belowOp_eq (i : Inclusion) : i.belowOp = i.lowerOp.opposite := by
  obtain ⟨start, finish⟩ := i
  cases start <;> rfl

theorem aboveOp_eq (i : Inclusion) : i.aboveOp = i.upperOp.opposite := by
  obtain ⟨start, finish⟩ := i
  cases finish <;> rfl

end Inclusion

namespace Criterion

/-- The truth of membership in a list: UNKNOWN of a null, unless the list is empty. -/
def memberTruth (items : List Value) (v : Value) : Truth :=
  if v.isNull && !items.isEmpty then none else some (contains items v)

/-- The truth of a range, bound by bound. -/
def rangeTruth (first second : Value) (inclusion : Inclusion) (v : Value) : Truth :=
  Truth.and ((v.compare? first).map inclusion.lowerOp.holds) ((v.compare? second).map inclusion.upperOp.holds)

/-- The truth of a criterion for a value. -/
def truth (mode : NotInMode) : Criterion → Value → Truth
  | always truth, _ => some truth
  | null negated, v => Truth.signed negated (some v.isNull)
  | empty negated, v => Truth.signed negated (v.asText?.map String.isEmpty)
  | equal negated operand, v => Truth.signed negated (v.equal? operand)
  | equalFolded negated s, v =>
    Truth.signed negated (v.asText?.map fun t => Text.casefold t == Text.casefold s)
  | order relation bound, v => (v.compare? bound).map relation.holds
  | between negated first second inclusion, v => Truth.signed negated (rangeTruth first second inclusion v)
  | member false items, v => memberTruth items v
  | member true items, v =>
    match mode with
    | .complement => some (v.isNull || !contains items v)
    | .backendNegation => (memberTruth items v).not
  | text anchor folded negated s, v =>
    Truth.signed negated (v.asText?.map fun t => holdsText anchor folded t s)

/-! ## Evaluation of clauses -/

theorem eval_constant (row : Row) (truth : Bool) : (Clause.constant truth).eval row = some truth := by
  cases truth <;> rfl

theorem holds_equalityOp (negated : Bool) (o : Ordering) :
    (Builder.equalityOp negated).holds o = (decide (o = .eq) != negated) := by
  cases negated <;> cases o <;> rfl

theorem holds_compareOp (relation : OrderRelation) : relation.compareOp.holds = relation.holds := by
  funext o
  cases relation <;> rfl

theorem eval_equality (row : Row) (path : Term) (negated : Bool) (v : Value) :
    (Clause.compare path (Builder.equalityOp negated) (.literal v)).eval row =
      Truth.signed negated ((path.eval row).equal? v) := by
  show ((path.eval row).compare? v).map _ = _
  unfold Value.equal? Truth.signed
  rw [Option.map_map]
  congr 1
  funext o
  exact holds_equalityOp negated o

theorem equal?_text (v : Value) (s : String) : v.equal? (.text s) = v.asText?.map fun t => t == s := by
  cases v with
  | text t =>
    show some (decide (Text.compare t s = .eq)) = some (t == s)
    rw [decide_eq_decide.2 (Text.compare_eq_iff t s)]
    rfl
  | _ => rfl

theorem asText?_lower (row : Row) (path : Term) :
    ((Term.lower path).eval row).asText? = (path.eval row).asText?.map Text.casefold := by
  rw [Term.eval]
  cases path.eval row with
  | text s => exact congrArg some (Text.casefold_eq_lowercase s).symm
  | _ => rfl

theorem equal?_eq_true (a b : Value) : (a.equal? b == some true) = (a.compare? b == some .eq) := by
  unfold Value.equal?
  rcases a.compare? b with _ | _ | _ | _ <;> rfl

theorem eval_membership (row : Row) (path : Term) (items : List Value) :
    (Clause.membership path items).eval row = memberTruth items (path.eval row) := by
  unfold Clause.membership memberTruth contains
  cases items with
  | nil => simp [eval_constant]
  | cons v rest => simp [Clause.eval, equal?_eq_true]

theorem eval_exclusion (row : Row) (path : Term) (items : List Value) :
    (Clause.exclusion path items).eval row =
      some ((path.eval row).isNull || !contains items (path.eval row)) := by
  unfold Clause.exclusion
  cases items with
  | nil => simp [eval_constant, contains]
  | cons v rest =>
    show Truth.or (some (path.eval row).isNull) (Truth.not ((Clause.membership path (v :: rest)).eval row)) = _
    rw [eval_membership]
    unfold memberTruth
    cases (path.eval row).isNull with
    | false => cases contains (v :: rest) (path.eval row) <;> rfl
    -- the negated membership is UNKNOWN of a null; the question for null decides
    | true => rfl

theorem eval_outside (row : Row) (path : Term) (first second : Value) (inclusion : Inclusion) :
    Truth.or (((path.eval row).compare? first).map inclusion.belowOp.holds)
        (((path.eval row).compare? second).map inclusion.aboveOp.holds) =
      (rangeTruth first second inclusion (path.eval row)).not := by
  have hop : ∀ (op : CompareOp) (t : Option Ordering), t.map op.opposite.holds = Truth.not (t.map op.holds) := by
    intro op t
    rcases t with _ | o
    · rfl
    · exact congrArg some (op.holds_opposite o)
  rw [inclusion.belowOp_eq, inclusion.aboveOp_eq, hop, hop, rangeTruth, Truth.not_and]

theorem eval_like (row : Row) (path : Term) (p : LikePattern) (negated : Bool) :
    (Clause.like path p negated).eval row = Truth.signed negated ((path.eval row).asText?.map p.holds) := by
  unfold Truth.signed
  rw [Option.map_map]
  rfl

/-- A clause is as true as its criterion is for the value of the path. -/
theorem eval_clause (policy : Policy) (path : Term) (row : Row) (c : Criterion) :
    (c.clause policy path).eval row = c.truth policy.notIn (path.eval row) := by
  cases c with
  | always truth => exact eval_constant row truth
  | null negated => cases negated <;> simp [clause, truth, Clause.eval, Truth.signed]
  | empty negated =>
    have hempty : ∀ t : String, (t == "") = t.isEmpty := by
      intro t
      rw [Bool.eq_iff_iff, beq_iff_eq, String.isEmpty_iff]
    show (Clause.compare path _ (.literal (.text ""))).eval row = _
    rw [eval_equality, equal?_text, funext hempty]
    rfl
  | equal negated v => exact eval_equality row path negated v
  | equalFolded negated s =>
    show (Clause.compare (.lower path) _ (.literal (.text (Text.casefold s)))).eval row = _
    rw [eval_equality, equal?_text, asText?_lower, Option.map_map]
    rfl
  | order relation bound =>
    show ((path.eval row).compare? bound.widenChar).map relation.compareOp.holds = _
    rw [Value.compare?_widenChar, holds_compareOp]
    rfl
  | between negated first second inclusion =>
    cases negated with
    | false => exact (Truth.signed_false _).symm
    | true => exact (eval_outside row path first second inclusion).trans (Truth.signed_true _).symm
  | member negated items =>
    cases negated with
    | false => exact eval_membership row path items
    | true =>
      unfold clause truth
      rcases policy.notIn with _ | _
      · exact eval_exclusion row path items
      · exact congrArg Truth.not (eval_membership row path items)
  | text anchor folded negated s =>
    cases folded with
    | false => exact eval_like row path ⟨anchor, s, policy.likeEscape⟩ negated
    | true =>
      show (Clause.like (.lower path) ⟨anchor, Text.casefold s, policy.likeEscape⟩ negated).eval row = _
      rw [eval_like, asText?_lower, Option.map_map]
      rfl

end Criterion

end FieldQuery
