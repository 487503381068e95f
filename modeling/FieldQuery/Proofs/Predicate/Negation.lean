/-
A predicate and its negation, tested on the same record. They are never both true. Constants, the question for
null and membership in a list leave no value open: one of the two is true. Any other question leaves open the
null, the values that do not compare with an operand, and, when it is about texts, the values that are no text;
for the rest just one of the two is true.

The test is read as the definite part of the three-valued truth of the criterion, whose negation is known: both
tests are false exactly where the truth is UNKNOWN.
-/
import FieldQuery.Proofs.Compile.Agreement
import FieldQuery.Proofs.Compile.Negation

namespace FieldQuery

/-- Neither a condition of the kind with the given operands nor its opposite is true of the value. -/
def PredicateKind.LeavesOpen (kind : PredicateKind) (operands : Operands) (v : Value) : Prop :=
  match kind with
  | .always _ | .null _ | .member _ => False
  | .equal _ | .order _ | .between _ => v.isNull = true ∨ ∃ o ∈ operands.literals, v.compare? o = none
  | .equalFolded _ | .text _ _ _ | .empty _ => v.isNull = true ∨ v.asText? = none

/-! ## Where the truth is UNKNOWN -/

namespace Truth

theorem signed_eq_none_iff {negated : Bool} {t : Truth} : t.signed negated = none ↔ t = none :=
  Option.map_eq_none_iff

theorem not_eq_true (t : Truth) : (t.not == some true) = (t == some false) := by
  rcases t with _ | _ | _ <;> rfl

/-- Of two answers that are both known or both UNKNOWN, "and" is UNKNOWN when one of them is. -/
theorem and_eq_none_iff {s t : Truth} (h : s = none ↔ t = none) : s.and t = none ↔ s = none ∨ t = none := by
  rcases s with _ | _ | _ <;> rcases t with _ | _ | _ <;> simp [and] at h ⊢

end Truth

namespace Value

theorem compare?_of_isNull {v : Value} (h : v.isNull = true) (o : Value) : v.compare? o = none := by
  rw [isNull_iff.1 h, compare?_null]

theorem asText?_of_isNull {v : Value} (h : v.isNull = true) : v.asText? = none := by
  rw [isNull_iff.1 h]
  rfl

/-- A value compares with neither or with both of two comparable values. -/
theorem compare?_eq_none_congr {a b : Value} (h : (a.compare? b).isSome) (v : Value) :
    v.compare? a = none ↔ v.compare? b = none := by
  have hboth := isSome_compare?_congr h v
  rw [Option.isSome_iff_ne_none, Option.isSome_iff_ne_none] at hboth
  exact Decidable.not_iff_not.1 hboth

end Value

namespace Criterion

theorem rangeTruth_eq_none_iff {first second : Value} (h : (first.compare? second).isSome) (inclusion : Inclusion)
    (v : Value) : rangeTruth first second inclusion v = none ↔ v.compare? first = none ∨ v.compare? second = none := by
  have hboth := Value.compare?_eq_none_congr h v
  rw [← Option.map_eq_none_iff (f := inclusion.lowerOp.holds), ← Option.map_eq_none_iff (f := inclusion.upperOp.holds)]
    at hboth
  unfold rangeTruth
  rw [Truth.and_eq_none_iff hboth, Option.map_eq_none_iff, Option.map_eq_none_iff]

/-- Outside of lists, the truth is UNKNOWN of the values that are left open. -/
theorem truth_eq_none_iff {c : Condition} {criterion : Criterion} (hmeets : c.Meets criterion)
    (hmember : ∀ negated, criterion.kind ≠ .member negated) (mode : NotInMode) (v : Value) :
    criterion.truth mode v = none ↔ criterion.kind.LeavesOpen criterion.operands v := by
  -- a null compares with nothing and is no text, so it is among the values of the second reason
  have hcompare (o : Value) (others : List Value) :
      (v.isNull = true ∨ ∃ p ∈ o :: others, v.compare? p = none) ↔ ∃ p ∈ o :: others, v.compare? p = none :=
    or_iff_right_of_imp fun hnull => ⟨o, List.mem_cons_self, Value.compare?_of_isNull hnull o⟩
  have htext : (v.isNull = true ∨ v.asText? = none) ↔ v.asText? = none :=
    or_iff_right_of_imp Value.asText?_of_isNull
  cases criterion with
  | always answer => simp [truth, kind, PredicateKind.LeavesOpen]
  | null negated => simp [truth, kind, PredicateKind.LeavesOpen, Truth.signed]
  | member negated items => exact absurd rfl (hmember negated)
  | equal negated operand =>
    show Truth.signed negated (v.equal? operand) = none ↔ v.isNull = true ∨ ∃ p ∈ (Operands.one operand).literals, _
    rw [literals_scalar hmeets, hcompare, Truth.signed_eq_none_iff, Value.equal?, Option.map_eq_none_iff]
    simp
  | order relation bound =>
    show (v.compare? bound).map _ = none ↔ v.isNull = true ∨ ∃ p ∈ (Operands.one bound).literals, _
    rw [literals_bound hmeets.1, hcompare, Option.map_eq_none_iff]
    simp
  | between negated first second inclusion =>
    show Truth.signed negated (rangeTruth first second inclusion v) = none ↔
      v.isNull = true ∨ ∃ p ∈ [first, second], v.compare? p = none
    rw [hcompare, Truth.signed_eq_none_iff, rangeTruth_eq_none_iff hmeets.2.2.1]
    simp
  | equalFolded negated s | text anchor folded negated s | empty negated =>
    show Truth.signed negated (v.asText?.map _) = none ↔ v.isNull = true ∨ v.asText? = none
    rw [htext, Truth.signed_eq_none_iff, Option.map_eq_none_iff]

/-- Two opposite criteria accept a value where one truth is true and where it is false. -/
theorem accepts_negate {c : Condition} {criterion : Criterion} (hmeets : c.Meets criterion) (v : Value) :
    ∃ t : Truth, criterion.accepts v = (t == some true) ∧ criterion.negate.accepts v = (t == some false) ∧
      (t = none ↔ criterion.kind.LeavesOpen criterion.operands v) := by
  have hopposite := Condition.meets_negate hmeets
  rw [accepts_eq_truth hmeets, accepts_eq_truth hopposite]
  by_cases hmember : ∀ negated, criterion.kind ≠ .member negated
  · refine ⟨criterion.truth .complement v, rfl, ?_, truth_eq_none_iff hmeets hmember .complement v⟩
    rw [truth_negate (.inr hmember), Truth.not_eq_true]
  · -- exclusion from a list counts nulls in, so of membership and exclusion one is always true
    cases criterion with
    | member negated items =>
      rw [member_negate]
      refine ⟨some ((member negated items).truth .complement v == some true), ?_, ?_, ?_⟩
      · cases (member negated items).truth .complement v == some true <;> rfl
      · cases (member negated items).truth .complement v == some true <;> rfl
      · simp [kind, PredicateKind.LeavesOpen]
    | _ => exact absurd (by intro negated h; cases h) hmember

end Criterion

/-! ## Tests of opposite predicates -/

namespace Predicate

variable {ρ : Type}

/-- The negation of a valid predicate is valid, and its negation is the predicate again. On no record are both
true; both are false of the values that the question leaves open, and of any other value one is true. A value
compares with both bounds of a range or with neither. -/
theorem test_negate {p : Predicate ρ} (hvalid : p.validate = .ok ()) (record : ρ) :
    p.negate.validate = .ok () ∧ p.negate.negate = p ∧
      (∃ truth opposite, p.test record = .ok truth ∧ p.negate.test record = .ok opposite ∧
        (truth && opposite) = false ∧
        ((truth = false ∧ opposite = false) ↔ p.kind.LeavesOpen p.operands (p.read record)) ∧
        (¬ p.kind.LeavesOpen p.operands (p.read record) → opposite = !truth)) ∧
      ∀ negated first second, p.kind = .between negated → p.operands = .two first second →
        ((p.read record).compare? first = none ↔ (p.read record).compare? second = none) := by
  obtain ⟨criterion, hcheck⟩ := Condition.check_of_validate hvalid
  obtain ⟨hkind, hoperands, hmeets⟩ := (Condition.check_eq_ok_iff _ _).1 hcheck
  have hnegated : p.negate.check = .ok criterion.negate := Condition.check_negate hcheck
  refine ⟨Condition.validate_of_check hnegated, ?_, ?_, ?_⟩
  · exact congrArg (Predicate.mk · p.read) p.toCondition.negate_negate
  · obtain ⟨t, htest, hopposite, hopen⟩ := Criterion.accepts_negate hmeets (p.read record)
    rw [hkind, hoperands] at hopen
    refine ⟨t == some true, t == some false, ?_, ?_, ?_⟩
    · rw [test_of_check hcheck, htest]
    · rw [test_of_check hnegated]
      exact congrArg Except.ok hopposite
    · rw [← hopen]
      rcases t with _ | _ | _ <;> simp
  · intro negated first second hbetween htwo
    rw [hbetween] at hkind
    rw [htwo] at hoperands
    cases criterion <;> cases hkind
    cases hoperands
    exact Value.compare?_eq_none_congr hmeets.2.2.1 (p.read record)

/-- A number comes neither before a text nor not before it; a text does one of the two. -/
theorem test_negate_foreign :
    let p : Predicate Value :=
      ⟨⟨⟨"person", "name", .text, none, false⟩, .order .less, .one (.text "m"), ⟨true, true⟩⟩, id⟩
    p.validate = .ok () ∧ p.test (.int 5) = .ok false ∧ p.negate.test (.int 5) = .ok false ∧
      p.test (.text "x") = .ok false ∧ p.negate.test (.text "x") = .ok true := by
  intro p
  have hvalid : p.validate = .ok () := rfl
  have hforeign : p.kind.LeavesOpen p.operands (.int 5) := .inr ⟨.text "m", List.mem_cons_self, rfl⟩
  have hname : ¬ p.kind.LeavesOpen p.operands (.text "x") := by
    rintro (h | ⟨o, ho, h⟩)
    · cases h
    · cases List.mem_singleton.1 ho
      cases h
  obtain ⟨-, -, ⟨truth, opposite, htest, hnegated, -, hopen, -⟩, -⟩ := test_negate hvalid (.int 5)
  obtain ⟨rfl, rfl⟩ := hopen.2 hforeign
  obtain ⟨-, -, ⟨truth', opposite', htest', hnegated', -, -, hone⟩, -⟩ := test_negate hvalid (.text "x")
  have hfalse : p.test (.text "x") = .ok false := rfl
  obtain rfl : false = truth' := Except.ok.inj (hfalse.symm.trans htest')
  exact ⟨hvalid, htest, hnegated, htest', hnegated'.trans (congrArg Except.ok (hone hname))⟩

end Predicate

end FieldQuery
