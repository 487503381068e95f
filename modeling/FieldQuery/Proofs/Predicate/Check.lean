/-
What the operand check accepts: a criterion of the kind and the operands of the condition whose
operands meet the contract. What it refuses, it refuses with one of two errors. The opposite condition
passes with the opposite criterion, and equal conditions have equal opposites. Validation and the test in memory
follow the check.
-/
import FieldQuery.Predicate.Test

namespace FieldQuery

/-! ## Criteria -/

namespace Criterion

/-- The operands of a criterion. -/
def operands : Criterion → Operands
  | always _ | null _ | empty _ => .none
  | equal _ v | order _ v => .one v
  | equalFolded _ s | text _ _ _ s => .one (.text s)
  | between _ first second _ => .two first second
  | member _ items => .one (.list items)

/-- The criterion that asks for the opposite. -/
def negate : Criterion → Criterion
  | always truth => always !truth
  | null negated => null !negated
  | equal negated v => equal (!negated) v
  | equalFolded negated s => equalFolded (!negated) s
  | order relation bound => order relation.complement bound
  | between negated first second inclusion => between (!negated) first second inclusion
  | member negated items => member (!negated) items
  | text anchor folded negated s => text anchor folded (!negated) s
  | empty negated => empty !negated

theorem kind_negate (c : Criterion) : c.negate.kind = c.kind.complement := by
  cases c <;> rfl

theorem operands_negate (c : Criterion) : c.negate.operands = c.operands := by
  cases c <;> rfl

end Criterion

theorem PredicateKind.complement_complement (kind : PredicateKind) : kind.complement.complement = kind := by
  cases kind with
  | order relation => cases relation <;> rfl
  | _ => simp [PredicateKind.complement]

/-! ## The operand check -/

namespace Condition

/-- The contract of a criterion's operands for the attribute of a condition. -/
def Meets (c : Condition) : Criterion → Prop
  | .always _ | .null _ => True
  | .empty _ | .equalFolded _ _ | .text _ _ _ _ => c.isTextual = true
  | .equal _ v => c.acceptsScalar v = true
  | .order _ bound => canBound bound = true ∧ c.sameFamily bound = true
  | .between _ first second inclusion =>
    canBound first = true ∧ canBound second = true ∧ (first.compare? second).isSome ∧
      c.sameFamily first = true ∧ inclusion = c.inclusion
  | .member _ items => ∀ item ∈ items, c.acceptsScalar item = true

theorem ite_ok_iff {ε α : Type} {p : Prop} [Decidable p] {a b : α} {e : ε} :
    (if p then Except.ok a else Except.error e) = .ok b ↔ p ∧ a = b := by
  by_cases h : p <;> simp [h]

/-- The check accepts exactly the criterion of the kind and the operands of the condition, if it
meets the contract. -/
theorem check_eq_ok_iff (c : Condition) (criterion : Criterion) :
    c.check = .ok criterion ↔
      criterion.kind = c.kind ∧ criterion.operands = c.operands ∧ c.Meets criterion := by
  obtain ⟨attr, kind, operands, inclusion⟩ := c
  constructor
  · intro h
    unfold check at h
    dsimp only at h
    split at h
    case h_1 | h_2 => cases h; exact ⟨rfl, rfl, trivial⟩
    case h_3 | h_6 | h_7 =>
      obtain ⟨htextual, rfl⟩ := ite_ok_iff.1 h
      exact ⟨rfl, rfl, htextual⟩
    case h_4 negated v =>
      obtain ⟨hscalar, rfl⟩ := ite_ok_iff.1 h
      exact ⟨rfl, rfl, hscalar⟩
    case h_5 relation bound =>
      obtain ⟨hbound, rfl⟩ := ite_ok_iff.1 h
      exact ⟨rfl, rfl, Bool.and_eq_true_iff.1 hbound⟩
    -- the three guards of a range: its bounds can bound, they compare, and they fit the attribute
    case h_8 negated first second =>
      split at h
      · cases h
      rename_i hbounds
      split at h
      · cases h
      rename_i hordered
      obtain ⟨hfamily, rfl⟩ := ite_ok_iff.1 h
      obtain ⟨hfirst, hsecond⟩ : canBound first = true ∧ canBound second = true := by simpa using hbounds
      have hsome : (first.compare? second).isSome := Option.isNone_eq_false_iff.1 (Bool.eq_false_iff.2 hordered)
      exact ⟨rfl, rfl, hfirst, hsecond, hsome, hfamily, rfl⟩
    case h_9 negated items =>
      obtain ⟨hitems, rfl⟩ := ite_ok_iff.1 h
      exact ⟨rfl, rfl, List.all_eq_true.1 hitems⟩
    case h_10 => cases h
  · rintro ⟨hkind, hoperands, hmeets⟩
    dsimp only at hkind hoperands
    subst hkind hoperands
    cases criterion with
    | always truth => rfl
    | null negated => rfl
    | equal negated v => exact if_pos hmeets
    | equalFolded negated s => exact if_pos hmeets
    | order relation bound => exact if_pos (Bool.and_eq_true_iff.2 hmeets)
    | between negated first second bounds =>
      obtain ⟨hfirst, hsecond, hsome, hfamily, rfl⟩ := hmeets
      have hordered : (first.compare? second).isNone = false := Option.isNone_eq_false_iff.2 hsome
      simp only [check, Criterion.kind, Criterion.operands, hfirst, hsecond, hordered, Bool.and_self,
        Bool.not_true, Bool.false_eq_true, if_false]
      exact if_pos hfamily
    | member negated items => exact if_pos (List.all_eq_true.2 hmeets)
    | text anchor folded negated s => exact if_pos hmeets
    | empty negated => exact if_pos hmeets

theorem kind_of_check {c : Condition} {criterion : Criterion} (h : c.check = .ok criterion) : criterion.kind = c.kind :=
  ((check_eq_ok_iff c criterion).1 h).1

theorem meets_of_check {c : Condition} {criterion : Criterion} (h : c.check = .ok criterion) : c.Meets criterion :=
  ((check_eq_ok_iff c criterion).1 h).2.2

/-- The check refuses operands for not meeting the contract, or the bounds of a range for not comparing. -/
theorem check_eq_error {c : Condition} {e : PredicateError} (h : c.check = .error e) :
    e = c.invalidOperand c.operands.typeText ∨ ∃ first second, c.operands = .two first second ∧
      e = .incomparableBounds c.kind c.attr.qualifiedName first.typeText second.typeText := by
  unfold check at h
  dsimp only at h
  split at h
  case h_1 | h_2 => cases h
  case h_3 | h_4 | h_5 | h_6 | h_7 | h_9 =>
    split at h
    · cases h
    · exact .inl (Except.error.inj h).symm
  case h_8 negated first second hkind hoperands =>
    split at h
    · exact .inl (Except.error.inj h).symm
    split at h
    · exact .inr ⟨first, second, hoperands, (Except.error.inj h).symm⟩
    split at h
    · cases h
    · exact .inl (Except.error.inj h).symm
  case h_10 => exact .inl (Except.error.inj h).symm

/-- Bounds that do not compare are refused before they are held against the attribute. -/
theorem check_of_incomparable {c : Condition} {negated : Bool} {first second : Value} (hkind : c.kind = .between negated)
    (hoperands : c.operands = .two first second) (hfirst : canBound first = true) (hsecond : canBound second = true)
    (hnone : first.compare? second = none) :
    c.check = .error (.incomparableBounds c.kind c.attr.qualifiedName first.typeText second.typeText) := by
  obtain ⟨attr, kind, operands, inclusion⟩ := c
  dsimp only at hkind hoperands
  subst hkind hoperands
  simp [check, hfirst, hsecond, hnone]

theorem check_ne_unsupported (c : Condition) (name : String) :
    c.check ≠ .error (.unsupportedKind name) := by
  intro h
  rcases check_eq_error h with h | ⟨_, _, _, h⟩ <;> cases h

theorem negate_negate (c : Condition) : c.negate.negate = c := by
  obtain ⟨attr, kind, operands, inclusion⟩ := c
  unfold negate
  rw [PredicateKind.complement_complement]

theorem meets_negate {c : Condition} {criterion : Criterion} (h : c.Meets criterion) :
    c.negate.Meets criterion.negate := by
  cases criterion <;> exact h

/-- The opposite condition passes the check with the opposite criterion. -/
theorem check_negate {c : Condition} {criterion : Criterion} (h : c.check = .ok criterion) :
    c.negate.check = .ok criterion.negate := by
  obtain ⟨hkind, hoperands, hmeets⟩ := (check_eq_ok_iff c criterion).1 h
  rw [check_eq_ok_iff, Criterion.kind_negate, Criterion.operands_negate, hkind, hoperands]
  exact ⟨rfl, rfl, meets_negate hmeets⟩

/-! ## Equality -/

theorem same_iff {c d : Condition} : (c == d) = true ↔
    c.attr.same d.attr = true ∧ c.kind = d.kind ∧ c.operands.same d.operands = true ∧ c.inclusion = d.inclusion := by
  show (c.attr.same d.attr && c.kind == d.kind && c.operands.same d.operands && c.inclusion == d.inclusion) = true ↔ _
  simp only [Bool.and_eq_true, beq_iff_eq, and_assoc]

theorem same_negate {c d : Condition} (h : (c == d) = true) : (c.negate == d.negate) = true := by
  obtain ⟨hattr, hkind, hoperands, hinclusion⟩ := same_iff.1 h
  exact same_iff.2 ⟨hattr, congrArg PredicateKind.complement hkind, hoperands, hinclusion⟩

/-! ## Validation and test -/

theorem validate_of_check {c : Condition} {criterion : Criterion} (h : c.check = .ok criterion) :
    c.validate = .ok () := by
  unfold validate
  rw [h]

theorem validate_of_refused {c : Condition} {e : PredicateError} (h : c.check = .error e) :
    c.validate = .error e := by
  unfold validate
  rw [h]

theorem check_of_validate {c : Condition} (h : c.validate = .ok ()) : ∃ criterion, c.check = .ok criterion := by
  unfold validate at h
  rcases hcheck : c.check with e | criterion
  · rw [hcheck] at h; cases h
  · exact ⟨criterion, rfl⟩

theorem refused_of_validate {c : Condition} {e : PredicateError} (h : c.validate = .error e) : c.check = .error e := by
  unfold validate at h
  rcases hcheck : c.check with e | criterion
  · rw [hcheck] at h
    cases h
    rfl
  · rw [hcheck] at h
    cases h

end Condition

namespace Predicate

variable {ρ : Type} {p : Predicate ρ}

theorem test_of_check {criterion : Criterion} (h : p.check = .ok criterion) (record : ρ) :
    p.test record = .ok (criterion.accepts (p.read record)) := by
  unfold test
  rw [h]

theorem test_of_refused {e : PredicateError} (h : p.check = .error e) (record : ρ) : p.test record = .error e := by
  unfold test
  rw [h]

end Predicate

end FieldQuery
