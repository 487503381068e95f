/-
Compiled conditions agree with the test in memory. Without a conversion the clause of a condition
selects a row exactly when the condition is true of the value in the row's cell, whatever the kind,
the operands and the value; with a conversion that keeps nulls and the order to the operands, it
selects the stored form of a record exactly when the record passes the test.

The test refuses a range as soon as one bound does not compare, while the clause decides bound by
bound; they agree because the check makes the bounds comparable, so that a value compares with both
or with neither.
-/
import FieldQuery.Proofs.Compile.Meaning
import FieldQuery.Proofs.Predicate.Check

namespace FieldQuery

theorem Truth.signed_eq_true (negated : Bool) (t : Truth) :
    (t.signed negated == some true) = (t == some !negated) := by
  cases negated <;> rcases t with _ | _ | _ <;> rfl

theorem Value.isNull_iff {v : Value} : v.isNull = true ↔ v = .null := by
  cases v <;> simp [isNull]

/-! ## The test in memory -/

namespace Criterion

/-- Between comparable bounds the test of a range is its truth, bound by bound. -/
theorem inRange?_eq_rangeTruth {first second : Value} (h : (first.compare? second).isSome)
    (inclusion : Inclusion) (v : Value) :
    inRange? v first second inclusion = rangeTruth first second inclusion v := by
  have hboth := Value.isSome_compare?_congr h v
  unfold inRange? rangeTruth
  rcases hl : v.compare? first with _ | lower <;> rcases hu : v.compare? second with _ | upper
  · rfl
  -- a value that compares with one bound only, which comparable bounds exclude
  · rw [hl, hu] at hboth; simp at hboth
  · rw [hl, hu] at hboth; simp at hboth
  · show some (inclusion.admits lower upper) =
      Truth.and (some (inclusion.lowerOp.holds lower)) (some (inclusion.upperOp.holds upper))
    rw [inclusion.admits_eq]
    cases inclusion.lowerOp.holds lower <;> cases inclusion.upperOp.holds upper <;> rfl

theorem accepts_null (c : Criterion) : c.accepts .null = (c.truth .complement .null == some true) := by
  cases c with
  | always truth => cases truth <;> rfl
  | null negated => cases negated <;> rfl
  | equal negated operand => cases operand <;> rfl
  | order relation bound => cases bound <;> rfl
  | between negated first second inclusion =>
    rw [truth, rangeTruth, Value.compare?_null, Value.compare?_null]
    cases negated <;> rfl
  | member negated items => cases negated <;> cases items <;> rfl
  | equalFolded negated s => rfl
  | text anchor folded negated s => rfl
  | empty negated => rfl

theorem acceptsPresent_eq_truth {c : Condition} {criterion : Criterion} (h : c.Meets criterion) {v : Value}
    (hv : v.isNull = false) : criterion.acceptsPresent v = (criterion.truth .complement v == some true) := by
  cases criterion with
  | always truth => cases truth <;> rfl
  | null negated =>
    rw [truth, hv]
    cases negated <;> rfl
  | equal negated operand => exact (Truth.signed_eq_true _ _).symm
  | order relation bound =>
    rw [acceptsPresent, truth]
    rcases v.compare? bound with _ | o
    · rfl
    · exact (beq_true _).symm
  | between negated first second inclusion =>
    rw [acceptsPresent, truth, inRange?_eq_rangeTruth h.2.2.1, Truth.signed_eq_true]
  | member negated items =>
    cases negated <;> simp [acceptsPresent, truth, memberTruth, hv]
  | equalFolded negated s =>
    rw [truth, Truth.signed_eq_true]
    cases v with
    | text t => cases negated <;> simp [acceptsPresent, Value.asText?]
    | _ => rfl
  | text anchor folded negated s =>
    rw [truth, Truth.signed_eq_true]
    cases v with
    | text t => cases negated <;> simp [acceptsPresent, Value.asText?]
    | _ => rfl
  | empty negated =>
    rw [truth, Truth.signed_eq_true]
    cases v with
    | text t => cases negated <;> simp [acceptsPresent, Value.asText?]
    | _ => rfl

/-- A value is accepted exactly when the criterion is definitely true of it. -/
theorem accepts_eq_truth {c : Condition} {criterion : Criterion} (h : c.Meets criterion) (v : Value) :
    criterion.accepts v = (criterion.truth .complement v == some true) := by
  by_cases hv : v.isNull = true
  · rw [Value.isNull_iff.1 hv, accepts_null]
  · rw [Bool.not_eq_true] at hv
    unfold accepts
    rw [hv, if_neg Bool.false_ne_true, acceptsPresent_eq_truth h hv]

end Criterion

/-! ## Stored operands -/

theorem Attribute.toStore_of_none {a : Attribute} (h : a.converter = none) (v : Value) : a.toStore v = v := by
  unfold Attribute.toStore
  rw [h]
  cases v <;> rfl

theorem Condition.stored_of_none {c : Condition} (h : c.attr.converter = none) (criterion : Criterion) :
    c.stored criterion = .ok criterion := by
  have hid : c.attr.toStore = id := funext (Attribute.toStore_of_none h)
  cases criterion <;> simp [stored, storedText, hid]

/-- The values that operands consist of: each item of a list counts by itself. -/
def Operands.literals : Operands → List Value
  | none => []
  | one (.list items) => items
  | one v => [v]
  | two first second => [first, second]

theorem Operands.literals_one {v : Value} (h : v.isScalar = true) : (one v).literals = [v] := by
  cases v <;> first | rfl | cases h

/-- The operands with every literal mapped, the items of a list one by one. -/
def Operands.map (f : Value → Value) : Operands → Operands
  | none => none
  | one (.list items) => one (.list (items.map f))
  | one v => one (f v)
  | two first second => two (f first) (f second)

theorem Operands.map_one {v : Value} (f : Value → Value) (h : v.isScalar = true) : (one v).map f = one (f v) := by
  cases v <;> first | rfl | cases h

namespace Criterion

/-- The criterion with its operands mapped; texts to search for stay as they are. -/
def mapOperands (f : Value → Value) : Criterion → Criterion
  | equal negated v => equal negated (f v)
  | order relation bound => order relation (f bound)
  | between negated first second inclusion => between negated (f first) (f second) inclusion
  | member negated items => member negated (items.map f)
  | c => c

theorem stored_eq_mapOperands (c : Condition) {criterion : Criterion} (h : criterion.kind.contract ≠ .text) :
    c.stored criterion = .ok (criterion.mapOperands c.attr.toStore) := by
  cases criterion with
  | equalFolded negated s => exact absurd rfl h
  | text anchor folded negated s => exact absurd rfl h
  | _ => rfl

theorem literals_scalar {c : Condition} {v : Value} (h : c.acceptsScalar v = true) :
    (Operands.one v).literals = [v] :=
  Operands.literals_one (Bool.and_eq_true_iff.1 h).1

theorem literals_bound {v : Value} (h : Condition.canBound v = true) : (Operands.one v).literals = [v] :=
  Operands.literals_one (Bool.and_eq_true_iff.1 h).1

theorem contains_map {f : Value → Value} {v w : Value} {items : List Value}
    (h : ∀ item ∈ items, w.compare? (f item) = v.compare? item) :
    contains (items.map f) w = contains items v := by
  unfold contains Value.equal?
  rw [List.any_map, Bool.eq_iff_iff, List.any_eq_true, List.any_eq_true]
  constructor <;> rintro ⟨item, hitem, heq⟩ <;> refine ⟨item, hitem, ?_⟩
  · rw [← h item hitem]; exact heq
  · rw [← h item hitem] at heq; exact heq

/-- A map that keeps nulls and the order to the operands keeps the truth of a criterion that is not
about texts. -/
theorem truth_mapOperands {c : Condition} {criterion : Criterion} (hmeets : c.Meets criterion)
    (htext : criterion.kind.contract ≠ .text) (hempty : ∀ negated, criterion ≠ empty negated)
    (mode : NotInMode) {f : Value → Value} {v w : Value} (hnull : w.isNull = v.isNull)
    (horder : ∀ o ∈ criterion.operands.literals, w.compare? (f o) = v.compare? o) :
    (criterion.mapOperands f).truth mode w = criterion.truth mode v := by
  cases criterion with
  | always truth => rfl
  | null negated =>
    show Truth.signed negated (some w.isNull) = _
    rw [hnull]
    rfl
  | equal negated operand =>
    rw [operands, literals_scalar hmeets] at horder
    rw [mapOperands, truth, truth, Value.equal?, Value.equal?, horder operand List.mem_cons_self]
  | order relation bound =>
    rw [operands, literals_bound hmeets.1] at horder
    rw [mapOperands, truth, truth, horder bound List.mem_cons_self]
  | between negated first second inclusion =>
    have hfirst := horder first List.mem_cons_self
    have hsecond := horder second (List.mem_cons_of_mem _ List.mem_cons_self)
    rw [mapOperands, truth, truth, rangeTruth, rangeTruth, hfirst, hsecond]
  | member negated items =>
    have hitems : contains (items.map f) w = contains items v := contains_map horder
    have hmember : memberTruth (items.map f) w = memberTruth items v := by
      rw [memberTruth, memberTruth, hnull, hitems, List.isEmpty_map]
    cases negated with
    | false => exact hmember
    | true =>
      cases mode with
      | complement => rw [mapOperands, truth, truth, hnull, hitems]
      | backendNegation => exact congrArg Truth.not hmember
  | equalFolded negated s => exact absurd rfl htext
  | text anchor folded negated s => exact absurd rfl htext
  | empty negated => exact absurd rfl (hempty negated)

end Criterion

/-! ## Agreement -/

variable {ρ : Type}

/-- The test of a predicate is the definite truth of its criterion. -/
theorem Predicate.test_eq_truth {p : Predicate ρ} {criterion : Criterion} (hcheck : p.check = .ok criterion)
    (record : ρ) : p.test record = .ok (criterion.truth .complement (p.read record) == some true) := by
  rw [test_of_check hcheck, Criterion.accepts_eq_truth (Condition.meets_of_check hcheck)]

/-- If the stored criterion is as true of the stored value as the criterion is of the value, its
clause selects the row with the stored value exactly when the test accepts the value. -/
theorem Criterion.accepts_eq_selects {c : Condition} {criterion stored : Criterion} (hmeets : c.Meets criterion)
    {v : Value} {row : Row} {column : String}
    (htruth : stored.truth .complement (row column) = criterion.truth .complement v) :
    criterion.accepts v = (stored.clause .standard (.column column)).selects row := by
  unfold Clause.selects
  rw [accepts_eq_truth hmeets, eval_clause, ← htruth]
  rfl

/-- Without a conversion, a condition that passes the check compiles, and its clause selects a row
exactly when the test in memory accepts a record with the value of the row's cell: any kind, any
operands, any value, null, NaN and values of another kind included. -/
theorem Predicate.test_eq_selects (p : Predicate ρ) (hconverter : p.attr.converter = none)
    (hvalid : p.validate = .ok ()) :
    ∃ clause, p.toClause = .ok clause ∧ ∀ (record : ρ) (row : Row),
      row p.attr.column = p.read record → p.test record = .ok (clause.selects row) := by
  obtain ⟨criterion, hcheck⟩ := Condition.check_of_validate hvalid
  have hmeets := ((Condition.check_eq_ok_iff _ _).1 hcheck).2.2
  refine ⟨criterion.clause .standard (.column p.attr.column), ?_, fun record row hcell => ?_⟩
  · rw [Condition.toClause_eq, Condition.ready, hcheck]
    simp only [Condition.stored_of_none hconverter]
    rfl
  · rw [Predicate.test_of_check hcheck]
    exact congrArg Except.ok (Criterion.accepts_eq_selects hmeets (by rw [hcell]))

/-- NaN lies neither inside a range nor outside: it is not tested true, and its row is not selected. -/
theorem Predicate.test_eq_selects_nan :
    let p : Predicate Value :=
      ⟨⟨⟨"order", "total", .int, none, false⟩, .between true, .two (.int 3) (.char 'A'), ⟨true, false⟩⟩, id⟩
    let nan : Value := .float ⟨0x7ff8000000000000⟩
    p.attr.converter = none ∧ p.validate = .ok () ∧
      ∃ clause, p.toClause = .ok clause ∧ p.test nan = .ok false ∧ clause.selects (fun _ => nan) = false := by
  intro p nan
  have hvalid : p.validate = .ok () := rfl
  obtain ⟨clause, hclause, hagree⟩ := p.test_eq_selects rfl hvalid
  have htest : p.test nan = .ok false := rfl
  have hselects := hagree nan (fun _ => nan) rfl
  rw [htest] at hselects
  exact ⟨rfl, hvalid, clause, hclause, htest, (Except.ok.inj hselects).symm⟩

/-- A conversion that keeps nulls and the order to the operands keeps the selection: for every kind
but the searches in texts and the questions for the empty text, the condition compiles, and its
clause selects the stored form of a record exactly when the record passes the test. -/
theorem Predicate.test_eq_selects_stored (p : Predicate ρ) (htext : p.kind.contract ≠ .text)
    (hempty : ∀ negated, p.kind ≠ .empty negated) (hvalid : p.validate = .ok ()) :
    ∃ clause, p.toClause = .ok clause ∧ ∀ (record : ρ) (row : Row),
      (p.attr.toStore (p.read record) = .null ↔ p.read record = .null) →
      (p.read record ≠ .null → ∀ o ∈ p.operands.literals,
        (p.attr.toStore (p.read record)).compare? (p.attr.toStore o) = (p.read record).compare? o) →
      row p.attr.column = p.attr.toStore (p.read record) → p.test record = .ok (clause.selects row) := by
  obtain ⟨criterion, hcheck⟩ := Condition.check_of_validate hvalid
  obtain ⟨hkind, hoperands, hmeets⟩ := (Condition.check_eq_ok_iff _ _).1 hcheck
  rw [← hkind] at htext hempty
  rw [← hoperands]
  refine ⟨(criterion.mapOperands p.attr.toStore).clause .standard (.column p.attr.column), ?_,
    fun record row hnull horder hcell => ?_⟩
  · rw [Condition.toClause_eq, Condition.ready, hcheck]
    simp only [Criterion.stored_eq_mapOperands p.toCondition htext]
    rfl
  · rw [Predicate.test_of_check hcheck]
    refine congrArg Except.ok (Criterion.accepts_eq_selects hmeets ?_)
    -- a null compares with nothing, so the order is only asked about the other values
    have hkept : ∀ o ∈ criterion.operands.literals,
        (p.attr.toStore (p.read record)).compare? (p.attr.toStore o) = (p.read record).compare? o := by
      intro o ho
      by_cases hv : p.read record = .null
      · rw [hnull.2 hv, hv, Value.compare?_null, Value.compare?_null]
      · exact horder hv o ho
    rw [hcell]
    refine Criterion.truth_mapOperands hmeets htext ?_ _ ?_ hkept
    · exact fun negated h => hempty negated (congrArg Criterion.kind h)
    · rw [Bool.eq_iff_iff, Value.isNull_iff, Value.isNull_iff]
      exact hnull

/-- Temperatures are asked for in degrees Celsius and stored in kelvins. -/
theorem Predicate.test_eq_selects_kelvin :
    let shift : Int64 → Value → Value := fun amount v => match v with
      | .int n => .int (n + amount)
      | v => v
    let p : Predicate Value :=
      ⟨⟨⟨"room", "heat", .int, some ⟨shift 273, shift (-273)⟩, false⟩, .member true,
        .one (.list [.int 0, .int 20]), ⟨true, true⟩⟩, id⟩
    p.attr.toStore (.int 19) = .int 292 ∧
      ∃ clause, p.toClause = .ok clause ∧ p.test (.int 19) = .ok (clause.selects fun _ => .int 292) := by
  intro shift p
  have hvalid : p.validate = .ok () := rfl
  have hempty : ∀ negated, p.kind ≠ .empty negated := by
    intro negated h
    cases h
  obtain ⟨clause, hclause, hagree⟩ := p.test_eq_selects_stored (by decide) hempty hvalid
  refine ⟨rfl, clause, hclause, hagree (.int 19) (fun _ => .int 292) ?_ ?_ rfl⟩
  · constructor <;> intro h <;> cases h
  · intro _
    decide

end FieldQuery
