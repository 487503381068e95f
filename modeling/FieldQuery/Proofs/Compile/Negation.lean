/-
Negation commutes with compilation. The opposite condition compiles when the condition does, into a
clause built on its own (opposite comparisons, "or" for "and", a negated pattern) that is true where
the other is false and UNKNOWN where it is UNKNOWN. The exclusion from a list that is true of a null
is the one exception: there the two clauses part the rows between them.
-/
import FieldQuery.Proofs.Compile.Meaning
import FieldQuery.Proofs.Predicate.Check

namespace FieldQuery

/-! ## Truth of opposite criteria -/

theorem OrderRelation.holds_complement (relation : OrderRelation) (o : Ordering) :
    relation.complement.holds o = !relation.holds o := by
  cases relation <;> cases o <;> rfl

namespace Criterion

/-- The opposite criterion has the opposite truth, unless exclusion from a list counts nulls in. -/
theorem truth_negate {mode : NotInMode} {c : Criterion}
    (h : mode = .backendNegation ∨ ∀ negated, c.kind ≠ .member negated) (v : Value) :
    c.negate.truth mode v = (c.truth mode v).not := by
  cases c with
  | always truth => rfl
  | order relation bound =>
    show (v.compare? bound).map relation.complement.holds = Truth.not ((v.compare? bound).map relation.holds)
    rcases v.compare? bound with _ | o
    · rfl
    · exact congrArg some (relation.holds_complement o)
  | member negated items =>
    rcases h with rfl | hkind
    · cases negated with
      | false => rfl
      | true => exact (Truth.not_not (memberTruth items v)).symm
    · exact absurd rfl (hkind negated)
  | null negated | equal negated _ | equalFolded negated _ | between negated _ _ _ | text _ _ negated _
  | empty negated =>
    exact Truth.signed_not negated _

/-- Every value either belongs to a list or is excluded from it, a null included. -/
theorem member_true_iff (items : List Value) (v : Value) :
    ((member true items).truth .complement v == some true) =
      !((member false items).truth .complement v == some true) := by
  show (some (v.isNull || !contains items v) == some true) = !(memberTruth items v == some true)
  unfold memberTruth
  cases v.isNull with
  | false => cases contains items v <;> rfl
  -- no null is a member: of the empty list for sure, of another one it is UNKNOWN
  | true =>
    cases items with
    | nil => rfl
    | cons item rest => rfl

theorem member_negate (negated : Bool) (items : List Value) (v : Value) :
    ((member negated items).negate.truth .complement v == some true) =
      !((member negated items).truth .complement v == some true) := by
  cases negated with
  | false => exact member_true_iff items v
  | true =>
    show ((member false items).truth .complement v == some true) = _
    rw [member_true_iff, Bool.not_not]

end Criterion

/-! ## Compilation of opposite conditions -/

namespace Condition

theorem storedText_eq_ok_iff {c : Condition} {s t : String} :
    c.storedText s = .ok t ↔ c.attr.toStore (.text s) = .text t := by
  unfold storedText
  rcases c.attr.toStore (.text s) <;> simp

/-- What is made of a stored text exists exactly when the conversion gives a text. -/
theorem map_storedText_iff {c : Condition} {s : String} {f : String → Criterion} {stored : Criterion} :
    (c.storedText s).map f = .ok stored ↔ ∃ t, c.attr.toStore (.text s) = .text t ∧ stored = f t := by
  simp only [← storedText_eq_ok_iff]
  rcases c.storedText s with e | t
  · simp [Except.map]
  · simp [Except.map, eq_comm]

theorem stored_equalFolded (c : Condition) (negated : Bool) (s : String) :
    c.stored (.equalFolded negated s) = (c.storedText s).map (.equalFolded negated) := by
  rw [Condition.stored]
  rcases c.storedText s with e | t <;> rfl

theorem stored_text (c : Condition) (anchor : Text.Anchor) (folded negated : Bool) (s : String) :
    c.stored (.text anchor folded negated s) = (c.storedText s).map (.text anchor folded negated) := by
  rw [Condition.stored]
  rcases c.storedText s with e | t <;> rfl

theorem kind_stored {c : Condition} {criterion stored : Criterion} (h : c.stored criterion = .ok stored) :
    stored.kind = criterion.kind := by
  cases criterion with
  | equalFolded negated s =>
    rw [stored_equalFolded] at h
    obtain ⟨t, -, rfl⟩ := map_storedText_iff.1 h
    rfl
  | text anchor folded negated s =>
    rw [stored_text] at h
    obtain ⟨t, -, rfl⟩ := map_storedText_iff.1 h
    rfl
  | _ => cases h; rfl

theorem stored_negate {c : Condition} {criterion stored : Criterion} (h : c.stored criterion = .ok stored) :
    c.negate.stored criterion.negate = .ok stored.negate := by
  cases criterion with
  | equalFolded negated s =>
    rw [stored_equalFolded] at h
    obtain ⟨t, ht, rfl⟩ := map_storedText_iff.1 h
    rw [Criterion.negate, stored_equalFolded]
    exact map_storedText_iff.2 ⟨t, ht, rfl⟩
  | text anchor folded negated s =>
    rw [stored_text] at h
    obtain ⟨t, ht, rfl⟩ := map_storedText_iff.1 h
    rw [Criterion.negate, stored_text]
    exact map_storedText_iff.2 ⟨t, ht, rfl⟩
  | _ => cases h; rfl

theorem ready_eq_ok_iff {c : Condition} {stored : Criterion} :
    c.ready = .ok stored ↔ ∃ criterion, c.check = .ok criterion ∧ c.stored criterion = .ok stored := by
  unfold ready
  rcases c.check with e | criterion <;> simp

/-- The opposite condition is compiled from the opposite of the stored criterion. -/
theorem ready_negate {c : Condition} {stored : Criterion} (h : c.ready = .ok stored) :
    c.negate.ready = .ok stored.negate := by
  obtain ⟨criterion, hcheck, hstored⟩ := ready_eq_ok_iff.1 h
  exact ready_eq_ok_iff.2 ⟨criterion.negate, check_negate hcheck, stored_negate hstored⟩

theorem kind_ready {c : Condition} {stored : Criterion} (h : c.ready = .ok stored) : stored.kind = c.kind := by
  obtain ⟨criterion, hcheck, hstored⟩ := ready_eq_ok_iff.1 h
  exact (kind_stored hstored).trans (kind_of_check hcheck)

/-- A condition is ready to compile exactly when its opposite is. -/
theorem exists_ready_negate (c : Condition) :
    (∃ stored, c.negate.ready = .ok stored) ↔ ∃ stored, c.ready = .ok stored := by
  constructor
  · rintro ⟨stored, h⟩
    rw [← negate_negate c]
    exact ⟨stored.negate, ready_negate h⟩
  · rintro ⟨stored, h⟩
    exact ⟨stored.negate, ready_negate h⟩

theorem compile_eq_ok_iff {resolver : Resolver Unit Term} (policy : Policy) {c : Condition} {path : Term}
    (hpath : resolver c.attr () = (.ok path, ())) (s : Session Unit) {clause : Clause} :
    (CompileContext.compile ⟨Clause.builder, resolver, policy⟩ c s).1 = .ok clause ↔
      ∃ stored, c.ready = .ok stored ∧ stored.clause policy path = clause := by
  rw [compile_clause policy hpath]
  rcases c.ready with e | stored <;> simp [Except.map]

end Condition

/-! ## Opposite clauses -/

/-- With a path for the attribute, a condition and its opposite compile together, whoever listens.
Their clauses have opposite truth on every row; where exclusion from a list counts nulls in, just
one of the two clauses of membership and exclusion selects the row. -/
theorem CompileContext.compile_negate {resolver : Resolver Unit Term} (policy : Policy) {c : Condition}
    {path : Term} (hpath : resolver c.attr () = (.ok path, ())) (s s' : Session Unit) :
    ((∃ opposite, (compile ⟨Clause.builder, resolver, policy⟩ c.negate s').1 = .ok opposite) ↔
      ∃ clause, (compile ⟨Clause.builder, resolver, policy⟩ c s).1 = .ok clause) ∧
    ∀ clause opposite, (compile ⟨Clause.builder, resolver, policy⟩ c s).1 = .ok clause →
      (compile ⟨Clause.builder, resolver, policy⟩ c.negate s').1 = .ok opposite → ∀ row : Row,
        (policy.notIn = .backendNegation → opposite.eval row = (clause.eval row).not) ∧
        (policy.notIn = .complement → (∀ negated, c.kind ≠ .member negated) →
          opposite.eval row = (clause.eval row).not) ∧
        (policy.notIn = .complement → ∀ negated, c.kind = .member negated →
          opposite.selects row = !clause.selects row) := by
  -- the resolver is asked about the same attribute for the opposite condition
  have hpath' : resolver c.negate.attr () = (.ok path, ()) := hpath
  simp only [Condition.compile_eq_ok_iff policy hpath, Condition.compile_eq_ok_iff policy hpath']
  constructor
  · have hready := c.exists_ready_negate
    constructor
    · rintro ⟨_, stored, h, -⟩
      obtain ⟨stored, h⟩ := hready.1 ⟨stored, h⟩
      exact ⟨_, stored, h, rfl⟩
    · rintro ⟨_, stored, h, -⟩
      obtain ⟨stored, h⟩ := hready.2 ⟨stored, h⟩
      exact ⟨_, stored, h, rfl⟩
  · rintro clause opposite ⟨stored, hready, rfl⟩ ⟨stored', hready', rfl⟩ row
    have hstored : stored' = stored.negate := by
      rw [Condition.ready_negate hready] at hready'
      exact (Except.ok.inj hready').symm
    rw [hstored, Criterion.eval_clause, Criterion.eval_clause, ← Condition.kind_ready hready]
    refine ⟨fun hmode => ?_, fun _ hkind => ?_, fun hmode negated hkind => ?_⟩
    · exact Criterion.truth_negate (.inl hmode) _
    · exact Criterion.truth_negate (.inr hkind) _
    · unfold Clause.selects
      rw [Criterion.eval_clause, Criterion.eval_clause, hmode]
      cases stored with
      | member n items => exact Criterion.member_negate n items _
      | _ => cases hkind

/-- Of membership and exclusion just the exclusion selects a row without the cell. -/
theorem CompileContext.compile_negate_null :
    let c : Condition :=
      ⟨⟨"order", "total", .int, none, false⟩, .member false, .one (.list [.int 3]), ⟨true, true⟩⟩
    ∃ clause opposite, c.toClause = .ok clause ∧ c.negate.toClause = .ok opposite ∧
      clause.selects (fun _ => .null) = false ∧ opposite.selects (fun _ => .null) = true := by
  intro c
  have hpath : Clause.columns none c.attr () = (.ok (.column "total"), ()) := rfl
  obtain ⟨⟨-, hcompiles⟩, hopposite⟩ := compile_negate .standard hpath ⟨(), none⟩ ⟨(), none⟩
  obtain ⟨opposite, hnegate⟩ := hcompiles ⟨_, rfl⟩
  have hselects := (hopposite _ opposite rfl hnegate fun _ => .null).2.2 rfl false rfl
  exact ⟨_, opposite, rfl, hnegate, rfl, hselects⟩

end FieldQuery
