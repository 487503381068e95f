/-
What a policy can change. Whether a condition compiles, and with which error it does not, is the same under every
policy. The two clauses that it compiles to may differ as trees, by the escape character of a pattern and by the form
of an exclusion; as answers about a row they differ in one case only, the exclusion of a null from a list that is not
empty, and there only if the policies disagree about what exclusion means.
-/
import FieldQuery.Proofs.Compile.Conversion

namespace FieldQuery

/-! ## Truth under two meanings of exclusion -/

/-- The truth of the exclusion of a null from a list that is not empty. -/
def NotInMode.truthOfNull : NotInMode → Truth
  | complement => some true
  | backendNegation => none

namespace Criterion

/-- The criterion asks for exclusion from a list that is not empty. -/
def Excludes (c : Criterion) : Prop := c.kind = .member true ∧ c.literals ≠ []

theorem truth_member_nil (mode : NotInMode) (v : Value) : (member true []).truth mode v = some true := by
  cases mode with
  | complement => exact congrArg some (Bool.or_true v.isNull)
  | backendNegation =>
    show Truth.not (if v.isNull && false then none else some false) = some true
    rw [Bool.and_false]
    rfl

theorem truth_member_of_present {v : Value} (hv : v.isNull = false) (items : List Value) (mode : NotInMode) :
    (member true items).truth mode v = some !contains items v := by
  cases mode with
  | complement =>
    show some (v.isNull || !contains items v) = _
    rw [hv]
    rfl
  | backendNegation =>
    show Truth.not (memberTruth items v) = _
    rw [memberTruth, hv]
    rfl

theorem truth_of_excludes {c : Criterion} (h : c.Excludes) (mode : NotInMode) :
    c.truth mode .null = mode.truthOfNull := by
  obtain ⟨hkind, hliterals⟩ := h
  cases c with
  | member negated items =>
    cases hkind
    cases items with
    | nil => exact absurd rfl hliterals
    | cons item rest => cases mode <;> rfl
  | _ => cases hkind

/-- The meaning of exclusion only matters for the exclusion of a null from a list that is not empty. -/
theorem truth_mode_congr {c : Criterion} {v : Value} (h : ¬(c.Excludes ∧ v = .null)) (mode mode' : NotInMode) :
    c.truth mode v = c.truth mode' v := by
  -- no other kind reads the mode
  cases c with
  | member negated items =>
    cases negated with
    | false => rfl
    | true =>
      by_cases hv : v = .null
      · have hempty : items = [] := by
          cases items with
          | nil => rfl
          | cons item rest => exact absurd ⟨⟨rfl, nofun⟩, hv⟩ h
        rw [hempty, truth_member_nil, truth_member_nil]
      · have hpresent : v.isNull = false := by
          rw [← Bool.not_eq_true, Value.isNull_iff]
          exact hv
        rw [truth_member_of_present hpresent, truth_member_of_present hpresent]
  | _ => rfl

end Criterion

/-- The condition asks for exclusion from a list that is not empty. -/
def Condition.Excludes (c : Condition) : Prop := c.kind = .member true ∧ c.operands.literals ≠ []

/-- A conversion neither empties a list nor fills one. -/
theorem Condition.excludes_ready {c : Condition} {stored : Criterion} (h : c.ready = .ok stored) :
    stored.Excludes ↔ c.Excludes := by
  unfold Criterion.Excludes Condition.Excludes
  rw [kind_ready h, literals_ready h, ne_eq, List.map_eq_nil_iff]

/-! ## Compilation under two policies -/

namespace CompileContext

section TwoPolicies

variable {σ ε ν : Type} (b : Builder σ ε ν) (resolver : Resolver σ ε) (policy policy' : Policy) (c : Condition)
  (s : Session σ)

/-- What compilation fails with, if it fails, is the same under every policy, whatever the backend. -/
theorem compile_eq_error_iff (e : PredicateError) :
    (compile ⟨b, resolver, policy⟩ c s).1 = .error e ↔ (compile ⟨b, resolver, policy'⟩ c s).1 = .error e := by
  -- all that can fail comes before the policy is read: the check, the resolution, the conversion
  rcases hcheck : c.check with refusal | criterion
  · rw [compile_of_refused _ s hcheck, compile_of_refused _ s hcheck]
  rcases hpath : resolver c.attr s.backend with ⟨failure | path, resolved⟩
  · rw [(compile_of_unresolved ⟨b, resolver, policy⟩ s hcheck hpath).1,
      (compile_of_unresolved ⟨b, resolver, policy'⟩ s hcheck hpath).1]
  rcases hstored : c.stored criterion with lost | stored
  · rw [(compile_of_unstored ⟨b, resolver, policy⟩ s hcheck hpath hstored).1,
      (compile_of_unstored ⟨b, resolver, policy'⟩ s hcheck hpath hstored).1]
  · rw [(compile_of_stored ⟨b, resolver, policy⟩ s hcheck hpath hstored).1,
      (compile_of_stored ⟨b, resolver, policy'⟩ s hcheck hpath hstored).1]
    constructor <;> intro h <;> cases h

theorem exists_compile_iff :
    (∃ node, (compile ⟨b, resolver, policy⟩ c s).1 = .ok node) ↔
      ∃ node, (compile ⟨b, resolver, policy'⟩ c s).1 = .ok node := by
  have herror := compile_eq_error_iff b resolver policy policy' c s
  rcases hleft : (compile ⟨b, resolver, policy⟩ c s).1 with e | node
  · rw [(herror e).1 hleft]
  rcases hright : (compile ⟨b, resolver, policy'⟩ c s).1 with e | node'
  · cases ((herror e).2 hright).symm.trans hleft
  · exact iff_of_true ⟨node, rfl⟩ ⟨node', rfl⟩

end TwoPolicies

/-- Under two policies a condition compiles alike: under both or under neither, and then with the same error. The
answers of the two clauses about a row, true, false or UNKNOWN, are the same, unless the condition excludes from a list
that is not empty, the cell of the row is null, and the policies disagree about exclusion; then exclusion as a
complement is true of the row and exclusion by negation UNKNOWN. The escape character never matters to an answer. -/
theorem compile_policies (resolver : Resolver Unit Term) (policy policy' : Policy) (c : Condition) (s : Session Unit) :
    let compiled (policy : Policy) : Except PredicateError Clause :=
      (compile ⟨Clause.builder, resolver, policy⟩ c s).1
    ((∃ clause, compiled policy = .ok clause) ↔ ∃ clause, compiled policy' = .ok clause) ∧
    (∀ e, compiled policy = .error e ↔ compiled policy' = .error e) ∧
    ∀ clause clause', compiled policy = .ok clause → compiled policy' = .ok clause' →
      ∃ path, resolver c.attr () = (.ok path, ()) ∧
        (policy'.notIn = policy.notIn → ∀ row : Row, clause'.eval row = clause.eval row) ∧
        ∀ row : Row,
          (¬(c.Excludes ∧ path.eval row = .null) → clause'.eval row = clause.eval row) ∧
          (c.Excludes → path.eval row = .null →
            clause.eval row = policy.notIn.truthOfNull ∧ clause'.eval row = policy'.notIn.truthOfNull) := by
  intro compiled
  refine ⟨exists_compile_iff Clause.builder resolver policy policy' c s,
    compile_eq_error_iff Clause.builder resolver policy policy' c s, ?_⟩
  intro clause clause' hclause hclause'
  obtain ⟨_, path, _, -, hpath⟩ := clause_of_compile _ hclause
  obtain ⟨stored, hready, rfl⟩ := (Condition.compile_eq_ok_iff policy hpath s).1 hclause
  obtain ⟨stored', hready', rfl⟩ := (Condition.compile_eq_ok_iff policy' hpath s).1 hclause'
  -- the policy has no part in the stored criterion, so one truth answers for both clauses
  obtain rfl : stored = stored' := Except.ok.inj (hready.symm.trans hready')
  simp only [Criterion.eval_clause, ← Condition.excludes_ready hready]
  refine ⟨path, hpath, ?same, fun row => ⟨?outside, ?inside⟩⟩
  case same =>
    intro hmode row
    rw [hmode]
  case outside =>
    intro hnot
    exact Criterion.truth_mode_congr hnot _ _
  case inside =>
    intro hexcludes hnull
    rw [hnull]
    exact ⟨Criterion.truth_of_excludes hexcludes _, Criterion.truth_of_excludes hexcludes _⟩

/-- A person whose age is not known is outside the ages 1 and 2 as a complement, and by negation it is not known
whether they are. Another escape character changes nothing. -/
theorem compile_policies_unknown :
    let age : Attribute := ⟨"person", "age", .int, none, false⟩
    let outside : Condition := ⟨age, .member true, .one (.list [.int 1, .int 2]), ⟨true, true⟩⟩
    let negation : Policy := ⟨.backendNegation, '!', rfl⟩
    ∃ clause clause', outside.toClause .standard = .ok clause ∧ outside.toClause negation = .ok clause' ∧
      clause.eval (fun _ => .null) = some true ∧ clause'.eval (fun _ => .null) = none ∧
      clause'.eval (fun _ => .int 3) = clause.eval (fun _ => .int 3) := by
  intro age outside negation
  obtain ⟨-, -, hanswers⟩ := compile_policies (Clause.columns none) .standard negation outside ⟨(), none⟩
  obtain ⟨path, hpath, -, hrows⟩ := hanswers _ _ rfl rfl
  cases hpath
  have hexcludes : outside.Excludes := ⟨rfl, nofun⟩
  obtain ⟨hcomplement, hnegation⟩ := (hrows fun _ => .null).2 hexcludes rfl
  refine ⟨_, _, rfl, rfl, hcomplement, hnegation, (hrows fun _ => .int 3).1 ?_⟩
  rintro ⟨-, hnull⟩
  cases hnull

end CompileContext

end FieldQuery
