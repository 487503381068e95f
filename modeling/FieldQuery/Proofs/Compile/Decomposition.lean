/-
Ranges and lists in smaller questions. A range asks for both of its bounds, its negation for one of the opposite
relations to them; membership in a list asks for equality with one of the items, exclusion for equality with none.
This holds of the tests in memory and of the compiled clauses, whatever the conversion, since both follow the
three-valued truth of the criteria, for which the range is the "and" of its bounds.
-/
import FieldQuery.Proofs.Compile.Agreement
import FieldQuery.Proofs.Compile.Negation

namespace FieldQuery

variable {ρ : Type}

/-! ## Smaller questions -/

namespace Inclusion

/-- The relation to the lower bound that lets a value into the range. -/
def lowerRelation (i : Inclusion) : OrderRelation := if i.start then .greaterOrEqual else .greater

/-- The relation to the upper bound that lets a value into the range. -/
def upperRelation (i : Inclusion) : OrderRelation := if i.finish then .lessOrEqual else .less

theorem holds_lowerRelation (i : Inclusion) : i.lowerRelation.holds = i.lowerOp.holds := by
  rw [← Criterion.holds_compareOp]
  obtain ⟨start, finish⟩ := i
  cases start <;> rfl

theorem holds_upperRelation (i : Inclusion) : i.upperRelation.holds = i.upperOp.holds := by
  rw [← Criterion.holds_compareOp]
  obtain ⟨start, finish⟩ := i
  cases finish <;> rfl

end Inclusion

/-- A predicate that asks something else of the same attribute, with one operand. -/
def Predicate.asking (p : Predicate ρ) (kind : PredicateKind) (operand : Value) : Predicate ρ :=
  .ofField ⟨p.attr, p.read⟩ kind (.one operand)

/-! ## Truth -/

theorem Truth.and_eq_true (s t : Truth) : (s.and t == some true) = (s == some true && t == some true) := by
  rcases s with _ | _ | _ <;> rcases t with _ | _ | _ <;> rfl

theorem Truth.or_eq_true (s t : Truth) : (s.or t == some true) = (s == some true || t == some true) := by
  rcases s with _ | _ | _ <;> rcases t with _ | _ | _ <;> rfl

namespace Criterion

/-- A range is as true as both of its bounds. -/
theorem truth_between (mode : NotInMode) (first second : Value) (i : Inclusion) (v : Value) :
    (between false first second i).truth mode v =
      ((order i.lowerRelation first).truth mode v).and ((order i.upperRelation second).truth mode v) := by
  show Truth.signed false (rangeTruth first second i v) =
    Truth.and ((v.compare? first).map i.lowerRelation.holds) ((v.compare? second).map i.upperRelation.holds)
  rw [Truth.signed_false, i.holds_lowerRelation, i.holds_upperRelation]
  rfl

/-- The negation of a range is as true as one of the opposite relations to its bounds. -/
theorem truth_between_negate (mode : NotInMode) (first second : Value) (i : Inclusion) (v : Value) :
    (between false first second i).negate.truth mode v =
      ((order i.lowerRelation first).negate.truth mode v).or ((order i.upperRelation second).negate.truth mode v) := by
  have hother : ∀ c : Criterion, (∀ negated, c.kind ≠ .member negated) →
      c.negate.truth mode v = (c.truth mode v).not := fun c h => truth_negate (.inr h) v
  rw [hother _ (by simp [kind]), hother _ (by simp [kind]), hother _ (by simp [kind]), truth_between, Truth.not_and]

/-- Membership is true of the values of which equality with an item is. -/
theorem truth_member_iff (mode : NotInMode) (items : List Value) (v : Value) :
    (member false items).truth mode v = some true ↔ ∃ item ∈ items, (equal false item).truth mode v = some true := by
  have hequal : ∀ item, (equal false item).truth mode v = v.equal? item := fun item => Truth.signed_false _
  have hcontains : contains items v = true ↔ ∃ item ∈ items, v.equal? item = some true := by
    unfold contains
    rw [List.any_eq_true]
    simp only [beq_iff_eq]
  simp only [hequal]
  rw [← hcontains]
  show memberTruth items v = some true ↔ _
  unfold memberTruth
  cases hnull : v.isNull with
  | false => simp
  | true =>
    -- a null equals no item, so it is no member even where the answer would be known
    have hnone : contains items v = false := by
      rw [Value.isNull_iff.1 hnull]
      unfold contains Value.equal?
      simp [Value.compare?_null]
    rw [hnone]
    cases items <;> simp

theorem truth_member_map_iff (mode : NotInMode) (f : Value → Value) (items : List Value) (v : Value) :
    (member false (items.map f)).truth mode v = some true ↔
      ∃ item ∈ items, (equal false (f item)).truth mode v = some true := by
  rw [truth_member_iff]
  constructor
  · rintro ⟨_, hmapped, htrue⟩
    obtain ⟨item, hitem, rfl⟩ := List.mem_map.1 hmapped
    exact ⟨item, hitem, htrue⟩
  · rintro ⟨item, hitem, htrue⟩
    exact ⟨f item, List.mem_map_of_mem hitem, htrue⟩

end Criterion

/-! ## Checks -/

theorem Value.family_of_scale? {v : Value} {scale : Family} (h : v.scale? = some scale) : v.family = scale := by
  cases v <;> simp only [scale?, Option.some.injEq, reduceCtorEq] at h
  case float x =>
    split at h
    · cases h
    · exact Option.some.inj h
  all_goals exact h

/-- Comparable values are of one family. -/
theorem Value.family_eq_of_compare? {a b : Value} (h : (a.compare? b).isSome) : a.family = b.family := by
  obtain ⟨scale, ha, hb⟩ := (isSome_compare?_iff a b).1 h
  rw [family_of_scale? ha, family_of_scale? hb]

namespace Predicate

variable {p : Predicate ρ} {first second : Value}

theorem check_asking_order {relation : OrderRelation} {bound : Value} (hbound : Condition.canBound bound = true)
    (hfamily : p.sameFamily bound = true) :
    (p.asking (.order relation) bound).check = .ok (.order relation bound) :=
  (Condition.check_eq_ok_iff _ _).2 ⟨rfl, rfl, hbound, hfamily⟩

/-- Both bounds of a range can stand in an order relation. -/
theorem check_asking_bounds (hcheck : p.check = .ok (.between false first second p.inclusion))
    (lower upper : OrderRelation) :
    (p.asking (.order lower) first).check = .ok (.order lower first) ∧
      (p.asking (.order upper) second).check = .ok (.order upper second) := by
  obtain ⟨-, -, hfirst, hsecond, hordered, hfamily, -⟩ := (Condition.check_eq_ok_iff _ _).1 hcheck
  refine ⟨check_asking_order hfirst hfamily, check_asking_order hsecond ?_⟩
  unfold Condition.sameFamily at *
  rw [← Value.family_eq_of_compare? hordered]
  exact hfamily

theorem check_asking_item {items : List Value} (hcheck : p.check = .ok (.member false items)) {item : Value}
    (hitem : item ∈ items) : (p.asking (.equal false) item).check = .ok (.equal false item) := by
  obtain ⟨-, -, hscalars⟩ := (Condition.check_eq_ok_iff _ _).1 hcheck
  exact (Condition.check_eq_ok_iff _ _).2 ⟨rfl, rfl, hscalars item hitem⟩

end Predicate

@[simp]
theorem Criterion.mapOperands_id (c : Criterion) : c.mapOperands id = c := by
  cases c <;> simp [mapOperands]

/-! ## What it means to be made of smaller questions -/

namespace Predicate

/-- A predicate asks two others at once: both can be asked, its test joins the answers of theirs, and its clause
joins the truths of theirs on every row. -/
structure Combines (compiled : Condition → Except PredicateError Clause) (join : Bool → Bool → Bool)
    (joinTruth : Truth → Truth → Truth) (p first second : Predicate ρ) : Prop where
  valid : first.validate = .ok () ∧ second.validate = .ok ()
  tests : ∀ record, ∃ answer answer', first.test record = .ok answer ∧ second.test record = .ok answer' ∧
    p.test record = .ok (join answer answer')
  clauses : ∃ whole left right, compiled p.toCondition = .ok whole ∧ compiled first.toCondition = .ok left ∧
    compiled second.toCondition = .ok right ∧ ∀ row : Row, whole.eval row = joinTruth (left.eval row) (right.eval row)

/-- A predicate asks for one of the items: equality with each of them can be asked, its test is true where one of
these is and the test of its negation where none is, and its clause selects the rows that one of theirs selects. -/
structure Collects (compiled : Condition → Except PredicateError Clause) (p : Predicate ρ) (items : List Value) :
    Prop where
  valid : ∀ item ∈ items, (p.asking (.equal false) item).validate = .ok ()
  tests : ∀ record, ∃ inside, p.test record = .ok inside ∧ p.negate.test record = .ok (!inside) ∧
    (inside = true ↔ ∃ item ∈ items, (p.asking (.equal false) item).test record = .ok true)
  clauses : ∃ whole, ∃ single : Value → Clause, compiled p.toCondition = .ok whole ∧
    (∀ item ∈ items, compiled (p.asking (.equal false) item).toCondition = .ok (single item)) ∧
    ∀ row : Row, whole.selects row = true ↔ ∃ item ∈ items, (single item).selects row = true

/-! ## Tests and clauses by truth -/

/-- The predicate `q` asks the attribute of `p` whether the criterion holds, and is no search in a text. -/
structure Asks (p q : Predicate ρ) (criterion : Criterion) : Prop where
  attr : q.attr = p.attr
  read : q.read = p.read
  check : q.check = .ok criterion
  noSearch : criterion.kind.contract ≠ .text

variable {p q first second : Predicate ρ} {criterion : Criterion}

theorem Asks.negate (h : p.Asks q criterion) (hopposite : criterion.negate.kind.contract ≠ .text) :
    p.Asks q.negate criterion.negate :=
  ⟨h.attr, h.read, Condition.check_negate h.check, hopposite⟩

theorem Asks.validate (h : p.Asks q criterion) : q.validate = .ok () :=
  Condition.validate_of_check h.check

theorem Asks.test (h : p.Asks q criterion) (record : ρ) :
    q.test record = .ok (criterion.truth .complement (p.read record) == some true) := by
  rw [test_eq_truth h.check, h.read]

section Compiled

variable {resolver : Resolver Unit Term} {path : Term} (policy : Policy) (s : Session Unit)
  (hpath : resolver p.attr () = (.ok path, ()))

include hpath

/-- The clause of a predicate is that of its criterion with the operands in stored form. -/
theorem Asks.compile (h : p.Asks q criterion) :
    (CompileContext.compile ⟨Clause.builder, resolver, policy⟩ q.toCondition s).1 =
      .ok ((criterion.mapOperands p.attr.toStore).clause policy path) := by
  have hready : q.ready = .ok (criterion.mapOperands q.attr.toStore) :=
    Condition.ready_eq_ok_iff.2 ⟨criterion, h.check, Criterion.stored_eq_mapOperands _ h.noSearch⟩
  rw [Condition.compile_clause policy (h.attr ▸ hpath), hready, h.attr]
  rfl

/-- A predicate combines two others if the truth of its criterion joins theirs, whatever the operands become. -/
theorem combines_of_truth {whole left right : Criterion} (hwhole : p.Asks q whole) (hleft : p.Asks first left)
    (hright : p.Asks second right) {join : Bool → Bool → Bool} {joinTruth : Truth → Truth → Truth}
    (hjoin : ∀ t t', (joinTruth t t' == some true) = join (t == some true) (t' == some true))
    (htruth : ∀ mode f v, (whole.mapOperands f).truth mode v =
      joinTruth ((left.mapOperands f).truth mode v) ((right.mapOperands f).truth mode v)) :
    Combines (fun c => (CompileContext.compile ⟨Clause.builder, resolver, policy⟩ c s).1) join joinTruth q first
      second where
  valid := ⟨hleft.validate, hright.validate⟩
  tests record := by
    refine ⟨_, _, hleft.test record, hright.test record, ?_⟩
    have hdefinite := htruth .complement id (p.read record)
    simp only [Criterion.mapOperands_id] at hdefinite
    rw [hwhole.test, hdefinite, hjoin]
  clauses := by
    refine ⟨_, _, _, hwhole.compile policy s hpath, hleft.compile policy s hpath, hright.compile policy s hpath,
      fun row => ?_⟩
    rw [Criterion.eval_clause, Criterion.eval_clause, Criterion.eval_clause, htruth]

/-- A range combines the relations to its bounds, and its negation the opposite ones. -/
theorem combines_of_check {a b : Value} (hcheck : p.check = .ok (.between false a b p.inclusion)) :
    let compiled (c : Condition) : Except PredicateError Clause :=
      (CompileContext.compile ⟨Clause.builder, resolver, policy⟩ c s).1
    let lower := p.asking (.order p.inclusion.lowerRelation) a
    let upper := p.asking (.order p.inclusion.upperRelation) b
    Combines compiled and Truth.and p lower upper ∧
      Combines compiled or Truth.or p.negate lower.negate upper.negate := by
  intro compiled lower upper
  obtain ⟨hcheckLower, hcheckUpper⟩ := check_asking_bounds hcheck p.inclusion.lowerRelation p.inclusion.upperRelation
  have hwhole : p.Asks p (.between false a b p.inclusion) := ⟨rfl, rfl, hcheck, nofun⟩
  have hlower : p.Asks lower (.order p.inclusion.lowerRelation a) := ⟨rfl, rfl, hcheckLower, nofun⟩
  have hupper : p.Asks upper (.order p.inclusion.upperRelation b) := ⟨rfl, rfl, hcheckUpper, nofun⟩
  constructor
  · exact combines_of_truth policy s hpath hwhole hlower hupper Truth.and_eq_true
      fun mode f v => Criterion.truth_between mode (f a) (f b) p.inclusion v
  · exact combines_of_truth policy s hpath (hwhole.negate nofun) (hlower.negate nofun) (hupper.negate nofun)
      Truth.or_eq_true fun mode f v => Criterion.truth_between_negate mode (f a) (f b) p.inclusion v

/-- Membership in a list collects the equalities with its items. -/
theorem collects_of_check {items : List Value} (hcheck : p.check = .ok (.member false items)) :
    Collects (fun c => (CompileContext.compile ⟨Clause.builder, resolver, policy⟩ c s).1) p items := by
  have hwhole : p.Asks p (.member false items) := ⟨rfl, rfl, hcheck, nofun⟩
  have hsingle : ∀ item ∈ items, p.Asks (p.asking (.equal false) item) (.equal false item) :=
    fun item hitem => ⟨rfl, rfl, check_asking_item hcheck hitem, nofun⟩
  refine ⟨fun item hitem => (hsingle item hitem).validate, fun record => ?tests, ?clauses⟩
  case tests =>
    refine ⟨_, hwhole.test record, ?_, ?_⟩
    · have hopposite : p.Asks p.negate (.member true items) := hwhole.negate nofun
      rw [hopposite.test, Criterion.member_true_iff]
    · rw [beq_iff_eq, Criterion.truth_member_iff]
      refine exists_congr fun item => and_congr_right fun hitem => ?_
      rw [(hsingle item hitem).test, Except.ok.injEq, beq_iff_eq]
  case clauses =>
    refine ⟨_, fun item => (Criterion.equal false (p.attr.toStore item)).clause policy path,
      hwhole.compile policy s hpath, fun item hitem => (hsingle item hitem).compile policy s hpath, fun row => ?_⟩
    unfold Clause.selects
    simp only [Criterion.eval_clause, beq_iff_eq]
    exact Criterion.truth_member_map_iff policy.notIn p.attr.toStore items (path.eval row)

end Compiled

/-! ## Ranges and lists -/

/-- A valid range asks for the relations to both of its bounds, its negation for the opposite of one of them, and
membership in a list for equality with one of the items, a repeated one or none at all included. The single
questions are valid, the tests in memory are joined as the questions say, and so are the compiled clauses, whatever
the conversion, by the "and" and the "or" of truths that may be UNKNOWN. -/
theorem combines_between_collects_member {p : Predicate ρ} (hvalid : p.validate = .ok ())
    {resolver : Resolver Unit Term} {path : Term} (policy : Policy) (hpath : resolver p.attr () = (.ok path, ())) (s : Session Unit) :
    let compiled (c : Condition) : Except PredicateError Clause :=
      (CompileContext.compile ⟨Clause.builder, resolver, policy⟩ c s).1
    (∀ first second, p.kind = .between false → p.operands = .two first second →
      let lower := p.asking (.order p.inclusion.lowerRelation) first
      let upper := p.asking (.order p.inclusion.upperRelation) second
      Combines compiled and Truth.and p lower upper ∧
        Combines compiled or Truth.or p.negate lower.negate upper.negate) ∧
    ∀ items, p.kind = .member false → p.operands = .one (.list items) → Collects compiled p items := by
  intro compiled
  obtain ⟨criterion, hcheck⟩ := Condition.check_of_validate hvalid
  obtain ⟨hkind, hoperands, -⟩ := (Condition.check_eq_ok_iff _ _).1 hcheck
  constructor
  · intro first second hbetween htwo lower upper
    rw [hbetween] at hkind
    rw [htwo] at hoperands
    cases criterion <;> cases hkind
    cases hoperands
    obtain rfl : p.inclusion = _ := ((Condition.check_eq_ok_iff _ _).1 hcheck).2.2.2.2.2.2.symm
    exact combines_of_check policy s hpath hcheck
  · intro items hmember hlist
    rw [hmember] at hkind
    rw [hlist] at hoperands
    cases criterion <;> cases hkind
    cases hoperands
    exact collects_of_check policy s hpath hcheck

/-- Temperatures are asked for in degrees Celsius and stored in kelvins. A room as warm as the upper bound, which is
excluded, fails the range as it fails the bound; one as warm as an item that the list repeats is a member. -/
theorem combines_between_collects_member_kelvin :
    let shift : Int64 → Value → Value := fun amount v => match v with
      | .int n => .int (n + amount)
      | v => v
    let heat : Attribute := ⟨"room", "heat", .int, some ⟨shift 273, shift (-273)⟩, false⟩
    let range : Predicate Value := ⟨⟨heat, .between false, .two (.int 0) (.int 20), ⟨true, false⟩⟩, id⟩
    let list : Predicate Value := ⟨⟨heat, .member false, .one (.list [.int 3, .int 3]), ⟨true, true⟩⟩, id⟩
    let row (kelvins : Int64) : Row := fun _ => .int kelvins
    range.validate = .ok () ∧ list.validate = .ok () ∧
      (∃ whole upper, range.toClause = .ok whole ∧ (range.asking (.order .less) (.int 20)).toClause = .ok upper ∧
        whole.eval (row 293) = some false ∧ upper.eval (row 293) = some false) ∧
      ∃ whole, list.toClause = .ok whole ∧ whole.selects (row 276) = true := by
  intro shift heat range list row
  have hrange : range.validate = .ok () := rfl
  have hlist : list.validate = .ok () := rfl
  have hpath : Clause.columns none heat () = (.ok (.column "heat"), ()) := rfl
  obtain ⟨hcombines, -⟩ := combines_between_collects_member hrange .standard hpath ⟨(), none⟩
  obtain ⟨-, hcollects⟩ := combines_between_collects_member hlist .standard hpath ⟨(), none⟩
  refine ⟨hrange, hlist, ?_, ?_⟩
  · obtain ⟨whole, lower, upper, hwhole, hlower, hupper, heval⟩ := (hcombines _ _ rfl rfl).1.clauses
    obtain rfl := Except.ok.inj hlower
    obtain rfl := Except.ok.inj hupper
    exact ⟨whole, _, hwhole, rfl, heval (row 293), rfl⟩
  · obtain ⟨whole, single, hwhole, hsingle, hselects⟩ := (hcollects _ rfl rfl).clauses
    refine ⟨whole, hwhole, (hselects (row 276)).2 ⟨.int 3, List.mem_cons_self, ?_⟩⟩
    rw [← Except.ok.inj (hsingle (.int 3) List.mem_cons_self)]
    rfl

end Predicate

end FieldQuery
