/-
Ranges whose bounds stand in reverse order. Such a range holds no value but one: when two whole numbers
become the same float, the order still tells them apart, and that float, which compares with each of them
after rounding, is equal to both. With both bounds included it lies inside the range, and not outside.
-/
import FieldQuery.Proofs.Double.Rounding
import FieldQuery.Proofs.Double.TotalOrder
import FieldQuery.Proofs.Predicate.Check
import FieldQuery.Proofs.Text.Order

namespace FieldQuery

/-! ## Numbers through their floats -/

namespace Number

/-- An order of two numbers, exact or of their floats, is never the reverse of the order of their floats. -/
theorem rank_of_compare? {x y : Number} {o : Ordering} (h : x.compare? y = some o) :
    (o ≠ .gt → x.toDouble.rank ≤ y.toDouble.rank) ∧ (o ≠ .lt → y.toDouble.rank ≤ x.toDouble.rank) := by
  have hdouble (hd : x.toDouble.compare? y.toDouble = some o) :
      (o ≠ .gt → x.toDouble.rank ≤ y.toDouble.rank) ∧ (o ≠ .lt → y.toDouble.rank ≤ x.toDouble.rank) := by
    rw [← Double64.compare_rank_of_some hd]
    exact ⟨Int.compare_ne_gt.1, Int.compare_ne_lt.1⟩
  cases x with
  | float a => exact hdouble h
  | whole n =>
    cases y with
    | float b => exact hdouble h
    | whole m =>
      obtain rfl := Option.some.inj h
      refine ⟨?_, ?_⟩
      · intro hle
        exact Double64.rank_ofInt_mono (Int.compare_ne_gt.1 hle)
      · intro hge
        exact Double64.rank_ofInt_mono (Int.compare_ne_lt.1 hge)

/-- Numbers whose floats are in order do not compare in reverse through their floats. -/
theorem not_reversed_of_rank_le {a b : Number} (hrank : a.toDouble.rank ≤ b.toDouble.rank) :
    a.toDouble.compare? b.toDouble ≠ some .gt := by
  intro h
  have hgt := Int.compare_eq_gt.1 (Double64.compare_rank_of_some h)
  omega

/-- A number between two numbers in reverse order is a float, they are whole numbers, and it is equal to
both: through their floats the three are in order, so only whole numbers can be told apart. -/
theorem eq_of_reversed {x a b : Number} {lower upper : Ordering} (hreversed : a.compare? b = some .gt)
    (hlower : x.compare? a = some lower) (habove : lower ≠ .lt)
    (hupper : x.compare? b = some upper) (hbelow : upper ≠ .gt) :
    ∃ f m n, x = float f ∧ a = whole m ∧ b = whole n ∧ lower = .eq ∧ upper = .eq := by
  have hax := (rank_of_compare? hlower).2 habove
  have hxb := (rank_of_compare? hupper).1 hbelow
  have hba := (rank_of_compare? hreversed).2 (by decide)
  have hfloats := not_reversed_of_rank_le (Int.le_trans hax hxb)
  cases a with
  | float y => exact absurd hreversed hfloats
  | whole m =>
    cases b with
    | float y => exact absurd hreversed hfloats
    | whole n =>
      cases x with
      | whole k =>
        have hmn := Int.compare_eq_gt.1 (Option.some.inj hreversed)
        have hkm := Int.compare_ne_lt.1 (Option.some.inj hlower ▸ habove)
        have hkn := Int.compare_ne_gt.1 (Option.some.inj hupper ▸ hbelow)
        omega
      | float f =>
        refine ⟨f, m, n, rfl, rfl, rfl, ?_, ?_⟩
        · rw [← Double64.compare_rank_of_some hlower, Int.compare_eq_eq]
          omega
        · rw [← Double64.compare_rank_of_some hupper, Int.compare_eq_eq]
          omega

end Number

/-! ## Values between reversed bounds -/

namespace Value

/-- What compares with a number is a number. -/
theorem number_of_compare? {a b : Value} {x : Number} {o : Ordering} (h : a.compare? b = some o)
    (hx : a.number? = some x) : ∃ y, b.number? = some y ∧ x.compare? y = some o := by
  rcases hy : b.number? with _ | y
  · cases a with
    | char | float | int | uint =>
      cases b with
      | char | float | int | uint => cases hy
      | _ => cases h
    | _ => cases hx
  · exact ⟨y, rfl, compare?_of_number hx hy ▸ h⟩

/-- Values that compare are two truth values, two texts or two numbers. -/
theorem compare?_cases {a b : Value} {o : Ordering} (h : a.compare? b = some o) :
    (∃ s t, a = bool s ∧ b = bool t ∧ compare s.toNat t.toNat = o) ∨
    (∃ s t, a = text s ∧ b = text t ∧ Text.compare s t = o) ∨
    ∃ x y, a.number? = some x ∧ b.number? = some y ∧ x.compare? y = some o := by
  cases a with
  | bool s =>
    cases b with
    | bool t => exact .inl ⟨s, t, rfl, rfl, Option.some.inj h⟩
    | _ => cases h
  | text s =>
    cases b with
    | text t => exact .inr (.inl ⟨s, t, rfl, rfl, Option.some.inj h⟩)
    | _ => cases h
  | null | list => cases b <;> cases h
  | char | float | int | uint =>
    obtain ⟨y, hy, hxy⟩ := number_of_compare? h rfl
    exact .inr (.inr ⟨_, y, rfl, hy, hxy⟩)

/-- The value is a float that two whole numbers become. -/
def Merges (v first second : Value) : Prop :=
  ∃ x m n, v = float x ∧ first.number? = some (.whole m) ∧ second.number? = some (.whole n) ∧
    x.equal (Double64.ofInt m) = true ∧ x.equal (Double64.ofInt n) = true

theorem compare?_of_merges {v first second : Value} (h : v.Merges first second) :
    v.compare? first = some .eq ∧ v.compare? second = some .eq := by
  obtain ⟨x, m, n, rfl, hm, hn, hfirst, hsecond⟩ := h
  rw [compare?_of_number rfl hm, compare?_of_number rfl hn]
  exact ⟨of_decide_eq_true hfirst, of_decide_eq_true hsecond⟩

theorem merges_of_reversed {v first second : Value} {lower upper : Ordering}
    (hreversed : first.compare? second = some .gt) (hlower : v.compare? first = some lower) (habove : lower ≠ .lt)
    (hupper : v.compare? second = some upper) (hbelow : upper ≠ .gt) :
    v.Merges first second ∧ lower = .eq ∧ upper = .eq := by
  rcases compare?_cases hreversed with ⟨s, t, rfl, rfl, hst⟩ | ⟨s, t, rfl, rfl, hst⟩ | ⟨a, b, ha, hb, hab⟩
  · cases v with
    | bool u =>
      have hlower := Option.some.inj hlower
      have hupper := Option.some.inj hupper
      rw [Nat.compare_eq_gt] at hst
      rw [← hlower, Nat.compare_ne_lt] at habove
      rw [← hupper, Nat.compare_ne_gt] at hbelow
      omega
    | _ => cases hlower
  · cases v with
    | text u =>
      have hge := Ordering.isGE_iff_ne_lt.2 (Option.some.inj hlower ▸ habove)
      have hgt : Text.compare u t = .gt := Std.TransCmp.gt_of_isGE_of_gt hge hst
      exact absurd (Option.some.inj hupper ▸ hgt) hbelow
    | _ => cases hlower
  · rcases compare?_cases hlower with ⟨_, _, -, rfl, -⟩ | ⟨_, _, -, rfl, -⟩ | ⟨x, _, hx, -, -⟩
    · cases ha
    · cases ha
    rw [compare?_of_number hx ha] at hlower
    rw [compare?_of_number hx hb] at hupper
    obtain ⟨f, m, n, rfl, rfl, rfl, rfl, rfl⟩ := Number.eq_of_reversed hab hlower habove hupper hbelow
    have hv : v = float f := by cases v <;> cases hx; rfl
    exact ⟨⟨f, m, n, hv, ha, hb, decide_eq_true hlower, decide_eq_true hupper⟩, rfl, rfl⟩

end Value

/-! ## Reversed ranges -/

namespace Inclusion

theorem ne_of_admits {i : Inclusion} {lower upper : Ordering} (h : i.admits lower upper = true) :
    lower ≠ .lt ∧ upper ≠ .gt := by
  obtain ⟨start, finish⟩ := i
  cases start <;> cases finish <;> cases lower <;> cases upper <;> simp_all [admits]

theorem admits_eq_eq (i : Inclusion) : i.admits .eq .eq = true ↔ i = ⟨true, true⟩ := by
  obtain ⟨start, finish⟩ := i
  cases start <;> cases finish <;> decide

end Inclusion

namespace Criterion

/-- A range accepts by its test alone, since a null compares with no bound. -/
theorem accepts_between (negated : Bool) (first second : Value) (inclusion : Inclusion) (v : Value) :
    (between negated first second inclusion).accepts v = (inRange? v first second inclusion == some !negated) := by
  cases v with
  | null =>
    unfold inRange?
    rw [Value.compare?_null]
    rfl
  | _ => rfl

theorem inRange?_eq_true_iff {first second : Value} (hreversed : first.compare? second = some .gt)
    (inclusion : Inclusion) (v : Value) :
    inRange? v first second inclusion = some true ↔ inclusion = ⟨true, true⟩ ∧ v.Merges first second := by
  constructor
  · intro h
    unfold inRange? at h
    split at h
    next lower upper hlower hupper =>
      have hadmits := Option.some.inj h
      obtain ⟨habove, hbelow⟩ := Inclusion.ne_of_admits hadmits
      obtain ⟨hmerges, rfl, rfl⟩ := Value.merges_of_reversed hreversed hlower habove hupper hbelow
      exact ⟨inclusion.admits_eq_eq.1 hadmits, hmerges⟩
    next => cases h
  · rintro ⟨rfl, hmerges⟩
    obtain ⟨hfirst, hsecond⟩ := Value.compare?_of_merges hmerges
    unfold inRange?
    rw [hfirst, hsecond]
    rfl

/-- The test of a range has a result for the values that compare with its bounds. -/
theorem isSome_inRange? {first second : Value} (h : (first.compare? second).isSome) (inclusion : Inclusion)
    (v : Value) : (inRange? v first second inclusion).isSome ↔ (v.compare? first).isSome := by
  have hboth := Value.isSome_compare?_congr h v
  unfold inRange?
  rcases hlower : v.compare? first with _ | lower <;> rcases hupper : v.compare? second with _ | upper
  all_goals simp_all

end Criterion

variable {ρ : Type}

/-- The test of a valid range in memory, and that of its negation. -/
theorem Predicate.test_between {p : Predicate ρ} {first second : Value} (hkind : p.kind = .between false)
    (hoperands : p.operands = .two first second) (hvalid : p.validate = .ok ()) (record : ρ) :
    p.test record = .ok (Criterion.inRange? (p.read record) first second p.inclusion == some true) ∧
      p.negate.test record = .ok (Criterion.inRange? (p.read record) first second p.inclusion == some false) := by
  obtain ⟨criterion, hcheck⟩ := Condition.check_of_validate hvalid
  obtain ⟨hk, ho, hmeets⟩ := (Condition.check_eq_ok_iff _ _).1 hcheck
  rw [hkind] at hk
  rw [hoperands] at ho
  cases criterion <;> cases hk
  cases ho
  obtain ⟨-, -, -, -, rfl⟩ := hmeets
  have hnegated : p.negate.check = .ok _ := Condition.check_negate hcheck
  rw [test_of_check hcheck, test_of_check hnegated, Criterion.negate, Criterion.accepts_between,
    Criterion.accepts_between]
  exact ⟨rfl, rfl⟩

/-- With bounds in reverse order a range accepts no record, and its negation accepts every record whose value
compares with the bounds, but for one value: a float that the two bounds become, if both are included. -/
theorem Predicate.test_between_reversed {p : Predicate ρ} {first second : Value} (hkind : p.kind = .between false)
    (hoperands : p.operands = .two first second) (hvalid : p.validate = .ok ())
    (hreversed : first.compare? second = some .gt) (record : ρ) :
    let merged := p.inclusion = ⟨true, true⟩ ∧ (p.read record).Merges first second
    (p.test record = .ok false ↔ ¬ merged) ∧ (p.test record = .ok true ↔ merged) ∧
      (p.negate.test record = .ok true ↔ ((p.read record).compare? first).isSome ∧ ¬ merged) := by
  intro merged
  have hinside : Criterion.inRange? (p.read record) first second p.inclusion = some true ↔ merged :=
    Criterion.inRange?_eq_true_iff hreversed p.inclusion (p.read record)
  have hordered : (first.compare? second).isSome := Option.isSome_of_eq_some hreversed
  have hcompares := Criterion.isSome_inRange? hordered p.inclusion (p.read record)
  obtain ⟨htest, hnegated⟩ := test_between hkind hoperands hvalid record
  rw [htest, hnegated, ← hinside, ← hcompares]
  rcases Criterion.inRange? (p.read record) first second p.inclusion with _ | _ | _ <;> simp

/-- The letter A has the code 65, so no number lies between one hundred and it, and every one outside. -/
theorem Predicate.test_between_reversed_char :
    let p : Predicate Value :=
      ⟨⟨⟨"order", "total", .int, none, false⟩, .between false, .two (.uint 100) (.char 'A'), ⟨true, true⟩⟩, id⟩
    let half : Value := .float ⟨0x4054200000000000⟩
    p.validate = .ok () ∧ (Value.uint 100).compare? (.char 'A') = some .gt ∧
      p.test half = .ok false ∧ p.negate.test half = .ok true := by
  intro p half
  have hvalid : p.validate = .ok () := rfl
  have hreversed : (Value.uint 100).compare? (.char 'A') = some .gt := by decide
  have hapart : ¬ (p.inclusion = ⟨true, true⟩ ∧ half.Merges (.uint 100) (.char 'A')) := by
    rintro ⟨-, hmerges⟩
    have hequal := (Value.compare?_of_merges hmerges).1
    revert hequal
    decide +kernel
  obtain ⟨hinside, -, houtside⟩ := test_between_reversed rfl rfl hvalid hreversed half
  exact ⟨hvalid, hreversed, hinside.2 hapart, houtside.2 ⟨by decide +kernel, hapart⟩⟩

/-- The first whole number that is no float lies above the one before it, which it becomes as a float: the
reversed range of the two accepts that float, and the negation does not. -/
theorem Predicate.test_between_merged :
    let p : Predicate Value :=
      ⟨⟨⟨"person", "score", .float, none, false⟩, .between false,
        .two (.int 9007199254740993) (.int 9007199254740992), ⟨true, true⟩⟩, id⟩
    let merged : Value := .float ⟨0x4340000000000000⟩
    p.validate = .ok () ∧ (Value.int 9007199254740993).compare? (.int 9007199254740992) = some .gt ∧
      p.test merged = .ok true ∧ p.negate.test merged = .ok false := by
  intro p merged
  have hvalid : p.validate = .ok () := rfl
  have hinside : Criterion.inRange? merged (.int 9007199254740993) (.int 9007199254740992) ⟨true, true⟩ = some true := by
    decide +kernel
  obtain ⟨htest, hnegated⟩ := test_between rfl rfl hvalid merged
  refine ⟨hvalid, by decide, htest.trans ?_, hnegated.trans ?_⟩
  · exact congrArg (fun inside => Except.ok (inside == some true)) hinside
  · exact congrArg (fun inside => Except.ok (inside == some false)) hinside

end FieldQuery
