/-
Questions about texts without regard to letter case. A text that equals the operand equals it up to letter case.
A text that has the needle at an anchor has it there up to letter case if no capital sigma of the needle turns, and
at the ends of the text only then: text and needle are folded apart, and the form of a final sigma depends on what
stands around it.
-/
import FieldQuery.Proofs.Predicate.Check
import FieldQuery.Proofs.Text.Casing
import FieldQuery.Proofs.Text.Order
import FieldQuery.Proofs.Text.Sigma

namespace FieldQuery

/-! ## Folded questions -/

/-- The kind that asks the same without regard to letter case. -/
def PredicateKind.folding : PredicateKind → PredicateKind
  | equal negated => equalFolded negated
  | text anchor _ negated => text anchor true negated
  | kind => kind

namespace Predicate

variable {ρ : Type} {p : Predicate ρ} {record : ρ}

/-- The same question without regard to letter case. -/
def folding (p : Predicate ρ) : Predicate ρ := { p with kind := p.kind.folding }

/-- A test that has a result was made by a criterion. -/
theorem check_of_test {truth : Bool} (h : p.test record = .ok truth) :
    ∃ criterion, p.check = .ok criterion ∧ criterion.accepts (p.read record) = truth := by
  unfold test at h
  rcases hcheck : p.check with e | criterion
  · rw [hcheck] at h
    cases h
  · rw [hcheck] at h
    exact ⟨criterion, rfl, Except.ok.inj h⟩

variable {needle text : String}

/-- Only attributes of texts are compared with a text. -/
theorem isTextual_of_test {truth : Bool} (hoperands : p.operands = .one (.text needle))
    (h : p.test record = .ok truth) : p.isTextual = true := by
  obtain ⟨criterion, hcheck, -⟩ := check_of_test h
  obtain ⟨-, ho, hmeets⟩ := (Condition.check_eq_ok_iff _ _).1 hcheck
  rw [hoperands] at ho
  cases criterion <;> cases ho
  case equal => exact hmeets
  case equalFolded => exact hmeets
  case order => exact hmeets.2
  case text => exact hmeets

/-! ## Tests of texts -/

section Texts

variable (htextual : p.isTextual = true) (hoperands : p.operands = .one (.text needle))
  (hread : p.read record = .text text)

include htextual hoperands hread

theorem test_equal (hkind : p.kind = .equal false) : p.test record = .ok (text == needle) := by
  have hcheck : p.check = .ok (.equal false (.text needle)) :=
    (Condition.check_eq_ok_iff _ _).2 ⟨hkind.symm, hoperands.symm, htextual⟩
  rw [test_of_check hcheck, hread]
  refine congrArg Except.ok ?_
  show (some (decide (Text.compare text needle = .eq)) == some true) = (text == needle)
  rw [Bool.eq_iff_iff, beq_iff_eq, beq_iff_eq, Option.some.injEq, decide_eq_true_iff, Text.compare_eq_iff]

theorem test_equalFolded (hkind : p.kind = .equalFolded false) :
    p.test record = .ok (Text.casefold text == Text.casefold needle) := by
  have hcheck : p.check = .ok (.equalFolded false needle) :=
    (Condition.check_eq_ok_iff _ _).2 ⟨hkind.symm, hoperands.symm, htextual⟩
  rw [test_of_check hcheck, hread]
  exact congrArg Except.ok (Bool.bne_false _)

theorem test_text {anchor : Text.Anchor} {folded : Bool} (hkind : p.kind = .text anchor folded false) :
    p.test record = .ok (Criterion.holdsText anchor folded text needle) := by
  have hcheck : p.check = .ok (.text anchor folded false needle) :=
    (Condition.check_eq_ok_iff _ _).2 ⟨hkind.symm, hoperands.symm, htextual⟩
  rw [test_of_check hcheck, hread]
  exact congrArg Except.ok (Bool.bne_false _)

end Texts

/-! ## Ignoring letter case -/

/-- A question about a text that is answered with true keeps this answer without regard to letter case: always if it
asks for equality, and for a needle at an anchor if no capital sigma turns, as when there is none; at the ends of the
text it keeps the answer only then. -/
theorem test_folding_of_test (hoperands : p.operands = .one (.text needle)) (hread : p.read record = .text text)
    (h : p.test record = .ok true) :
    (p.kind = .equal false → p.folding.test record = .ok true) ∧
      ∀ anchor, p.kind = .text anchor false false → ∃ kept, p.folding.test record = .ok kept ∧
        (anchor.Keeps text needle → kept = true) ∧ ('Σ' ∉ needle.toList → kept = true) ∧
        (anchor ≠ .anywhere → kept = true → anchor.Keeps text needle) := by
  have htextual : p.isTextual = true := isTextual_of_test hoperands h
  constructor
  · intro hkind
    have hequal : text = needle := by
      rw [test_equal htextual hoperands hread hkind] at h
      exact eq_of_beq (Except.ok.inj h)
    have hfolding : p.folding.kind = .equalFolded false := congrArg PredicateKind.folding hkind
    rw [test_equalFolded (p := p.folding) htextual hoperands hread hfolding, hequal, beq_self_eq_true]
  · intro anchor hkind
    have hholds : anchor.holds text needle = true := by
      rw [test_text htextual hoperands hread hkind] at h
      exact Except.ok.inj h
    have hfolding : p.folding.kind = .text anchor true false := congrArg PredicateKind.folding hkind
    have hlowered : p.folding.test record = .ok (anchor.holds (Text.lowercase text) (Text.lowercase needle)) := by
      rw [test_text (p := p.folding) htextual hoperands hread hfolding, ← Text.casefold_eq_lowercase,
        ← Text.casefold_eq_lowercase]
      rfl
    refine ⟨_, hlowered, Text.Anchor.holds_lowercase_of_keeps, ?_, ?_⟩
    · intro hsigma
      exact Text.Anchor.holds_lowercase_of_keeps (Text.Anchor.keeps_of_not_mem hholds hsigma)
    · intro hend hkept
      exact Text.Anchor.keeps_of_holds_lowercase hend hholds hkept

/-- The sigma that ends a word in the needle ends one in the text, and the one inside a word stays inside. -/
theorem test_folding_of_test_final :
    let p : Predicate Value :=
      ⟨⟨⟨"person", "name", .text, none, false⟩, .text .head false false, .one (.text "ΟΔΥΣΣΕΥΣ"), ⟨true, true⟩⟩, id⟩
    let text : String := "ΟΔΥΣΣΕΥΣ ΛΑΕΡΤΙΑΔΗΣ"
    p.test (.text text) = .ok true ∧ Text.Anchor.head.Keeps text "ΟΔΥΣΣΕΥΣ" ∧ p.folding.test (.text text) = .ok true := by
  intro p text
  have hread : p.read (.text text) = .text text := rfl
  have htest : p.test (.text text) = .ok true :=
    (test_text rfl rfl hread rfl).trans (congrArg Except.ok (by decide +kernel))
  obtain ⟨-, hfolded⟩ := test_folding_of_test (p := p) rfl rfl htest
  obtain ⟨kept, hkept, hkeeps, -, -⟩ := hfolded .head rfl
  have hplace : Text.Anchor.head.Keeps text "ΟΔΥΣΣΕΥΣ" := by
    refine ⟨[], " ΛΑΕΡΤΙΑΔΗΣ".toList, by decide, rfl, ?_⟩
    rw [Text.not_turnsSigma_iff]
    decide +kernel
  obtain rfl := hkeeps hplace
  exact ⟨htest, hplace, hkept⟩

/-- A word that goes on after the needle, and one that ends with it: in neither place the needle is found without
regard to letter case. -/
theorem test_folding_lost :
    let p (anchor : Text.Anchor) (needle : String) : Predicate Value :=
      ⟨⟨⟨"person", "name", .text, none, false⟩, .text anchor false false, .one (.text needle), ⟨true, true⟩⟩, id⟩
    (p .head "ΑΣ").test (.text "ΑΣΑ") = .ok true ∧ (p .head "ΑΣ").folding.test (.text "ΑΣΑ") = .ok false ∧
      (p .tail "Σ").test (.text "ΑΣ") = .ok true ∧ (p .tail "Σ").folding.test (.text "ΑΣ") = .ok false ∧
      (p .anywhere "Σ").test (.text "ΑΣ") = .ok true ∧ (p .anywhere "Σ").folding.test (.text "ΑΣ") = .ok false := by
  intro p
  have htest : ∀ anchor needle text, (p anchor needle).test (.text text) =
      .ok (Criterion.holdsText anchor false text needle) := fun _ _ _ => test_text rfl rfl rfl rfl
  have hfolding : ∀ anchor needle text, (p anchor needle).folding.test (.text text) =
      .ok (Criterion.holdsText anchor true text needle) := fun _ _ _ => test_text rfl rfl rfl rfl
  simp only [htest, hfolding, Except.ok.injEq]
  decide +kernel

end Predicate

end FieldQuery
