/-
Case folding takes a short way for texts of the first 128 characters; it gives what lower-casing
gives, so folding is lower-casing for every text. The lower-case form of a character is not in the
table again, so lower-casing twice is lower-casing once.
-/
import FieldQuery.Text.Casing

namespace FieldQuery.Text

/-! ## The first 128 characters -/

/-- The table starts with the letters `A` to `Z`; every other run starts above the first 128
characters. -/
theorem lowerRuns_eq : ∃ rest, lowerRuns = ⟨0x41, 0x5a, 1, 32⟩ :: rest ∧ ∀ run ∈ rest, 128 ≤ run.first := by
  have htail : lowerRuns.tail.all (fun run => decide (128 ≤ run.first)) = true := by decide +kernel
  refine ⟨lowerRuns.tail, rfl, fun run hrun => ?_⟩
  exact of_decide_eq_true (List.all_eq_true.1 htail run hrun)

theorem find?_lowerRuns_ascii {n : Nat} (h : n < 128) :
    lowerRuns.find? (·.has n) = if 65 ≤ n ∧ n ≤ 90 then some ⟨0x41, 0x5a, 1, 32⟩ else none := by
  obtain ⟨rest, hruns, hrest⟩ := lowerRuns_eq
  have hnone : rest.find? (·.has n) = none := by
    rw [List.find?_eq_none]
    intro run hrun
    have := hrest run hrun
    simp only [CaseRun.has, Bool.and_eq_true, decide_eq_true_eq, not_and]
    omega
  rw [hruns, List.find?_cons, hnone]
  by_cases hletter : 65 ≤ n ∧ n ≤ 90
  · rw [if_pos hletter]
    have : (⟨0x41, 0x5a, 1, 32⟩ : CaseRun).has n = true := by simp [CaseRun.has, hletter, Nat.mod_one]
    rw [this]
  · rw [if_neg hletter]
    have : (⟨0x41, 0x5a, 1, 32⟩ : CaseRun).has n = false := by
      simp only [CaseRun.has, Nat.mod_one, decide_true, Bool.and_true, Bool.and_eq_false_iff,
        decide_eq_false_iff_not]
      omega
    rw [this]

theorem lowerChar_ascii {c : Char} (h : c.toNat < 128) : lowerChar c = [lowerAscii c] := by
  have hdot : c.toNat ≠ 0x130 := by omega
  unfold lowerChar lowerAscii
  rw [if_neg hdot, find?_lowerRuns_ascii h]
  by_cases hletter : 65 ≤ c.toNat ∧ c.toNat ≤ 90
  · rw [if_pos hletter, if_pos hletter]
    rfl
  · rw [if_neg hletter, if_neg hletter]

theorem lowerFrom_ascii : ∀ (cs before : List Char), (∀ c ∈ cs, c.toNat < 128) →
    lowerFrom before cs = cs.map lowerAscii
  | [], _, _ => rfl
  | c :: rest, before, h => by
    have hc : c.toNat < 128 := h c List.mem_cons_self
    have hsigma : c ≠ 'Σ' := by rintro rfl; exact absurd hc (by decide)
    unfold lowerFrom
    rw [if_neg hsigma, lowerChar_ascii hc,
      lowerFrom_ascii rest (c :: before) fun d hd => h d (List.mem_cons_of_mem _ hd)]
    rfl

/-! ## Folding and lower-casing -/

/-- Folding is lower-casing: the short way never shows. -/
theorem casefold_eq_lowercase (s : String) : casefold s = lowercase s := by
  unfold casefold
  split
  · rename_i hs
    have hascii : ∀ c ∈ s.toList, c.toNat < 128 := by simpa [isAscii] using hs
    unfold lowercase
    rw [lowerFrom_ascii s.toList [] hascii]
  · rfl

/-! ## Lower-case forms in the table -/

namespace CaseRun

variable {run other : CaseRun} {code : Nat}

/-- The code point of the lower-case form of a code point of the run. -/
def lower (run : CaseRun) (code : Nat) : Nat := ((code : Int) + run.shift).toNat

/-- Whether the lower-case forms of the run are characters. -/
def meetsChars (run : CaseRun) : Bool :=
  decide (0 ≤ (run.first : Int) + run.shift) &&
    ((run.lower run.last).blt 0xd800 || (0xdfff).blt (run.lower run.first) && (run.lower run.last).blt 0x110000)

/-- Whether the lower-case forms of the run are outside another run: before it, behind it, or between its members. -/
def avoids (run other : CaseRun) : Bool :=
  (run.lower run.last).blt other.first || other.last.blt (run.lower run.first) ||
    (other.step.beq 2 && (run.step.beq 2 || run.first.beq run.last) &&
      ((run.lower run.first + other.first) % 2).beq 1)

theorem has_iff : run.has code = true ↔
    run.first ≤ code ∧ code ≤ run.last ∧ (code - run.first) % run.step = 0 := by
  simp only [has, Bool.and_eq_true, decide_eq_true_eq, and_assoc]

theorem isValidChar_lower (hrun : run.meetsChars = true) (hcode : run.has code = true) :
    (run.lower code).isValidChar := by
  obtain ⟨hfirst, hlast, -⟩ := has_iff.1 hcode
  simp only [meetsChars, lower, Bool.and_eq_true, Bool.or_eq_true, decide_eq_true_eq, Nat.blt_eq] at hrun
  unfold lower Nat.isValidChar
  omega

theorem has_lower_of_avoids (hrun : run.meetsChars = true) (havoids : run.avoids other = true)
    (hcode : run.has code = true) : other.has (run.lower code) = false := by
  obtain ⟨hfirst, hlast, hstep⟩ := has_iff.1 hcode
  have hnonneg : 0 ≤ (run.first : Int) + run.shift := by
    simp only [meetsChars, Bool.and_eq_true, decide_eq_true_eq] at hrun
    exact hrun.1
  simp only [avoids, lower, Bool.or_eq_true, Bool.and_eq_true, Nat.blt_eq, Nat.beq_eq] at havoids
  rw [← Bool.not_eq_true, has_iff, lower]
  rintro ⟨hlow, hhigh, hmember⟩
  rcases havoids with (hbefore | hbehind) | ⟨⟨htwo, hsparse⟩, hodd⟩
  · omega
  · omega
  · -- the members of both runs are every second character, and the forms fall between
    rw [htwo] at hmember
    have hparity : (code - run.first) % 2 = 0 := by
      rcases hsparse with htwo' | hsingle
      · rw [htwo'] at hstep
        exact hstep
      · omega
    omega

end CaseRun

/-- Every lower-case form in the table is a character, and it is neither in the table nor the capital I with a dot. -/
theorem lowerRuns_lower {run : CaseRun} (hrun : run ∈ lowerRuns) :
    run.meetsChars = true ∧ run.avoids ⟨0x130, 0x130, 1, 0⟩ = true ∧ ∀ other ∈ lowerRuns, run.avoids other = true := by
  have htable : lowerRuns.all (fun run =>
      run.meetsChars && run.avoids ⟨0x130, 0x130, 1, 0⟩ && lowerRuns.all run.avoids) = true := by decide +kernel
  have hall := List.all_eq_true.1 htable run hrun
  simp only [Bool.and_eq_true, List.all_eq_true] at hall
  exact ⟨hall.1.1, hall.1.2, hall.2⟩

/-! ## Lowered characters -/

theorem toNat_ofNat_of_isValidChar {n : Nat} (h : n.isValidChar) : (Char.ofNat n).toNat = n := by
  unfold Char.ofNat
  rw [dif_pos h]
  rfl

theorem lowerChar_of_not_has {c : Char} (hdot : c.toNat ≠ 0x130) (hruns : ∀ run ∈ lowerRuns, run.has c.toNat = false) :
    lowerChar c = [c] := by
  have hnone : lowerRuns.find? (·.has c.toNat) = none := by
    rw [List.find?_eq_none]
    intro run hrun
    rw [hruns run hrun]
    exact Bool.false_ne_true
  unfold lowerChar
  rw [if_neg hdot, hnone]

/-- The characters of a lower-case form have no other lower-case form. -/
theorem lowerChar_of_mem {c d : Char} (h : d ∈ lowerChar c) : lowerChar d = [d] := by
  unfold lowerChar at h
  by_cases hdot : c.toNat = 0x130
  · have hforms : d = 'i' ∨ d = Char.ofNat 0x307 := by simpa [hdot] using h
    rcases hforms with rfl | rfl <;> decide +kernel
  rw [if_neg hdot] at h
  rcases hfind : lowerRuns.find? (·.has c.toNat) with _ | run
  · rw [hfind] at h
    obtain rfl := List.mem_singleton.1 h
    unfold lowerChar
    rw [if_neg hdot, hfind]
  · rw [hfind] at h
    obtain rfl : d = Char.ofNat (run.lower c.toNat) := List.mem_singleton.1 h
    have hcode := List.find?_some hfind
    obtain ⟨hchars, hdotted, hruns⟩ := lowerRuns_lower (List.mem_of_find?_eq_some hfind)
    have hlower : (Char.ofNat (run.lower c.toNat)).toNat = run.lower c.toNat :=
      toNat_ofNat_of_isValidChar (CaseRun.isValidChar_lower hchars hcode)
    refine lowerChar_of_not_has ?_ fun other hother => ?_
    · intro hdot'
      have hhas := CaseRun.has_lower_of_avoids hchars hdotted hcode
      rw [← hlower, hdot'] at hhas
      cases hhas
    · rw [hlower]
      exact CaseRun.has_lower_of_avoids hchars (hruns other hother) hcode

/-- A text of characters that have no other lower-case form stays. -/
theorem lowerFrom_of_lowered : ∀ (cs before : List Char), (∀ c ∈ cs, lowerChar c = [c]) → lowerFrom before cs = cs
  | [], _, _ => rfl
  | c :: rest, before, h => by
    have hc : lowerChar c = [c] := h c List.mem_cons_self
    have hsigma : c ≠ 'Σ' := by
      rintro rfl
      exact absurd hc (by decide +kernel)
    unfold lowerFrom
    rw [if_neg hsigma, hc, lowerFrom_of_lowered rest (c :: before) fun d hd => h d (List.mem_cons_of_mem _ hd)]
    rfl

/-- Only such characters are in a lower-case text. -/
theorem lowerChar_of_mem_lowerFrom : ∀ (cs before : List Char), ∀ d ∈ lowerFrom before cs, lowerChar d = [d]
  | [], _, d, h => by cases h
  | c :: rest, before, d, h => by
    unfold lowerFrom at h
    rcases List.mem_append.1 h with hfirst | hrest
    · by_cases hsigma : c = 'Σ'
      · have hforms : d = 'ς' ∨ d = 'σ' := by
          rw [if_pos hsigma] at hfirst
          split at hfirst
          · exact .inl (List.mem_singleton.1 hfirst)
          · exact .inr (List.mem_singleton.1 hfirst)
        rcases hforms with rfl | rfl <;> decide +kernel
      · rw [if_neg hsigma] at hfirst
        exact lowerChar_of_mem hfirst
    · exact lowerChar_of_mem_lowerFrom rest (c :: before) d hrest

/-! ## Folding twice -/

/-- Lower-casing what is lower-case changes nothing. -/
theorem lowercase_lowercase (s : String) : lowercase (lowercase s) = lowercase s := by
  have hlowered : (lowercase s).toList = lowerFrom [] s.toList := String.toList_ofList
  rw [lowercase, hlowered, lowerFrom_of_lowered _ [] (lowerChar_of_mem_lowerFrom s.toList []), ← hlowered,
    String.ofList_toList]

/-- Folding what is folded changes nothing. -/
theorem casefold_casefold (s : String) : casefold (casefold s) = casefold s := by
  rw [casefold_eq_lowercase, casefold_eq_lowercase, lowercase_lowercase]

end FieldQuery.Text
