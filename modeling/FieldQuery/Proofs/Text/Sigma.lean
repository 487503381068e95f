/-
Lower-casing of a part of a text. Every character is lowered on its own but for the capital sigma, whose form says
whether it ends a word. A needle that is lowered by itself therefore has the characters of its place in the lowered
text, but for those capital sigmas that end a word by themselves and not in their place, or the other way round. A
needle that stands in a text at an anchor stands there after lowering both if no sigma turns so; at the ends of the
text it does not stand there if one turns.
-/
import FieldQuery.Proofs.Search.Like
import FieldQuery.Text.Casing

namespace FieldQuery.Text

/-! ## Parts of a text -/

/-- Whether a capital sigma between two texts ends a word: letters go before it and none after. -/
def endsWord (before after : List Char) : Bool := meetsCased before.reverse && !meetsCased after

/-- The lower-case form of a character between two texts. -/
def lowerAt (before : List Char) (c : Char) (after : List Char) : List Char :=
  if c = 'Σ' then (if endsWord before after then ['ς'] else ['σ']) else lowerChar c

/-- The lower-case form of a text between two others. -/
def lowerWithin (before : List Char) : List Char → List Char → List Char
  | [], _ => []
  | c :: rest, after => lowerAt before c (rest ++ after) ++ lowerWithin (before ++ [c]) rest after

/-- A text is lowered part by part, each between the others. -/
theorem lowerFrom_append (before cs after : List Char) :
    lowerFrom before.reverse (cs ++ after) =
      lowerWithin before cs after ++ lowerFrom (before ++ cs).reverse after := by
  induction cs generalizing before with
  | nil => simp [lowerWithin]
  | cons c rest ih =>
    have hnext : c :: before.reverse = (before ++ [c]).reverse := by simp
    rw [List.cons_append, lowerFrom, hnext, ih, lowerWithin, List.append_assoc, List.append_assoc]
    rfl

theorem lowerFrom_eq (before cs : List Char) : lowerFrom before.reverse cs = lowerWithin before cs [] := by
  have h := lowerFrom_append before cs []
  rwa [List.append_nil, lowerFrom, List.append_nil] at h

theorem toList_lowercase (s : String) : (lowercase s).toList = lowerWithin [] s.toList [] := by
  unfold lowercase
  rw [String.toList_ofList]
  exact lowerFrom_eq [] s.toList

theorem lowerWithin_append (before cs ds after : List Char) :
    lowerWithin before (cs ++ ds) after = lowerWithin before cs (ds ++ after) ++ lowerWithin (before ++ cs) ds after := by
  induction cs generalizing before with
  | nil => simp [lowerWithin]
  | cons c rest ih =>
    rw [List.cons_append, lowerWithin, lowerWithin, ih, List.append_assoc before, List.append_assoc, List.append_assoc]
    rfl

/-! ## One part in two places -/

variable {before after before' after' : List Char}

theorem lowerAt_eq_iff {c : Char} : lowerAt before c after = lowerAt before' c after' ↔
    (c = 'Σ' → endsWord before after = endsWord before' after') := by
  unfold lowerAt
  by_cases hsigma : c = 'Σ'
  · cases endsWord before after <;> cases endsWord before' after' <;> simp [hsigma]
  · simp [hsigma]

theorem length_lowerAt (c : Char) : (lowerAt before c after).length = (lowerAt before' c after').length := by
  unfold lowerAt
  by_cases hsigma : c = 'Σ'
  · cases endsWord before after <;> cases endsWord before' after' <;> simp [hsigma]
  · simp [hsigma]

theorem length_lowerWithin (cs : List Char) :
    (lowerWithin before cs after).length = (lowerWithin before' cs after').length := by
  induction cs generalizing before before' with
  | nil => rfl
  | cons c rest ih =>
    rw [lowerWithin, lowerWithin, List.length_append, List.length_append, ih, length_lowerAt]

/-- A text has one lower-case form in two places if each of its capital sigmas ends a word in both or in neither. -/
theorem lowerWithin_eq_iff {cs : List Char} : lowerWithin before cs after = lowerWithin before' cs after' ↔
    ∀ left right, cs = left ++ 'Σ' :: right →
      endsWord (before ++ left) (right ++ after) = endsWord (before' ++ left) (right ++ after') := by
  induction cs generalizing before before' with
  | nil => simp [lowerWithin]
  | cons c rest ih =>
    have hsplit : lowerWithin before (c :: rest) after = lowerWithin before' (c :: rest) after' ↔
        lowerAt before c (rest ++ after) = lowerAt before' c (rest ++ after') ∧
          lowerWithin (before ++ [c]) rest after = lowerWithin (before' ++ [c]) rest after' := by
      rw [lowerWithin, lowerWithin]
      constructor
      · exact fun h => List.append_inj h (length_lowerAt c)
      · rintro ⟨hc, hrest⟩
        rw [hc, hrest]
    rw [hsplit, lowerAt_eq_iff, ih]
    constructor
    · rintro ⟨hc, hrest⟩ left right hcs
      cases left with
      | nil =>
        cases hcs
        simpa using hc rfl
      | cons d left =>
        obtain ⟨rfl, rfl⟩ := List.cons.inj hcs
        simpa using hrest left right rfl
    · intro h
      constructor
      · rintro rfl
        simpa using h [] rest rfl
      · rintro left right rfl
        simpa using h (c :: left) right rfl

/-! ## Sigmas that turn -/

/-- Whether a text has no character that counts for the ends of words. -/
def isIgnorable (cs : List Char) : Bool := cs.all caseIgnorableRanges.has

/-- A capital sigma of the needle has another form by itself than in its place. -/
inductive TurnsSigma (before needle after : List Char) : Prop where
  /-- It ends a word of the needle that goes on after the needle. -/
  | goesOn (left right : List Char) (hneedle : needle = left ++ 'Σ' :: right) (hlast : isIgnorable right = true)
    (hword : meetsCased left.reverse = true) (hafter : meetsCased after = true)
  /-- It ends a word that starts before the needle. -/
  | comesFrom (left right : List Char) (hneedle : needle = left ++ 'Σ' :: right) (hfirst : isIgnorable left = true)
    (hbefore : meetsCased before.reverse = true) (hends : meetsCased (right ++ after) = false)

theorem meetsCased_append (cs ds : List Char) :
    meetsCased (cs ++ ds) = if isIgnorable cs then meetsCased ds else meetsCased cs := by
  induction cs with
  | nil => rfl
  | cons c rest ih =>
    unfold meetsCased isIgnorable at *
    cases hc : caseIgnorableRanges.has c <;> simp [hc, ih]

theorem isIgnorable_reverse (cs : List Char) : isIgnorable cs.reverse = isIgnorable cs := List.all_reverse

theorem meetsCased_of_isIgnorable {cs : List Char} (h : isIgnorable cs = true) : meetsCased cs = false := by
  have happend := meetsCased_append cs []
  rw [List.append_nil, h] at happend
  exact happend

theorem endsWord_ne_iff {left right : List Char} : endsWord left right ≠ endsWord (before ++ left) (right ++ after) ↔
    (isIgnorable right = true ∧ meetsCased left.reverse = true ∧ meetsCased after = true) ∨
      (isIgnorable left = true ∧ meetsCased before.reverse = true ∧ meetsCased (right ++ after) = false) := by
  have hleft := meetsCased_append left.reverse before.reverse
  have hright := meetsCased_append right after
  rw [isIgnorable_reverse] at hleft
  unfold endsWord
  rw [List.reverse_append, hleft, hright]
  cases hl : isIgnorable left <;> cases hr : isIgnorable right
  case false.false => simp
  case false.true => simp [meetsCased_of_isIgnorable hr]
  case true.false =>
    have := meetsCased_of_isIgnorable ((isIgnorable_reverse left).trans hl)
    simp [this]
  case true.true =>
    have := meetsCased_of_isIgnorable ((isIgnorable_reverse left).trans hl)
    simp [this, meetsCased_of_isIgnorable hr]

/-- A needle has the lower-case form of its place exactly if no sigma turns. -/
theorem not_turnsSigma_iff {needle : List Char} :
    ¬ TurnsSigma before needle after ↔ lowerWithin before needle after = lowerWithin [] needle [] := by
  rw [eq_comm, lowerWithin_eq_iff]
  constructor
  · intro h left right hneedle
    refine Decidable.byContradiction fun hne => ?_
    rw [List.nil_append, List.append_nil] at hne
    rcases endsWord_ne_iff.1 hne with ⟨hlast, hword, hafter⟩ | ⟨hfirst, hbefore, hends⟩
    · exact h (.goesOn left right hneedle hlast hword hafter)
    · exact h (.comesFrom left right hneedle hfirst hbefore hends)
  · intro h hturns
    cases hturns with
    | goesOn left right hneedle hlast hword hafter =>
      exact endsWord_ne_iff.2 (.inl ⟨hlast, hword, hafter⟩) (by simpa using h left right hneedle)
    | comesFrom left right hneedle hfirst hbefore hends =>
      exact endsWord_ne_iff.2 (.inr ⟨hfirst, hbefore, hends⟩) (by simpa using h left right hneedle)

/-! ## Needles in lowered texts -/

/-- What stands before and after a needle at the anchor. -/
def Anchor.Leaves : Anchor → List Char → List Char → Prop
  | .head, before, _ => before = []
  | .tail, _, after => after = []
  | .anywhere, _, _ => True

theorem Anchor.holds_iff {anchor : Anchor} {text needle : String} : anchor.holds text needle = true ↔
    ∃ before after, text.toList = before ++ needle.toList ++ after ∧ anchor.Leaves before after := by
  unfold Anchor.holds
  cases anchor with
  | head =>
    rw [List.isPrefixOf_iff_prefix]
    constructor
    · rintro ⟨after, h⟩
      exact ⟨[], after, h.symm, rfl⟩
    · rintro ⟨before, after, h, rfl⟩
      exact ⟨after, h.symm⟩
  | tail =>
    rw [List.isSuffixOf_iff_suffix]
    constructor
    · rintro ⟨before, h⟩
      exact ⟨before, [], by rw [← h, List.append_nil], rfl⟩
    · rintro ⟨before, after, h, rfl⟩
      exact ⟨before, by rw [h, List.append_nil]⟩
  | anywhere =>
    rw [occursIn_iff]
    constructor
    · rintro ⟨before, after, h⟩
      exact ⟨before, after, h.symm, trivial⟩
    · rintro ⟨before, after, h, -⟩
      exact ⟨before, after, h.symm⟩

/-- The needle stands in the text at the anchor, at a place where none of its sigmas turns. -/
def Anchor.Keeps (anchor : Anchor) (text needle : String) : Prop :=
  ∃ before after, text.toList = before ++ needle.toList ++ after ∧ anchor.Leaves before after ∧
    ¬ TurnsSigma before needle.toList after

variable {anchor : Anchor} {text needle : String}

/-- A needle without capital sigmas is kept wherever it stands. -/
theorem Anchor.keeps_of_not_mem (hholds : anchor.holds text needle = true) (hsigma : 'Σ' ∉ needle.toList) :
    anchor.Keeps text needle := by
  obtain ⟨before, after, htext, hleaves⟩ := holds_iff.1 hholds
  refine ⟨before, after, htext, hleaves, ?_⟩
  rintro (⟨left, right, hneedle, -, -, -⟩ | ⟨left, right, hneedle, -, -, -⟩) <;>
    exact hsigma (hneedle ▸ List.mem_append_right left List.mem_cons_self)

/-- A kept needle stands in the lowered text. -/
theorem Anchor.holds_lowercase_of_keeps (h : anchor.Keeps text needle) :
    anchor.holds (lowercase text) (lowercase needle) = true := by
  obtain ⟨before, after, htext, hleaves, hkept⟩ := h
  rw [holds_iff]
  refine ⟨lowerWithin [] before (needle.toList ++ after), lowerWithin (before ++ needle.toList) after [], ?_, ?_⟩
  · rw [toList_lowercase, toList_lowercase, htext, ← not_turnsSigma_iff.1 hkept]
    simp [lowerWithin_append]
  · cases anchor with
    | head =>
      obtain rfl : before = [] := hleaves
      rfl
    | tail =>
      obtain rfl : after = [] := hleaves
      rfl
    | anywhere => trivial

/-- At the ends of a text, a needle that stands there is kept if it stands there after lowering. -/
theorem Anchor.keeps_of_holds_lowercase (hend : anchor ≠ .anywhere) (hholds : anchor.holds text needle = true)
    (hlowered : anchor.holds (lowercase text) (lowercase needle) = true) : anchor.Keeps text needle := by
  obtain ⟨before, after, htext, hleaves⟩ := holds_iff.1 hholds
  obtain ⟨before', after', hlower, hleaves'⟩ := holds_iff.1 hlowered
  refine ⟨before, after, htext, hleaves, not_turnsSigma_iff.2 ?_⟩
  rw [toList_lowercase, toList_lowercase, htext, List.append_assoc, lowerWithin_append, lowerWithin_append] at hlower
  simp only [List.nil_append, List.append_nil] at hlower
  -- the two forms of the needle have one length, so at one end of the text they are one part of it
  cases anchor with
  | head =>
    obtain rfl : before = [] := hleaves
    obtain rfl : before' = [] := hleaves'
    simp only [lowerWithin, List.nil_append] at hlower
    exact (List.append_inj hlower (length_lowerWithin _)).1
  | tail =>
    obtain rfl : after = [] := hleaves
    obtain rfl : after' = [] := hleaves'
    simp only [lowerWithin, List.append_nil] at hlower
    exact (List.append_inj' hlower (length_lowerWithin _)).2
  | anywhere => exact absurd rfl hend

end FieldQuery.Text
