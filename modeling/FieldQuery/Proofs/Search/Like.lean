/-
Written patterns say what they were made of. A pattern is read character by character: a percent sign
stands for any run of characters, an underscore for any one character, every other character for
itself, and so does whatever follows the escape character. Read in this way, the written form of a
needle at an anchor describes exactly the texts that have the needle at the anchor, and its last
character is never an escape on its own.
-/
import FieldQuery.Compile.Policy

namespace FieldQuery

/-! ## Reading patterns -/

namespace LikePattern

/-- What one place of a written pattern stands for. -/
inductive Item where
  /-- Any characters, or none. -/
  | run
  /-- Any one character. -/
  | any
  /-- This character. -/
  | exact (c : Char)
deriving DecidableEq

/-- What a character stands for that is not escaped. -/
def Item.ofChar (c : Char) : Item := if c = '%' then run else if c = '_' then any else exact c

/-- Reads a written pattern. There is no reading when an escape has nothing to escape. -/
def read? (escape : Char) : List Char → Option (List Item)
  | [] => some []
  | [c] => if c = escape then none else some [.ofChar c]
  | c :: d :: rest =>
    if c = escape then (read? escape rest).map (.exact d :: ·)
    else (read? escape (d :: rest)).map (.ofChar c :: ·)

/-- The texts that the places of a pattern describe. -/
inductive Describes : List Item → List Char → Prop where
  | nil : Describes [] []
  | run {items : List Item} {text : List Char} (skipped : List Char) :
    Describes items text → Describes (.run :: items) (skipped ++ text)
  | any {items : List Item} {text : List Char} (c : Char) :
    Describes items text → Describes (.any :: items) (c :: text)
  | exact {items : List Item} {text : List Char} (c : Char) :
    Describes items text → Describes (.exact c :: items) (c :: text)

theorem read?_cons {escape c : Char} (h : c ≠ escape) (rest : List Char) :
    read? escape (c :: rest) = (read? escape rest).map (.ofChar c :: ·) := by
  cases rest <;> simp [read?, h]

theorem read?_escape (escape c : Char) (rest : List Char) :
    read? escape (escape :: c :: rest) = (read? escape rest).map (.exact c :: ·) := by
  rw [read?, if_pos rfl]

theorem ofChar_of_literal {c : Char} (h : isWildcard c = false) : Item.ofChar c = .exact c := by
  simp only [isWildcard, Bool.or_eq_false_iff, decide_eq_false_iff_not] at h
  unfold Item.ofChar
  rw [if_neg h.1, if_neg h.2]

/-! ## Reading what was written -/

/-- An escaped needle is read as its own characters, whatever follows it. -/
theorem read?_escaped (escape : Char) (needle rest : List Char) :
    read? escape (escaped escape needle ++ rest) = (read? escape rest).map (needle.map .exact ++ ·) := by
  induction needle with
  | nil =>
    show read? escape rest = (read? escape rest).map id
    rw [Option.map_id, id]
  | cons c needle ih =>
    have hread : read? escape (escaped escape (c :: needle) ++ rest) =
        (read? escape (escaped escape needle ++ rest)).map (.exact c :: ·) := by
      rw [escaped]
      by_cases hescaped : (isWildcard c || c = escape) = true
      · rw [if_pos hescaped]
        exact read?_escape escape c _
      · rw [if_neg hescaped]
        obtain ⟨hliteral, hescape⟩ : isWildcard c = false ∧ c ≠ escape := by simpa using hescaped
        rw [← ofChar_of_literal hliteral]
        exact read?_cons hescape _
    rw [hread, ih, Option.map_map]
    rfl

theorem read?_percent {escape : Char} (h : isWildcard escape = false) (rest : List Char) :
    read? escape ('%' :: rest) = (read? escape rest).map (.run :: ·) := by
  have hne : '%' ≠ escape := by
    rintro rfl
    cases h
  exact read?_cons hne rest

/-- The places of a needle at an anchor. -/
def items (p : LikePattern) : List Item :=
  let needle := p.needle.toList.map .exact
  match p.anchor with
  | .head => needle ++ [.run]
  | .tail => .run :: needle
  | .anywhere => .run :: (needle ++ [.run])

/-- A written pattern is read as the needle at the anchor. -/
theorem read?_chars (p : LikePattern) (h : isWildcard p.escape = false) :
    read? p.escape p.chars = some p.items := by
  have hopen : read? p.escape (escaped p.escape p.needle.toList ++ ['%']) =
      some (p.needle.toList.map .exact ++ [.run]) := by
    rw [read?_escaped, read?_percent h]
    rfl
  have hclosed : read? p.escape (escaped p.escape p.needle.toList) = some (p.needle.toList.map .exact) := by
    have hread := read?_escaped p.escape p.needle.toList []
    rw [List.append_nil] at hread
    simpa [read?] using hread
  unfold chars items
  cases p.anchor with
  | head => exact hopen
  | tail => exact (read?_percent h _).trans (congrArg _ hclosed)
  | anywhere => exact (read?_percent h _).trans (congrArg _ hopen)

/-! ## Texts described -/

theorem describes_nil_iff {text : List Char} : Describes [] text ↔ text = [] := by
  constructor
  · intro h
    cases h
    rfl
  · rintro rfl
    exact .nil

theorem describes_run_iff {items : List Item} {text : List Char} :
    Describes (.run :: items) text ↔ ∃ skipped rest, skipped ++ rest = text ∧ Describes items rest := by
  constructor
  · intro h
    cases h with
    | run skipped h => exact ⟨skipped, _, rfl, h⟩
  · rintro ⟨skipped, rest, rfl, h⟩
    exact .run skipped h

/-- A closing run describes every rest of a text. -/
theorem describes_run (text : List Char) : Describes [.run] text := by
  rw [← List.append_nil text]
  exact .run text .nil

theorem describes_needle_iff {needle : List Char} {items : List Item} {text : List Char} :
    Describes (needle.map .exact ++ items) text ↔ ∃ rest, needle ++ rest = text ∧ Describes items rest := by
  induction needle generalizing text with
  | nil => simp
  | cons c needle ih =>
    constructor
    · intro h
      cases h with
      | exact _ h =>
        obtain ⟨rest, rfl, hrest⟩ := ih.1 h
        exact ⟨rest, rfl, hrest⟩
    · rintro ⟨rest, rfl, hrest⟩
      exact .exact c (ih.2 ⟨rest, rfl, hrest⟩)

end LikePattern

/-! ## Needles in texts -/

theorem Text.occursIn_iff (needle : List Char) : ∀ text : List Char, occursIn needle text = true ↔ needle <:+: text
  | [] => by rw [occursIn, List.isEmpty_iff, List.infix_nil]
  | c :: rest => by
    rw [occursIn, Bool.or_eq_true, List.isPrefixOf_iff_prefix, occursIn_iff needle rest, List.infix_cons_iff]

namespace LikePattern

/-- The places of a needle at an anchor describe the texts that have the needle there. -/
theorem describes_items_iff (p : LikePattern) (text : String) :
    Describes p.items text.toList ↔ p.anchor.holds text p.needle = true := by
  unfold items Text.Anchor.holds
  cases p.anchor with
  | head =>
    rw [describes_needle_iff, List.isPrefixOf_iff_prefix]
    constructor
    · rintro ⟨rest, h, -⟩
      exact ⟨rest, h⟩
    · rintro ⟨rest, h⟩
      exact ⟨rest, h, describes_run rest⟩
  | tail =>
    rw [describes_run_iff, List.isSuffixOf_iff_suffix]
    have hneedle : ∀ rest, Describes (p.needle.toList.map .exact) rest ↔ rest = p.needle.toList := by
      intro rest
      rw [← List.append_nil (List.map _ _), describes_needle_iff]
      simp [describes_nil_iff, eq_comm]
    constructor
    · rintro ⟨skipped, rest, h, hrest⟩
      rw [hneedle] at hrest
      exact ⟨skipped, hrest ▸ h⟩
    · rintro ⟨skipped, h⟩
      exact ⟨skipped, _, h, (hneedle _).2 rfl⟩
  | anywhere =>
    rw [describes_run_iff, Text.occursIn_iff]
    constructor
    · rintro ⟨skipped, rest, h, hrest⟩
      obtain ⟨rest, rfl, -⟩ := describes_needle_iff.1 hrest
      exact ⟨skipped, rest, by rw [List.append_assoc, h]⟩
    · rintro ⟨skipped, rest, h⟩
      refine ⟨skipped, p.needle.toList ++ rest, by rw [← List.append_assoc, h], ?_⟩
      exact describes_needle_iff.2 ⟨rest, rfl, describes_run rest⟩

/-- Under every policy, a written pattern can be read with the escape of the policy, so that no escape
stands alone at its end, and it describes exactly the texts that have the needle at the anchor. -/
theorem render_describes (policy : Policy) (anchor : Text.Anchor) (needle : String) :
    ∃ places, read? policy.likeEscape (render ⟨anchor, needle, policy.likeEscape⟩).toList = some places ∧
      ∀ text : String, Describes places text.toList ↔ anchor.holds text needle = true := by
  refine ⟨_, ?_, describes_items_iff ⟨anchor, needle, policy.likeEscape⟩⟩
  rw [render, String.toList_ofList]
  exact read?_chars ⟨anchor, needle, policy.likeEscape⟩ policy.escape_literal

/-- A wildcard and the escape itself are read as characters of the needle. -/
example : read? '!' (render ⟨.tail, "5%!", '!'⟩).toList = some [.run, .exact '5', .exact '%', .exact '!'] := by
  decide

end LikePattern

end FieldQuery
