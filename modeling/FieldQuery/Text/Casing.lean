/-
Lower-casing of text. Every character is mapped on its own, except that a capital sigma at the end
of a word takes its final form.
-/
import FieldQuery.Text.CharTable

namespace FieldQuery.Text

/-- The lower-case form of one character, without regard to its place in a word. -/
def lowerChar (c : Char) : List Char :=
  if c.toNat = 0x130 then ['i', Char.ofNat 0x307]
  else
    match lowerRuns.find? (·.has c.toNat) with
    | some run => [Char.ofNat ((c.toNat : Int) + run.shift).toNat]
    | none => [c]

/-- Whether the first character that is not case-ignorable is a cased one. -/
def meetsCased (cs : List Char) : Bool :=
  match cs.dropWhile caseIgnorableRanges.has with
  | [] => false
  | c :: _ => casedRanges.has c

/-- Lower-cases the characters of a text; `before` holds those already passed, last one first. -/
def lowerFrom (before : List Char) : List Char → List Char
  | [] => []
  | c :: rest =>
    let lowered :=
      if c = 'Σ' then (if meetsCased before && !meetsCased rest then ['ς'] else ['σ'])
      else lowerChar c
    lowered ++ lowerFrom (c :: before) rest

/-- The lower-case form of a text. -/
def lowercase (s : String) : String := String.ofList (lowerFrom [] s.toList)

/-- Whether a text has only the first 128 characters. -/
def isAscii (s : String) : Bool := s.toList.all (·.toNat < 128)

/-- The lower-case form of a letter from `A` to `Z`; any other character stays. -/
def lowerAscii (c : Char) : Char :=
  if 65 ≤ c.toNat ∧ c.toNat ≤ 90 then Char.ofNat (c.toNat + 32) else c

/-- The text under which letter case is ignored. Texts without other letters than `A` to `Z` take a
short way. -/
def casefold (s : String) : String :=
  if isAscii s then String.ofList (s.toList.map lowerAscii) else lowercase s

end FieldQuery.Text
