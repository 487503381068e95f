/-
The order of texts and the three ways to look for a text inside another.
-/

namespace FieldQuery.Text

/-- Lexicographic order by code point. -/
def compareChars : List Char → List Char → Ordering
  | [], [] => .eq
  | [], _ :: _ => .lt
  | _ :: _, [] => .gt
  | a :: as, b :: bs => (compare a.toNat b.toNat).then (compareChars as bs)

/-- The order of texts, which is also the order of their UTF-8 bytes. -/
def compare (a b : String) : Ordering := compareChars a.toList b.toList

/-- Where a needle has to stand in a text. -/
inductive Anchor where
  | head
  | tail
  | anywhere
deriving DecidableEq, Inhabited

/-- Whether the needle stands somewhere in the text. -/
def occursIn (needle : List Char) : List Char → Bool
  | [] => needle.isEmpty
  | c :: rest => needle.isPrefixOf (c :: rest) || occursIn needle rest

/-- Whether the needle stands in the text where the anchor says. -/
def Anchor.holds (anchor : Anchor) (text needle : String) : Bool :=
  match anchor with
  | .head => needle.toList.isPrefixOf text.toList
  | .tail => needle.toList.isSuffixOf text.toList
  | .anywhere => occursIn needle.toList text.toList

end FieldQuery.Text
