/-
LIKE patterns: a needle at an anchor, written with wildcards and an escape character.
-/
import FieldQuery.Text.Match

namespace FieldQuery

/-- A needle, its anchor, and the character that escapes wildcards. -/
structure LikePattern where
  anchor : Text.Anchor
  needle : String
  escape : Char
deriving DecidableEq, Inhabited

namespace LikePattern

/-- The characters that a pattern reads as wildcards. -/
def isWildcard (c : Char) : Bool := c = '%' || c = '_'

/-- A needle with every wildcard and every escape character escaped. -/
def escaped (escape : Char) : List Char → List Char
  | [] => []
  | c :: rest =>
    if isWildcard c || c = escape then escape :: c :: escaped escape rest
    else c :: escaped escape rest

/-- The characters of the pattern. -/
def chars (p : LikePattern) : List Char :=
  let body := escaped p.escape p.needle.toList
  match p.anchor with
  | .head => body ++ ['%']
  | .tail => '%' :: body
  | .anywhere => '%' :: body ++ ['%']

/-- The written pattern. -/
def render (p : LikePattern) : String := String.ofList p.chars

/-- Whether a text has the needle at the anchor. -/
def holds (p : LikePattern) (text : String) : Bool := p.anchor.holds text p.needle

end LikePattern

end FieldQuery
