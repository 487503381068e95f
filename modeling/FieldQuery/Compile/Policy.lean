/-
The choices a caller has in compilation, and the one that is refused, also when a document asks for it.
-/
import FieldQuery.Predicate.Error
import FieldQuery.Search.Like
import FieldQuery.Text.Quoted

namespace FieldQuery

/-- What the exclusion from a list means for a null. -/
inductive NotInMode where
  /-- A null is outside every list. -/
  | complement
  /-- The backend negates its own membership test, UNKNOWN for a null. -/
  | backendNegation
deriving DecidableEq, Inhabited

/-- The choices of compilation. The escape character of patterns is never a wildcard. -/
structure Policy where
  notIn : NotInMode
  likeEscape : Char
  escape_literal : LikePattern.isWildcard likeEscape = false
deriving DecidableEq

/-- Why a policy is refused. -/
inductive PolicyError where
  | wildcardEscape (escape : Char)
deriving DecidableEq, Inhabited

namespace PolicyError

/-- The class of an error. -/
def errorClass (_ : PolicyError) : ErrorClass := .configuration

/-- The wording of an error. -/
def message : PolicyError → String
  | wildcardEscape escape => "like escape " ++ Text.quoteChar escape ++ " is itself a LIKE wildcard"

end PolicyError

namespace Policy

/-- Exclusion as complement, and the backslash as escape. -/
def standard : Policy := ⟨.complement, '\\', rfl⟩

instance : Inhabited Policy := ⟨standard⟩

/-- The policy with another meaning of exclusion. -/
def withNotIn (p : Policy) (mode : NotInMode) : Policy := ⟨mode, p.likeEscape, p.escape_literal⟩

/-- The policy with another escape character, refused if it is a wildcard. -/
def withLikeEscape (p : Policy) (escape : Char) : Except PolicyError Policy :=
  if h : LikePattern.isWildcard escape = false then .ok ⟨p.notIn, escape, h⟩
  else .error (.wildcardEscape escape)

end Policy

/-! ## Documents -/

/-- What a document says of a policy, before anything is checked. -/
structure PolicyDocument where
  notIn : NotInMode
  likeEscape : Char
deriving DecidableEq

/-- What a document says that leaves everything out. -/
def PolicyDocument.standard : PolicyDocument := ⟨Policy.standard.notIn, Policy.standard.likeEscape⟩

namespace Policy

/-- Why a policy document is refused. -/
inductive DocumentError where
  /-- The document does not have the form of a policy. -/
  | malformed
  /-- The document describes a policy that does not exist. -/
  | refused (error : PolicyError)
deriving DecidableEq, Inhabited

/-- The policy that a document describes, checked like the steps of a caller who sets both parts. -/
def ofDocument (d : PolicyDocument) : Except PolicyError Policy :=
  (standard.withNotIn d.notIn).withLikeEscape d.likeEscape

end Policy

/-- A format of documents, as far as policies are written and read in it. -/
structure PolicyFormat (δ : Type) where
  /-- The document with the given members. -/
  object : List (String × δ) → δ
  /-- The document that is a text. -/
  text : String → δ
  /-- The document of a policy. -/
  write : Policy → δ
  /-- What a document says of a policy, if it has the form of one. -/
  parse : δ → Option PolicyDocument

/-- Reads a policy. The form of the document is looked at before the escape character is. -/
def PolicyFormat.read {δ : Type} (format : PolicyFormat δ) (document : δ) :
    Except Policy.DocumentError Policy :=
  match format.parse document with
  | none => .error .malformed
  | some d => (Policy.ofDocument d).mapError .refused

end FieldQuery
