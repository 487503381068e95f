/-
Why a condition is refused: causes, their classes, and the wording of each.
-/
import FieldQuery.Predicate.Kind

namespace FieldQuery

/-- The classes of errors. -/
inductive ErrorClass where
  | configuration
  | construction
  | illegalOperands
  | invalidOperand
  | unresolved
  | unsupported
deriving DecidableEq, Inhabited

namespace ErrorClass

/-- The plain text of a class. -/
def render : ErrorClass → String
  | configuration => "configuration"
  | construction => "construction"
  | illegalOperands => "illegal_operands"
  | invalidOperand => "invalid_operand"
  | unresolved => "unresolved"
  | unsupported => "unsupported"

/-- The name of a class in structural text. -/
def name : ErrorClass → String
  | configuration => "Configuration"
  | construction => "Construction"
  | illegalOperands => "IllegalOperands"
  | invalidOperand => "InvalidOperand"
  | unresolved => "Unresolved"
  | unsupported => "Unsupported"

end ErrorClass

/-- The causes for which a condition is refused. -/
inductive PredicateError where
  /-- No kind has this name or tag. -/
  | unsupportedKind (kind : String)
  /-- The operands do not meet the contract. -/
  | invalidOperand (kind : PredicateKind) (path : String) (expected : OperandContract) (found : String)
  /-- The bounds of a range do not compare with each other. -/
  | incomparableBounds (kind : PredicateKind) (path first second : String)
  /-- The backend has no path for the attribute. -/
  | unresolved (path : String)
deriving DecidableEq, Inhabited

namespace PredicateError

/-- The class of an error. -/
def errorClass : PredicateError → ErrorClass
  | unsupportedKind _ => .unsupported
  | invalidOperand .. => .invalidOperand
  | incomparableBounds .. => .illegalOperands
  | unresolved _ => .unresolved

/-- The wording of an error. -/
def message : PredicateError → String
  | unsupportedKind kind => "predicate kind '" ++ kind ++ "' is not supported"
  | invalidOperand kind path expected found =>
    kind.name ++ " on '" ++ path ++ "' expects " ++ expected.describe ++ ", found " ++ found
  | incomparableBounds kind path first second =>
    kind.name ++ " on '" ++ path ++ "' has bounds that are not mutually ordered: " ++ first ++
      " and " ++ second
  | unresolved path => "attribute '" ++ path ++ "' cannot be resolved to a backend path"

end PredicateError

namespace PredicateKind

/-- The kind with a name, or the refusal of the name. -/
def ofName (name : String) : Except PredicateError PredicateKind :=
  match ofName? name with
  | some kind => .ok kind
  | none => .error (.unsupportedKind name)

/-- The kind with a tag, or the refusal of the tag, written as two hexadecimal digits. -/
def ofTag (tag : UInt8) : Except PredicateError PredicateKind :=
  match ofTag? tag.toNat with
  | some kind => .ok kind
  | none =>
    let digits := Nat.toDigits 16 tag.toNat
    .error (.unsupportedKind (String.ofList ('0' :: 'x' :: List.replicate (2 - digits.length) '0' ++ digits)))

end PredicateKind

end FieldQuery
