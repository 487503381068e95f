/-
What planners and listeners are told: the version of the library, and the JSON forms of errors, plans,
operations and the events of compilation.
-/
import FieldQuery.Compile.Recording
import FieldQuery.Error
import FieldQuery.Stream.Sequence
import FieldQuery.Wire.Exact

namespace FieldQuery

/-- The version of the library. -/
def version : String := "0.4.0"

/-! ## Errors -/

/-- The name of the cause of an error. -/
def QueryError.causeName : QueryError → String
  | predicate (.unsupportedKind _) => "UnsupportedPredicateKind"
  | predicate (.invalidOperand ..) => "InvalidOperandType"
  | predicate (.incomparableBounds ..) => "IllegalComparisonOperands"
  | predicate (.unresolved _) => "UnresolvedAttribute"
  | operation (.negativeCount ..) => "NegativeCount"
  | operation (.missingCapability ..) => "MissingCapability"
  | operation (.capabilityMismatch ..) => "CapabilityMismatch"
  | operation (.shapeTransition ..) => "ShapeTransition"
  | operation (.shapeMismatch ..) => "ShapeMismatch"
  | policy (.wildcardEscape _) => "WildcardEscape"

/-- The cause, the wording and the class of an error. -/
def QueryError.report (e : QueryError) : List (String × Json) :=
  [("error", .string e.causeName), ("message", .string e.message),
    ("class", .string e.errorClass.render), ("with_class", .string e.messageWithClass)]

/-- The JSON form of an error. -/
def QueryError.toJson (e : QueryError) : Json := .object e.report

/-! ## Plans and operations -/

/-- The count of an operation, null without one. -/
def Json.ofCount? : Option UInt64 → Json
  | some n => Json.ofInt n.toNat
  | none => .null

/-- The JSON form of the account of an operation; what it does not carry is left out. -/
def PlanStep.toJson (s : PlanStep) : Json :=
  .object ([("index", .whole s.index), ("kind", .string s.kind.render),
    ("input", .string s.input.name), ("output", .string s.output.name),
    ("capability", .string s.capability.name)] ++
    (if s.callable then [("callable", .bool true)] else []) ++
    (if s.count.isSome then [("count", Json.ofCount? s.count)] else []))

/-- The JSON form of the account of a sequence. -/
def Plan.toJson (plan : Plan) : Json :=
  .object [("source", .string plan.source.name), ("output", .string plan.output.name),
    ("short_circuiting", .bool plan.shortCircuiting),
    ("steps", .array (plan.steps.map PlanStep.toJson))]

/-- The JSON form of an operation, with what can be recovered from it. -/
def Operation.toJson (op : Operation) : Json :=
  let recovered (text : Option String) : Json := match text with
    | some s => .string s
    | none => .null
  .object [("display", .string op.render), ("input", .string op.input.name),
    ("output", .string op.output.name), ("class", .string op.capability.classOf.render),
    ("count", Json.ofCount? op.count?), ("callable", .bool op.capability.isCallable),
    ("field_predicate", recovered (op.fieldPredicate?.map fun p => p.2.toCondition.render)),
    ("field_comparator", recovered (op.fieldOrder?.map fun o => o.2.render))]

/-! ## Events and calls -/

/-- The JSON form of an event of compilation. -/
def TraceEvent.toJson : TraceEvent → Json
  | start kind entity column =>
    .array [.string "start", .string kind.name, .string entity, .string column]
  | finish kind strategy => .array [.string "finish", .string kind.name, .string strategy]
  | error kind c => .array [.string "error", .string kind.name, .string c.name]

/-- The name of an expression. -/
def ExprId.toJson (e : ExprId) : Json := .string ("e" ++ toString e.index)

/-- The name of a node. -/
def NodeId.toJson (n : NodeId) : Json := .string ("n" ++ toString n.index)

/-- The name of a call for an expression, and its arguments. -/
def ExprCall.toJson : ExprCall → Json
  | resolve path => .array [.string "resolve", .string path]
  | literal v => .array [.string "literal", v.toExact]
  | lower e => .array [.string "lower", e.toJson]

/-- The name of a call for a node, and its arguments. -/
def NodeCall.toJson : NodeCall → Json
  | isTrue e => .array [.string "is_true", e.toJson]
  | isFalse e => .array [.string "is_false", e.toJson]
  | isNull e => .array [.string "is_null", e.toJson]
  | isNotNull e => .array [.string "is_not_null", e.toJson]
  | compare a op b => .array [.string "compare", a.toJson, .string op.symbol, b.toJson]
  | like e p negated =>
    .array [.string (if negated then "not_like" else "like"), e.toJson, .string p.render,
      Json.ofChar p.escape]
  | inList e vs => .array [.string "in_list", e.toJson, .array (Value.toExacts vs)]
  | and a b => .array [.string "and", a.toJson, b.toJson]
  | or a b => .array [.string "or", a.toJson, b.toJson]
  | not a => .array [.string "not", a.toJson]

/-- A call and the name of its result. -/
def RecordedCall.toJson : RecordedCall → Json
  | expr call id => .array [call.toJson, id.toJson]
  | node call id => .array [call.toJson, id.toJson]

end FieldQuery
