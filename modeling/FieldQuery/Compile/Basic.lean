/-
Compilation of conditions for a backend. The operands are checked, the attribute is resolved, the
operands are converted to their stored form, and only then the node is built, so that a refused
condition leaves no trace in the backend.
-/
import FieldQuery.Compile.Builder
import FieldQuery.Compile.Policy
import FieldQuery.Compile.Trace
import FieldQuery.Predicate.Check
import FieldQuery.Text.Casing

namespace FieldQuery

/-! ## Stored operands -/

namespace Condition

/-- The stored form of a text operand, refused if the conversion gives something else. -/
def storedText (c : Condition) (s : String) : Except PredicateError String :=
  match c.attr.toStore (.text s) with
  | .text stored => .ok stored
  | v => .error (c.invalidOperand (v.typeText ++ " after conversion"))

/-- The criterion with its operands converted to their stored form. -/
def stored (c : Condition) : Criterion → Except PredicateError Criterion
  | .equal negated v => .ok (.equal negated (c.attr.toStore v))
  | .order relation v => .ok (.order relation (c.attr.toStore v))
  | .between negated a b inclusion =>
    .ok (.between negated (c.attr.toStore a) (c.attr.toStore b) inclusion)
  | .member negated items => .ok (.member negated (items.map c.attr.toStore))
  | .equalFolded negated s =>
    match c.storedText s with
    | .ok t => .ok (.equalFolded negated t)
    | .error e => .error e
  | .text anchor folded negated s =>
    match c.storedText s with
    | .ok t => .ok (.text anchor folded negated t)
    | .error e => .error e
  | .always truth => .ok (.always truth)
  | .null negated => .ok (.null negated)
  | .empty negated => .ok (.empty negated)

end Condition

/-! ## Building the node -/

/-- The comparison for an order relation. -/
def OrderRelation.compareOp : OrderRelation → CompareOp
  | less => .lt
  | lessOrEqual => .le
  | greater => .gt
  | greaterOrEqual => .ge

namespace Inclusion

/-- The comparison with the lower bound that lets a value into the range. -/
def lowerOp (i : Inclusion) : CompareOp := if i.start then .ge else .gt

/-- The comparison with the upper bound that lets a value into the range. -/
def upperOp (i : Inclusion) : CompareOp := if i.finish then .le else .lt

/-- The comparison with the lower bound that puts a value below the range. -/
def belowOp (i : Inclusion) : CompareOp := if i.start then .lt else .le

/-- The comparison with the upper bound that puts a value above the range. -/
def aboveOp (i : Inclusion) : CompareOp := if i.finish then .gt else .ge

end Inclusion

namespace Builder

variable {σ ε ν : Type} (b : Builder σ ε ν)

/-- The comparison for an equality or its negation. -/
def equalityOp (negated : Bool) : CompareOp := if negated then .ne else .eq

/-- A node that is always true or always false. -/
def constant (truth : Bool) : StateM σ ν := do
  let one ← b.literal (.bool true)
  if truth then b.isTrue one else b.isFalse one

/-- A comparison of an expression with a literal. -/
def compareWith (path : ε) (op : CompareOp) (v : Value) : StateM σ ν := do
  let literal ← b.literal v
  b.compare path op literal

/-- Membership in a list; nothing is a member of the empty one. -/
def membership (path : ε) (items : List Value) : StateM σ ν :=
  if items.isEmpty then b.constant false else b.inList path items

/-- The negation of membership by the backend. -/
def negatedMembership (path : ε) (items : List Value) : StateM σ ν := do
  let inside ← b.membership path items
  b.not inside

/-- Exclusion from a list, true of a null. -/
def exclusion (path : ε) (items : List Value) : StateM σ ν :=
  if items.isEmpty then b.constant true
  else do
    let missing ← b.isNull path
    let outside ← b.negatedMembership path items
    b.or missing outside

/-- The search for a needle at an anchor. -/
def search (path : ε) (pattern : LikePattern) (folded negated : Bool) : StateM σ ν := do
  let target ← if folded then b.lower path else pure path
  if negated then b.notLike target pattern else b.like target pattern

/-- The node of a criterion whose operands are in stored form. The bound of an order relation has
its character widened to a code point; other operands stay as they are. -/
def node (policy : Policy) (path : ε) : Criterion → StateM σ ν
  | .always truth => b.constant truth
  | .null negated => if negated then b.isNotNull path else b.isNull path
  | .empty negated => b.compareWith path (equalityOp negated) (.text "")
  | .equal negated v => b.compareWith path (equalityOp negated) v
  | .order relation v => b.compareWith path relation.compareOp v.widenChar
  | .equalFolded negated s => do
    let lowered ← b.lower path
    b.compareWith lowered (equalityOp negated) (.text (Text.casefold s))
  | .between false first second inclusion => do
    let lower ← b.compareWith path inclusion.lowerOp first
    let upper ← b.compareWith path inclusion.upperOp second
    b.and lower upper
  | .between true first second inclusion => do
    let below ← b.compareWith path inclusion.belowOp first
    let above ← b.compareWith path inclusion.aboveOp second
    b.or below above
  | .member false items => b.membership path items
  | .member true items =>
    match policy.notIn with
    | .complement => b.exclusion path items
    | .backendNegation => b.negatedMembership path items
  | .text anchor folded negated s =>
    let needle := if folded then Text.casefold s else s
    b.search path ⟨anchor, needle, policy.likeEscape⟩ folded negated

end Builder

/-! ## Compilation -/

/-- What compilation works with: a backend, its paths and the policy. -/
structure CompileContext (σ ε ν : Type) where
  builder : Builder σ ε ν
  resolver : Resolver σ ε
  policy : Policy := .standard

namespace CompileContext

variable {σ ε ν : Type}

/-- The node of a condition and the strategy it was compiled by. -/
def emit (ctx : CompileContext σ ε ν) (c : Condition) :
    StateM σ (Except PredicateError (ν × String)) :=
  match c.check with
  | .error e => pure (.error e)
  | .ok criterion => do
    match ← ctx.resolver c.attr with
    | .error e => pure (.error e)
    | .ok path =>
      match c.stored criterion with
      | .error e => pure (.error e)
      | .ok ready => do
        let node ← ctx.builder.node ctx.policy path ready
        pure (.ok (node, criterion.strategy))

/-- Compiles a condition in a session: the start is noted first, then its end with the strategy or
with the class of the error. -/
def compile (ctx : CompileContext σ ε ν) (c : Condition) (s : Session σ) :
    Except PredicateError ν × Session σ :=
  let started := s.record (.start c.kind c.attr.entity c.attr.column)
  let (result, backend) := (ctx.emit c).run started.backend
  let after : Session σ := { started with backend := backend }
  match result with
  | .ok (node, strategy) => (.ok node, after.record (.finish c.kind strategy))
  | .error e => (.error e, after.record (.error c.kind e.errorClass))

end CompileContext

end FieldQuery
