/-
A backend that writes down every call made to it, with numbered expressions and nodes.
-/
import FieldQuery.Compile.Basic

namespace FieldQuery

/-- The number of an expression, counted from zero in the order of the calls. -/
structure ExprId where
  index : Nat
deriving DecidableEq, Inhabited

/-- The number of a node, counted from zero in the order of the calls. -/
structure NodeId where
  index : Nat
deriving DecidableEq, Inhabited

/-- The calls that give an expression. -/
inductive ExprCall where
  | resolve (path : String)
  | literal (value : Value)
  | lower (inner : ExprId)

/-- The calls that give a node. -/
inductive NodeCall where
  | isTrue (term : ExprId)
  | isFalse (term : ExprId)
  | isNull (term : ExprId)
  | isNotNull (term : ExprId)
  | compare (left : ExprId) (op : CompareOp) (right : ExprId)
  | like (term : ExprId) (pattern : LikePattern) (negated : Bool)
  | inList (term : ExprId) (values : List Value)
  | and (left right : NodeId)
  | or (left right : NodeId)
  | not (inner : NodeId)

/-- A call with the number of its result. -/
inductive RecordedCall where
  | expr (call : ExprCall) (id : ExprId)
  | node (call : NodeCall) (id : NodeId)

/-- The calls so far and the next free numbers. -/
structure Recording where
  calls : List RecordedCall := []
  nextExpr : Nat := 0
  nextNode : Nat := 0

namespace Recording

/-- Notes a call that gives an expression. -/
def expr (call : ExprCall) : StateM Recording ExprId := fun r =>
  (⟨r.nextExpr⟩, ⟨r.calls ++ [.expr call ⟨r.nextExpr⟩], r.nextExpr + 1, r.nextNode⟩)

/-- Notes a call that gives a node. -/
def node (call : NodeCall) : StateM Recording NodeId := fun r =>
  (⟨r.nextNode⟩, ⟨r.calls ++ [.node call ⟨r.nextNode⟩], r.nextExpr, r.nextNode + 1⟩)

/-- The recording backend. -/
def builder : Builder Recording ExprId NodeId where
  literal v := expr (.literal v)
  lower e := expr (.lower e)
  isTrue e := node (.isTrue e)
  isFalse e := node (.isFalse e)
  isNull e := node (.isNull e)
  isNotNull e := node (.isNotNull e)
  compare a op b := node (.compare a op b)
  like e p := node (.like e p false)
  notLike e p := node (.like e p true)
  inList e vs := node (.inList e vs)
  and a b := node (.and a b)
  or a b := node (.or a b)
  not a := node (.not a)

/-- Attributes of a mapped entity resolve to their qualified names; the call is noted only then. -/
def resolver (mapped : String → Bool) : Resolver Recording ExprId := fun attr => do
  if mapped attr.entity then
    let path ← expr (.resolve attr.qualifiedName)
    pure (.ok path)
  else pure (.error (.unresolved attr.qualifiedName))

end Recording

end FieldQuery
