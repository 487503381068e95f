/-
Compilation operand by operand. Operands leave the check in one of four shapes; a kind takes the shape
it expects and reports itself as unsupported if it gets another. An operand is converted only where its
literal is about to be built, between calls to the backend, and the conversion may fail.

None of these failures happens once a call has been made: the check gives every kind the shape it takes,
and the conversion that can fail, that of a text to search for, stands before the first call. So the
emission that converts all operands beforehand is the same.
-/
import FieldQuery.Proofs.Compile.Outcome

namespace FieldQuery

/-! ## Shapes of operands -/

/-- Operands that passed the check. -/
inductive Checked where
  | none
  | one (value : Value)
  | range (first second : Value)
  | set (items : List Value)

namespace Checked

/-- How operands of a shape are compiled. -/
def strategy : Checked → String
  | none => "zero_operand"
  | one _ => "single_operand"
  | range _ _ => "dual_bound_range"
  | set _ => "set_membership"

section Take

variable (kind : PredicateKind)

/-- The refusal of a shape that a kind does not take. -/
def mismatch {α : Type} : Except PredicateError α := .error (.unsupportedKind kind.name)

def takeNone : Checked → Except PredicateError Unit
  | none => .ok ()
  | _ => mismatch kind

def takeOne : Checked → Except PredicateError Value
  | one v => .ok v
  | _ => mismatch kind

def takeRange : Checked → Except PredicateError (Value × Value)
  | range first second => .ok (first, second)
  | _ => mismatch kind

def takeSet : Checked → Except PredicateError (List Value)
  | set items => .ok items
  | _ => mismatch kind

end Take

end Checked

namespace Condition

/-- The operand check by contract: the operands in the shape of the contract, if they meet it. Of the
kinds without operands only the question for the empty text looks at the attribute. -/
def shape (c : Condition) : Except PredicateError Checked :=
  let invalid : Except PredicateError Checked := .error (c.invalidOperand c.operands.typeText)
  match c.kind.contract, c.operands with
  | .none, .none =>
    let needsText := c.kind matches .empty _
    if needsText && !c.isTextual then invalid else .ok .none
  | .scalar, .one v => if c.acceptsScalar v then .ok (.one v) else invalid
  | .ordered, .one v => if canBound v && c.sameFamily v then .ok (.one v) else invalid
  | .text, .one v => if c.isTextual && v.asText?.isSome then .ok (.one v) else invalid
  | .range, .two a b =>
    if !(canBound a && canBound b) then invalid
    else if (a.compare? b).isNone then
      .error (.incomparableBounds c.kind c.attr.qualifiedName a.typeText b.typeText)
    else if c.sameFamily a then .ok (.range a b)
    else invalid
  | .set, .one (.list items) => if items.all c.acceptsScalar then .ok (.set items) else invalid
  | _, _ => invalid

end Condition

/-- The shape of the operands of a criterion. -/
def Criterion.shape : Criterion → Checked
  | always _ | null _ | empty _ => .none
  | equal _ v | order _ v => .one v
  | equalFolded _ s | text _ _ _ s => .one (.text s)
  | between _ first second _ => .range first second
  | member _ items => .set items

theorem Criterion.strategy_shape (c : Criterion) : c.shape.strategy = c.strategy := by
  cases c <;> rfl

/-- The check kind by kind and the check by contract let the same operands through and refuse the others
with the same error. -/
theorem Condition.shape_eq (c : Condition) : c.shape = c.check.map Criterion.shape := by
  obtain ⟨attr, kind, operands, inclusion⟩ := c
  unfold shape check
  -- the two agree on operands that meet one guard
  have hguard : ∀ {guard : Bool} {checked : Checked} {criterion : Criterion} {e : PredicateError},
      criterion.shape = checked →
      (if guard then Except.ok checked else .error e) =
        (if guard then Except.ok criterion else .error e).map Criterion.shape := by
    rintro (_ | _) _ criterion e rfl <;> rfl
  cases kind with
  | always truth => cases operands <;> rfl
  | null negated => cases operands <;> rfl
  | empty negated =>
    cases operands with
    | none =>
      rw [← hguard rfl]
      cases htextual : isTextual ⟨attr, .empty negated, .none, inclusion⟩ <;>
        simp [PredicateKind.contract, Criterion.shape]
    | _ => rfl
  | equal negated =>
    cases operands with
    | one v => exact hguard rfl
    | _ => rfl
  | order relation =>
    cases operands with
    | one v => exact hguard rfl
    | _ => rfl
  | equalFolded negated =>
    cases operands with
    | one v =>
      cases v with
      | text s =>
        rw [← hguard rfl]
        simp [PredicateKind.contract, Criterion.shape, Value.asText?]
      | _ => simp [PredicateKind.contract, Value.asText?, Except.map]
    | _ => rfl
  | text anchor folded negated =>
    cases operands with
    | one v =>
      cases v with
      | text s =>
        rw [← hguard rfl]
        simp [PredicateKind.contract, Criterion.shape, Value.asText?]
      | _ => simp [PredicateKind.contract, Value.asText?, Except.map]
    | _ => rfl
  | member negated =>
    cases operands with
    | one v =>
      cases v with
      | list items => exact hguard rfl
      | _ => rfl
    | _ => rfl
  | between negated =>
    cases operands with
    | two first second =>
      dsimp only [PredicateKind.contract]
      split
      · rfl
      · split
        · rfl
        · exact hguard rfl
    | _ => rfl

/-! ## Emission operand by operand -/

/-- The stored form of one operand. -/
def Condition.store (c : Condition) (v : Value) : Except PredicateError Value :=
  let converted := c.attr.toStore v
  if c.kind.contract = .text ∧ converted.asText? = none then
    .error (c.invalidOperand (converted.typeText ++ " after conversion"))
  else .ok converted

/-- The stored forms of the items of a list, up to the first that fails. -/
def Condition.storeAll (c : Condition) (items : List Value) : Except PredicateError (List Value) :=
  items.mapM c.store

namespace CompileContext

variable {σ ε ν : Type} (ctx : CompileContext σ ε ν)

/-- Calls to a backend in which an error can come up at any point; the calls before it are made. -/
abbrev Emission (σ : Type) := ExceptT PredicateError (StateM σ)

section Emitter

variable (c : Condition) (path : ε)

/-- A comparison of the path with the stored form of an operand. -/
def compareStored (op : CompareOp) (v : Value) : Emission σ ν := do
  let stored ← c.store v
  ctx.builder.compareWith path op stored

/-- A comparison by order: the stored form has its character widened. -/
def compareOrdered (op : CompareOp) (v : Value) : Emission σ ν := do
  let stored ← c.store v
  ctx.builder.compareWith path op stored.widenChar

/-- Membership in a list of operands. -/
def memberStored (items : List Value) : Emission σ ν :=
  if items.isEmpty then ctx.builder.constant false
  else do
    let stored ← c.storeAll items
    ctx.builder.inList path stored

/-- Exclusion from a list of operands by the negation of the backend. -/
def negatedStored (items : List Value) : Emission σ ν := do
  let inside ← ctx.memberStored c path items
  ctx.builder.not inside

/-- Exclusion from a list of operands, true of a null. -/
def exclusionStored (items : List Value) : Emission σ ν :=
  if items.isEmpty then ctx.builder.constant true
  else do
    let missing ← ctx.builder.isNull path
    let outside ← ctx.negatedStored c path items
    ctx.builder.or missing outside

/-- The stored text of an operand, folded if letter case does not count. -/
def foldedText (v : Value) (folded : Bool) : Except PredicateError String := do
  let stored ← c.store v
  let text := stored.asText?.getD ""
  return if folded then Text.casefold text else text

/-- A comparison up to letter case. -/
def compareFolded (op : CompareOp) (v : Value) : Emission σ ν := do
  let text ← foldedText c v true
  let lowered ← ctx.builder.lower path
  ctx.builder.compareWith lowered op (.text text)

/-- The search for a stored text at an anchor. -/
def searchStored (anchor : Text.Anchor) (folded negated : Bool) (v : Value) : Emission σ ν := do
  let needle ← foldedText c v folded
  ctx.builder.search path ⟨anchor, needle, ctx.policy.likeEscape⟩ folded negated

/-- The node of a condition from the shape of its operands. -/
def stagedNode (checked : Checked) : Emission σ ν :=
  match c.kind with
  | .always truth => do
    checked.takeNone c.kind
    ctx.builder.constant truth
  | .null negated => do
    checked.takeNone c.kind
    if negated then ctx.builder.isNotNull path else ctx.builder.isNull path
  | .empty negated => do
    checked.takeNone c.kind
    ctx.builder.compareWith path (Builder.equalityOp negated) (.text "")
  | .equal negated => do
    ctx.compareStored c path (Builder.equalityOp negated) (← checked.takeOne c.kind)
  | .order relation => do
    ctx.compareOrdered c path relation.compareOp (← checked.takeOne c.kind)
  | .between false => do
    let (first, second) ← checked.takeRange c.kind
    let lower ← ctx.compareStored c path c.inclusion.lowerOp first
    let upper ← ctx.compareStored c path c.inclusion.upperOp second
    ctx.builder.and lower upper
  | .between true => do
    let (first, second) ← checked.takeRange c.kind
    let below ← ctx.compareStored c path c.inclusion.belowOp first
    let above ← ctx.compareStored c path c.inclusion.aboveOp second
    ctx.builder.or below above
  | .member false => do
    ctx.memberStored c path (← checked.takeSet c.kind)
  | .member true => do
    let items ← checked.takeSet c.kind
    match ctx.policy.notIn with
    | .complement => ctx.exclusionStored c path items
    | .backendNegation => ctx.negatedStored c path items
  | .equalFolded negated => do
    ctx.compareFolded c path (Builder.equalityOp negated) (← checked.takeOne c.kind)
  | .text anchor folded negated => do
    ctx.searchStored c path anchor folded negated (← checked.takeOne c.kind)

end Emitter

/-- The node of a condition and the strategy it was compiled by, operand by operand. -/
def staged (c : Condition) : Emission σ (ν × String) := do
  let checked ← c.shape
  let path ← ExceptT.mk (ctx.resolver c.attr)
  let node ← ctx.stagedNode c path checked
  return (node, checked.strategy)

end CompileContext

/-! ## The two emissions agree -/

namespace Condition

/-- Outside searches in texts the conversion of an operand does not fail. -/
theorem store_of_ne_text {c : Condition} (h : c.kind.contract ≠ .text) (v : Value) :
    c.store v = .ok (c.attr.toStore v) := by
  unfold store
  exact if_neg fun hlost => h hlost.1

theorem storeAll_of_ne_text {c : Condition} (h : c.kind.contract ≠ .text) (items : List Value) :
    c.storeAll items = .ok (items.map c.attr.toStore) := by
  unfold storeAll
  rw [funext (store_of_ne_text h)]
  exact List.mapM_pure

/-- The stored form of a text is the stored text, and fails where there is none. -/
theorem store_text {c : Condition} (h : c.kind.contract = .text) (s : String) :
    c.store (.text s) = (c.storedText s).map .text := by
  unfold store storedText
  cases c.attr.toStore (.text s) <;> simp [h, Value.asText?, Except.map]

end Condition

namespace CompileContext

variable {σ ε ν : Type} (ctx : CompileContext σ ε ν) {c : Condition} {criterion : Criterion}

theorem compareStored_eq (h : c.kind.contract ≠ .text) (path : ε) (op : CompareOp) (v : Value) :
    ctx.compareStored c path op v = ctx.builder.compareWith path op (c.attr.toStore v) := by
  unfold compareStored
  rw [Condition.store_of_ne_text h]
  rfl

theorem compareOrdered_eq (h : c.kind.contract ≠ .text) (path : ε) (op : CompareOp) (v : Value) :
    ctx.compareOrdered c path op v = ctx.builder.compareWith path op (c.attr.toStore v).widenChar := by
  unfold compareOrdered
  rw [Condition.store_of_ne_text h]
  rfl

theorem memberStored_eq (h : c.kind.contract ≠ .text) (path : ε) (items : List Value) :
    ctx.memberStored c path items = ctx.builder.membership path (items.map c.attr.toStore) := by
  unfold memberStored Builder.membership
  rw [Condition.storeAll_of_ne_text h, List.isEmpty_map]
  cases items <;> rfl

theorem negatedStored_eq (h : c.kind.contract ≠ .text) (path : ε) (items : List Value) :
    ctx.negatedStored c path items = ctx.builder.negatedMembership path (items.map c.attr.toStore) := by
  unfold negatedStored
  rw [ctx.memberStored_eq h]
  rfl

theorem exclusionStored_eq (h : c.kind.contract ≠ .text) (path : ε) (items : List Value) :
    ctx.exclusionStored c path items = ctx.builder.exclusion path (items.map c.attr.toStore) := by
  unfold exclusionStored Builder.exclusion
  rw [ctx.negatedStored_eq h, List.isEmpty_map]
  cases items <;> rfl

theorem foldedText_eq (h : c.kind.contract = .text) (s : String) (folded : Bool) :
    foldedText c (.text s) folded = (c.storedText s).map fun t => if folded then Text.casefold t else t := by
  unfold foldedText
  rw [Condition.store_text h]
  cases c.storedText s <;> rfl

theorem compareFolded_eq (h : c.kind.contract = .text) (path : ε) (negated : Bool) (s : String) :
    ctx.compareFolded c path (Builder.equalityOp negated) (.text s) =
      (do let ready ← c.stored (.equalFolded negated s); ctx.builder.node ctx.policy path ready) := by
  unfold compareFolded
  rw [Condition.stored_equalFolded, foldedText_eq h]
  cases c.storedText s <;> rfl

theorem searchStored_eq (h : c.kind.contract = .text) (path : ε) (anchor : Text.Anchor) (folded negated : Bool)
    (s : String) : ctx.searchStored c path anchor folded negated (.text s) =
      (do let ready ← c.stored (.text anchor folded negated s); ctx.builder.node ctx.policy path ready) := by
  unfold searchStored
  rw [Condition.stored_text, foldedText_eq h]
  cases c.storedText s <;> rfl

/-- The node of a criterion from the shape of its operands is the node of the stored criterion. -/
theorem stagedNode_eq (hkind : criterion.kind = c.kind) (hmeets : c.Meets criterion) (path : ε) :
    ctx.stagedNode c path criterion.shape =
      (do let ready ← c.stored criterion; ctx.builder.node ctx.policy path ready) := by
  have hcontract : c.kind.contract = criterion.kind.contract := by rw [hkind]
  -- every kind takes the shape of its criterion; what is left is when the operands are converted
  unfold stagedNode
  rw [← hkind]
  cases criterion with
  | always truth => rfl
  | null negated => cases negated <;> rfl
  | empty negated => rfl
  | equal negated v =>
    have htext : c.kind.contract ≠ .text := by rw [hcontract]; simp [Criterion.kind, PredicateKind.contract]
    exact ctx.compareStored_eq htext path _ v
  | order relation v =>
    have htext : c.kind.contract ≠ .text := by rw [hcontract]; simp [Criterion.kind, PredicateKind.contract]
    exact ctx.compareOrdered_eq htext path _ v
  | between negated first second inclusion =>
    have htext : c.kind.contract ≠ .text := by rw [hcontract]; simp [Criterion.kind, PredicateKind.contract]
    obtain ⟨-, -, -, -, rfl⟩ := hmeets
    cases negated <;>
    · simp only [Criterion.kind, Criterion.shape, ctx.compareStored_eq htext]
      rfl
  | member negated items =>
    have htext : c.kind.contract ≠ .text := by rw [hcontract]; simp [Criterion.kind, PredicateKind.contract]
    cases negated with
    | false => exact ctx.memberStored_eq htext path items
    | true =>
      simp only [Criterion.kind, ctx.exclusionStored_eq htext, ctx.negatedStored_eq htext]
      show _ = liftM (ctx.builder.node ctx.policy path (.member true (items.map c.attr.toStore)))
      unfold Builder.node
      cases ctx.policy.notIn <;> rfl
  | equalFolded negated s =>
    have htext : c.kind.contract = .text := by rw [hcontract]; rfl
    exact ctx.compareFolded_eq htext path negated s
  | text anchor folded negated s =>
    have htext : c.kind.contract = .text := by rw [hcontract]; rfl
    exact ctx.searchStored_eq htext path anchor folded negated s

/-! ## The whole emission -/

/-- What an emission does, from the answer and the state of its first part. -/
theorem run_bind {α β : Type} (x : Emission σ α) (f : α → Emission σ β) (b : σ) :
    (x >>= f).run b = match x.run b with
      | (.ok a, after) => (f a).run after
      | (.error e, after) => (.error e, after) := by
  have hbind : (x >>= f).run b = ExceptT.bindCont f (x.run b).1 (x.run b).2 := rfl
  rw [hbind]
  rcases x.run b with ⟨e | a, after⟩ <;> rfl

theorem staged_of_refused {e : PredicateError} (hcheck : c.check = .error e) :
    (ctx.staged c).run = pure (.error e) := by
  unfold staged
  rw [c.shape_eq, hcheck]
  rfl

theorem run_staged (hcheck : c.check = .ok criterion) (b : σ) :
    (ctx.staged c).run b = match ctx.resolver c.attr b with
      | (.error e, resolved) => (.error e, resolved)
      | (.ok path, resolved) =>
        match c.stored criterion with
        | .error e => (.error e, resolved)
        | .ok ready =>
          (.ok ((ctx.builder.node ctx.policy path ready resolved).1, criterion.strategy),
            (ctx.builder.node ctx.policy path ready resolved).2) := by
  obtain ⟨hkind, -, hmeets⟩ := (Condition.check_eq_ok_iff c criterion).1 hcheck
  have hstaged : ctx.staged c = (do
      let path ← ExceptT.mk (ctx.resolver c.attr)
      let node ← ctx.stagedNode c path criterion.shape
      return (node, criterion.strategy)) := by
    unfold staged
    rw [c.shape_eq, hcheck, ← criterion.strategy_shape]
    rfl
  rw [hstaged, run_bind, ExceptT.run_mk]
  rcases ctx.resolver c.attr b with ⟨e | path, resolved⟩
  · rfl
  dsimp only
  rw [ctx.stagedNode_eq hkind hmeets]
  rcases c.stored criterion with e | ready <;> rfl

/-- The emission operand by operand is the emission that checks and converts all operands first. -/
theorem emit_eq_staged (c : Condition) : ctx.emit c = (ctx.staged c).run := by
  rcases hcheck : c.check with e | criterion
  · rw [ctx.emit_of_refused hcheck, ctx.staged_of_refused hcheck]
  funext b
  rw [ctx.run_staged hcheck]
  rcases hpath : ctx.resolver c.attr b with ⟨e | path, resolved⟩
  · exact ctx.emit_of_unresolved hcheck hpath
  rcases hstored : c.stored criterion with e | ready
  · exact ctx.emit_of_unstored hcheck hpath hstored
  · exact ctx.emit_of_stored hcheck hpath hstored

end CompileContext

end FieldQuery
