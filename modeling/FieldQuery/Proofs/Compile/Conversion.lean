/-
Conversion commutes with compilation. Converting the operands of a condition beforehand, and asking the same attribute
without its conversion, gives the same node, if the converted operands still pass the check. A text to search for that
does not stay a text passes neither: the converted condition is refused by the check and the condition itself in
compilation. The values in a node are thus the literals of the condition, each converted once and then folded or
widened; what the node adds of its own is never converted.
-/
import FieldQuery.Proofs.Compile.Agreement
import FieldQuery.Proofs.Compile.Traversal

namespace FieldQuery

/-! ## Converted operands -/

namespace Condition

/-- The condition with its operands in stored form, about the attribute without its conversion. -/
def converted (c : Condition) : Condition :=
  { c with attr := { c.attr with converter := none }, operands := c.operands.map c.attr.toStore }

variable {c : Condition} {criterion criterion' : Criterion}

/-- If the converted operands pass the check, the check makes of them the stored criterion. -/
theorem stored_of_converted (hcheck : c.check = .ok criterion) (hcheck' : c.converted.check = .ok criterion') :
    c.stored criterion = .ok criterion' := by
  obtain ⟨hkind, hoperands, hmeets⟩ := (check_eq_ok_iff c criterion).1 hcheck
  obtain ⟨hkind', hoperands', hmeets'⟩ := (check_eq_ok_iff c.converted criterion').1 hcheck'
  replace hkind' : criterion'.kind = criterion.kind := hkind'.trans hkind.symm
  replace hoperands' : criterion'.operands = criterion.operands.map c.attr.toStore := by
    rw [hoperands', hoperands]
    rfl
  -- the kind names the constructor of the second criterion, and the converted operands its arguments
  cases criterion with
  | always | null | empty =>
    cases criterion' <;> cases hkind'
    rfl
  | equal negated v =>
    rw [Criterion.operands, Operands.map_one _ (Bool.and_eq_true_iff.1 hmeets).1] at hoperands'
    cases criterion' <;> cases hkind'
    cases hoperands'
    rfl
  | order relation bound =>
    rw [Criterion.operands, Operands.map_one _ (Bool.and_eq_true_iff.1 hmeets.1).1] at hoperands'
    cases criterion' <;> cases hkind'
    cases hoperands'
    rfl
  | between negated first second inclusion =>
    cases criterion' <;> cases hkind'
    cases hoperands'
    -- both criteria have the inclusion of the condition
    obtain ⟨-, -, -, -, rfl⟩ := hmeets
    obtain ⟨-, -, -, -, rfl⟩ := hmeets'
    rfl
  | member negated items =>
    cases criterion' <;> cases hkind'
    cases hoperands'
    rfl
  | equalFolded negated s =>
    rw [Criterion.operands, Operands.map_one _ rfl] at hoperands'
    cases criterion' <;> cases hkind'
    rw [stored_equalFolded]
    exact map_storedText_iff.2 ⟨_, (Operands.one.inj hoperands').symm, rfl⟩
  | text anchor folded negated s =>
    rw [Criterion.operands, Operands.map_one _ rfl] at hoperands'
    cases criterion' <;> cases hkind'
    rw [stored_text]
    exact map_storedText_iff.2 ⟨_, (Operands.one.inj hoperands').symm, rfl⟩

/-- A text to search for that does not stay a text is refused once it is converted. -/
theorem refused_of_losesText (hcheck : c.check = .ok criterion) {found : String} (hloses : c.LosesText found) :
    ∃ e, c.converted.validate = .error e := by
  rcases hcheck' : c.converted.check with e | criterion'
  · exact ⟨e, validate_of_refused hcheck'⟩
  · -- accepted, it would be the stored criterion, which a lost text does not have
    have hlost : c.stored criterion = .error (c.invalidOperand found) :=
      (stored_eq_error_iff hcheck).2 ⟨found, hloses, rfl⟩
    rw [stored_of_converted hcheck hcheck'] at hlost
    cases hlost

end Condition

/-! ## Literals of criteria -/

namespace Criterion

/-- The literals of a criterion. -/
def literals : Criterion → List Value
  | always _ | null _ | empty _ => []
  | equal _ v | order _ v => [v]
  | equalFolded _ s | text _ _ _ s => [.text s]
  | between _ first second _ => [first, second]
  | member _ items => items

theorem literals_operands {c : Condition} {criterion : Criterion} (h : c.Meets criterion) :
    criterion.operands.literals = criterion.literals := by
  cases criterion with
  | equal negated v => exact literals_scalar h
  | order relation bound => exact literals_bound h.1
  | _ => rfl

theorem literals_stored {c : Condition} {criterion stored : Criterion} (h : c.stored criterion = .ok stored) :
    stored.literals = criterion.literals.map c.attr.toStore := by
  cases criterion with
  | equalFolded negated s =>
    rw [Condition.stored_equalFolded] at h
    obtain ⟨t, ht, rfl⟩ := Condition.map_storedText_iff.1 h
    exact congrArg (fun v => [v]) ht.symm
  | text anchor folded negated s =>
    rw [Condition.stored_text] at h
    obtain ⟨t, ht, rfl⟩ := Condition.map_storedText_iff.1 h
    exact congrArg (fun v => [v]) ht.symm
  | _ => cases h; rfl

end Criterion

/-- What a condition is compiled from has the literals of the condition, each converted once. -/
theorem Condition.literals_ready {c : Condition} {stored : Criterion} (h : c.ready = .ok stored) :
    stored.literals = c.operands.literals.map c.attr.toStore := by
  obtain ⟨criterion, hcheck, hstored⟩ := ready_eq_ok_iff.1 h
  obtain ⟨-, hoperands, hmeets⟩ := (check_eq_ok_iff c criterion).1 hcheck
  rw [Criterion.literals_stored hstored, ← Criterion.literals_operands hmeets, hoperands]

/-! ## The values in a node -/

/-- The values that a call hands over. -/
def Payload.values : Payload → List Value
  | literal v => [v]
  | like pattern _ => [.text pattern.needle]
  | inList values => values
  | _ => []

/-- The values in a clause, from left to right: literals, items of lists and needles of patterns. -/
def Clause.values (c : Clause) : List Value := c.payloads.flatMap Payload.values

/-- A text with its case folded; other values stay. -/
def Value.casefold : Value → Value
  | text s => text (Text.casefold s)
  | v => v

/-- The values in the node of a kind, from the stored literals. Only the constants and the comparison with the empty
text contain a value that is no literal. -/
def PredicateKind.written : PredicateKind → List Value → List Value
  | always _, _ => [.bool true]
  | null _, _ => []
  | empty _, _ => [.text ""]
  | equalFolded _, stored => stored.map Value.casefold
  | text _ folded _, stored => if folded then stored.map Value.casefold else stored
  | order _, stored => stored.map Value.widenChar
  | member _, stored => if stored.isEmpty then [.bool true] else stored
  | equal _, stored | between _, stored => stored

namespace Criterion

theorem values_membership (name : String) (items : List Value) :
    (Clause.membership (.column name) items).values = if items.isEmpty then [.bool true] else items := by
  cases items with
  | nil => rfl
  | cons item rest => exact List.append_nil _

theorem values_exclusion (name : String) (items : List Value) :
    (Clause.exclusion (.column name) items).values = if items.isEmpty then [.bool true] else items := by
  cases items with
  | nil => rfl
  | cons item rest => exact List.append_nil _

/-- The clause of a criterion contains the literals of the criterion as its kind writes them. -/
theorem values_clause (policy : Policy) (name : String) (c : Criterion) :
    (c.clause policy (.column name)).values = c.kind.written c.literals := by
  cases c with
  | always truth => cases truth <;> rfl
  | null negated => cases negated <;> rfl
  | empty negated => rfl
  | equal negated v => rfl
  | order relation bound => rfl
  | equalFolded negated s => rfl
  | between negated first second inclusion => cases negated <;> rfl
  | text anchor folded negated s => cases folded <;> rfl
  | member negated items =>
    cases negated with
    | false => exact values_membership name items
    | true =>
      unfold clause
      rcases policy.notIn with _ | _
      · exact values_exclusion name items
      · show ((Clause.membership (.column name) items).payloads ++ [Payload.not]).flatMap Payload.values = _
        rw [List.flatMap_append]
        exact (List.append_nil _).trans (values_membership name items)

end Criterion

/-- The clause of a condition contains its literals, converted and then written as the kind does. -/
theorem Condition.values_toClause {c : Condition} {policy : Policy} {clause : Clause}
    (h : c.toClause policy = .ok clause) :
    clause.values = c.kind.written (c.operands.literals.map c.attr.toStore) := by
  obtain ⟨stored, hready, rfl⟩ := toClause_eq_ok_iff.1 h
  rw [Criterion.values_clause, kind_ready hready, literals_ready hready]

/-! ## Compilation -/

namespace CompileContext

variable {σ ε ν : Type} (ctx : CompileContext σ ε ν) (s : Session σ) {c : Condition} {path : ε} {resolved : σ}

/-- If the converted operands pass the check, both conditions compile, to one node in one session. -/
theorem compile_of_converted {criterion criterion' : Criterion} (hcheck : c.check = .ok criterion)
    (hcheck' : c.converted.check = .ok criterion')
    (hpath : ctx.resolver c.attr s.backend = (.ok path, resolved))
    (hpath' : ctx.resolver c.converted.attr s.backend = (.ok path, resolved)) :
    (∃ node, (ctx.compile c s).1 = .ok node) ∧ ctx.compile c.converted s = ctx.compile c s := by
  have hstored : c.stored criterion = .ok criterion' := Condition.stored_of_converted hcheck hcheck'
  have hstored' : c.converted.stored criterion' = .ok criterion' := Condition.stored_of_none rfl criterion'
  constructor
  · exact ⟨_, (ctx.compile_of_stored s hcheck hpath hstored).1⟩
  · exact ctx.compile_congr s hcheck hcheck' rfl rfl rfl (hpath'.trans hpath.symm) hstored hstored' fun _ => rfl

/-- Conversion commutes with compilation, whatever the conversion, the backend and the policy. If a valid condition
is still valid with its operands converted beforehand, over the attribute without its conversion, both compile and to
the same node. If a text to search for does not stay a text, the converted condition is not valid and the condition
is refused in compilation. The values in a node are the literals, each converted once, and folded or widened only
afterwards; the fixed values that a node contains are not converted. -/
theorem compile_converted (hvalid : c.validate = .ok ())
    (hpath : ctx.resolver c.attr s.backend = (.ok path, resolved))
    (hpath' : ctx.resolver c.converted.attr s.backend = (.ok path, resolved)) :
    (c.converted.validate = .ok () →
      (∃ node, (ctx.compile c s).1 = .ok node) ∧ ctx.compile c.converted s = ctx.compile c s) ∧
    (∀ found, c.LosesText found → (∃ e, c.converted.validate = .error e) ∧
      (ctx.compile c s).1 = .error (.invalidOperand c.kind c.attr.qualifiedName .text found)) ∧
    ∀ node, (ctx.compile c s).1 = .ok node → ∃ clause, c.toClause ctx.policy = .ok clause ∧
      node = (clause.replay ctx.builder path resolved).1 ∧
      clause.values = c.kind.written (c.operands.literals.map c.attr.toStore) := by
  obtain ⟨criterion, hcheck⟩ := Condition.check_of_validate hvalid
  refine ⟨?stable, ?lost, ?written⟩
  case stable =>
    intro hvalid'
    obtain ⟨criterion', hcheck'⟩ := Condition.check_of_validate hvalid'
    exact ctx.compile_of_converted s hcheck hcheck' hpath hpath'
  case lost =>
    intro found hloses
    have hlost : c.stored criterion = .error (c.invalidOperand found) :=
      (Condition.stored_eq_error_iff hcheck).2 ⟨found, hloses, rfl⟩
    refine ⟨Condition.refused_of_losesText hcheck hloses, ?_⟩
    rw [(ctx.compile_of_unstored s hcheck hpath hlost).1, Condition.invalidOperand, hloses.1]
  case written =>
    intro node hnode
    obtain ⟨clause, -, -, hclause, -⟩ := ctx.clause_of_compile hnode
    refine ⟨clause, hclause, ?_, Condition.values_toClause hclause⟩
    rw [(ctx.compile_of_clause hclause hpath).1] at hnode
    exact (Except.ok.inj hnode).symm

/-- A conversion that doubles what it is given shows a second conversion at once. The two items are doubled, and the
constant for an empty list is not; a text becomes a number and is refused. -/
theorem compile_converted_doubled :
    let double : Value → Value := fun v => match v with
      | .int n => .int (n + n)
      | .text _ => .int 0
      | v => v
    let amount : Attribute := ⟨"order", "amount", .int, some ⟨double, id⟩, false⟩
    let name : Attribute := ⟨"order", "name", .text, some ⟨double, id⟩, false⟩
    let listed : Condition := ⟨amount, .member true, .one (.list [.int 1, .int 2]), ⟨true, true⟩⟩
    let nothing : Condition := ⟨amount, .member true, .one (.list []), ⟨true, true⟩⟩
    let searched : Condition := ⟨name, .equalFolded false, .one (.text "x"), ⟨true, true⟩⟩
    let ctx : CompileContext Unit Term Clause := Clause.context .standard none
    listed.converted.operands = .one (.list [.int 2, .int 4]) ∧
      ctx.compile listed.converted ⟨(), none⟩ = ctx.compile listed ⟨(), none⟩ ∧
      (∃ clause, listed.toClause = .ok clause ∧ clause.values = [.int 2, .int 4]) ∧
      (∃ clause, nothing.toClause = .ok clause ∧ clause.values = [.bool true]) ∧
      searched.toClause =
        .error (.invalidOperand (.equalFolded false) "order.name" .text "i64 after conversion") := by
  intro double amount name listed nothing searched ctx
  obtain ⟨hlisted, -, hdoubled⟩ := ctx.compile_converted ⟨(), none⟩ (c := listed) rfl rfl rfl
  obtain ⟨-, -, hempty⟩ := ctx.compile_converted ⟨(), none⟩ (c := nothing) rfl rfl rfl
  obtain ⟨-, hsearched, -⟩ := ctx.compile_converted ⟨(), none⟩ (c := searched) rfl rfl rfl
  have hloses : searched.LosesText "i64 after conversion" := ⟨rfl, .text "x", rfl, rfl, rfl⟩
  refine ⟨rfl, (hlisted rfl).2, ?_, ?_, (hsearched _ hloses).2⟩
  · obtain ⟨clause, hclause, -, hvalues⟩ := hdoubled _ rfl
    exact ⟨clause, hclause, hvalues⟩
  · obtain ⟨clause, hclause, -, hvalues⟩ := hempty _ rfl
    exact ⟨clause, hclause, hvalues⟩

end CompileContext

end FieldQuery
