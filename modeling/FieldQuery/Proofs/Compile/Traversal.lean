/-
What a backend sees of a successful compilation: the resolution of the attribute, then the calls of the
tree of the clause, operands before the vertex they belong to and from left to right. The recorder shows
the calls one by one: one for each vertex, with its payload, each result but the last the operand of a
later call, and the last result the node that compilation returns.
-/
import FieldQuery.Compile.Recording
import FieldQuery.Proofs.Compile.Outcome
import FieldQuery.Proofs.Compile.Replay

namespace FieldQuery

/-! ## Calls -/

/-- What a call asks for, without the expressions and nodes it is about. -/
inductive Payload where
  | resolve (path : String)
  | literal (value : Value)
  | lower
  | isTrue
  | isFalse
  | isNull
  | isNotNull
  | compare (op : CompareOp)
  | like (pattern : LikePattern) (negated : Bool)
  | inList (values : List Value)
  | and
  | or
  | not

/-- What a call gives. -/
inductive CallResult where
  | expr (id : ExprId)
  | node (id : NodeId)
deriving DecidableEq

def ExprCall.payload : ExprCall → Payload
  | resolve path => .resolve path
  | literal v => .literal v
  | lower _ => .lower

def ExprCall.operands : ExprCall → List CallResult
  | resolve _ | literal _ => []
  | lower e => [.expr e]

def NodeCall.payload : NodeCall → Payload
  | isTrue _ => .isTrue
  | isFalse _ => .isFalse
  | isNull _ => .isNull
  | isNotNull _ => .isNotNull
  | compare _ op _ => .compare op
  | like _ pattern negated => .like pattern negated
  | inList _ values => .inList values
  | and _ _ => .and
  | or _ _ => .or
  | not _ => .not

def NodeCall.operands : NodeCall → List CallResult
  | isTrue e | isFalse e | isNull e | isNotNull e | like e _ _ | inList e _ => [.expr e]
  | compare l _ r => [.expr l, .expr r]
  | and l r | or l r => [.node l, .node r]
  | not n => [.node n]

namespace RecordedCall

def payload : RecordedCall → Payload
  | expr call _ => call.payload
  | node call _ => call.payload

def operands : RecordedCall → List CallResult
  | expr call _ => call.operands
  | node call _ => call.operands

def result : RecordedCall → CallResult
  | expr _ id => .expr id
  | node _ id => .node id

end RecordedCall

/-! ## Vertices -/

/-- The payloads of the vertices of a term, operands first; the column is not a vertex. -/
def Term.payloads : Term → List Payload
  | column _ => []
  | literal v => [.literal v]
  | lower inner => inner.payloads ++ [.lower]

/-- The payloads of the vertices of a clause, operands first and from left to right. -/
def Clause.payloads : Clause → List Payload
  | isTrue t => t.payloads ++ [.isTrue]
  | isFalse t => t.payloads ++ [.isFalse]
  | isNull t => t.payloads ++ [.isNull]
  | isNotNull t => t.payloads ++ [.isNotNull]
  | compare left op right => left.payloads ++ right.payloads ++ [.compare op]
  | like t pattern negated => t.payloads ++ [.like pattern negated]
  | inList t values => t.payloads ++ [.inList values]
  | and left right => left.payloads ++ right.payloads ++ [.and]
  | or left right => left.payloads ++ right.payloads ++ [.or]
  | not inner => inner.payloads ++ [.not]

/-- The literals of a term. -/
def Term.literals : Term → List Value
  | column _ => []
  | literal v => [v]
  | lower inner => inner.literals

/-- The literals of a clause, in the order in which they stand in it. -/
def Clause.literals : Clause → List Value
  | isTrue t | isFalse t | isNull t | isNotNull t | like t _ _ | inList t _ => t.literals
  | compare left _ right => left.literals ++ right.literals
  | and left right | or left right => left.literals ++ right.literals
  | not inner => inner.literals

/-- The value of the payload of a literal. -/
def Payload.literal? : Payload → Option Value
  | literal v => some v
  | _ => none

theorem Term.literals_eq (t : Term) : t.payloads.filterMap Payload.literal? = t.literals := by
  induction t with
  | column name => rfl
  | literal v => rfl
  | lower inner ih =>
    rw [payloads, List.filterMap_append, ih]
    exact List.append_nil _

theorem Clause.literals_eq (c : Clause) : c.payloads.filterMap Payload.literal? = c.literals := by
  induction c <;> simp [payloads, literals, Payload.literal?, Term.literals_eq, *]

/-! ## Recorded runs -/

/-- Every call of a list but those with the given results has its result used by a later call. -/
def AllUsed (outs : List CallResult) : List RecordedCall → Prop
  | [] => True
  | call :: rest => (call.result ∈ outs ∨ ∃ later ∈ rest, call.result ∈ later.operands) ∧ AllUsed outs rest

/-- What is left unused after more calls was left unused by these, or by the ones before and not used by
these. -/
theorem AllUsed.append {outs outs' outs'' : List CallResult} {calls calls' : List RecordedCall}
    (h : AllUsed outs calls) (h' : AllUsed outs' calls') (hleft : outs' ⊆ outs'')
    (hused : ∀ out ∈ outs, out ∈ outs'' ∨ ∃ later ∈ calls', out ∈ later.operands) :
    AllUsed outs'' (calls ++ calls') := by
  induction calls with
  | nil =>
    rw [List.nil_append]
    clear hused
    induction calls' with
    | nil => trivial
    | cons call rest ih => exact ⟨h'.1.imp_left (@hleft _), ih h'.2⟩
  | cons call rest ih =>
    obtain ⟨hcall, hrest⟩ := h
    refine ⟨?_, ih hrest⟩
    rcases hcall with hout | ⟨later, hlater, hoperand⟩
    · rcases hused _ hout with hout | ⟨later, hlater, hoperand⟩
      · exact .inl hout
      · exact .inr ⟨later, List.mem_append_right _ hlater, hoperand⟩
    · exact .inr ⟨later, List.mem_append_left _ hlater, hoperand⟩

namespace Recording

/-- Whether a recorder has given a result. -/
def Gave (r : Recording) : CallResult → Prop
  | .expr id => id.index < r.nextExpr
  | .node id => id.index < r.nextNode

/-- A recorder comes from one state to another by calls with the given payloads. Their results are new
and differ from each other, and all but `outs` are used by later ones of the calls. -/
structure Grows (before after : Recording) (calls : List RecordedCall) (payloads : List Payload)
    (outs : List CallResult) : Prop where
  appended : after.calls = before.calls ++ calls
  asked : calls.map RecordedCall.payload = payloads
  used : AllUsed outs calls
  kept : ∀ result, before.Gave result → after.Gave result
  fresh : ∀ call ∈ calls, ¬before.Gave call.result ∧ after.Gave call.result
  distinct : (calls.map RecordedCall.result).Nodup

theorem Grows.refl (r : Recording) (outs : List CallResult) : Grows r r [] [] outs where
  appended := (List.append_nil _).symm
  asked := rfl
  used := trivial
  kept _ h := h
  fresh := nofun
  distinct := List.nodup_nil

theorem grows_expr (r : Recording) (call : ExprCall) :
    Grows r (expr call r).2 [.expr call (expr call r).1] [call.payload] [.expr (expr call r).1] where
  appended := rfl
  asked := rfl
  used := ⟨.inl List.mem_cons_self, trivial⟩
  kept result h := by
    cases result with
    | expr id => exact Nat.lt_succ_of_lt h
    | node id => exact h
  fresh call' h := by
    obtain rfl := List.mem_singleton.1 h
    exact ⟨Nat.lt_irrefl _, Nat.lt_succ_self _⟩
  distinct := List.pairwise_singleton _ _

theorem grows_node (r : Recording) (call : NodeCall) :
    Grows r (node call r).2 [.node call (node call r).1] [call.payload] [.node (node call r).1] where
  appended := rfl
  asked := rfl
  used := ⟨.inl List.mem_cons_self, trivial⟩
  kept result h := by
    cases result with
    | expr id => exact h
    | node id => exact Nat.lt_succ_of_lt h
  fresh call' h := by
    obtain rfl := List.mem_singleton.1 h
    exact ⟨Nat.lt_irrefl _, Nat.lt_succ_self _⟩
  distinct := List.pairwise_singleton _ _

variable {before mid after : Recording} {calls calls' : List RecordedCall} {payloads payloads' : List Payload}
  {outs outs' outs'' : List CallResult}

theorem Grows.trans (h : Grows before mid calls payloads outs) (h' : Grows mid after calls' payloads' outs')
    (hleft : outs' ⊆ outs'') (hused : ∀ out ∈ outs, out ∈ outs'' ∨ ∃ later ∈ calls', out ∈ later.operands) :
    Grows before after (calls ++ calls') (payloads ++ payloads') outs'' where
  appended := by rw [h'.appended, h.appended, List.append_assoc]
  asked := by rw [List.map_append, h.asked, h'.asked]
  used := h.used.append h'.used hleft hused
  kept result hgave := h'.kept result (h.kept result hgave)
  fresh call hcall := by
    rcases List.mem_append.1 hcall with hcall | hcall
    · exact ⟨(h.fresh call hcall).1, h'.kept _ (h.fresh call hcall).2⟩
    · exact ⟨fun hgave => (h'.fresh call hcall).1 (h.kept _ hgave), (h'.fresh call hcall).2⟩
  distinct := by
    -- what the first calls gave is known to the recorder in between, what the others gave is new to it
    rw [List.map_append, List.nodup_append]
    refine ⟨h.distinct, h'.distinct, ?_⟩
    intro a ha b hb hab
    obtain ⟨call, hcall, rfl⟩ := List.mem_map.1 ha
    obtain ⟨call', hcall', rfl⟩ := List.mem_map.1 hb
    exact (h'.fresh call' hcall').1 (hab ▸ (h.fresh call hcall).2)

/-- Calls whose results are both unused, one after the other. -/
theorem Grows.beside (h : Grows before mid calls payloads outs) (h' : Grows mid after calls' payloads' outs') :
    Grows before after (calls ++ calls') (payloads ++ payloads') (outs ++ outs') :=
  h.trans h' (List.subset_append_right _ _) fun _ hout => .inl (List.mem_append_left _ hout)

/-- A call that uses all results so far unused gives an expression. -/
theorem Grows.thenExpr (h : Grows before mid calls payloads outs) (call : ExprCall)
    (hused : outs ⊆ call.operands) :
    Grows before (expr call mid).2 (calls ++ [.expr call (expr call mid).1]) (payloads ++ [call.payload])
      [.expr (expr call mid).1] :=
  h.trans (grows_expr mid call) (List.Subset.refl _)
    fun _ hout => .inr ⟨_, List.mem_cons_self, hused hout⟩

/-- A call that uses all results so far unused gives a node. -/
theorem Grows.thenNode (h : Grows before mid calls payloads outs) (call : NodeCall)
    (hused : outs ⊆ call.operands) :
    Grows before (node call mid).2 (calls ++ [.node call (node call mid).1]) (payloads ++ [call.payload])
      [.node (node call mid).1] :=
  h.trans (grows_node mid call) (List.Subset.refl _)
    fun _ hout => .inr ⟨_, List.mem_cons_self, hused hout⟩

end Recording

/-! ## The recorder on a tree -/

section Recorded

variable (path : ExprId) (r : Recording)

theorem Term.grows (t : Term) : ∃ calls,
    r.Grows (t.replay Recording.builder path r).2 calls t.payloads [.expr (t.replay Recording.builder path r).1] := by
  induction t generalizing r with
  | column name => exact ⟨[], .refl r _⟩
  | literal v => exact ⟨_, r.grows_expr (.literal v)⟩
  | lower inner ih =>
    obtain ⟨calls, h⟩ := ih r
    exact ⟨_, h.thenExpr (.lower _) (List.Subset.refl _)⟩

/-- The recorder builds a clause by one call for each vertex; the last one gives the node. -/
theorem Clause.grows (c : Clause) : ∃ calls last,
    r.Grows (c.replay Recording.builder path r).2 (calls ++ [.node last (c.replay Recording.builder path r).1])
      c.payloads [.node (c.replay Recording.builder path r).1] := by
  -- the calls of the operands leave just their results unused, and the call of the vertex uses these
  induction c generalizing r with
  | isTrue t | isFalse t | isNull t | isNotNull t | inList t values =>
    obtain ⟨calls, h⟩ := t.grows path r
    exact ⟨calls, _, h.thenNode _ (List.Subset.refl _)⟩
  | compare left op right =>
    obtain ⟨calls, h⟩ := left.grows path r
    obtain ⟨calls', h'⟩ := right.grows path (left.replay Recording.builder path r).2
    exact ⟨calls ++ calls', _, (h.beside h').thenNode _ (List.Subset.refl _)⟩
  | like t pattern negated =>
    obtain ⟨calls, h⟩ := t.grows path r
    cases negated <;> exact ⟨calls, _, h.thenNode _ (List.Subset.refl _)⟩
  | and left right ihl ihr | or left right ihl ihr =>
    obtain ⟨calls, last, h⟩ := ihl r
    obtain ⟨calls', last', h'⟩ := ihr (left.replay Recording.builder path r).2
    exact ⟨_, _, (h.beside h').thenNode _ (List.Subset.refl _)⟩
  | not inner ih =>
    obtain ⟨calls, last, h⟩ := ih r
    exact ⟨_, _, h.thenNode _ (List.Subset.refl _)⟩

end Recorded

/-! ## Compilation -/

theorem Condition.toClause_eq_ok_iff {c : Condition} {policy : Policy} {clause : Clause} :
    c.toClause policy = .ok clause ↔
      ∃ stored, c.ready = .ok stored ∧ stored.clause policy (.column c.attr.column) = clause :=
  compile_eq_ok_iff policy rfl _

/-- The columns of the attribute's own entity resolve as those of any entity. -/
theorem Condition.toClause_own (c : Condition) (policy : Policy) :
    c.toClause policy (some c.attr.entity) = c.toClause policy := by
  have hpath : Clause.columns (some c.attr.entity) c.attr () = (.ok (.column c.attr.column), ()) := by
    unfold Clause.columns
    dsimp only
    rw [if_pos rfl]
    rfl
  rw [toClause_eq]
  exact compile_clause policy hpath _

namespace CompileContext

variable {σ ε ν : Type} (ctx : CompileContext σ ε ν) {c : Condition} {s : Session σ} {clause : Clause}

/-- With a clause and a path, compilation builds the clause after the attribute is resolved. -/
theorem compile_of_clause {path : ε} {resolved : σ} (hclause : c.toClause ctx.policy = .ok clause)
    (hpath : ctx.resolver c.attr s.backend = (.ok path, resolved)) :
    (ctx.compile c s).1 = .ok (clause.replay ctx.builder path resolved).1 ∧
      (ctx.compile c s).2.backend = (clause.replay ctx.builder path resolved).2 := by
  obtain ⟨stored, hready, rfl⟩ := Condition.toClause_eq_ok_iff.1 hclause
  obtain ⟨criterion, hcheck, hstored⟩ := Condition.ready_eq_ok_iff.1 hready
  rw [Criterion.replay_clause]
  exact ctx.compile_of_stored s hcheck hpath hstored

/-- What compiles has a clause and a path. -/
theorem clause_of_compile {node : ν} (h : (ctx.compile c s).1 = .ok node) : ∃ clause path resolved,
    c.toClause ctx.policy = .ok clause ∧ ctx.resolver c.attr s.backend = (.ok path, resolved) := by
  rcases hcheck : c.check with e | criterion
  · rw [ctx.compile_of_refused s hcheck] at h
    cases h
  rcases hpath : ctx.resolver c.attr s.backend with ⟨e | path, resolved⟩
  · rw [(ctx.compile_of_unresolved s hcheck hpath).1] at h
    cases h
  rcases hstored : c.stored criterion with e | stored
  · rw [(ctx.compile_of_unstored s hcheck hpath hstored).1] at h
    cases h
  have hready : c.ready = .ok stored := Condition.ready_eq_ok_iff.2 ⟨criterion, hcheck, hstored⟩
  exact ⟨_, path, resolved, Condition.toClause_eq_ok_iff.2 ⟨stored, hready, rfl⟩, rfl⟩

/-- The recorder notes the resolution of the attribute and then the vertices of the clause. -/
theorem compile_recorded {policy : Policy} (hclause : c.toClause policy = .ok clause) {mapped : String → Bool}
    (hmapped : mapped c.attr.entity = true) (s : Session Recording) :
    ∃ path calls last node,
      (compile ⟨Recording.builder, Recording.resolver mapped, policy⟩ c s).1 = .ok node ∧
      s.backend.Grows (compile ⟨Recording.builder, Recording.resolver mapped, policy⟩ c s).2.backend
        (.expr (.resolve c.attr.qualifiedName) path :: (calls ++ [.node last node]))
        (.resolve c.attr.qualifiedName :: clause.payloads) [.expr path, .node node] := by
  let resolve := Recording.expr (.resolve c.attr.qualifiedName) s.backend
  have hpath : Recording.resolver mapped c.attr s.backend = (.ok resolve.1, resolve.2) := by
    unfold Recording.resolver
    rw [if_pos hmapped]
    rfl
  obtain ⟨hnode, hbackend⟩ :=
    compile_of_clause ⟨Recording.builder, Recording.resolver mapped, policy⟩ hclause hpath
  obtain ⟨calls, last, hgrows⟩ := clause.grows resolve.1 resolve.2
  rw [hbackend]
  exact ⟨resolve.1, calls, last, _, hnode, (s.backend.grows_expr _).beside hgrows⟩

/-- Whatever the backend, a successful compilation resolves the attribute and then builds the clause
that the condition has over columns, vertex by vertex. A backend without state gives the fold of the
clause, and the recorder lists the calls. -/
theorem compile_traverses {node : ν} (h : (ctx.compile c s).1 = .ok node) : ∃ clause path resolved,
    c.toClause ctx.policy = .ok clause ∧ c.toClause ctx.policy (some c.attr.entity) = .ok clause ∧
    ctx.resolver c.attr s.backend = (.ok path, resolved) ∧
    clause.replay ctx.builder path resolved = (node, (ctx.compile c s).2.backend) ∧
    (∀ b : PureBuilder ε ν, ctx.builder = b.builder σ → node = clause.fold b path) ∧
    clause.payloads.filterMap Payload.literal? = clause.literals ∧
    ∀ mapped : String → Bool, mapped c.attr.entity = true → ∀ s : Session Recording,
      ∃ path calls last node,
        (compile ⟨Recording.builder, Recording.resolver mapped, ctx.policy⟩ c s).1 = .ok node ∧
        s.backend.Grows (compile ⟨Recording.builder, Recording.resolver mapped, ctx.policy⟩ c s).2.backend
          (.expr (.resolve c.attr.qualifiedName) path :: (calls ++ [.node last node]))
          (.resolve c.attr.qualifiedName :: clause.payloads) [.expr path, .node node] := by
  obtain ⟨clause, path, resolved, hclause, hpath⟩ := ctx.clause_of_compile h
  obtain ⟨hnode, hbackend⟩ := ctx.compile_of_clause hclause hpath
  obtain rfl : node = (clause.replay ctx.builder path resolved).1 := Except.ok.inj (h.symm.trans hnode)
  refine ⟨clause, path, resolved, hclause, (c.toClause_own _).trans hclause, hpath, ?_, ?_, clause.literals_eq, ?_⟩
  · rw [hbackend]
    rfl
  · intro b hb
    rw [hb, Clause.replay_pure]
    rfl
  · exact fun mapped hmapped s => compile_recorded hclause hmapped s

/-- The values outside a range: each literal is built just before the comparison it stands in. -/
theorem compile_traverses_outside :
    let c : Condition :=
      ⟨⟨"room", "heat", .int, none, false⟩, .between true, .two (.int 18) (.int 24), ⟨true, true⟩⟩
    let ctx : CompileContext Recording ExprId NodeId :=
      ⟨Recording.builder, Recording.resolver fun _ => true, .standard⟩
    (ctx.compile c ⟨{}, none⟩).1 = .ok ⟨2⟩ ∧ ∃ clause, c.toClause = .ok clause ∧
      clause.payloads = [.literal (.int 18), .compare .lt, .literal (.int 24), .compare .gt, .or] ∧
      clause.replay Recording.builder ⟨0⟩ ⟨[.expr (.resolve "room.heat") ⟨0⟩], 1, 0⟩ =
        (⟨2⟩, (ctx.compile c ⟨{}, none⟩).2.backend) ∧
      (ctx.compile c ⟨{}, none⟩).2.backend.calls =
        [.expr (.resolve "room.heat") ⟨0⟩, .expr (.literal (.int 18)) ⟨1⟩, .node (.compare ⟨0⟩ .lt ⟨1⟩) ⟨0⟩,
          .expr (.literal (.int 24)) ⟨2⟩, .node (.compare ⟨0⟩ .gt ⟨2⟩) ⟨1⟩, .node (.or ⟨0⟩ ⟨1⟩) ⟨2⟩] := by
  intro c ctx
  have hcompiles : (ctx.compile c ⟨{}, none⟩).1 = .ok ⟨2⟩ := rfl
  obtain ⟨clause, path, resolved, hclause, -, hpath, hreplay, -⟩ := ctx.compile_traverses hcompiles
  cases hpath
  obtain rfl : _ = clause := Except.ok.inj hclause
  exact ⟨hcompiles, _, hclause, rfl, hreplay, rfl⟩

end CompileContext

end FieldQuery
