/-
What a pipeline computes. Each step has a meaning on lists, and running a pipeline over a list gives what
the meanings of its steps give one after the other, however its stages pull from each other.
-/
import FieldQuery.Proofs.Schema.FieldOrder
import FieldQuery.Proofs.Stream.Sort
import FieldQuery.Proofs.Stream.Steps

namespace FieldQuery

variable {ε α β : Type}

/-! ## Meanings -/

/-- What a step makes of a list of elements. -/
def Step.Gives : Step ε α β → List α → List β → Prop
  | filter keep, as, bs => bs = as.filter keep
  | filterBy p, as, bs => bs = as.filter fun a => p.test a = .ok true
  | takeWhile keep, as, bs => bs = as.takeWhile keep
  | dropWhile drop, as, bs => bs = as.dropWhile drop
  | limit size, as, bs => bs = as.take size.toInt.toNat
  | skip size, as, bs => bs = as.drop size.toInt.toNat
  | peek _, as, bs => bs = as
  | distinct same, as, bs => bs = Stream.firstOccurrences same as
  | sorted natural, as, bs => Stream.SortsStably natural bs as
  | sortedBy order, as, bs => Stream.SortsStably order bs as
  | sortedByField o, as, bs => Stream.SortsStably o.compare bs as
  | map _ f, as, bs => bs = as.map f
  | flatMap _ f, as, bs => bs = as.flatMap f

/-- What steps make of a list, one after the other. -/
def Steps.Gives {ε : Type} : {α β : Type} → Steps ε α β → List α → List β → Prop
  | _, _, nil, as, bs => bs = as
  | _, _, cons step rest, as, cs => ∃ bs, step.Gives as bs ∧ rest.Gives bs cs

/-- The functions of a step are what its kind asks for: elements are told apart by an equivalence, and
sorted by a total preorder. -/
def Step.Lawful : Step ε α β → Prop
  | distinct same => Equivalence fun a b => same a b = true
  | sorted natural => Std.TransCmp natural
  | sortedBy order => Std.TransCmp order
  | sortedByField o => Std.TransCmp o.compare
  | _ => True

/-! ## Stages -/

theorem Feed.items_sort_iff {order : α → α → Ordering} [Std.TransCmp order] (feed : Feed ε α) (bs : List α) :
    (feed.sort order).flow.items = bs ↔ Stream.SortsStably order bs feed.flow.items := by
  rw [sort_eq, Flow.items_ofList]
  exact Stream.stableSort_eq_iff

theorem Feed.items_onFlow_iff {g : Flow ε α → Flow ε β} {feed : Feed ε α} {image bs : List β}
    (h : (g feed.flow).items = image) : (feed.onFlow g).flow.items = bs ↔ bs = image := by
  subst h
  exact eq_comm

/-- The elements after a stage are what the step makes of the elements before it. -/
theorem Step.items_stage_iff {step : Step ε α β} (h : step.Lawful) (feed : Feed ε α) (bs : List β) :
    (step.stage feed).flow.items = bs ↔ step.Gives feed.flow.items bs := by
  cases step with
  | filter keep => exact Feed.items_onFlow_iff (Flow.items_filter keep feed.flow)
  | filterBy p =>
    have hkept : (feed.flow.filter (passes p)).items = feed.flow.items.filter fun a => p.test a = .ok true := by
      rw [Flow.items_filter, passes_eq]
    exact Feed.items_onFlow_iff hkept
  | takeWhile keep => exact Feed.items_onFlow_iff (Flow.items_takeWhile keep feed.flow)
  | dropWhile drop => exact Feed.items_onFlow_iff (Flow.items_dropWhile drop feed.flow)
  | limit size => exact Feed.items_onFlow_iff (Flow.items_take feed.flow _)
  | skip size => exact Feed.items_onFlow_iff (Flow.items_drop feed.flow _)
  | peek observe => exact Feed.items_onFlow_iff (Flow.items_peek observe feed.flow)
  | distinct same =>
    have htrans : ∀ a b c, same a b = true → same b c = true → same a c = true := fun _ _ _ => h.trans
    exact Feed.items_onFlow_iff (Flow.items_distinct_nil htrans feed.flow)
  | sorted natural =>
    have : Std.TransCmp natural := h
    exact feed.items_sort_iff bs
  | sortedBy order =>
    have : Std.TransCmp order := h
    exact feed.items_sort_iff bs
  | sortedByField o =>
    have : Std.TransCmp o.compare := h
    exact feed.items_sort_iff bs
  | map target f => exact Feed.items_onFlow_iff (Flow.items_map f feed.flow)
  | flatMap target f => exact Feed.items_onFlow_iff (Flow.items_flatMap f feed.flow)

theorem Steps.items_stage_iff {steps : Steps ε α β} (h : steps.All Step.Lawful) (feed : Feed ε α) (bs : List β) :
    (steps.stage feed).flow.items = bs ↔ steps.Gives feed.flow.items bs := by
  induction steps with
  | nil => exact eq_comm
  | cons step rest ih =>
    obtain ⟨hstep, hrest⟩ := h
    show (rest.stage (step.stage feed)).flow.items = bs ↔ _
    rw [ih hrest]
    -- the list in between can only be the elements after the first stage
    constructor
    · intro hgives
      exact ⟨_, (step.items_stage_iff hstep feed _).1 rfl, hgives⟩
    · rintro ⟨mid, hmid, hgives⟩
      rw [← (step.items_stage_iff hstep feed mid).2 hmid] at hgives
      exact hgives

/-! ## Pipelines -/

namespace Pipeline

/-- Running a pipeline over a list gives what its steps make of the list one after the other, and nothing
else is what they make of it. -/
theorem execute_eq_iff_gives {source : StreamShape} {steps : Steps ε α β} {p : Pipeline ε α β}
    (hbuilt : ofSteps source steps = .ok p) (hlawful : steps.All Step.Lawful) (as : List α) (bs : List β) :
    (p.execute as).1 = bs ↔ steps.Gives as bs := by
  have hitems := steps.items_stage_iff hlawful ⟨[], .ofList as⟩ bs
  rw [Flow.items_ofList] at hitems
  rw [execute_of_ofSteps hbuilt]
  exact hitems

/-- Players by rank, those without a rank first and passed over: each of the best twice, and of the first
one only once. -/
theorem execute_eq_iff_gives_ranked :
    let rank : Binding (Nat × Option Int64) Int64 := Binding.make "player" "rank" (·.2)
    let order : FieldOrder (Nat × Option Int64) := rank.order.reverse.nullsFirst
    let steps : Steps Nat (Nat × Option Int64) Nat :=
      .cons (.peek Prod.fst) (.cons (.sortedByField order) (.cons (.distinct fun a b => a = b)
        (.cons (.dropWhile (·.2.isNone)) (.cons (.flatMap .elements fun r => [r.1, r.1]) (.cons (.skip 1)
          (.cons (.limit 4) .nil))))))
    ∃ p : Pipeline Nat (Nat × Option Int64) Nat, ofSteps .elements steps = .ok p ∧ steps.All Step.Lawful ∧
      steps.Gives [(1, some 5), (2, none), (3, some 9), (4, some 5), (1, some 5), (6, some 9)] [3, 6, 6, 1] := by
  intro rank order steps
  have hkind : order.field.OneKind := by
    refine ⟨.int, ?_⟩
    rintro ⟨name, _ | level⟩ hnull
    · cases hnull
    · rfl
  have hsame : Equivalence fun a b : Nat × Option Int64 => decide (a = b) = true := by
    refine ⟨?_, ?_, ?_⟩ <;> simp +contextual
  have hlawful : steps.All Step.Lawful :=
    ⟨trivial, order.transCmp_compare hkind, hsame, trivial, trivial, trivial, trivial, trivial⟩
  have hbuilt : ofSteps .elements steps = .ok _ := rfl
  refine ⟨_, hbuilt, hlawful, ?_⟩
  exact (execute_eq_iff_gives hbuilt hlawful _ _).1 (by decide +kernel)

end Pipeline

end FieldQuery
