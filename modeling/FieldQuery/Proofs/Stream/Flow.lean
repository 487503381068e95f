/-
What a flow gives when it is pulled to its end: its elements and its events, each as a list. A stage does
to the elements what the function on lists does. Every stage but a cut hands on all events of the flow it
pulls from, because it is itself pulled to the end; a cut hands on a first part of them.
-/
import FieldQuery.Stream.Flow
import Mathlib.Data.List.Basic

namespace FieldQuery

/-- The first occurrence of each element: what comes after an element loses its repetitions. -/
def Stream.firstOccurrences {α : Type} (same : α → α → Bool) : List α → List α
  | [] => []
  | a :: rest => a :: (firstOccurrences same rest).filter fun b => !same a b

namespace Flow

variable {ε α β : Type}

/-! ## Pulling everything -/

/-- The elements of a flow. -/
def items : Flow ε α → List α
  | done => []
  | event _ rest => items (rest ())
  | item a rest => a :: items (rest ())

/-- The events of pulling all elements and the end. -/
def events : Flow ε α → List ε
  | done => []
  | event e rest => e :: events (rest ())
  | item _ rest => events (rest ())

theorem drainOnto_eq (f : Flow ε α) : ∀ (before : List α) (happened : List ε),
    drainOnto before happened f = (before.reverse ++ f.items, happened.reverse ++ f.events) := by
  induction f with
  | done => intro before happened; simp [drainOnto, items, events]
  | event e rest ih => intro before happened; simp [drainOnto, items, events, ih]
  | item a rest ih => intro before happened; simp [drainOnto, items, events, ih]

theorem drain_eq (f : Flow ε α) : f.drain = (f.items, f.events) := by
  unfold drain
  rw [drainOnto_eq]
  rfl

theorem items_ofList (as : List α) : (ofList as : Flow ε α).items = as := by
  induction as with
  | nil => rfl
  | cons a rest ih => simp [ofList, items, ih]

theorem events_ofList (as : List α) : (ofList as : Flow ε α).events = [] := by
  induction as with
  | nil => rfl
  | cons a rest ih => simp [ofList, events, ih]

/-! ## Elements after a stage -/

theorem items_filter (keep : α → Bool) (f : Flow ε α) : (f.filter keep).items = f.items.filter keep := by
  induction f with
  | done => rfl
  | event e rest ih => simp [filter, items, ih]
  | item a rest ih => by_cases h : keep a <;> simp [filter, items, h, ih]

theorem items_takeWhile (keep : α → Bool) (f : Flow ε α) :
    (f.takeWhile keep).items = f.items.takeWhile keep := by
  induction f with
  | done => rfl
  | event e rest ih => simp [takeWhile, items, ih]
  | item a rest ih => by_cases h : keep a <;> simp [takeWhile, items, h, ih]

theorem items_dropWhile (drop : α → Bool) (f : Flow ε α) :
    (f.dropWhile drop).items = f.items.dropWhile drop := by
  induction f with
  | done => rfl
  | event e rest ih => simp [dropWhile, items, ih]
  | item a rest ih => by_cases h : drop a <;> simp [dropWhile, items, h, ih]

theorem items_take (f : Flow ε α) : ∀ n, (f.take n).items = f.items.take n := by
  induction f with
  | done => rintro (_ | n) <;> simp [take, items]
  | event e rest ih => rintro (_ | n) <;> simp [take, items, ih]
  | item a rest ih =>
    rintro (_ | _ | n)
    · simp [take, items]
    · simp [take, items]
    · simp [take, items, ih]

theorem items_drop (f : Flow ε α) : ∀ n, (f.drop n).items = f.items.drop n := by
  induction f with
  | done => rintro (_ | n) <;> simp [drop, items]
  | event e rest ih => rintro (_ | n) <;> simp [drop, items, ih]
  | item a rest ih => rintro (_ | n) <;> simp [drop, items, ih]

theorem items_peek (observe : α → ε) (f : Flow ε α) : (f.peek observe).items = f.items := by
  induction f with
  | done => rfl
  | event e rest ih => simp [peek, items, ih]
  | item a rest ih => simp [peek, items, ih]

theorem items_map (g : α → β) (f : Flow ε α) : (f.map g).items = f.items.map g := by
  induction f with
  | done => rfl
  | event e rest ih => simp [map, items, ih]
  | item a rest ih => simp [map, items, ih]

theorem items_prepend (as : List α) (next : Unit → Flow ε α) :
    (prepend as next).items = as ++ (next ()).items := by
  induction as with
  | nil => rfl
  | cons a rest ih => simp [prepend, items, ih]

theorem items_flatMap (g : α → List β) (f : Flow ε α) : (f.flatMap g).items = f.items.flatMap g := by
  induction f with
  | done => rfl
  | event e rest ih => simp [flatMap, items, ih]
  | item a rest ih => simp [flatMap, items, items_prepend, ih]

/-- The elements already passed on stand for all that came before: an element like one of those dropped is
like the one it was dropped for. -/
theorem items_distinct {same : α → α → Bool}
    (htrans : ∀ a b c, same a b = true → same b c = true → same a c = true) (f : Flow ε α) :
    ∀ seen, (f.distinct same seen).items =
      (Stream.firstOccurrences same f.items).filter fun b => !seen.any (same · b) := by
  induction f with
  | done => intro seen; rfl
  | event e rest ih => intro seen; simp only [distinct, items, ih]
  | item a rest ih =>
    intro seen
    by_cases h : seen.any (same · a) = true
    · have hlike : ∀ b, same a b = true → seen.any (same · b) = true := by
        intro b hab
        obtain ⟨s, hs, hsa⟩ := List.any_eq_true.1 h
        exact List.any_eq_true.2 ⟨s, hs, htrans s a b hsa hab⟩
      simp only [distinct, h, if_true, items, ih, Stream.firstOccurrences, Bool.not_true, List.filter_cons,
        Bool.false_eq_true, if_false, List.filter_filter]
      apply List.filter_congr
      intro b _
      cases hab : same a b with
      | false => simp
      | true => simp [hlike b hab]
    · have hkept : (distinct same seen (item a rest)).items = a :: (distinct same (a :: seen) (rest ())).items := by
        simp [distinct, h, items]
      rw [hkept, ih]
      simp only [items, Stream.firstOccurrences, List.filter_cons, h, Bool.not_false, if_true, List.filter_filter,
        List.any_cons, Bool.not_or, Bool.and_comm]

theorem items_distinct_nil {same : α → α → Bool}
    (htrans : ∀ a b c, same a b = true → same b c = true → same a c = true) (f : Flow ε α) :
    (f.distinct same []).items = Stream.firstOccurrences same f.items := by
  rw [items_distinct htrans]
  simp

/-! ## Events after a stage -/

theorem events_filter (keep : α → Bool) (f : Flow ε α) : (f.filter keep).events = f.events := by
  induction f with
  | done => rfl
  | event e rest ih => simp [filter, events, ih]
  | item a rest ih => by_cases h : keep a <;> simp [filter, events, h, ih]

theorem events_dropWhile (drop : α → Bool) (f : Flow ε α) : (f.dropWhile drop).events = f.events := by
  induction f with
  | done => rfl
  | event e rest ih => simp [dropWhile, events, ih]
  | item a rest ih => by_cases h : drop a <;> simp [dropWhile, events, h, ih]

/-- Also when there are fewer elements than are dropped. -/
theorem events_drop (f : Flow ε α) : ∀ n, (f.drop n).events = f.events := by
  induction f with
  | done => rintro (_ | n) <;> rfl
  | event e rest ih => rintro (_ | n) <;> simp [drop, events, ih]
  | item a rest ih => rintro (_ | n) <;> simp [drop, events, ih]

theorem events_distinct (same : α → α → Bool) (f : Flow ε α) :
    ∀ seen, (f.distinct same seen).events = f.events := by
  induction f with
  | done => intro seen; rfl
  | event e rest ih => intro seen; simp [distinct, events, ih]
  | item a rest ih =>
    intro seen
    by_cases h : seen.any (same · a) = true
    · simp [distinct, h, events, ih]
    · simp [distinct, h, events, ih]

theorem events_map (g : α → β) (f : Flow ε α) : (f.map g).events = f.events := by
  induction f with
  | done => rfl
  | event e rest ih => simp [map, events, ih]
  | item a rest ih => simp [map, events, ih]

theorem events_prepend (as : List α) (next : Unit → Flow ε α) :
    (prepend as next).events = (next ()).events := by
  induction as with
  | nil => rfl
  | cons a rest ih => simp [prepend, events, ih]

theorem events_flatMap (g : α → List β) (f : Flow ε α) : (f.flatMap g).events = f.events := by
  induction f with
  | done => rfl
  | event e rest ih => simp [flatMap, events, ih]
  | item a rest ih => simp [flatMap, events, events_prepend, ih]

theorem events_takeWhile (keep : α → Bool) (f : Flow ε α) : (f.takeWhile keep).events <+: f.events := by
  induction f with
  | done => exact List.prefix_refl _
  | event e rest ih => exact List.prefix_cons_inj e |>.2 (ih ())
  | item a rest ih =>
    by_cases h : keep a
    · simp only [takeWhile, h, if_true, events]
      exact ih ()
    · simp [takeWhile, h, events]

theorem events_take (f : Flow ε α) : ∀ n, (f.take n).events <+: f.events := by
  induction f with
  | done => rintro (_ | n) <;> exact List.prefix_refl _
  | event e rest ih =>
    rintro (_ | n)
    · exact List.nil_prefix
    · exact List.prefix_cons_inj e |>.2 (ih () (n + 1))
  | item a rest ih =>
    rintro (_ | _ | n)
    · exact List.nil_prefix
    · exact List.nil_prefix
    · exact ih () (n + 1)

/-! ## Observers -/

/-- An observer that is counted adds its view of each element of a list. -/
theorem events_peek_ofList (observe : α → ε) (as : List α) :
    ((ofList as).peek observe).events = as.map observe := by
  induction as with
  | nil => rfl
  | cons a rest ih => simp [ofList, peek, events, ih]

/-- An observer that is not counted adds nothing to what is. -/
theorem filter_events_peek {counted : ε → Bool} {observe : α → ε} (h : ∀ a, counted (observe a) = false)
    (f : Flow ε α) : (f.peek observe).events.filter counted = f.events.filter counted := by
  induction f with
  | done => rfl
  | event e rest ih => simp only [peek, events, List.filter_cons, ih]
  | item a rest ih => simp [peek, events, h, ih]

end Flow

end FieldQuery
