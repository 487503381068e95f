/-
Flows: what a stream gives to whoever pulls it, element by element, with the events that pulling
brings about. The rest of a flow comes into being only when it is pulled.
-/

namespace FieldQuery

/-- The answers of a stream to pulls: the end, an element, or an event on the way to the next one. -/
inductive Flow (ε α : Type) where
  | done
  | event (e : ε) (rest : Unit → Flow ε α)
  | item (a : α) (rest : Unit → Flow ε α)

namespace Flow

variable {ε α β : Type}

/-- The flow of the elements of a list. -/
def ofList : List α → Flow ε α
  | [] => done
  | a :: rest => item a fun _ => ofList rest

/-- The flow of `count` elements made from their numbers, the first one being `first`. -/
def generate (make : Nat → α) (first : Nat) : Nat → Flow ε α
  | 0 => done
  | count + 1 => item (make first) fun _ => generate make (first + 1) count

/-! ## Pulling everything -/

/-- Pulls a flow to its end, onto elements and events already there, last ones first. -/
def drainOnto (items : List α) (events : List ε) : Flow ε α → List α × List ε
  | done => (items.reverse, events.reverse)
  | event e rest => drainOnto items (e :: events) (rest ())
  | item a rest => drainOnto (a :: items) events (rest ())

/-- The elements of a flow and the events of pulling all of them and the end. -/
def drain (f : Flow ε α) : List α × List ε := drainOnto [] [] f

/-! ## Selection -/

/-- The elements that pass a test. -/
def filter (keep : α → Bool) : Flow ε α → Flow ε α
  | done => done
  | event e rest => event e fun u => filter keep (rest u)
  | item a rest => if keep a then item a fun u => filter keep (rest u) else filter keep (rest ())

/-- The elements before the first that fails a test. That one is pulled, nothing after it. -/
def takeWhile (keep : α → Bool) : Flow ε α → Flow ε α
  | done => done
  | event e rest => event e fun u => takeWhile keep (rest u)
  | item a rest => if keep a then item a fun u => takeWhile keep (rest u) else done

/-- The elements from the first that fails a test. -/
def dropWhile (drop : α → Bool) : Flow ε α → Flow ε α
  | done => done
  | event e rest => event e fun u => dropWhile drop (rest u)
  | item a rest => if drop a then dropWhile drop (rest ()) else item a rest

/-- The first elements; nothing is pulled once there are enough. -/
def take : Nat → Flow ε α → Flow ε α
  | 0, _ => done
  | _ + 1, done => done
  | n + 1, event e rest => event e fun u => take (n + 1) (rest u)
  | n + 1, item a rest => item a fun u => if n = 0 then done else take n (rest u)

/-- The elements after the first ones. -/
def drop : Nat → Flow ε α → Flow ε α
  | 0, f => f
  | _ + 1, done => done
  | n + 1, event e rest => event e fun u => drop (n + 1) (rest u)
  | n + 1, item _ rest => drop n (rest ())

/-- The first occurrence of each element; `seen` holds those already passed on. -/
def distinct (same : α → α → Bool) (seen : List α) : Flow ε α → Flow ε α
  | done => done
  | event e rest => event e fun u => distinct same seen (rest u)
  | item a rest =>
    if seen.any (same · a) then distinct same seen (rest ())
    else item a fun u => distinct same (a :: seen) (rest u)

/-! ## Effects and mapping -/

/-- The same elements, with an event just before each. -/
def peek (observe : α → ε) : Flow ε α → Flow ε α
  | done => done
  | event e rest => event e fun u => peek observe (rest u)
  | item a rest => event (observe a) fun _ => item a fun u => peek observe (rest u)

/-- The images of the elements. -/
def map (f : α → β) : Flow ε α → Flow ε β
  | done => done
  | event e rest => event e fun u => map f (rest u)
  | item a rest => item (f a) fun u => map f (rest u)

/-- The elements of a list, and then a flow that is pulled only when they are used up. -/
def prepend (items : List α) (next : Unit → Flow ε α) : Flow ε α :=
  match items with
  | [] => next ()
  | a :: rest => item a fun _ => prepend rest next

/-- The images of the elements, one list after the other. -/
def flatMap (f : α → List β) : Flow ε α → Flow ε β
  | done => done
  | event e rest => event e fun u => flatMap f (rest u)
  | item a rest => prepend (f a) fun u => flatMap f (rest u)

end Flow

end FieldQuery
