/-
The events of compilation, for callers that listen.
-/
import FieldQuery.Predicate.Error

namespace FieldQuery

/-- What a listener hears of the compilation of one condition. -/
inductive TraceEvent where
  | start (kind : PredicateKind) (entity column : String)
  | finish (kind : PredicateKind) (strategy : String)
  | error (kind : PredicateKind) (errorClass : ErrorClass)
deriving DecidableEq, Inhabited

/-- The state of a run of compilations: that of the backend, and the events heard so far if someone
listens. -/
structure Session (σ : Type) where
  backend : σ
  trace : Option (List TraceEvent) := none

namespace Session

variable {σ : Type}

/-- Notes an event if someone listens. -/
def record (event : TraceEvent) (s : Session σ) : Session σ :=
  { s with trace := s.trace.map (· ++ [event]) }

end Session

end FieldQuery
