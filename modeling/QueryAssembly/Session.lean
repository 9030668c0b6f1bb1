import QueryAssembly.Spec.Building
import QueryAssembly.Specification

/-!
# Sessions

A session keeps one specification of each kind and builds on them together: a step reaches every
specification that has the section it concerns.  A step that fails leaves the session as it was.
-/

namespace QueryAssembly

/-- One specification of each kind. -/
structure Session where
  /-- The simple specification. -/
  simple : SimpleSpec
  /-- The relevance specification. -/
  relevance : RelevanceSpec
  /-- The aggregate specification. -/
  aggregate : AggregateSpec

namespace Session

/-- The session at its beginning. -/
def initial : Session where
  simple := .empty
  relevance := .empty
  aggregate := ⟨⟨"a", 1, .ascending⟩, ⟨"t", .ascending, 1⟩, none, none⟩

/-- Put something into every specification. -/
def add (session : Session) (addition : Addition) : Session where
  simple := session.simple.add addition
  relevance := session.relevance.add addition
  aggregate := session.aggregate.add addition

/-- Take a step. -/
def step (session : Session) (step : BuildStep) : Except NameError Session :=
  step.addition.map session.add

/-- The specification of a kind. -/
def specification (session : Session) : SpecKind → Specification
  | .simple => .simple session.simple
  | .relevance => .relevance session.relevance
  | .aggregate => .aggregate session.aggregate

end Session

end QueryAssembly
