import QueryAssembly.Assembly.Aggregate
import QueryAssembly.Assembly.Relevance
import QueryAssembly.Assembly.Simple
import QueryAssembly.Shape.Reader
import QueryAssembly.Shape.Writer
import QueryAssembly.Spec.Validation

/-!
# Specifications of any kind

The three kinds of specifications under one type, for callers that learn the kind at run time.
Reading, validating and assembling go to the kind at hand.
-/

namespace QueryAssembly

/-- The kinds of specifications. -/
inductive SpecKind where
  /-- A query without scoring. -/
  | simple
  /-- A scored full-text query. -/
  | relevance
  /-- A query for groups of documents. -/
  | aggregate
deriving DecidableEq

namespace SpecKind

/-- The name of a kind. -/
def name : SpecKind → String
  | .simple => "simple"
  | .relevance => "relevance"
  | .aggregate => "aggregate"

/-- The kind of a given name. -/
def ofName? (given : String) : Option SpecKind :=
  if given = "simple" then some .simple
  else if given = "relevance" then some .relevance
  else if given = "aggregate" then some .aggregate
  else none

@[simp] theorem ofName?_name (kind : SpecKind) : ofName? kind.name = some kind := by
  cases kind <;> rfl

end SpecKind

/-- A specification of any kind. -/
inductive Specification where
  /-- A query without scoring. -/
  | simple (spec : SimpleSpec)
  /-- A scored full-text query. -/
  | relevance (spec : RelevanceSpec)
  /-- A query for groups of documents. -/
  | aggregate (spec : AggregateSpec)
deriving BEq

namespace Specification

/-- Read a specification of a kind in a given way. -/
def readWith (read : {α : Type} → Shape α → Except ReadError α) :
    SpecKind → Except ReadError Specification
  | .simple => (read SimpleSpec.shape).map .simple
  | .relevance => (read RelevanceSpec.shape).map .relevance
  | .aggregate => (read AggregateSpec.shape).map .aggregate

/-- Read a specification of a kind from a text. -/
def readText (kind : SpecKind) (text : String) : Except ReadError Specification :=
  readWith (fun shape => shape.readText text) kind

/-- Read a specification of a kind from a tree. -/
def readTree (kind : SpecKind) (json : Json) : Except ReadError Specification :=
  readWith (fun shape => shape.readTree json) kind

/-- The JSON form of a specification. -/
def toJson : Specification → Json
  | .simple spec => SimpleSpec.shape.write spec
  | .relevance spec => RelevanceSpec.shape.write spec
  | .aggregate spec => AggregateSpec.shape.write spec

/-- Validate a specification. -/
def validate : Specification → Check
  | .simple spec => spec.validate
  | .relevance spec => spec.validate
  | .aggregate spec => spec.validate

/-- Assemble a specification. -/
def assembly (tuning : Tuning) : Specification → Assembly
  | .simple spec => spec.assembly
  | .relevance spec => spec.assembly tuning
  | .aggregate spec => spec.assembly

/-- The document of a specification. -/
def document (tuning : Tuning) (spec : Specification) : RequestDocument :=
  (spec.assembly tuning).document

end Specification

end QueryAssembly
