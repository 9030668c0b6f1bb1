import QueryAssembly.Reading.Error
import QueryAssembly.Spec.Aggregate
import QueryAssembly.Spec.Relevance
import QueryAssembly.Spec.Simple
import QueryAssembly.Text.Blank

/-!
# Validation

Assembly trusts its input; validation is the pass that a caller runs before it on data from
outside.  The checks of a specification run in the order in which its parts are declared, and the
first one that fails is the answer.
-/

namespace QueryAssembly

/-- What is wrong with a specification. -/
inductive SpecError where
  /-- A name or text is blank. -/
  | missingField (name : String)
  /-- No group of documents is asked for. -/
  | noBuckets
  /-- No document of a group is asked for. -/
  | noSample
  /-- A text is no name of the kind asked for. -/
  | badName (error : NameError)
  /-- The specification cannot be read. -/
  | unreadable (error : ReadError)

namespace SpecError

/-- The wording of an error. -/
def message : SpecError → String
  | .missingField name => "missing field: " ++ name
  | .noBuckets => "invalid specification: aggregation bucket count must be positive"
  | .noSample => "invalid specification: top hit size must be positive"
  | .badName error => error.message
  | .unreadable error => "serialization error: " ++ error.message

end SpecError

/-- The outcome of a check. -/
abbrev Check := Except SpecError Unit

namespace Check

/-- A text that must not be blank. -/
def present (name text : String) : Check :=
  if Text.isBlank text then .error (.missingField name) else .ok ()

/-- A count that must not be zero. -/
def positive (error : SpecError) (count : UInt64) : Check :=
  if count = 0 then .error error else .ok ()

/-- Every item of a list passes a check; the first that fails is the answer. -/
def each {α : Type} (check : α → Check) : List α → Check
  | [] => .ok ()
  | item :: rest => do
    check item
    each check rest

/-- Every item of a section passes a check; an absent section has none. -/
def eachIn {α : Type} (check : α → Check) (items : Option (List α)) : Check :=
  each check (items.getD [])

end Check

/-- A field constraint names its field. -/
def FieldConstraint.validate (constraint : FieldConstraint) : Check :=
  Check.present "field" constraint.field

/-- A nested constraint names its path and its field. -/
def NestedConstraint.validate (constraint : NestedConstraint) : Check := do
  Check.present "path" constraint.path
  Check.present "key" constraint.key

/-- A sort key names its field and, when it is marked, its path. -/
def SortKey.validate (key : SortKey) : Check := do
  Check.present "field" key.field
  match key.nested with
  | none => .ok ()
  | some marker => Check.present "nested.path" marker.path

/-- A grouping names its field and asks for a group. -/
def BucketSpec.validate (spec : BucketSpec) : Check := do
  Check.present "aggs.field" spec.field
  Check.positive .noBuckets spec.size

/-- A sample names its field and asks for a document. -/
def SampleSpec.validate (spec : SampleSpec) : Check := do
  Check.present "top_hit.field" spec.field
  Check.positive .noSample spec.size

/-- Every part of a simple specification passes its checks. -/
def SimpleSpec.validate (spec : SimpleSpec) : Check := do
  Check.eachIn FieldConstraint.validate spec.filters
  Check.eachIn FieldConstraint.validate spec.matching
  Check.eachIn NestedConstraint.validate spec.nestedFilters
  Check.eachIn NestedConstraint.validate spec.nestedMatching
  Check.eachIn SortKey.validate spec.sorts

/-- A relevance specification has a text to search for, and its parts pass their checks. -/
def RelevanceSpec.validate (spec : RelevanceSpec) : Check := do
  Check.present "query" spec.query
  Check.eachIn FieldConstraint.validate spec.filters
  Check.eachIn FieldConstraint.validate spec.matching
  Check.eachIn SortKey.validate spec.sorts

/-- Every part of an aggregate specification passes its checks. -/
def AggregateSpec.validate (spec : AggregateSpec) : Check := do
  spec.bucket.validate
  spec.sample.validate
  Check.eachIn FieldConstraint.validate spec.filters
  Check.eachIn FieldConstraint.validate spec.matching

end QueryAssembly
