import QueryAssembly.Assembly.Basic
import QueryAssembly.Spec.Aggregate

/-!
# Assembly of aggregate specifications

The constraints must hold, the documents that satisfy them are grouped and sampled, and no document
is asked for outside the groups.  Tuning plays no part.
-/

namespace QueryAssembly.AggregateSpec

open Assembly

/-- The clauses that must hold. -/
def clauses (spec : AggregateSpec) : List Clause :=
  filterClauses FieldConstraint.exactClause spec.filters spec.matching

/-- Assemble an aggregate specification. -/
def assembly (spec : AggregateSpec) : Assembly :=
  let must := spec.clauses
  let base := RequestDocument.ofQuery (.bool ⟨none, must⟩)
  let grouped := base.setAggregation BucketAggregation.standardName
    (.ofSpecs spec.bucket spec.sample)
  ⟨{ grouped with size := some 0 },
    [.aggregateAssembled spec.bucket.field spec.bucket.size must.length]⟩

/-- The document of an aggregate specification. -/
def document (spec : AggregateSpec) : RequestDocument := spec.assembly.document

end QueryAssembly.AggregateSpec
