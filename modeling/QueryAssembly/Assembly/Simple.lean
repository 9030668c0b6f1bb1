import QueryAssembly.Assembly.Basic
import QueryAssembly.Spec.Simple

/-!
# Assembly of simple specifications

Every constraint becomes a clause that must hold, plain ones before nested ones.  Tuning plays no
part.
-/

namespace QueryAssembly.SimpleSpec

open Assembly

/-- The clauses that must hold. -/
def clauses (spec : SimpleSpec) : List Clause :=
  filterClauses FieldConstraint.exactClause spec.filters spec.matching ++
    clausesOf NestedConstraint.exactClause spec.nestedFilters ++
    clausesOf NestedConstraint.matchClause spec.nestedMatching

/-- Assemble a simple specification. -/
def assembly (spec : SimpleSpec) : Assembly :=
  let must := spec.clauses
  let base := RequestDocument.ofQuery (.bool ⟨none, must⟩)
  let paged := (base.paginate spec.page).sortBy spec.sorts
  ⟨{ paged with raw := spec.raw.getD .empty }, [.simpleAssembled must.length]⟩

/-- The document of a simple specification. -/
def document (spec : SimpleSpec) : RequestDocument := spec.assembly.document

end QueryAssembly.SimpleSpec
