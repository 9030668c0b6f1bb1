import QueryAssembly.Assembly.Basic
import QueryAssembly.Spec.Relevance
import QueryAssembly.Tuning.Basic

/-!
# Assembly of relevance specifications

The searched text becomes two clauses that raise the score, one for the phrase and one for its
words, and the query is wrapped so that weak documents are dropped.  The constraints must hold; a
filter with a list is one exact value unless the tuning tells lists from scalars.
-/

namespace QueryAssembly.RelevanceSpec

open Assembly

/-- The clause that finds a phrase. -/
def phraseClause (query : String) (fields : List String) (tuning : Tuning) : Clause :=
  .multiMatch
    { query, kind := .phrase, fields, boost := some tuning.phraseBoost, fuzziness := none,
      prefixLength := none }

/-- The clause that finds words, with tolerance for misspelling. -/
def fuzzyClause (query : String) (fields : List String) (tuning : Tuning) : Clause :=
  .multiMatch
    { query, kind := .mostFields, fields, boost := none, fuzziness := some tuning.fuzziness,
      prefixLength := some tuning.prefixLength }

/-- The clause of a filter in a given mode. -/
def filterClause : FilterMode → FieldConstraint → Clause
  | .exactTerm => FieldConstraint.termClause
  | .listAware => FieldConstraint.exactClause

/-- The clauses that must hold. -/
def clauses (spec : RelevanceSpec) (mode : FilterMode) : List Clause :=
  filterClauses (filterClause mode) spec.filters spec.matching

/-- Assemble a relevance specification. -/
def assembly (spec : RelevanceSpec) (tuning : Tuning) : Assembly :=
  let must := spec.clauses tuning.filterMode
  let should :=
    [phraseClause spec.query spec.fields.phrase tuning,
      fuzzyClause spec.query spec.fields.fuzzy tuning]
  let scored := Query.functionScore (.bool ⟨some should, must⟩) tuning.minScore
  let base := RequestDocument.ofQuery scored
  let paged := (base.paginate spec.page).sortBy spec.sorts
  ⟨{ paged with raw := spec.raw.getD .empty },
    must.map .clauseRequired ++
      [.relevanceAssembled spec.fields.phrase.length spec.fields.fuzzy.length must.length]⟩

/-- The document of a relevance specification. -/
def document (spec : RelevanceSpec) (tuning : Tuning) : RequestDocument :=
  (spec.assembly tuning).document

end QueryAssembly.RelevanceSpec
