import QueryAssembly.Proofs.Assembly.Relevance
import QueryAssembly.Proofs.Validation.Checks

/-!
# Searched fields are not validated

Validation asks for a name wherever a constraint or a sort key has one, but it never looks at the
fields in which a relevance query searches its text.  These go into the request as they are, so a
blank one among them reaches the engine.
-/

namespace QueryAssembly

/-- No clause that raises the score searches a field with a blank name. -/
def RequestDocument.SearchesNamed (document : RequestDocument) : Prop :=
  ∀ fields ∈ document.searched, ∀ field ∈ fields, Text.isBlank field = false

namespace RelevanceSpec

theorem searchesNamed_document_iff (spec : RelevanceSpec) (tuning : Tuning) :
    (spec.document tuning).SearchesNamed ↔
      ∀ field ∈ spec.fields.phrase ++ spec.fields.fuzzy, Text.isBlank field = false := by
  rw [RequestDocument.SearchesNamed, searched_document, List.forall_mem_append,
    List.forall_mem_cons, List.forall_mem_singleton]

/-- The verdict on a specification is the same whatever fields it searches, and the request searches
just those: it names them all exactly when the specification does. -/
theorem validate_fields (spec : RelevanceSpec) (fields : SearchFields) (tuning : Tuning) :
    { spec with fields }.validate = spec.validate ∧
      ({ spec with fields }.document tuning).searched = [fields.phrase, fields.fuzzy] ∧
      (({ spec with fields }.document tuning).SearchesNamed ↔
        ∀ field ∈ fields.phrase ++ fields.fuzzy, Text.isBlank field = false) :=
  ⟨rfl, searched_document _ tuning, searchesNamed_document_iff _ tuning⟩

/-- A specification can pass validation although its request searches a field with a blank name. -/
theorem not_forall_searchesNamed :
    ¬ ∀ (spec : RelevanceSpec) (tuning : Tuning), spec.validate = .ok () →
      (spec.document tuning).SearchesNamed := by
  intro named
  have valid : { empty with query := "red shoes", fields := ⟨[" "], []⟩ }.validate = .ok () := rfl
  have searched := (searchesNamed_document_iff _ _).mp (named _ .standard valid)
  exact absurd (searched " " List.mem_cons_self) (by decide)

end RelevanceSpec

end QueryAssembly
