import QueryAssembly.Spec.Constraint
import QueryAssembly.Spec.Sort

/-!
# Relevance specifications

A relevance specification searches a text in two sets of fields, once as a phrase and once word by
word with tolerance for misspelling, among the documents that satisfy its constraints.
-/

namespace QueryAssembly

/-- The fields in which a text is searched; a name may carry a weight. -/
structure SearchFields where
  /-- The fields searched for the phrase. -/
  phrase : List String
  /-- The fields searched for the single words. -/
  fuzzy : List String
deriving DecidableEq

namespace SearchFields

/-- How search fields are written. -/
def shape : Shape SearchFields :=
  .record "FieldSet"
    (.cons "phrase_fields" .required (.list .text) <|
      .cons "fuzzy_fields" .required (.list .text) .nil)
    ⟨fun (phrase, fuzzy, ()) => ⟨phrase, fuzzy⟩,
      fun fields => (fields.phrase, fields.fuzzy, ()),
      fun _ => rfl, fun _ => rfl⟩

end SearchFields

/-- A scored full-text query. -/
structure RelevanceSpec where
  /-- The text searched for. -/
  query : String
  /-- The fields in which it is searched. -/
  fields : SearchFields
  /-- Constraints that the fields satisfy exactly. -/
  filters : Option (List FieldConstraint)
  /-- Constraints that the analysed text of the fields satisfies. -/
  matching : Option (List FieldConstraint)
  /-- The sort keys, primary first. -/
  sorts : Option (List SortKey)
  /-- The page of the result. -/
  page : Option Page
  /-- Extra root keys. -/
  raw : Option RawOptions
deriving BEq

namespace RelevanceSpec

/-- The specification that searches nothing in no field. -/
def empty : RelevanceSpec := ⟨"", ⟨[], []⟩, none, none, none, none, none⟩

/-- How a relevance specification is written. -/
def shape : Shape RelevanceSpec :=
  .record "RelevanceQuerySpec"
    (.cons "query" .required .text <|
      .cons "fields" .required SearchFields.shape <|
      .cons "filters" (.keyed none) (.nullable (.list FieldConstraint.shape)) <|
      .cons "matches" (.keyed none) (.nullable (.list FieldConstraint.shape)) <|
      .cons "sorts" (.keyed none) (.nullable (.list SortKey.shape)) <|
      .cons "pagination" (.keyed none) (.nullable Page.shape) <|
      .cons "raw_options" (.keyed none) (.nullable .rawOptions) .nil)
    ⟨fun (query, fields, filters, matching, sorts, page, raw, ()) =>
        ⟨query, fields, filters, matching, sorts, page, raw⟩,
      fun spec => (spec.query, spec.fields, spec.filters, spec.matching, spec.sorts, spec.page,
        spec.raw, ()),
      fun _ => rfl, fun _ => rfl⟩

end RelevanceSpec

end QueryAssembly
