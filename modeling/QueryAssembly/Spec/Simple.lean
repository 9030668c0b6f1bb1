import QueryAssembly.Spec.Constraint
import QueryAssembly.Spec.Sort

/-!
# Simple specifications

A simple specification asks for the documents that satisfy every constraint in it.  A section that
is absent differs from one that is empty: an empty list of sort keys is still written.
-/

namespace QueryAssembly

/-- A query without scoring. -/
structure SimpleSpec where
  /-- Constraints that the fields satisfy exactly. -/
  filters : Option (List FieldConstraint)
  /-- Constraints that the analysed text of the fields satisfies. -/
  matching : Option (List FieldConstraint)
  /-- Exact constraints on nested objects. -/
  nestedFilters : Option (List NestedConstraint)
  /-- Constraints on the analysed text of nested objects. -/
  nestedMatching : Option (List NestedConstraint)
  /-- The sort keys, primary first. -/
  sorts : Option (List SortKey)
  /-- The page of the result. -/
  page : Option Page
  /-- Extra root keys. -/
  raw : Option RawOptions
deriving BEq

namespace SimpleSpec

/-- The specification without any section. -/
def empty : SimpleSpec := ⟨none, none, none, none, none, none, none⟩

/-- How a simple specification is written. -/
def shape : Shape SimpleSpec :=
  .record "SimpleQuerySpec"
    (.cons "filters" (.keyed none) (.nullable (.list FieldConstraint.shape)) <|
      .cons "matches" (.keyed none) (.nullable (.list FieldConstraint.shape)) <|
      .cons "nested_filters" (.keyed none) (.nullable (.list NestedConstraint.shape)) <|
      .cons "nested_matches" (.keyed none) (.nullable (.list NestedConstraint.shape)) <|
      .cons "sorts" (.keyed none) (.nullable (.list SortKey.shape)) <|
      .cons "pagination" (.keyed none) (.nullable Page.shape) <|
      .cons "raw_options" (.keyed none) (.nullable .rawOptions) .nil)
    ⟨fun (filters, matching, nestedFilters, nestedMatching, sorts, page, raw, ()) =>
        ⟨filters, matching, nestedFilters, nestedMatching, sorts, page, raw⟩,
      fun spec => (spec.filters, spec.matching, spec.nestedFilters, spec.nestedMatching,
        spec.sorts, spec.page, spec.raw, ()),
      fun _ => rfl, fun _ => rfl⟩

end SimpleSpec

end QueryAssembly
