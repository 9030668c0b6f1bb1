import QueryAssembly.Spec.Constraint

/-!
# Aggregate specifications

An aggregate specification groups the documents that satisfy its constraints by the values of one
field and samples the first documents of each group.
-/

namespace QueryAssembly

/-- How documents are grouped. -/
structure BucketSpec where
  /-- The field whose values make the groups. -/
  field : String
  /-- The largest number of groups. -/
  size : UInt64
  /-- The order of the groups by value. -/
  order : SortOrder
deriving DecidableEq

namespace BucketSpec

/-- How a grouping is written. -/
def shape : Shape BucketSpec :=
  .record "AggregationSpec"
    (.cons "field" .required .text <|
      .cons "size" .required .count <|
      .cons "order" .required .order .nil)
    ⟨fun (field, size, order, ()) => ⟨field, size, order⟩,
      fun spec => (spec.field, spec.size, spec.order, ()),
      fun _ => rfl, fun _ => rfl⟩

end BucketSpec

/-- Which documents of a group are shown. -/
structure SampleSpec where
  /-- The field by which the documents of a group are sorted. -/
  field : String
  /-- The direction of that sort. -/
  order : SortOrder
  /-- The number of documents shown. -/
  size : UInt64
deriving DecidableEq

namespace SampleSpec

/-- How a sample is written. -/
def shape : Shape SampleSpec :=
  .record "TopHitSpec"
    (.cons "field" .required .text <|
      .cons "order" .required .order <|
      .cons "size" .required .count .nil)
    ⟨fun (field, order, size, ()) => ⟨field, order, size⟩,
      fun spec => (spec.field, spec.order, spec.size, ()),
      fun _ => rfl, fun _ => rfl⟩

end SampleSpec

/-- A query for groups of documents. -/
structure AggregateSpec where
  /-- How documents are grouped. -/
  bucket : BucketSpec
  /-- Which documents of a group are shown. -/
  sample : SampleSpec
  /-- Constraints that the fields satisfy exactly. -/
  filters : Option (List FieldConstraint)
  /-- Constraints that the analysed text of the fields satisfies. -/
  matching : Option (List FieldConstraint)
deriving BEq

namespace AggregateSpec

/-- How an aggregate specification is written. -/
def shape : Shape AggregateSpec :=
  .record "AggregationQuerySpec"
    (.cons "aggs" .required BucketSpec.shape <|
      .cons "top_hit" .required SampleSpec.shape <|
      .cons "filters" (.always none) (.nullable (.list FieldConstraint.shape)) <|
      .cons "matches" (.always none) (.nullable (.list FieldConstraint.shape)) .nil)
    ⟨fun (bucket, sample, filters, matching, ()) => ⟨bucket, sample, filters, matching⟩,
      fun spec => (spec.bucket, spec.sample, spec.filters, spec.matching, ()),
      fun _ => rfl, fun _ => rfl⟩

end AggregateSpec

end QueryAssembly
