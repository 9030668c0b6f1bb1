import QueryAssembly.Ordered.Table
import QueryAssembly.Request.SortDirective
import QueryAssembly.Spec.Aggregate

/-!
# Bucket aggregations

A bucket aggregation groups documents by the values of a field and holds, under names of their own,
the samples that are taken from each group.
-/

namespace QueryAssembly

/-- A sample of the documents of a group. -/
structure TopHits where
  /-- The sort by which the documents are taken. -/
  sort : List SortDirective
  /-- The number of documents taken. -/
  size : UInt64
  /-- The number of documents left out before them. -/
  offset : UInt64
deriving DecidableEq

namespace TopHits

/-- The JSON form of a sample. -/
def toJson (sample : TopHits) : Json :=
  .single "top_hits" <| .object
    [("sort", SortDirective.listToJson sample.sort), ("size", .number (.ofUInt64 sample.size)),
      ("from", .number (.ofUInt64 sample.offset))]

end TopHits

/-- Groups of documents with samples from each. -/
structure BucketAggregation where
  /-- The field whose values make the groups. -/
  field : String
  /-- The largest number of groups. -/
  size : UInt64
  /-- The order of the groups by value. -/
  order : SortOrder
  /-- The samples from each group, by name. -/
  samples : Table TopHits
deriving BEq

namespace BucketAggregation

/-- The name of the aggregation in a request. -/
def standardName : String := "top_tags"

/-- The name of the sample in each group. -/
def sampleName : String := "top_hit_items"

/-- The JSON form of an aggregation. -/
def toJson (aggregation : BucketAggregation) : Json :=
  .object
    [("terms", .object
      [("field", .string aggregation.field), ("size", .number (.ofUInt64 aggregation.size)),
        ("order", .single "_key" (.string aggregation.order.name))]),
      ("aggs", .object (aggregation.samples.members.map fun sample =>
        (sample.1, sample.2.toJson)))]

/-- The aggregation that groups and samples as specified; a sample begins with the first
document. -/
def ofSpecs (bucket : BucketSpec) (sample : SampleSpec) : BucketAggregation where
  field := bucket.field
  size := bucket.size
  order := bucket.order
  samples := .single sampleName
    ⟨[(SortKey.plain sample.field sample.order).directive], sample.size, 0⟩

end BucketAggregation

end QueryAssembly
