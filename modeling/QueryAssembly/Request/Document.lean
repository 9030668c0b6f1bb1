import QueryAssembly.Request.Aggregation
import QueryAssembly.Request.Query

/-!
# Request documents

A request document is the body of a search request.  Its root has the keys that assembly controls
and the raw options of the caller; where both give a key, the raw option wins, as a whole and not
merged.  The finished tree has its keys in ascending order at every depth.
-/

namespace QueryAssembly

/-- The body of a search request. -/
structure RequestDocument where
  /-- The query. -/
  query : Query
  /-- The number of documents before the page. -/
  offset : Option UInt64
  /-- The number of documents on the page. -/
  size : Option UInt64
  /-- The sort. -/
  sort : Option (List SortDirective)
  /-- The aggregations by name. -/
  aggregations : Option (Table BucketAggregation)
  /-- The raw options. -/
  raw : RawOptions
deriving BEq

namespace RequestDocument

/-- The document of a query alone. -/
def ofQuery (query : Query) : RequestDocument := ⟨query, none, none, none, none, .empty⟩

/-- Ask for a page; without one the document stays as it is. -/
def paginate (page : Option Page) (document : RequestDocument) : RequestDocument :=
  match page with
  | none => document
  | some page => { document with offset := some page.offset, size := some page.size }

/-- Sort by the given keys, or by none at all. -/
def sortBy (keys : Option (List SortKey)) (document : RequestDocument) : RequestDocument :=
  { document with sort := keys.map fun keys => keys.map SortKey.directive }

/-- The JSON form of aggregations. -/
def aggregationsToJson (aggregations : Table BucketAggregation) : Json :=
  .object (aggregations.members.map fun aggregation => (aggregation.1, aggregation.2.toJson))

/-- The members that assembly controls, in declared order. -/
def knownMembers (document : RequestDocument) : List (String × Json) :=
  [("query", document.query.toJson)] ++
  Json.optional "from" (fun offset => .number (.ofUInt64 offset)) document.offset ++
  Json.optional "size" (fun size => .number (.ofUInt64 size)) document.size ++
  Json.optional "sort" SortDirective.listToJson document.sort ++
  Json.optional "aggs" aggregationsToJson document.aggregations

/-- The members of the finished tree. -/
def rootMembers (document : RequestDocument) : List (String × Json) :=
  Members.overlay (Json.canonicalMembers document.knownMembers) document.raw.members

/-- The finished tree. -/
def toJson (document : RequestDocument) : Json :=
  .object document.rootMembers

/-- Give an aggregation a name. -/
def setAggregation (name : String) (aggregation : BucketAggregation)
    (document : RequestDocument) : RequestDocument :=
  { document with
    aggregations := some ((document.aggregations.getD .empty).set name aggregation) }

/-- Set a raw option. -/
def setRaw (key : String) (value : Json) (document : RequestDocument) : RequestDocument :=
  { document with raw := document.raw.set key value }

end RequestDocument

end QueryAssembly
