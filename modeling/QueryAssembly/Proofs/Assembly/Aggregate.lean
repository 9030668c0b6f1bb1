import QueryAssembly.Proofs.Assembly.Simple

/-!
# What an aggregate query asks for

The request of an aggregate specification is one tree with three root keys, whatever the tuning.
Reading a written specification, assembling it and finishing the request comes to the same as
`Written.aggregate`, which looks at the written specification alone: the size of a group's sample
and the number of groups never change places, and neither do the two orders.
-/

namespace QueryAssembly

namespace Wire

/-- The groups and samples of an aggregate specification. -/
def groups (bucket : BucketSpec) (sample : SampleSpec) : Json :=
  .single BucketAggregation.standardName (.object
    [("aggs", .single BucketAggregation.sampleName (.single "top_hits" (.object
        [("from", .number (.ofUInt64 0)), ("size", .number (.ofUInt64 sample.size)),
          ("sort", .array [sortKey (SortKey.plain sample.field sample.order)])]))),
      ("terms", .object
        [("field", .string bucket.field), ("order", .single "_key" (.string bucket.order.name)),
          ("size", .number (.ofUInt64 bucket.size))])])

end Wire

namespace Written

/-- The first documents of a group, by a written sample. -/
def sample (sample : Json) : Json :=
  .object
    [("from", .number (.ofUInt64 0)), ("size", sample.member "size"),
      ("sort", .array [Wire.sortDirective (text (sample.member "field"))
        (lowerCase (text (sample.member "order"))) none])]

/-- The values that make the groups, by a written grouping. -/
def terms (bucket : Json) : Json :=
  .object
    [("field", .string (text (bucket.member "field"))),
      ("order", .single "_key" (.string (lowerCase (text (bucket.member "order"))))),
      ("size", bucket.member "size")]

/-- The request of a written aggregate specification. -/
def aggregate (spec : Json) : Json :=
  .object
    [("aggs", .single "top_tags" (.object
        [("aggs", .single "top_hit_items" (.single "top_hits" (sample (spec.member "top_hit")))),
          ("terms", terms (spec.member "aggs"))])),
      ("query", .single "bool" (.single "must" (.array
        ((spec.member "filters").items.map filter ++
          (spec.member "matches").items.map matching)))),
      ("size", .number (.ofUInt64 0))]

end Written

namespace AggregateSpec

theorem canonical_groups (bucket : BucketSpec) (sample : SampleSpec) :
    (RequestDocument.aggregationsToJson
      (.single BucketAggregation.standardName (.ofSpecs bucket sample))).canonical =
      Wire.groups bucket sample := by
  have sort := SortDirective.canonical_listToJson [SortKey.plain sample.field sample.order]
  simp (disch := decide) only [RequestDocument.aggregationsToJson, Table.members_single,
    List.map_cons, List.map_nil, BucketAggregation.ofSpecs, BucketAggregation.toJson,
    TopHits.toJson, Json.canonical, Json.canonical_single, Json.canonicalMembers,
    Members.offer_nil, Members.offer_cons_of_lt, Members.offer_cons_of_gt] at sort ⊢
  rw [sort]
  rfl

/-- The request of an aggregate specification has no root key but these three. -/
theorem toJson_document (spec : AggregateSpec) :
    spec.document.toJson =
      .object
        [("aggs", Wire.groups spec.bucket spec.sample),
          ("query", (Query.bool ⟨none, spec.clauses⟩).toJson.canonical),
          ("size", .number (.ofUInt64 0))] := by
  have known : spec.document.knownMembers =
      [("query", (Query.bool ⟨none, spec.clauses⟩).toJson), ("size", .number (.ofUInt64 0)),
        ("aggs", RequestDocument.aggregationsToJson
          (.single BucketAggregation.standardName (.ofSpecs spec.bucket spec.sample)))] := rfl
  have no_raw : spec.document.raw.members = [] := rfl
  rw [RequestDocument.toJson, RequestDocument.rootMembers, known, no_raw]
  simp (disch := decide) only [Json.canonicalMembers, canonical_groups, Members.offer_nil,
    Members.offer_cons_of_lt, Members.offer_cons_of_gt]
  rfl

/-- What an aggregate specification writes under a root key. -/
theorem get?_toJson_grouped (spec : AggregateSpec) (key : String) :
    spec.document.toJson.get? key =
      match key with
      | "query" => some (Query.bool ⟨none, spec.clauses⟩).toJson.canonical
      | "size" => some (.number (.ofUInt64 0))
      | "aggs" => some (Wire.groups spec.bucket spec.sample)
      | _ => none := by
  rw [RequestDocument.get?_toJson, ← canonical_groups]
  unfold RequestDocument.known?
  split
  case h_6 =>
    simp_all
    rfl
  all_goals rfl

/-- The members of a written specification, each of which writes one part. -/
structure Parts (json : Json) (spec : AggregateSpec) : Prop where
  bucket : BucketSpec.shape.Writes (json.member "aggs") spec.bucket
  sample : SampleSpec.shape.Writes (json.member "top_hit") spec.sample
  filters : (Shape.nullable (.list FieldConstraint.shape)).Writes (json.member "filters")
    spec.filters
  matching : (Shape.nullable (.list FieldConstraint.shape)).Writes (json.member "matches")
    spec.matching

theorem parts_of_writes {json : Json} {spec : AggregateSpec} (written : shape.Writes json spec) :
    Parts json spec := by
  obtain ⟨members, rfl, given⟩ := written.members_of_record
  obtain ⟨bucket, given⟩ := given.member_of_required
  obtain ⟨sample, given⟩ := given.member_of_required
  obtain ⟨filters, given⟩ := given.member_of_optional rfl
  obtain ⟨matching, -⟩ := given.member_of_optional rfl
  exact { bucket, sample, filters, matching }

end AggregateSpec

theorem BucketSpec.terms_of_writes {json : Json} {bucket : BucketSpec}
    (written : shape.Writes json bucket) :
    .object [("field", .string bucket.field),
      ("order", .single "_key" (.string bucket.order.name)),
      ("size", .number (.ofUInt64 bucket.size))] = Written.terms json := by
  obtain ⟨members, rfl, given⟩ := written.members_of_record
  obtain ⟨field, given⟩ := given.member_of_required
  obtain ⟨size, given⟩ := given.member_of_required
  obtain ⟨order, -⟩ := given.member_of_required
  rw [Written.terms, Json.eq_string_of_text? field.denoted,
    Json.eq_number_of_count? size.denoted,
    Json.lowerCase_text_of_named? SortOrder.lowerCase_of_parse order.denoted]
  rfl

theorem SampleSpec.sample_of_writes {json : Json} {sample : SampleSpec}
    (written : shape.Writes json sample) :
    .object [("from", .number (.ofUInt64 0)), ("size", .number (.ofUInt64 sample.size)),
      ("sort", .array [Wire.sortKey (SortKey.plain sample.field sample.order)])] =
        Written.sample json := by
  obtain ⟨members, rfl, given⟩ := written.members_of_record
  obtain ⟨field, given⟩ := given.member_of_required
  obtain ⟨order, given⟩ := given.member_of_required
  obtain ⟨size, -⟩ := given.member_of_required
  rw [Written.sample, Json.eq_string_of_text? field.denoted,
    Json.eq_number_of_count? size.denoted,
    Json.lowerCase_text_of_named? SortOrder.lowerCase_of_parse order.denoted]
  rfl

namespace AggregateSpec

variable {json : Json} {spec : AggregateSpec}

theorem Parts.clauses (parts : Parts json spec) :
    spec.clauses.map (fun clause => clause.toJson.canonical) =
      (json.member "filters").items.map Written.filter ++
        (json.member "matches").items.map Written.matching := by
  have filters := Assembly.clausesOf_of_writes parts.filters
    fun _ _ => FieldConstraint.exactClause_of_writes
  have matching := Assembly.clausesOf_of_writes parts.matching
    fun _ _ => FieldConstraint.matchClause_of_writes
  rw [AggregateSpec.clauses, Assembly.filterClauses, List.map_append, filters, matching]

theorem Parts.toJson_document (parts : Parts json spec) :
    spec.document.toJson = Written.aggregate json := by
  rw [AggregateSpec.toJson_document, SimpleSpec.canonical_query, parts.clauses, Wire.groups,
    BucketSpec.terms_of_writes parts.bucket, SampleSpec.sample_of_writes parts.sample]
  rfl

end AggregateSpec

namespace Specification

/-- The whole request of a written aggregate specification, under every tuning. -/
theorem toJson_document_of_readTree {json : Json}
    (keyed : AggregateSpec.shape.Keyed json.canonical) {spec : Specification}
    (read : readTree .aggregate json = .ok spec) (tuning : Tuning) :
    (spec.document tuning).toJson = Written.aggregate json.canonical := by
  obtain ⟨aggregate, found, rfl⟩ := map_ok_iff.mp read
  have denoted := (Shape.readTree_ok_iff AggregateSpec.lossless_shape.namesDiffer).mp found
  rw [← Shape.ofJson?_canonical] at denoted
  exact (AggregateSpec.parts_of_writes ⟨keyed, denoted⟩).toJson_document

/-- Three groups of seven documents each: what is counted and sorted by in the grouping and in the
sample differs, and neither order is written in lower case. -/
theorem toJson_document_of_readTree_apart :
    AggregateSpec.shape.Keyed (Json.object
      [("aggs", .object [("size", .number (.ofUInt64 3)), ("order", .string "DESC"),
          ("field", .string "brand")]),
        ("top_hit", .object [("field", .string "price"), ("size", .number (.ofUInt64 7)),
          ("order", .string "Asc")]),
        ("matches", .array [.object [("field", .string "tag"), ("value", .array [])]])]).canonical ∧
      readTree .aggregate (.object
        [("aggs", .object [("size", .number (.ofUInt64 3)), ("order", .string "DESC"),
            ("field", .string "brand")]),
          ("top_hit", .object [("field", .string "price"), ("size", .number (.ofUInt64 7)),
            ("order", .string "Asc")]),
          ("matches", .array [.object [("field", .string "tag"), ("value", .array [])]])]) =
        .ok (.aggregate
          ⟨⟨"brand", 3, .descending⟩, ⟨"price", .ascending, 7⟩, none, some [⟨"tag", .list []⟩]⟩) ∧
      ((Specification.aggregate
        ⟨⟨"brand", 3, .descending⟩, ⟨"price", .ascending, 7⟩, none, some [⟨"tag", .list []⟩]⟩
          ).document .standard).toJson =
        .object
          [("aggs", .single "top_tags" (.object
              [("aggs", .single "top_hit_items" (.single "top_hits" (.object
                  [("from", .number (.ofUInt64 0)), ("size", .number (.ofUInt64 7)),
                    ("sort", .array [.single "price" (.single "order" (.string "asc"))])]))),
                ("terms", .object
                  [("field", .string "brand"), ("order", .single "_key" (.string "desc")),
                    ("size", .number (.ofUInt64 3))])])),
            ("query", .single "bool" (.single "must" (.array
              [.single "match" (.single "tag" (.array []))]))),
            ("size", .number (.ofUInt64 0))] := by
  have keyed : AggregateSpec.shape.Keyed (Json.object
      [("aggs", .object [("size", .number (.ofUInt64 3)), ("order", .string "DESC"),
          ("field", .string "brand")]),
        ("top_hit", .object [("field", .string "price"), ("size", .number (.ofUInt64 7)),
          ("order", .string "Asc")]),
        ("matches", .array [.object [("field", .string "tag"), ("value", .array [])]])]
          ).canonical := by
    show AggregateSpec.shape.Keyed (.object
      [("aggs", .object [("field", .string "brand"), ("order", .string "DESC"),
          ("size", .number (.ofUInt64 3))]),
        ("matches", .array [.object [("field", .string "tag"), ("value", .array [])]]),
        ("top_hit", .object [("field", .string "price"), ("order", .string "Asc"),
          ("size", .number (.ofUInt64 7))])])
    simp [Json.items, Members.last?_cons, AggregateSpec.shape, BucketSpec.shape,
      SampleSpec.shape, FieldConstraint.shape, Shape.Keyed, Fields.KeyedUnder]
  exact ⟨keyed, rfl, (toJson_document_of_readTree keyed rfl .standard).trans rfl⟩

end Specification

end QueryAssembly
