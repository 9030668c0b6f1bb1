import QueryAssembly.Proofs.Assembly.Written
import QueryAssembly.Proofs.Shape.Agreement
import QueryAssembly.Proofs.Specification.Shapes

/-!
# What a simple query asks for

Reading a written simple specification, assembling it and finishing the request comes to the same
as `Written.simple`, which looks at the written specification alone.
-/

namespace QueryAssembly

theorem Json.items_unlessNull_getD {α : Type} (json : Json) (direct : Json → α) :
    (json.unlessNull.map fun json => json.items.map direct).getD [] = json.items.map direct := by
  cases json <;> rfl

theorem RawOptions.get?_of_writes {json : Json} (canonical : json.IsCanonical)
    {raw : Option RawOptions} (written : (Shape.nullable .rawOptions).Writes json raw)
    (key : String) : (raw.getD .empty).get? key = json.get? key := by
  obtain ⟨-, denoted⟩ := written
  cases json with
  | null =>
    cases denoted
    rfl
  | object members =>
    have whole : raw = some (ofMembers members) := (Option.some.inj denoted).symm
    have unchanged : (ofMembers members).members = members :=
      Json.canonicalMembers_eq_of_canonical canonical.1 canonical.2
    rw [whole, Option.getD_some, get?, unchanged, Json.get?_object,
      Members.last?_eq_lookup canonical.1]
  | _ => cases denoted

/-- The clauses of a section that may be null or left out, item by item. -/
theorem Assembly.clausesOf_of_writes {α : Type} {item : Shape α} {json : Json}
    {values : Option (List α)} (written : (Shape.nullable (.list item)).Writes json values)
    {compile : α → Clause} {direct : Json → Json}
    (each : ∀ part value, item.Writes part value →
      (compile value).toJson.canonical = direct part) :
    (clausesOf compile values).map (fun clause => clause.toJson.canonical) =
      json.items.map direct := by
  rw [← Json.items_unlessNull_getD, ← written.map_nullable_list each]
  cases values with
  | none => rfl
  | some values => simp [clausesOf, Function.comp_def]

namespace SimpleSpec

theorem document_eq_paged (spec : SimpleSpec) :
    spec.document =
      .paged (.bool ⟨none, spec.clauses⟩) spec.page spec.sorts (spec.raw.getD .empty) := rfl

theorem canonical_query (clauses : List Clause) :
    (Query.bool ⟨none, clauses⟩).toJson.canonical =
      .single "bool" (.single "must" (.array
        (clauses.map fun clause => clause.toJson.canonical))) := by
  simp [Query.toJson, BoolQuery.toJson, BoolQuery.clausesToJson, Json.optional, Json.canonical,
    Json.canonicalMembers, Json.canonicalItems_eq_map, Members.offer_nil, Function.comp_def,
    Json.single]

/-- The members of a written specification, each of which writes one section. -/
structure Sections (json : Json) (spec : SimpleSpec) : Prop where
  filters : (Shape.nullable (.list FieldConstraint.shape)).Writes (json.member "filters")
    spec.filters
  matching : (Shape.nullable (.list FieldConstraint.shape)).Writes (json.member "matches")
    spec.matching
  nestedFilters : (Shape.nullable (.list NestedConstraint.shape)).Writes
    (json.member "nested_filters") spec.nestedFilters
  nestedMatching : (Shape.nullable (.list NestedConstraint.shape)).Writes
    (json.member "nested_matches") spec.nestedMatching
  sorts : (Shape.nullable (.list SortKey.shape)).Writes (json.member "sorts") spec.sorts
  page : (Shape.nullable Page.shape).Writes (json.member "pagination") spec.page
  raw : (Shape.nullable .rawOptions).Writes (json.member "raw_options") spec.raw

theorem sections_of_writes {json : Json} {spec : SimpleSpec} (written : shape.Writes json spec) :
    Sections json spec := by
  obtain ⟨members, rfl, given⟩ := written.members_of_record
  obtain ⟨filters, given⟩ := given.member_of_optional rfl
  obtain ⟨matching, given⟩ := given.member_of_optional rfl
  obtain ⟨nestedFilters, given⟩ := given.member_of_optional rfl
  obtain ⟨nestedMatching, given⟩ := given.member_of_optional rfl
  obtain ⟨sorts, given⟩ := given.member_of_optional rfl
  obtain ⟨page, given⟩ := given.member_of_optional rfl
  obtain ⟨raw, -⟩ := given.member_of_optional rfl
  exact { filters, matching, nestedFilters, nestedMatching, sorts, page, raw }

variable {json : Json} {spec : SimpleSpec}

theorem Sections.clauses (sections : Sections json spec) :
    spec.clauses.map (fun clause => clause.toJson.canonical) = Written.clauses json := by
  have filters := Assembly.clausesOf_of_writes sections.filters
    fun _ _ => FieldConstraint.exactClause_of_writes
  have matching := Assembly.clausesOf_of_writes sections.matching
    fun _ _ => FieldConstraint.matchClause_of_writes
  have nestedFilters := Assembly.clausesOf_of_writes sections.nestedFilters
    fun _ _ => NestedConstraint.exactClause_of_writes
  have nestedMatching := Assembly.clausesOf_of_writes sections.nestedMatching
    fun _ _ => NestedConstraint.matchClause_of_writes
  simp only [SimpleSpec.clauses, Assembly.filterClauses, List.map_append, filters, matching,
    nestedFilters, nestedMatching, Written.clauses]

theorem Sections.get?_toJson (sections : Sections json spec) (canonical : json.IsCanonical)
    (key : String) :
    spec.document.toJson.get? key =
      ((json.member "raw_options").get? key).or (Written.simple json key) := by
  have raw := RawOptions.get?_of_writes (Json.isCanonical_member canonical _) sections.raw key
  have page := sections.page.map_nullable fun _ => Page.page_of_writes
  have sorts := sections.sorts.map_nullable_list fun _ _ => SortKey.sortKey_of_writes
  rw [document_eq_paged, RequestDocument.get?_toJson_paged, canonical_query, sections.clauses, raw,
    page, sorts, Written.simple]

end SimpleSpec

namespace Specification

/-- Every root key of the request of a written simple specification: a raw option is handed over as
it is written, and apart from that the request is what the written sections ask for. -/
theorem get?_toJson_of_readTree {json : Json} (keyed : SimpleSpec.shape.Keyed json.canonical)
    {spec : Specification} (read : readTree .simple json = .ok spec) (tuning : Tuning)
    (key : String) :
    (spec.document tuning).toJson.get? key =
      ((json.canonical.member "raw_options").get? key).or (Written.simple json.canonical key) := by
  obtain ⟨simple, found, rfl⟩ := map_ok_iff.mp read
  have denoted := (Shape.readTree_ok_iff SimpleSpec.lossless_shape.namesDiffer).mp found
  rw [← Shape.ofJson?_canonical] at denoted
  exact (SimpleSpec.sections_of_writes ⟨keyed, denoted⟩).get?_toJson
    (Json.isCanonical_canonical json) key

/-- A filter with a list asks for one of its values. -/
theorem get?_toJson_of_readTree_list :
    SimpleSpec.shape.Keyed (Json.object
      [("filters", .array [.object [("value", .array [.bool true]), ("field", .string "tag")]])]
        ).canonical ∧
      readTree .simple (.object
        [("filters", .array [.object [("value", .array [.bool true]), ("field", .string "tag")]])]
          ) = .ok (.simple
            ⟨some [⟨"tag", .list [.bool true]⟩], none, none, none, none, none, none⟩) ∧
      ((Specification.simple
        ⟨some [⟨"tag", .list [.bool true]⟩], none, none, none, none, none, none⟩).document
          .standard).toJson.get? "query" =
        some (.single "bool" (.single "must" (.array
          [.single "terms" (.single "tag" (.array [.bool true]))]))) := by
  have keyed : SimpleSpec.shape.Keyed (Json.object
      [("filters", .array [.object [("value", .array [.bool true]), ("field", .string "tag")]])]
        ).canonical := by
    simp [Json.canonical, Json.canonicalMembers, Json.canonicalItems, Members.offer, Json.items,
      Members.last?_cons, SimpleSpec.shape, FieldConstraint.shape, Shape.Keyed, Fields.KeyedUnder]
  exact ⟨keyed, rfl, (get?_toJson_of_readTree keyed rfl .standard "query").trans rfl⟩

end Specification

end QueryAssembly
