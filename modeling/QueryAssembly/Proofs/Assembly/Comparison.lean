import QueryAssembly.Proofs.Assembly.Aggregate
import QueryAssembly.Proofs.Assembly.Relevance
import QueryAssembly.Proofs.Assembly.Simple
import QueryAssembly.Proofs.Request.Comparison

/-!
# Assembly loses nothing

Two specifications whose raw options keep away from the root keys of a page are told apart by their
requests, unless all that differs is an absent section against an empty one.  The sections are
taken apart again by the kinds of their clauses alone (`Clause.rank`), and each clause, sort and
grouping is compared with the constraint, key and grouping it comes from.
-/

namespace QueryAssembly

open Assembly

/-! ### Clauses -/

theorem FieldConstraint.matchClause_beq (left right : FieldConstraint) :
    (left.matchClause.toJson.canonical == right.matchClause.toJson.canonical) =
      (left == right) := by
  rw [matchClause, matchClause, Clause.canonical_toJson_matching,
    Clause.canonical_toJson_matching, Wire.matching_beq, beq_eq]

theorem FieldConstraint.rank_matchClause (constraint : FieldConstraint) :
    constraint.matchClause.rank = 1 := rfl

theorem RelevanceSpec.filterClause_beq (mode : FilterMode) (left right : FieldConstraint) :
    ((filterClause mode left).toJson.canonical == (filterClause mode right).toJson.canonical) =
      (left == right) := by
  rw [canonical_filterClause, canonical_filterClause, FieldConstraint.beq_eq]
  cases mode with
  | exactTerm => exact Wire.term_beq ..
  | listAware => exact Wire.exact_beq ..

theorem RelevanceSpec.rank_filterClause (mode : FilterMode) (constraint : FieldConstraint) :
    (filterClause mode constraint).rank = 0 := by
  cases mode with
  | exactTerm => rfl
  | listAware => exact Clause.rank_exactly ..

namespace NestedConstraint

theorem exactClause_beq (left right : NestedConstraint) :
    (left.exactClause.toJson.canonical == right.exactClause.toJson.canonical) =
      (left == right) := by
  rw [exactClause, exactClause, Clause.canonical_toJson_nested, Clause.canonical_toJson_nested,
    Wire.nested_beq, Clause.canonical_toJson_exactly, Clause.canonical_toJson_exactly,
    Wire.exact_beq, beq_eq]

theorem matchClause_beq (left right : NestedConstraint) :
    (left.matchClause.toJson.canonical == right.matchClause.toJson.canonical) =
      (left == right) := by
  rw [matchClause, matchClause, Clause.canonical_toJson_nested, Clause.canonical_toJson_nested,
    Wire.nested_beq, Clause.canonical_toJson_matching, Clause.canonical_toJson_matching,
    Wire.matching_beq, beq_eq]

theorem rank_exactClause (constraint : NestedConstraint) : constraint.exactClause.rank = 3 :=
  congrArg (3 + ·) (Clause.rank_exactly constraint.key constraint.operand)

theorem rank_matchClause (constraint : NestedConstraint) : constraint.matchClause.rank = 4 := rfl

end NestedConstraint

/-! ### Sections -/

namespace Assembly

theorem clausesOf_beq {α : Type} [BEq α] {compile : α → Clause}
    (faithful : ∀ first second,
      ((compile first).toJson.canonical == (compile second).toJson.canonical) =
        (first == second)) (left right : Option (List α)) :
    ((clausesOf compile left).map (fun clause => clause.toJson.canonical) ==
        (clausesOf compile right).map fun clause => clause.toJson.canonical) =
      (left.getD [] == right.getD []) := by
  rw [clausesOf, clausesOf, List.map_map, List.map_map]
  exact beq_map_map faithful _ _

theorem rank_of_mem_clausesOf {α : Type} {compile : α → Clause} {rank : Nat}
    (ranked : ∀ item, (compile item).rank = rank) {items : Option (List α)} {clause : Clause}
    (found : clause ∈ clausesOf compile items) : clause.rank = rank := by
  obtain ⟨item, -, rfl⟩ := List.mem_map.mp found
  exact ranked item

theorem rank_filterClauses {mode : FilterMode} {filters matching : Option (List FieldConstraint)}
    {clause : Clause}
    (found : clause ∈ filterClauses (RelevanceSpec.filterClause mode) filters matching) :
    clause.rank < 3 := by
  rcases List.mem_append.mp found with found | found
  · rw [rank_of_mem_clausesOf (RelevanceSpec.rank_filterClause mode) found]
    decide
  · rw [rank_of_mem_clausesOf FieldConstraint.rank_matchClause found]
    decide

theorem filterClauses_beq (mode : FilterMode)
    (filters matching others further : Option (List FieldConstraint)) :
    ((filterClauses (RelevanceSpec.filterClause mode) filters matching).map
          (fun clause => clause.toJson.canonical) ==
        (filterClauses (RelevanceSpec.filterClause mode) others further).map
          fun clause => clause.toJson.canonical) =
      (filters.getD [] == others.getD [] && matching.getD [] == further.getD []) := by
  have filter_rank (items : Option (List FieldConstraint)) :
      ∀ clause ∈ clausesOf (RelevanceSpec.filterClause mode) items, clause.rank < 1 := by
    intro clause found
    rw [rank_of_mem_clausesOf (RelevanceSpec.rank_filterClause mode) found]
    decide
  have match_rank (items : Option (List FieldConstraint)) :
      ∀ clause ∈ clausesOf FieldConstraint.matchClause items, 1 ≤ clause.rank := by
    intro clause found
    exact Nat.le_of_eq (rank_of_mem_clausesOf FieldConstraint.rank_matchClause found).symm
  rw [filterClauses, filterClauses,
    Clause.beq_append 1 (filter_rank _) (match_rank _) (filter_rank _) (match_rank _),
    clausesOf_beq (RelevanceSpec.filterClause_beq mode),
    clausesOf_beq FieldConstraint.matchClause_beq]

end Assembly

/-! ### Simple specifications -/

namespace SimpleSpec

theorem clauses_beq (left right : SimpleSpec) :
    (left.clauses.map (fun clause => clause.toJson.canonical) ==
        right.clauses.map fun clause => clause.toJson.canonical) =
      (left.filters.getD [] == right.filters.getD [] &&
        left.matching.getD [] == right.matching.getD [] &&
        left.nestedFilters.getD [] == right.nestedFilters.getD [] &&
        left.nestedMatching.getD [] == right.nestedMatching.getD []) := by
  have nested_rank (items : Option (List NestedConstraint)) :
      ∀ clause ∈ clausesOf NestedConstraint.exactClause items, clause.rank = 3 :=
    fun clause found => rank_of_mem_clausesOf NestedConstraint.rank_exactClause found
  have last_rank (items : Option (List NestedConstraint)) :
      ∀ clause ∈ clausesOf NestedConstraint.matchClause items, 4 ≤ clause.rank :=
    fun clause found =>
      Nat.le_of_eq (rank_of_mem_clausesOf NestedConstraint.rank_matchClause found).symm
  have plain_rank (spec : SimpleSpec) :
      ∀ clause ∈ filterClauses FieldConstraint.exactClause spec.filters spec.matching,
        clause.rank < 3 :=
    fun _ found => @rank_filterClauses .listAware _ _ _ found
  have first_rank (spec : SimpleSpec) :
      ∀ clause ∈ filterClauses FieldConstraint.exactClause spec.filters spec.matching ++
        clausesOf NestedConstraint.exactClause spec.nestedFilters, clause.rank < 4 := by
    intro clause found
    rcases List.mem_append.mp found with found | found
    · exact Nat.lt_succ_of_lt (plain_rank spec clause found)
    · rw [nested_rank spec.nestedFilters clause found]
      decide
  rw [clauses, clauses,
    Clause.beq_append 4 (first_rank left) (last_rank _) (first_rank right) (last_rank _),
    Clause.beq_append 3 (plain_rank left)
      (fun clause found => Nat.le_of_eq (nested_rank _ clause found).symm) (plain_rank right)
      (fun clause found => Nat.le_of_eq (nested_rank _ clause found).symm),
    clausesOf_beq NestedConstraint.exactClause_beq, clausesOf_beq NestedConstraint.matchClause_beq]
  exact congrArg (fun plain => plain && _ && _)
    (filterClauses_beq .listAware left.filters left.matching right.filters right.matching)

/-- The specification with its absent sections empty, sorts and page apart. -/
def filled (spec : SimpleSpec) : SimpleSpec where
  filters := some (spec.filters.getD [])
  matching := some (spec.matching.getD [])
  nestedFilters := some (spec.nestedFilters.getD [])
  nestedMatching := some (spec.nestedMatching.getD [])
  sorts := spec.sorts
  page := spec.page
  raw := some (spec.raw.getD .empty)

theorem filled_beq (left right : SimpleSpec) :
    (left.filled == right.filled) =
      (left.filters.getD [] == right.filters.getD [] &&
        (left.matching.getD [] == right.matching.getD [] &&
        (left.nestedFilters.getD [] == right.nestedFilters.getD [] &&
        (left.nestedMatching.getD [] == right.nestedMatching.getD [] &&
        (left.sorts == right.sorts && (left.page == right.page &&
          left.raw.getD .empty == right.raw.getD .empty)))))) := rfl

theorem query_beq (left right : SimpleSpec) :
    ((Query.bool ⟨none, left.clauses⟩).toJson.canonical ==
        (Query.bool ⟨none, right.clauses⟩).toJson.canonical) =
      (left.clauses.map (fun clause => clause.toJson.canonical) ==
        right.clauses.map fun clause => clause.toJson.canonical) := by
  rw [canonical_query, canonical_query, Json.single_beq_single, Json.single_beq_single,
    Json.array_beq_array]
  simp

theorem document_beq_iff {left right : SimpleSpec}
    (apart : ∀ key ∈ pagedKeys, (left.raw.getD .empty).get? key = none)
    (apart' : ∀ key ∈ pagedKeys, (right.raw.getD .empty).get? key = none) :
    (left.document.toJson == right.document.toJson) = true ↔
      (left.filled == right.filled) = true := by
  rw [document_eq_paged, document_eq_paged, RequestDocument.paged_beq_iff apart apart', query_beq,
    clauses_beq, filled_beq]
  simp only [Bool.and_eq_true, and_assoc]
  tauto

end SimpleSpec

/-! ### Relevance specifications -/

namespace RelevanceSpec

theorem phraseClause_beq (query other : String) (fields others : List String) (tuning : Tuning) :
    ((phraseClause query fields tuning).toJson.canonical ==
        (phraseClause other others tuning).toJson.canonical) =
      (query == other && fields == others) := by
  rw [phraseClause, phraseClause, Clause.multiMatch_beq, Bool.eq_iff_iff,
    MultiMatch.toJson_beq_iff]
  simp

theorem fuzzyClause_beq (query other : String) (fields others : List String) (tuning : Tuning) :
    ((fuzzyClause query fields tuning).toJson.canonical ==
        (fuzzyClause other others tuning).toJson.canonical) =
      (query == other && fields == others) := by
  rw [fuzzyClause, fuzzyClause, Clause.multiMatch_beq, Bool.eq_iff_iff, MultiMatch.toJson_beq_iff]
  simp

/-- The scored query of a relevance specification. -/
def scored (spec : RelevanceSpec) (tuning : Tuning) : Query :=
  .functionScore
    (.bool
      ⟨some [phraseClause spec.query spec.fields.phrase tuning,
        fuzzyClause spec.query spec.fields.fuzzy tuning], spec.clauses tuning.filterMode⟩)
    tuning.minScore

theorem canonical_scored (spec : RelevanceSpec) (tuning : Tuning) :
    (spec.scored tuning).toJson.canonical =
      .single "function_score" (.object
        [("min_score", tuning.minScore.toJson),
          ("query", .single "bool" (.object
            [("must", .array ((spec.clauses tuning.filterMode).map fun clause =>
                clause.toJson.canonical)),
              ("should", .array
                [(phraseClause spec.query spec.fields.phrase tuning).toJson.canonical,
                  (fuzzyClause spec.query spec.fields.fuzzy tuning).toJson.canonical])]))]) := by
  simp (disch := decide) [scored, Query.toJson, BoolQuery.toJson, BoolQuery.clausesToJson,
    Binary64.canonical_toJson, Json.optional, Json.canonical, Json.canonicalMembers,
    Json.canonicalItems_eq_map, Members.offer_nil, Members.offer_cons_of_gt, Function.comp_def]

theorem scored_beq (left right : RelevanceSpec) (tuning : Tuning) :
    ((left.scored tuning).toJson.canonical == (right.scored tuning).toJson.canonical) =
      ((left.filters.getD [] == right.filters.getD [] &&
        left.matching.getD [] == right.matching.getD []) &&
        (left.query == right.query && left.fields.phrase == right.fields.phrase &&
          (left.query == right.query && left.fields.fuzzy == right.fields.fuzzy))) := by
  rw [canonical_scored, canonical_scored, Json.single_beq_single, Json.object_beq_object]
  simp only [List.cons_beq_cons, Json.member_beq_member, Json.single_beq_single,
    Json.object_beq_object, Json.array_beq_array, phraseClause_beq, fuzzyClause_beq, BEq.rfl,
    Bool.true_and, Bool.and_true]
  exact congrArg (· && _) (filterClauses_beq tuning.filterMode _ _ _ _)

/-- The specification with its absent sections empty, sorts and page apart. -/
def filled (spec : RelevanceSpec) : RelevanceSpec where
  query := spec.query
  fields := spec.fields
  filters := some (spec.filters.getD [])
  matching := some (spec.matching.getD [])
  sorts := spec.sorts
  page := spec.page
  raw := some (spec.raw.getD .empty)

theorem filled_beq (left right : RelevanceSpec) :
    (left.filled == right.filled) =
      (left.query == right.query && (left.fields == right.fields &&
        (left.filters.getD [] == right.filters.getD [] &&
        (left.matching.getD [] == right.matching.getD [] &&
        (left.sorts == right.sorts && (left.page == right.page &&
          left.raw.getD .empty == right.raw.getD .empty)))))) := rfl

theorem document_beq_iff {left right : RelevanceSpec} (tuning : Tuning)
    (apart : ∀ key ∈ pagedKeys, (left.raw.getD .empty).get? key = none)
    (apart' : ∀ key ∈ pagedKeys, (right.raw.getD .empty).get? key = none) :
    ((left.document tuning).toJson == (right.document tuning).toJson) = true ↔
      (left.filled == right.filled) = true := by
  have paged (spec : RelevanceSpec) : spec.document tuning =
      .paged (spec.scored tuning) spec.page spec.sorts (spec.raw.getD .empty) := rfl
  have fields : (left.fields == right.fields) = true ↔
      (left.fields.phrase == right.fields.phrase) = true ∧
        (left.fields.fuzzy == right.fields.fuzzy) = true := by
    rw [beq_iff_eq, beq_iff_eq, beq_iff_eq, SearchFields.mk.injEq]
  rw [paged, paged, RequestDocument.paged_beq_iff apart apart', scored_beq, filled_beq]
  simp only [Bool.and_eq_true, fields]
  tauto

end RelevanceSpec

/-! ### Aggregate specifications -/

namespace Wire

theorem groups_beq (bucket further : BucketSpec) (sample other : SampleSpec) :
    (groups bucket sample == groups further other) = (bucket == further && sample == other) := by
  obtain ⟨field, size, order⟩ := bucket
  obtain ⟨field', size', order'⟩ := further
  obtain ⟨key, direction, count⟩ := sample
  obtain ⟨key', direction', count'⟩ := other
  rw [groups, groups, Json.single_beq_single, Json.object_beq_object, Bool.eq_iff_iff]
  simp only [List.cons_beq_cons, Json.member_beq_member, Json.single_beq_single,
    Json.object_beq_object, Json.array_beq_array, Json.number_beq_number,
    Json.string_beq_string, Json.Number.ofUInt64_beq, sortKey_beq, Bool.and_eq_true, beq_iff_eq,
    SortOrder.name_inj, SortKey.plain, SortKey.mk.injEq, BucketSpec.mk.injEq,
    SampleSpec.mk.injEq]
  tauto

end Wire

namespace AggregateSpec

theorem query_beq (left right : AggregateSpec) :
    ((Query.bool ⟨none, left.clauses⟩).toJson.canonical ==
        (Query.bool ⟨none, right.clauses⟩).toJson.canonical) =
      (left.filters.getD [] == right.filters.getD [] &&
        left.matching.getD [] == right.matching.getD []) := by
  rw [SimpleSpec.canonical_query, SimpleSpec.canonical_query, Json.single_beq_single,
    Json.single_beq_single, Json.array_beq_array, BEq.rfl, BEq.rfl, Bool.true_and, Bool.true_and]
  exact filterClauses_beq .listAware left.filters left.matching right.filters right.matching

/-- The specification with its absent sections empty. -/
def filled (spec : AggregateSpec) : AggregateSpec where
  bucket := spec.bucket
  sample := spec.sample
  filters := some (spec.filters.getD [])
  matching := some (spec.matching.getD [])

theorem filled_beq (left right : AggregateSpec) :
    (left.filled == right.filled) =
      (left.bucket == right.bucket && (left.sample == right.sample &&
        (left.filters.getD [] == right.filters.getD [] &&
          left.matching.getD [] == right.matching.getD []))) := rfl

theorem document_beq_iff {left right : AggregateSpec} :
    (left.document.toJson == right.document.toJson) = true ↔
      (left.filled == right.filled) = true := by
  rw [RequestDocument.toJson_beq_iff, filled_beq]
  simp only [Bool.and_eq_true]
  constructor
  · intro same
    have queries := same "query"
    have groups := same "aggs"
    rw [get?_toJson_grouped, get?_toJson_grouped] at queries groups
    have clauses := (query_beq left right).symm.trans queries
    have parts := (Wire.groups_beq left.bucket right.bucket left.sample right.sample).symm.trans
      groups
    rw [Bool.and_eq_true] at clauses parts
    exact ⟨parts.1, parts.2, clauses⟩
  · rintro ⟨bucket, sample, queries⟩ key
    rw [get?_toJson_grouped, get?_toJson_grouped, eq_of_beq bucket, eq_of_beq sample]
    split
    case h_1 =>
      rw [Option.some_beq_some, query_beq, Bool.and_eq_true]
      exact queries
    all_goals exact BEq.rfl

end AggregateSpec

/-! ### Specifications of any kind -/

namespace RequestDocument

theorem isSome_get?_of_beq {left right : RequestDocument}
    (same : (left.toJson == right.toJson) = true) (key : String) :
    (left.toJson.get? key).isSome = (right.toJson.get? key).isSome := by
  have held := (toJson_beq_iff left right).mp same key
  cases here : left.toJson.get? key <;> cases there : right.toJson.get? key
  case none.none => rfl
  case some.some => rfl
  all_goals
    rw [here, there] at held
    cases held

theorem not_beq_of_query {left right : RequestDocument} {name other : String} {body held : Json}
    (here : left.toJson.get? "query" = some (.single name body))
    (there : right.toJson.get? "query" = some (.single other held)) (different : name ≠ other) :
    ¬(left.toJson == right.toJson) = true := by
  intro same
  have queries := (toJson_beq_iff left right).mp same "query"
  rw [here, there, Option.some_beq_some, Json.single_beq_single, Bool.and_eq_true] at queries
  exact different (eq_of_beq queries.1)

end RequestDocument

theorem SimpleSpec.get?_query {spec : SimpleSpec}
    (apart : ∀ key ∈ pagedKeys, (spec.raw.getD .empty).get? key = none) :
    ∃ body, spec.document.toJson.get? "query" = some (.single "bool" body) := by
  rw [document_eq_paged, RequestDocument.get?_toJson_paged, apart "query" (by decide)]
  exact ⟨_, rfl⟩

theorem RelevanceSpec.get?_query {spec : RelevanceSpec} (tuning : Tuning)
    (apart : ∀ key ∈ pagedKeys, (spec.raw.getD .empty).get? key = none) :
    ∃ body, (spec.document tuning).toJson.get? "query" =
      some (.single "function_score" body) := by
  rw [document_eq_paged, RequestDocument.get?_toJson_paged, apart "query" (by decide)]
  exact ⟨_, rfl⟩

theorem AggregateSpec.get?_query (spec : AggregateSpec) :
    ∃ body, spec.document.toJson.get? "query" = some (.single "bool" body) := by
  rw [get?_toJson_grouped]
  exact ⟨_, rfl⟩

/-- A page has an offset and a size, and a request for groups has a size alone. -/
theorem SimpleSpec.sections_ne {spec : SimpleSpec}
    (apart : ∀ key ∈ pagedKeys, (spec.raw.getD .empty).get? key = none) (other : AggregateSpec)
    (offset : (spec.document.toJson.get? "from").isSome =
      (other.document.toJson.get? "from").isSome)
    (size : (spec.document.toJson.get? "size").isSome =
      (other.document.toJson.get? "size").isSome) : False := by
  rw [document_eq_paged, RequestDocument.get?_toJson_paged,
    AggregateSpec.get?_toJson_grouped, apart "from" (by decide)] at offset
  rw [document_eq_paged, RequestDocument.get?_toJson_paged,
    AggregateSpec.get?_toJson_grouped, apart "size" (by decide)] at size
  cases page : spec.page <;> rw [page] at offset size
  case none => cases size
  case some => cases offset

namespace Specification

/-- The raw options of a specification; where its kind has none, or none are given, they are
empty. -/
def rawOptions : Specification → RawOptions
  | .simple spec => spec.raw.getD .empty
  | .relevance spec => spec.raw.getD .empty
  | .aggregate _ => .empty

/-- The specification with its absent constraints and raw options empty. -/
def filled : Specification → Specification
  | .simple spec => .simple spec.filled
  | .relevance spec => .relevance spec.filled
  | .aggregate spec => .aggregate spec.filled

/-- Requests are equal exactly when their specifications are, once absent constraints and raw
options count as empty ones. -/
theorem toJson_document_beq_iff (tuning : Tuning) {left right : Specification}
    (apart : ∀ key ∈ pagedKeys, left.rawOptions.get? key = none)
    (apart' : ∀ key ∈ pagedKeys, right.rawOptions.get? key = none) :
    ((left.document tuning).toJson == (right.document tuning).toJson) = true ↔
      (left.filled == right.filled) = true := by
  cases left with
  | simple left =>
    cases right with
    | simple right => exact SimpleSpec.document_beq_iff apart apart'
    | relevance right =>
      obtain ⟨body, here⟩ := SimpleSpec.get?_query apart
      obtain ⟨held, there⟩ := RelevanceSpec.get?_query tuning apart'
      exact iff_of_false (RequestDocument.not_beq_of_query here there (by decide)) nofun
    | aggregate right =>
      refine iff_of_false (fun same => ?_) nofun
      have present := RequestDocument.isSome_get?_of_beq same
      exact SimpleSpec.sections_ne apart right (present "from") (present "size")
  | relevance left =>
    cases right with
    | simple right =>
      obtain ⟨body, here⟩ := RelevanceSpec.get?_query tuning apart
      obtain ⟨held, there⟩ := SimpleSpec.get?_query apart'
      exact iff_of_false (RequestDocument.not_beq_of_query here there (by decide)) nofun
    | relevance right => exact RelevanceSpec.document_beq_iff tuning apart apart'
    | aggregate right =>
      obtain ⟨body, here⟩ := RelevanceSpec.get?_query tuning apart
      obtain ⟨held, there⟩ := right.get?_query
      exact iff_of_false (RequestDocument.not_beq_of_query here there (by decide)) nofun
  | aggregate left =>
    cases right with
    | simple right =>
      refine iff_of_false (fun same => ?_) nofun
      have present := RequestDocument.isSome_get?_of_beq same
      exact SimpleSpec.sections_ne apart' left (present "from").symm (present "size").symm
    | relevance right =>
      obtain ⟨body, here⟩ := left.get?_query
      obtain ⟨held, there⟩ := RelevanceSpec.get?_query tuning apart'
      exact iff_of_false (RequestDocument.not_beq_of_query here there (by decide)) nofun
    | aggregate right => exact AggregateSpec.document_beq_iff

/-- An absent list of filters shows no more than an empty one, but an absent sort does. -/
theorem toJson_document_beq_explained :
    (∀ key ∈ pagedKeys, (RawOptions.empty.set "explain" (.bool true)).get? key = none) ∧
      (((Specification.simple { SimpleSpec.empty with
            sorts := some [], raw := some (.set "explain" (.bool true) .empty) }).document
          .standard).toJson ==
        ((Specification.simple { SimpleSpec.empty with
            filters := some [], sorts := some [],
            raw := some (.set "explain" (.bool true) .empty) }).document .standard).toJson) =
        true ∧
      ¬(((Specification.simple { SimpleSpec.empty with
            sorts := some [], raw := some (.set "explain" (.bool true) .empty) }).document
          .standard).toJson ==
        ((Specification.simple { SimpleSpec.empty with
            raw := some (.set "explain" (.bool true) .empty) }).document .standard).toJson) =
        true := by
  have apart : ∀ key ∈ pagedKeys,
      (RawOptions.empty.set "explain" (.bool true)).get? key = none := by
    intro key found
    have different : key ≠ "explain" := by
      rintro rfl
      exact absurd found (by decide)
    rw [RawOptions.get?_set, if_neg different]
    rfl
  refine ⟨apart, ?_, ?_⟩
  · rw [toJson_document_beq_iff .standard]
    case apart => exact apart
    case apart' => exact apart
    decide
  · rw [toJson_document_beq_iff .standard]
    case apart => exact apart
    case apart' => exact apart
    decide

end Specification

end QueryAssembly
