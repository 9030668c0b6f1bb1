import QueryAssembly.Assembly.Relevance
import QueryAssembly.Proofs.Request.Wire
import QueryAssembly.Proofs.Tuning.Standard

/-!
# What a relevance query asks for

The request of a relevance specification, root key by root key.  Its query is one tree, spelled out
by `Wire.relevance`: the phrase and its words raise the score, each with its own options and no
others, and the constraints must hold.
-/

namespace QueryAssembly

namespace Wire

/-- A phrase is found in some fields. -/
def phrase (query : String) (fields : List String) (boost : Binary64.Finite) : Json :=
  .single "multi_match" <| .object
    [("boost", .number (.real boost)), ("fields", .array (fields.map .string)),
      ("query", .string query), ("type", .string "phrase")]

/-- Words are found in some fields, misspelt perhaps. -/
def words (query : String) (fields : List String) (fuzziness : String) (prefixLength : UInt32) :
    Json :=
  .single "multi_match" <| .object
    [("fields", .array (fields.map .string)), ("fuzziness", .string fuzziness),
      ("prefix_length", .number (.ofUInt32 prefixLength)), ("query", .string query),
      ("type", .string "most_fields")]

/-- A filter in a given mode. -/
def filter (mode : FilterMode) (constraint : FieldConstraint) : Json :=
  match mode with
  | .exactTerm => term constraint.field constraint.operand.toJson
  | .listAware => exact constraint.field constraint.operand.toJson

/-- The constraints of a relevance specification, filters first. -/
def constraints (spec : RelevanceSpec) (mode : FilterMode) : List Json :=
  (spec.filters.getD []).map (filter mode) ++
    (spec.matching.getD []).map fun constraint =>
      matching constraint.field constraint.operand.toJson

/-- The scored query of a relevance specification. -/
def relevance (spec : RelevanceSpec) (tuning : Tuning) (boost minScore : Binary64.Finite) : Json :=
  let must := constraints spec tuning.filterMode
  let should :=
    [phrase spec.query spec.fields.phrase boost,
      words spec.query spec.fields.fuzzy tuning.fuzziness tuning.prefixLength]
  .single "function_score" <| .object
    [("min_score", .number (.real minScore)),
      ("query", .single "bool" (.object [("must", .array must), ("should", .array should)]))]

end Wire

/-- The fields in which a clause searches a text. -/
def Clause.searched : Clause → List String
  | .multiMatch body => body.fields
  | .nested _ inner => inner.searched
  | .term _ _ | .terms _ _ | .matching _ _ => []

/-- The fields that the clauses search which raise the score, clause by clause. -/
def RequestDocument.searched (document : RequestDocument) : List (List String) :=
  (document.query.innermost.should.getD []).map Clause.searched

namespace RelevanceSpec

theorem canonical_texts (texts : List String) :
    Json.canonicalItems (texts.map .string) = texts.map .string := by
  simp [Json.canonicalItems_eq_map, Json.canonical, Function.comp_def]

/-- The weight of a phrase is null when it is not finite. -/
theorem canonical_phraseClause_boost (query : String) (fields : List String) (tuning : Tuning) :
    (phraseClause query fields tuning).toJson.canonical =
      .single "multi_match" (.object
        [("boost", tuning.phraseBoost.toJson), ("fields", .array (fields.map .string)),
          ("query", .string query), ("type", .string "phrase")]) := by
  simp (disch := decide) [phraseClause, Clause.toJson, MultiMatch.toJson, MultiMatchKind.name,
    Json.optional, Binary64.canonical_toJson, Json.canonical, canonical_texts,
    Json.canonicalMembers, Members.offer_nil, Members.offer_cons_of_lt, Members.offer_cons_of_gt]

theorem canonical_phraseClause (query : String) (fields : List String) {tuning : Tuning}
    {boost : Binary64.Finite} (finite : tuning.phraseBoost = .finite boost) :
    (phraseClause query fields tuning).toJson.canonical = Wire.phrase query fields boost := by
  rw [canonical_phraseClause_boost, finite]
  rfl

theorem canonical_fuzzyClause (query : String) (fields : List String) (tuning : Tuning) :
    (fuzzyClause query fields tuning).toJson.canonical =
      Wire.words query fields tuning.fuzziness tuning.prefixLength := by
  simp (disch := decide) [fuzzyClause, Clause.toJson, MultiMatch.toJson, MultiMatchKind.name,
    Json.optional, Json.canonical, canonical_texts, Json.canonicalMembers, Members.offer_nil,
    Members.offer_cons_of_lt, Members.offer_cons_of_gt, Wire.words]

theorem canonical_filterClause (mode : FilterMode) (constraint : FieldConstraint) :
    (filterClause mode constraint).toJson.canonical = Wire.filter mode constraint := by
  cases mode with
  | exactTerm => exact Clause.canonical_toJson_term constraint.field constraint.operand
  | listAware => exact Clause.canonical_toJson_exactly constraint.field constraint.operand

theorem canonical_clauses (spec : RelevanceSpec) (mode : FilterMode) :
    (spec.clauses mode).map (fun clause => clause.toJson.canonical) =
      Wire.constraints spec mode := by
  simp only [clauses, Assembly.filterClauses, Assembly.clausesOf, List.map_append, List.map_map,
    Wire.constraints, Function.comp_def, canonical_filterClause, FieldConstraint.matchClause,
    Clause.canonical_toJson_matching]

theorem document_eq_paged (spec : RelevanceSpec) (tuning : Tuning) :
    spec.document tuning =
      .paged
        (.functionScore
          (.bool
            ⟨some [phraseClause spec.query spec.fields.phrase tuning,
              fuzzyClause spec.query spec.fields.fuzzy tuning], spec.clauses tuning.filterMode⟩)
          tuning.minScore)
        spec.page spec.sorts (spec.raw.getD .empty) := rfl

theorem searched_document (spec : RelevanceSpec) (tuning : Tuning) :
    (spec.document tuning).searched = [spec.fields.phrase, spec.fields.fuzzy] := by
  rw [document_eq_paged, RequestDocument.searched, RequestDocument.query_paged]
  rfl

/-- Every root key of the request of a relevance specification: a raw option wins, and apart from
that there are the scored query, the page and the sort, each where it is given. -/
theorem get?_toJson_document (spec : RelevanceSpec) (tuning : Tuning)
    {boost minScore : Binary64.Finite} (boost_finite : tuning.phraseBoost = .finite boost)
    (score_finite : tuning.minScore = .finite minScore) (key : String) :
    (spec.document tuning).toJson.get? key =
      ((spec.raw.getD .empty).get? key).or
        (Wire.root (Wire.relevance spec tuning boost minScore) (spec.page.map Wire.page)
          (spec.sorts.map fun keys => keys.map Wire.sortKey) key) := by
  have must := spec.canonical_clauses tuning.filterMode
  have phrase := canonical_phraseClause spec.query spec.fields.phrase boost_finite
  have words := canonical_fuzzyClause spec.query spec.fields.fuzzy tuning
  rw [document_eq_paged, RequestDocument.get?_toJson_paged]
  refine congrArg (fun query => Option.or _ (Wire.root query _ _ key)) ?_
  simp (disch := decide) [Query.toJson, BoolQuery.toJson, BoolQuery.clausesToJson, score_finite,
    Binary64.toJson, Json.optional, Json.canonical, Json.canonicalMembers,
    Json.canonicalItems_eq_map, Members.offer_nil, Members.offer_cons_of_gt, Function.comp_def,
    phrase, words, must, Wire.relevance]

/-- With the standard tuning a filter with a list is one exact value. -/
theorem get?_toJson_document_standard :
    Tuning.standard.phraseBoost = .finite ⟨false, ⟨0x4024000000000000, by decide⟩⟩ ∧
      Tuning.standard.minScore = .finite ⟨false, ⟨0x3FB999999999999A, by decide⟩⟩ ∧
      ({ empty with
        query := "red shoes"
        filters := some [⟨"tag", .list [.text "new", .bool true]⟩] }.document
          .standard).toJson.get? "query" =
        some (.single "function_score" (.object
          [("min_score", .number (.real ⟨false, ⟨0x3FB999999999999A, by decide⟩⟩)),
            ("query", .single "bool" (.object
              [("must", .array
                [.single "term" (.single "tag" (.array [.string "new", .bool true]))]),
                ("should", .array
                  [Wire.phrase "red shoes" [] ⟨false, ⟨0x4024000000000000, by decide⟩⟩,
                    Wire.words "red shoes" [] "AUTO" 1])]))])) :=
  ⟨Tuning.phraseBoost_standard, Tuning.minScore_standard,
    (get?_toJson_document _ .standard Tuning.phraseBoost_standard Tuning.minScore_standard
      "query").trans rfl⟩

end RelevanceSpec

end QueryAssembly
