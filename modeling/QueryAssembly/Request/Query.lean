import QueryAssembly.Request.Clause

/-!
# Queries

A query is a Boolean combination of clauses, perhaps wrapped so that documents below a score are
dropped.  However deep the wrapping, there is one innermost combination, which `mapInnermost`
changes.
-/

namespace QueryAssembly

/-- Clauses that a document must satisfy, and clauses that raise its score. -/
structure BoolQuery where
  /-- The clauses that raise the score. -/
  should : Option (List Clause)
  /-- The clauses that must hold. -/
  must : List Clause
deriving BEq

/-- The query of a request. -/
inductive Query where
  /-- A combination of clauses. -/
  | bool (body : BoolQuery)
  /-- A query whose documents need a least score. -/
  | functionScore (query : Query) (minScore : Binary64)
deriving BEq

namespace BoolQuery

/-- The combination that every document satisfies. -/
def empty : BoolQuery := ⟨none, []⟩

/-- The JSON form of clauses. -/
def clausesToJson (clauses : List Clause) : Json :=
  .array (clauses.map Clause.toJson)

/-- The JSON form of a combination. -/
def toJson (body : BoolQuery) : Json :=
  .object <|
    Json.optional "should" clausesToJson body.should ++ [("must", clausesToJson body.must)]

end BoolQuery

namespace Query

/-- The JSON form of a query. -/
def toJson : Query → Json
  | .bool body => .single "bool" body.toJson
  | .functionScore query minScore =>
    .single "function_score" (.object [("query", query.toJson), ("min_score", minScore.toJson)])

/-- The innermost combination. -/
def innermost : Query → BoolQuery
  | .bool body => body
  | .functionScore query _ => query.innermost

/-- Change the innermost combination. -/
def mapInnermost (change : BoolQuery → BoolQuery) : Query → Query
  | .bool body => .bool (change body)
  | .functionScore query minScore => .functionScore (query.mapInnermost change) minScore

end Query

end QueryAssembly
