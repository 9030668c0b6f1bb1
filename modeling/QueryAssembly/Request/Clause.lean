import QueryAssembly.Spec.Constraint

/-!
# Clauses

A clause is one condition of a query.  On the wire it is an object with a single key that names its
kind, so the kind of every clause can be told from its JSON form at any depth of nesting.  The
compilers turn the constraints of a specification into clauses.
-/

namespace QueryAssembly

/-- How the words of a searched text are combined. -/
inductive MultiMatchKind where
  /-- The words stand next to each other. -/
  | phrase
  /-- The scores of the fields are added up. -/
  | mostFields
deriving DecidableEq

namespace MultiMatchKind

/-- The name of a combination. -/
def name : MultiMatchKind → String
  | .phrase => "phrase"
  | .mostFields => "most_fields"

end MultiMatchKind

/-- A text searched in several fields. -/
structure MultiMatch where
  /-- The text searched for. -/
  query : String
  /-- How its words are combined. -/
  kind : MultiMatchKind
  /-- The fields in which it is searched. -/
  fields : List String
  /-- The weight of the clause. -/
  boost : Option Binary64
  /-- The tolerance for misspelling. -/
  fuzziness : Option String
  /-- The number of leading characters that tolerance leaves alone. -/
  prefixLength : Option UInt32
deriving BEq

/-- One condition of a query. -/
inductive Clause where
  /-- A field has an exact value. -/
  | term (field : String) (operand : Operand)
  /-- A field has one of several exact values. -/
  | terms (field : String) (scalars : List Scalar)
  /-- The analysed text of a field matches a value. -/
  | matching (field : String) (operand : Operand)
  /-- A text is found in several fields. -/
  | multiMatch (body : MultiMatch)
  /-- A nested object under a path satisfies a clause. -/
  | nested (path : String) (inner : Clause)
deriving BEq

namespace MultiMatch

/-- The JSON form of a searched text; what is not set is left out. -/
def toJson (body : MultiMatch) : Json :=
  .object <|
    [("query", .string body.query), ("type", .string body.kind.name),
      ("fields", .array (body.fields.map .string))] ++
    Json.optional "boost" Binary64.toJson body.boost ++
    Json.optional "fuzziness" .string body.fuzziness ++
    Json.optional "prefix_length" (fun length => .number (.ofUInt32 length)) body.prefixLength

end MultiMatch

namespace Clause

/-- The JSON form of a clause. -/
def toJson : Clause → Json
  | .term field operand => .single "term" (.single field operand.toJson)
  | .terms field scalars => .single "terms" (.single field (.array (scalars.map Scalar.toJson)))
  | .matching field operand => .single "match" (.single field operand.toJson)
  | .multiMatch body => .single "multi_match" body.toJson
  | .nested path inner =>
    .single "nested" (.object [("path", .string path), ("query", inner.toJson)])

/-- The clause of an exact constraint: `terms` for a list, `term` for a scalar. -/
def exactly (field : String) : Operand → Clause
  | .list scalars => .terms field scalars
  | .single scalar => .term field (.single scalar)

end Clause

namespace FieldConstraint

/-- The clause of a filter, which tells lists from scalars. -/
def exactClause (constraint : FieldConstraint) : Clause :=
  .exactly constraint.field constraint.operand

/-- The `term` clause of a filter, list or not. -/
def termClause (constraint : FieldConstraint) : Clause :=
  .term constraint.field constraint.operand

/-- The clause of a match. -/
def matchClause (constraint : FieldConstraint) : Clause :=
  .matching constraint.field constraint.operand

end FieldConstraint

namespace NestedConstraint

/-- The clause of a nested filter. -/
def exactClause (constraint : NestedConstraint) : Clause :=
  .nested constraint.path (.exactly constraint.key constraint.operand)

/-- The clause of a nested match. -/
def matchClause (constraint : NestedConstraint) : Clause :=
  .nested constraint.path (.matching constraint.key constraint.operand)

end NestedConstraint

end QueryAssembly
