import QueryAssembly.Request.Document

/-!
# Serialization of requests

A request reaches its finished tree by way of a serializer, which is told of every value what its
type makes of it (`Datum`) and may refuse: a key must have a text, and a number must fit its word.
-/

namespace QueryAssembly

/-- Why a serializer makes no tree. -/
inductive SerializeError where
  /-- A key is no text and nothing that is written as one. -/
  | keyNotText
  /-- A key is a floating point number that is not finite. -/
  | keyNotFinite
  /-- An integer is beyond 64 bits. -/
  | numberOutOfRange
  /-- The type of a value gave up with a message of its own. -/
  | refused (message : String)
deriving DecidableEq

/-- The wording of a failed serialization. -/
def SerializeError.message : SerializeError → String
  | .keyNotText => "key must be a string"
  | .keyNotFinite => "float key must be finite (got NaN or +/-inf)"
  | .numberOutOfRange => "number out of range"
  | .refused message => message

/-- What a serializer is told of a value. -/
inductive Datum where
  /-- Nothing. -/
  | null
  /-- A truth value. -/
  | bool (value : Bool)
  /-- An integer. -/
  | integer (value : Int)
  /-- A floating point number. -/
  | real (value : Binary64)
  /-- A text. -/
  | text (value : String)
  /-- A list of values. -/
  | list (items : List Datum)
  /-- Values under keys that are values themselves. -/
  | map (entries : List (Datum × Datum))
  /-- Values under the names of fields. -/
  | record (fields : List (String × Datum))
  /-- No value, because its type gave up. -/
  | refused (message : String)

namespace Datum

/-- The text of a key. -/
def keyText : Datum → Except SerializeError String
  | .text value => .ok value
  | .bool value => .ok (toString value)
  | .integer value => .ok (toString value)
  | .real (.finite value) => .ok (String.ofList value.characters)
  | .real _ => .error .keyNotFinite
  | .refused message => .error (.refused message)
  | .null | .list _ | .map _ | .record _ => .error .keyNotText

mutual

/-- The tree of a value: keys ascend at every depth, and of equal keys the last wins. -/
def tree : Datum → Except SerializeError Json
  | .null => .ok .null
  | .bool value => .ok (.bool value)
  | .integer value =>
    if bound : -0x8000000000000000 ≤ value ∧ value < 0x10000000000000000 then
      .ok (.number (.integer value bound.1 bound.2))
    else .error .numberOutOfRange
  | .real value => .ok value.toJson
  | .text value => .ok (.string value)
  | .list items => return .array (← itemTrees items)
  | .map entries => return .object (← entryTrees entries)
  | .record fields => return .object (← fieldTrees fields)
  | .refused message => .error (.refused message)

/-- The trees of items. -/
def itemTrees : List Datum → Except SerializeError (List Json)
  | [] => return []
  | item :: rest => return (← item.tree) :: (← itemTrees rest)

/-- The members of entries. -/
def entryTrees : List (Datum × Datum) → Except SerializeError (List (String × Json))
  | [] => return []
  | (key, value) :: rest => return Members.offer (← key.keyText) (← value.tree) (← entryTrees rest)

/-- The members of fields. -/
def fieldTrees : List (String × Datum) → Except SerializeError (List (String × Json))
  | [] => return []
  | (name, value) :: rest => return Members.offer name (← value.tree) (← fieldTrees rest)

end

/-- Values under texts. -/
def dictionary (entries : List (String × Datum)) : Datum :=
  .map (entries.map fun entry => (.text entry.1, entry.2))

/-- A value under a single text. -/
def entry (key : String) (value : Datum) : Datum := dictionary [(key, value)]

/-- A value under the name of its kind. -/
def variant (name : String) (value : Datum) : Datum := .record [(name, value)]

/-- A field that is skipped when it has no value. -/
def optional {α : Type} (name : String) (datum : α → Datum) : Option α → List (String × Datum)
  | none => []
  | some value => [(name, datum value)]

end Datum

namespace Json

/-- What a serializer is told of a number. -/
def Number.datum : Number → Datum
  | .integer value _ _ => .integer value
  | .real value => .real (.finite value)

mutual

/-- What a serializer is told of a tree. -/
def datum : Json → Datum
  | .null => .null
  | .bool value => .bool value
  | .number value => value.datum
  | .string value => .text value
  | .array items => .list (itemData items)
  | .object members => .dictionary (memberData members)

/-- What a serializer is told of items. -/
def itemData : List Json → List Datum
  | [] => []
  | item :: rest => item.datum :: itemData rest

/-- What a serializer is told of members. -/
def memberData : List (String × Json) → List (String × Datum)
  | [] => []
  | (key, value) :: rest => (key, value.datum) :: memberData rest

end

end Json

/-- What a serializer is told of a scalar. -/
def Scalar.datum : Scalar → Datum
  | .bool value => .bool value
  | .number value => value.datum
  | .text value => .text value

/-- What a serializer is told of an operand. -/
def Operand.datum : Operand → Datum
  | .list scalars => .list (scalars.map Scalar.datum)
  | .single scalar => scalar.datum

/-- What a serializer is told of a searched text. -/
def MultiMatch.datum (body : MultiMatch) : Datum :=
  .record <|
    [("query", .text body.query), ("type", .text body.kind.name),
      ("fields", .list (body.fields.map .text))] ++
    Datum.optional "boost" .real body.boost ++
    Datum.optional "fuzziness" .text body.fuzziness ++
    Datum.optional "prefix_length" (fun length => .integer length.toNat) body.prefixLength

/-- What a serializer is told of a clause. -/
def Clause.datum : Clause → Datum
  | .term field operand => .entry "term" (.entry field operand.datum)
  | .terms field scalars => .entry "terms" (.entry field (.list (scalars.map Scalar.datum)))
  | .matching field operand => .entry "match" (.entry field operand.datum)
  | .multiMatch body => .entry "multi_match" body.datum
  | .nested path inner => .entry "nested" (.record [("path", .text path), ("query", inner.datum)])

/-- What a serializer is told of a combination. -/
def BoolQuery.datum (body : BoolQuery) : Datum :=
  .record <|
    Datum.optional "should" (fun clauses => .list (clauses.map Clause.datum)) body.should ++
      [("must", .list (body.must.map Clause.datum))]

/-- What a serializer is told of a query. -/
def Query.datum : Query → Datum
  | .bool body => .variant "bool" body.datum
  | .functionScore query minScore =>
    .variant "function_score" (.record [("query", query.datum), ("min_score", .real minScore)])

/-- What a serializer is told of a sort directive. -/
def SortDirective.datum (directive : SortDirective) : Datum :=
  .entry directive.field <| .record <|
    [("order", .text directive.order.name)] ++
    Datum.optional "mode" (fun mode => .text mode.name) directive.mode ++
    Datum.optional "nested" (fun path => .record [("path", .text path)]) directive.nestedPath

/-- What a serializer is told of a sample. -/
def TopHits.datum (sample : TopHits) : Datum :=
  .record [("top_hits", .record
    [("sort", .list (sample.sort.map SortDirective.datum)), ("size", .integer sample.size.toNat),
      ("from", .integer sample.offset.toNat)])]

/-- What a serializer is told of a table. -/
def Table.datum {α : Type} (datum : α → Datum) (table : Table α) : Datum :=
  .dictionary (table.members.map fun member => (member.1, datum member.2))

/-- What a serializer is told of an aggregation. -/
def BucketAggregation.datum (aggregation : BucketAggregation) : Datum :=
  .record
    [("terms", .record
      [("field", .text aggregation.field), ("size", .integer aggregation.size.toNat),
        ("order", .record [("_key", .text aggregation.order.name)])]),
      ("aggs", aggregation.samples.datum TopHits.datum)]

namespace RequestDocument

variable (document : RequestDocument)

/-- What a serializer is told of the keys that assembly controls. -/
def knownDatum : Datum :=
  .record <|
    [("query", document.query.datum)] ++
    Datum.optional "from" (fun offset => .integer offset.toNat) document.offset ++
    Datum.optional "size" (fun size => .integer size.toNat) document.size ++
    Datum.optional "sort" (fun sort => .list (sort.map SortDirective.datum)) document.sort ++
    Datum.optional "aggs" (Table.datum BucketAggregation.datum) document.aggregations

/-- Render a request: the tree of the known keys, or an empty one where that is no object, with
the raw options on top. -/
def render : Except SerializeError Json := do
  let known ← document.knownDatum.tree
  let root :=
    match known with
    | .object members => members
    | _ => []
  return .object (Members.overlay root document.raw.members)

/-- What a serializer is told of a request: the rendered tree, or why there is none. -/
def datum : Datum :=
  match document.render with
  | .ok tree => tree.datum
  | .error error => .refused ("serialization error: " ++ error.message)

end RequestDocument

end QueryAssembly
