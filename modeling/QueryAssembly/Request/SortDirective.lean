import QueryAssembly.Request.Clause
import QueryAssembly.Spec.Sort

/-!
# Sort directives

The wire form of a sort key: an object with the field as its single key, and under it the direction
and, for a key on nested objects, the mode and the path.
-/

namespace QueryAssembly

/-- One entry of the sort of a request. -/
structure SortDirective where
  /-- The name of the field. -/
  field : String
  /-- The direction. -/
  order : SortOrder
  /-- Which value of a nested list stands for the document. -/
  mode : Option SortMode
  /-- The path of the nested list. -/
  nestedPath : Option String
deriving DecidableEq

namespace SortDirective

/-- The JSON form of a sort directive; what is not set is left out. -/
def toJson (directive : SortDirective) : Json :=
  .single directive.field <| .object <|
    [("order", .string directive.order.name)] ++
    Json.optional "mode" (fun mode => .string mode.name) directive.mode ++
    Json.optional "nested" (fun path => .single "path" (.string path)) directive.nestedPath

/-- The JSON form of a sort. -/
def listToJson (directives : List SortDirective) : Json :=
  .array (directives.map toJson)

end SortDirective

namespace SortKey

/-- The directive of a sort key. -/
def directive (key : SortKey) : SortDirective where
  field := key.field
  order := key.order
  mode := key.nested.map NestedMarker.mode
  nestedPath := key.nested.map NestedMarker.path

end SortKey

end QueryAssembly
