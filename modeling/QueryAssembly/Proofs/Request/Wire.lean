import QueryAssembly.Assembly.Basic
import QueryAssembly.Proofs.Request.Root

/-!
# The wire form of clauses and sorts

The trees that a finished request is made of, with their keys in ascending order: `Wire` builds them
from names and values, and the canonical JSON form of every clause and sort directive is the tree
that `Wire` builds from its parts.
-/

namespace QueryAssembly

namespace Wire

/-- A field has an exact value. -/
def term (field : String) (value : Json) : Json :=
  .single "term" (.single field value)

/-- A field has one of several exact values. -/
def terms (field : String) (values : Json) : Json :=
  .single "terms" (.single field values)

/-- The analysed text of a field matches a value. -/
def matching (field : String) (value : Json) : Json :=
  .single "match" (.single field value)

/-- A field has a value exactly: one of a list, or the value itself. -/
def exact (field : String) (value : Json) : Json :=
  match value with
  | .array _ => terms field value
  | _ => term field value

/-- A nested object under a path satisfies a clause. -/
def nested (path : String) (clause : Json) : Json :=
  .single "nested" (.object [("path", .string path), ("query", clause)])

/-- A sort by a field, with the path and the mode of a key on nested objects. -/
def sortDirective (field order : String) (marker : Option (String × String)) : Json :=
  .single field <| .object <|
    match marker with
    | none => [("order", .string order)]
    | some (path, mode) =>
      [("mode", .string mode), ("nested", .single "path" (.string path)), ("order", .string order)]

/-- The sort by a key. -/
def sortKey (key : SortKey) : Json :=
  sortDirective key.field key.order.name
    (key.nested.map fun marker => (marker.path, marker.mode.name))

/-- The offset and the size of a page. -/
def page (page : Page) : Json × Json :=
  (.number (.ofUInt64 page.offset), .number (.ofUInt64 page.size))

/-- What a request without aggregations holds under a root key, raw options apart. -/
def root (query : Json) (page : Option (Json × Json)) (sorts : Option (List Json))
    (key : String) : Option Json :=
  match key with
  | "query" => some query
  | "from" => page.map Prod.fst
  | "size" => page.map Prod.snd
  | "sort" => sorts.map .array
  | _ => none

end Wire

@[simp] theorem Json.canonical_single (key : String) (value : Json) :
    (Json.single key value).canonical = .single key value.canonical := rfl

@[simp] theorem Json.canonical_string (value : String) :
    (Json.string value).canonical = .string value := rfl

@[simp] theorem Json.canonical_array (items : List Json) :
    (Json.array items).canonical = .array (items.map Json.canonical) :=
  congrArg Json.array (canonicalItems_eq_map items)

theorem Binary64.canonical_toJson (value : Binary64) : value.toJson.canonical = value.toJson := by
  cases value <;> rfl

@[simp] theorem Scalar.canonical_toJson (scalar : Scalar) :
    scalar.toJson.canonical = scalar.toJson := by
  cases scalar <;> rfl

@[simp] theorem Operand.canonical_toJson (operand : Operand) :
    operand.toJson.canonical = operand.toJson := by
  cases operand with
  | list scalars => simp [toJson]
  | single scalar => exact scalar.canonical_toJson

namespace Clause

theorem canonical_toJson_term (field : String) (operand : Operand) :
    (Clause.term field operand).toJson.canonical = Wire.term field operand.toJson := by
  simp [toJson, Wire.term]

theorem canonical_toJson_matching (field : String) (operand : Operand) :
    (Clause.matching field operand).toJson.canonical = Wire.matching field operand.toJson := by
  simp [toJson, Wire.matching]

theorem canonical_toJson_exactly (field : String) (operand : Operand) :
    (Clause.exactly field operand).toJson.canonical = Wire.exact field operand.toJson := by
  cases operand with
  | list scalars =>
    have unchanged : Json.canonical ∘ Scalar.toJson = Scalar.toJson :=
      funext Scalar.canonical_toJson
    simp [exactly, toJson, Operand.toJson, Wire.exact, Wire.terms, unchanged]
  | single scalar =>
    rw [exactly, canonical_toJson_term]
    cases scalar <;> rfl

theorem canonical_toJson_nested (path : String) (inner : Clause) :
    (Clause.nested path inner).toJson.canonical = Wire.nested path inner.toJson.canonical := by
  simp (disch := decide) only [toJson, Wire.nested, Json.canonical_single, Json.canonical,
    Json.canonicalMembers, Members.offer_nil, Members.offer_cons_of_lt]

end Clause

theorem SortKey.canonical_directive (key : SortKey) :
    key.directive.toJson.canonical = Wire.sortKey key := by
  obtain ⟨field, order, marker⟩ := key
  cases marker with
  | none => rfl
  | some marker =>
    show Json.single field (.object (Json.canonicalMembers
      [("order", .string order.name), ("mode", .string marker.mode.name),
        ("nested", .single "path" (.string marker.path))])) = _
    simp (disch := decide) only [Json.canonicalMembers, Json.canonical_single, Json.canonical,
      Members.offer_nil, Members.offer_cons_of_lt, Members.offer_cons_of_gt]
    rfl

theorem SortDirective.canonical_listToJson (keys : List SortKey) :
    (listToJson (keys.map SortKey.directive)).canonical = .array (keys.map Wire.sortKey) := by
  have each : Json.canonical ∘ toJson ∘ SortKey.directive = Wire.sortKey :=
    funext SortKey.canonical_directive
  simp only [listToJson, Json.canonical_array, List.map_map, each]

namespace RequestDocument

/-- The document of a query with a page, a sort and raw options. -/
def paged (query : Query) (page : Option Page) (sorts : Option (List SortKey))
    (raw : RawOptions) : RequestDocument :=
  { ((ofQuery query).paginate page).sortBy sorts with raw := raw }

section

variable (query : Query) (page : Option Page) (sorts : Option (List SortKey)) (raw : RawOptions)

@[simp] theorem query_paged : (paged query page sorts raw).query = query := by
  cases page <;> rfl

@[simp] theorem offset_paged : (paged query page sorts raw).offset = page.map Page.offset := by
  cases page <;> rfl

@[simp] theorem size_paged : (paged query page sorts raw).size = page.map Page.size := by
  cases page <;> rfl

@[simp] theorem sort_paged :
    (paged query page sorts raw).sort = sorts.map fun keys => keys.map SortKey.directive := by
  cases page <;> rfl

@[simp] theorem aggregations_paged : (paged query page sorts raw).aggregations = none := by
  cases page <;> rfl

end

theorem get?_toJson_paged (query : Query) (page : Option Page) (sorts : Option (List SortKey))
    (raw : RawOptions) (key : String) :
    (paged query page sorts raw).toJson.get? key =
      (raw.get? key).or
        (Wire.root query.toJson.canonical (page.map Wire.page)
          (sorts.map fun keys => keys.map Wire.sortKey) key) := by
  rw [get?_toJson]
  refine congrArg (Option.or _) ?_
  unfold known? Wire.root
  rw [query_paged, offset_paged, size_paged, sort_paged, aggregations_paged]
  split
  case h_1 => rfl
  case h_2 => cases page <;> rfl
  case h_3 => cases page <;> rfl
  case h_4 =>
    cases sorts with
    | none => rfl
    | some keys => exact congrArg some (SortDirective.canonical_listToJson keys)
  case h_5 => rfl
  case h_6 => simp_all

end RequestDocument

end QueryAssembly
