import QueryAssembly.Proofs.Request.Root
import QueryAssembly.Request.Serialization

/-!
# Requests serialize to their trees

Nothing that a request holds is refused by a serializer, so the tree of every part is its JSON form
in canonical order, and the finished tree serializes to itself.
-/

namespace QueryAssembly

namespace Datum

/-- The tree of a value is a JSON value in canonical order. -/
def Gives (datum : Datum) (json : Json) : Prop := datum.tree = .ok json.canonical

/-- Fields have the names and the trees of members, one by one. -/
def FieldsGive : List (String × Datum) → List (String × Json) → Prop :=
  List.Forall₂ fun field member => field.1 = member.1 ∧ field.2.Gives member.2

variable {α : Type} {datum : α → Datum} {toJson : α → Json}

theorem gives_text (value : String) : (text value).Gives (.string value) := rfl

theorem gives_real (value : Binary64) : (real value).Gives value.toJson := by
  cases value <;> rfl

theorem gives_integer {value : Int} (lower : -0x8000000000000000 ≤ value)
    (upper : value < 0x10000000000000000) :
    (integer value).Gives (.number (.integer value lower upper)) :=
  dif_pos ⟨lower, upper⟩

theorem gives_ofUInt64 (value : UInt64) :
    (integer value.toNat).Gives (.number (.ofUInt64 value)) :=
  gives_integer _ _

theorem gives_ofUInt32 (value : UInt32) :
    (integer value.toNat).Gives (.number (.ofUInt32 value)) :=
  gives_integer _ _

theorem itemTrees_map (gives : ∀ value, (datum value).Gives (toJson value)) (values : List α) :
    itemTrees (values.map datum) = .ok (values.map fun value => (toJson value).canonical) := by
  induction values with
  | nil => rfl
  | cons value rest ih =>
    rw [List.map_cons, itemTrees, gives value, ih]
    rfl

theorem gives_list (gives : ∀ value, (datum value).Gives (toJson value)) (values : List α) :
    (list (values.map datum)).Gives (.array (values.map toJson)) := by
  rw [Gives, tree, itemTrees_map gives, Json.canonical, Json.canonicalItems_eq_map, List.map_map]
  rfl

theorem fieldTrees_of_give {fields : List (String × Datum)} {members : List (String × Json)}
    (give : FieldsGive fields members) :
    fieldTrees fields = .ok (Json.canonicalMembers members) := by
  induction give with
  | nil => rfl
  | @cons field member fields members here _ ih =>
    obtain ⟨name, value⟩ := field
    obtain ⟨key, json⟩ := member
    obtain ⟨rfl, gives⟩ := here
    rw [fieldTrees, gives, ih]
    rfl

theorem gives_record {fields : List (String × Datum)} {members : List (String × Json)}
    (give : FieldsGive fields members) : (record fields).Gives (.object members) := by
  rw [Gives, tree, fieldTrees_of_give give]
  rfl

theorem entryTrees_texts (entries : List (String × Datum)) :
    entryTrees (entries.map fun entry => (.text entry.1, entry.2)) = fieldTrees entries := by
  induction entries with
  | nil => rfl
  | cons entry rest ih =>
    rw [List.map_cons, entryTrees, fieldTrees, ih]
    rfl

theorem gives_dictionary {entries : List (String × Datum)} {members : List (String × Json)}
    (give : FieldsGive entries members) : (dictionary entries).Gives (.object members) := by
  rw [Gives, dictionary, tree, entryTrees_texts, fieldTrees_of_give give]
  rfl

theorem fieldsGive_single (name : String) {value : Datum} {json : Json} (gives : value.Gives json) :
    FieldsGive [(name, value)] [(name, json)] :=
  .cons ⟨rfl, gives⟩ .nil

theorem fieldsGive_optional (name : String) (gives : ∀ value, (datum value).Gives (toJson value))
    (value : Option α) :
    FieldsGive (optional name datum value) (Json.optional name toJson value) := by
  cases value with
  | none => exact .nil
  | some value => exact fieldsGive_single name (gives value)

theorem FieldsGive.append {first second : List (String × Datum)}
    {left right : List (String × Json)} (before : FieldsGive first left)
    (after : FieldsGive second right) : FieldsGive (first ++ second) (left ++ right) :=
  List.rel_append before after

theorem gives_entry (key : String) {value : Datum} {json : Json} (gives : value.Gives json) :
    (entry key value).Gives (.single key json) :=
  gives_dictionary (fieldsGive_single key gives)

theorem gives_variant (name : String) {value : Datum} {json : Json} (gives : value.Gives json) :
    (variant name value).Gives (.single name json) :=
  gives_record (fieldsGive_single name gives)

end Datum

/-! ### JSON values -/

namespace Json

theorem Number.gives_datum (value : Number) : value.datum.Gives (.number value) := by
  cases value with
  | integer value lower upper => exact Datum.gives_integer lower upper
  | real value => rfl

mutual

theorem gives_datum : (json : Json) → json.datum.Gives json
  | .null | .bool _ | .string _ => rfl
  | .number value => value.gives_datum
  | .array items => by
    rw [Datum.Gives, datum, Datum.tree, itemTrees_itemData items]
    rfl
  | .object members => Datum.gives_dictionary (fieldsGive_memberData members)

theorem itemTrees_itemData :
    (items : List Json) → Datum.itemTrees (itemData items) = .ok (canonicalItems items)
  | [] => rfl
  | item :: rest => by
    rw [itemData, Datum.itemTrees, gives_datum item, itemTrees_itemData rest]
    rfl

theorem fieldsGive_memberData :
    (members : List (String × Json)) → Datum.FieldsGive (memberData members) members
  | [] => .nil
  | (_, value) :: rest => .cons ⟨rfl, gives_datum value⟩ (fieldsGive_memberData rest)

end

end Json

/-! ### Clauses and queries -/

theorem Scalar.gives_datum (scalar : Scalar) : scalar.datum.Gives scalar.toJson := by
  cases scalar with
  | bool value => rfl
  | number value => exact value.gives_datum
  | text value => rfl

theorem Operand.gives_datum (operand : Operand) : operand.datum.Gives operand.toJson := by
  cases operand with
  | list scalars => exact Datum.gives_list Scalar.gives_datum scalars
  | single scalar => exact scalar.gives_datum

theorem MultiMatch.gives_datum (body : MultiMatch) : body.datum.Gives body.toJson := by
  refine Datum.gives_record (.append (.append (.append ?_ ?_) ?_) ?_)
  · exact .cons ⟨rfl, rfl⟩ (.cons ⟨rfl, rfl⟩
      (Datum.fieldsGive_single "fields" (Datum.gives_list Datum.gives_text body.fields)))
  · exact Datum.fieldsGive_optional "boost" Datum.gives_real body.boost
  · exact Datum.fieldsGive_optional "fuzziness" Datum.gives_text body.fuzziness
  · exact Datum.fieldsGive_optional "prefix_length" Datum.gives_ofUInt32 body.prefixLength

theorem Clause.gives_datum (clause : Clause) : clause.datum.Gives clause.toJson := by
  induction clause with
  | term field operand =>
    exact Datum.gives_entry "term" (Datum.gives_entry field operand.gives_datum)
  | terms field scalars =>
    exact Datum.gives_entry "terms"
      (Datum.gives_entry field (Datum.gives_list Scalar.gives_datum scalars))
  | matching field operand =>
    exact Datum.gives_entry "match" (Datum.gives_entry field operand.gives_datum)
  | multiMatch body => exact Datum.gives_entry "multi_match" body.gives_datum
  | nested path inner ih =>
    exact Datum.gives_entry "nested"
      (Datum.gives_record (.cons ⟨rfl, rfl⟩ (Datum.fieldsGive_single "query" ih)))

theorem BoolQuery.gives_datum (body : BoolQuery) : body.datum.Gives body.toJson := by
  have clauses := Datum.gives_list Clause.gives_datum
  exact Datum.gives_record (.append (Datum.fieldsGive_optional "should" clauses body.should)
    (Datum.fieldsGive_single "must" (clauses body.must)))

theorem Query.gives_datum (query : Query) : query.datum.Gives query.toJson := by
  induction query with
  | bool body => exact Datum.gives_variant "bool" body.gives_datum
  | functionScore query minScore ih =>
    exact Datum.gives_variant "function_score" (Datum.gives_record
      (.cons ⟨rfl, ih⟩ (Datum.fieldsGive_single "min_score" (Datum.gives_real minScore))))

/-! ### Sorts and aggregations -/

theorem SortDirective.gives_datum (directive : SortDirective) :
    directive.datum.Gives directive.toJson := by
  refine Datum.gives_entry directive.field (Datum.gives_record (.append (.append ?_ ?_) ?_))
  · exact Datum.fieldsGive_single "order" (Datum.gives_text _)
  · exact Datum.fieldsGive_optional "mode" (fun mode => Datum.gives_text mode.name) directive.mode
  · exact Datum.fieldsGive_optional "nested"
      (fun path => Datum.gives_variant "path" (Datum.gives_text path)) directive.nestedPath

theorem TopHits.gives_datum (sample : TopHits) : sample.datum.Gives sample.toJson :=
  Datum.gives_variant "top_hits" (Datum.gives_record
    (.cons ⟨rfl, Datum.gives_list SortDirective.gives_datum sample.sort⟩
      (.cons ⟨rfl, Datum.gives_ofUInt64 sample.size⟩
        (Datum.fieldsGive_single "from" (Datum.gives_ofUInt64 sample.offset)))))

theorem Table.gives_datum {α : Type} {datum : α → Datum} {toJson : α → Json}
    (gives : ∀ value, (datum value).Gives (toJson value)) (table : Table α) :
    (table.datum datum).Gives
      (.object (table.members.map fun member => (member.1, toJson member.2))) := by
  refine Datum.gives_dictionary ?_
  rw [Datum.FieldsGive, List.forall₂_map_left_iff, List.forall₂_map_right_iff, List.forall₂_same]
  exact fun member _ => ⟨rfl, gives member.2⟩

theorem BucketAggregation.gives_datum (aggregation : BucketAggregation) :
    aggregation.datum.Gives aggregation.toJson := by
  have order := Datum.gives_variant "_key" (Datum.gives_text aggregation.order.name)
  have samples := Table.gives_datum TopHits.gives_datum aggregation.samples
  refine Datum.gives_record (.cons ⟨rfl, Datum.gives_record ?_⟩
    (Datum.fieldsGive_single "aggs" samples))
  exact .cons ⟨rfl, Datum.gives_text aggregation.field⟩
    (.cons ⟨rfl, Datum.gives_ofUInt64 aggregation.size⟩ (Datum.fieldsGive_single "order" order))

/-! ### Requests -/

namespace RequestDocument

variable (document : RequestDocument)

theorem gives_knownDatum : document.knownDatum.Gives (.object document.knownMembers) := by
  refine Datum.gives_record (.append (.append (.append (.append ?_ ?_) ?_) ?_) ?_)
  · exact Datum.fieldsGive_single "query" document.query.gives_datum
  · exact Datum.fieldsGive_optional "from" Datum.gives_ofUInt64 document.offset
  · exact Datum.fieldsGive_optional "size" Datum.gives_ofUInt64 document.size
  · exact Datum.fieldsGive_optional "sort" (Datum.gives_list SortDirective.gives_datum)
      document.sort
  · exact Datum.fieldsGive_optional "aggs" (Table.gives_datum BucketAggregation.gives_datum)
      document.aggregations

/-- Rendering a request never fails: it gives the finished tree. -/
theorem render_eq_ok : document.render = .ok document.toJson := by
  rw [render, document.gives_knownDatum]
  rfl

/-- A request serializes to its finished tree. -/
theorem tree_datum : document.datum.tree = .ok document.toJson := by
  rw [datum, render_eq_ok]
  have gives := document.toJson.gives_datum
  rwa [Datum.Gives, Json.canonical_eq_of_isCanonical document.isCanonical_toJson] at gives

end RequestDocument

end QueryAssembly
