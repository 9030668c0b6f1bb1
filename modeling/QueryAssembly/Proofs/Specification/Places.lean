import QueryAssembly.Proofs.Assembly.Aggregate
import QueryAssembly.Proofs.Assembly.Scores
import QueryAssembly.Proofs.Building.Interleaving
import QueryAssembly.Proofs.Specification.Forms

/-!
# Where the parts of a specification stand in its request

A path leads to a part of a written specification, and another one to the same part of the request.
`SpecKind.CountPlace` pairs the paths of counts.  An operand stands in the clause of its constraint,
which has its place behind the clauses of earlier sections (`Specification.exists_at?_operandPath`).
-/

namespace QueryAssembly

open Assembly

namespace SpecKind

/-- The structure that a specification of a kind is. -/
def type : SpecKind → RecordType
  | .simple => .simple
  | .relevance => .relevance
  | .aggregate => .aggregate

theorem namesDiffer_shape (kind : SpecKind) : kind.type.shape.NamesDiffer := by
  cases kind with
  | simple => exact SimpleSpec.lossless_shape.namesDiffer
  | relevance => exact RelevanceSpec.lossless_shape.namesDiffer
  | aggregate => exact AggregateSpec.lossless_shape.namesDiffer

/-- The sections that become clauses, in the order of their clauses. -/
def sections : SpecKind → List String
  | .simple => ["filters", "matches", "nested_filters", "nested_matches"]
  | .relevance | .aggregate => ["filters", "matches"]

/-- The path of the clauses that must hold in a request. -/
def mustPath : SpecKind → List Json.Step
  | .simple | .aggregate => [.key "query", .key "bool", .key "must"]
  | .relevance =>
    [.key "query", .key "function_score", .key "query", .key "bool", .key "must"]

/-- The path of a count in a specification, and the root key and the path behind it where the count
stands in the request. -/
inductive CountPlace : SpecKind → List Json.Step → String → List Json.Step → Prop where
  /-- The number of documents before the page. -/
  | offset {kind : SpecKind} (paged : kind ≠ .aggregate) :
    CountPlace kind [.key "pagination", .key "from"] "from" []
  /-- The number of documents on the page. -/
  | size {kind : SpecKind} (paged : kind ≠ .aggregate) :
    CountPlace kind [.key "pagination", .key "size"] "size" []
  /-- The largest number of groups. -/
  | groups : CountPlace .aggregate [.key "aggs", .key "size"] "aggs"
    [.key "top_tags", .key "terms", .key "size"]
  /-- The number of documents shown of a group. -/
  | sample : CountPlace .aggregate [.key "top_hit", .key "size"] "aggs"
    [.key "top_tags", .key "aggs", .key "top_hit_items", .key "top_hits", .key "size"]

end SpecKind

namespace Specification

/-- A value of a kind as a specification. -/
def ofValue : (kind : SpecKind) → kind.type.Value → Specification
  | .simple, spec => .simple spec
  | .relevance, spec => .relevance spec
  | .aggregate, spec => .aggregate spec

variable {kind : SpecKind}

@[simp] theorem kind_ofValue (value : kind.type.Value) : (ofValue kind value).kind = kind := by
  cases kind <;> rfl

theorem toJson_ofValue (value : kind.type.Value) :
    (ofValue kind value).toJson = kind.type.shape.write value := by
  cases kind <;> rfl

theorem readText_ok_iff {text : String} {spec : Specification} :
    readText kind text = .ok spec ↔
      ∃ value, kind.type.shape.readText text = .ok value ∧ ofValue kind value = spec := by
  cases kind <;> exact map_ok_iff

end Specification

/-! ### Counts -/

namespace Specification

/-- The page of a specification of a kind that has pages. -/
def page : Specification → Option Page
  | .simple spec => spec.page
  | .relevance spec => spec.page
  | .aggregate _ => none

variable {spec : Specification} (paged : spec.kind ≠ .aggregate)

include paged

theorem at?_pagination (path : List Json.Step) :
    spec.toJson.at? (.key "pagination" :: path) =
      ((Shape.nullable Page.shape).write spec.page).at? path := by
  cases spec with
  | simple spec => rfl
  | relevance spec => rfl
  | aggregate spec => exact absurd rfl paged

theorem offset_document (tuning : Tuning) :
    (spec.document tuning).offset = spec.page.map Page.offset := by
  cases spec with
  | simple spec => exact RequestDocument.offset_paged ..
  | relevance spec => exact RequestDocument.offset_paged ..
  | aggregate spec => exact absurd rfl paged

theorem size_document (tuning : Tuning) :
    (spec.document tuning).size = spec.page.map Page.size := by
  cases spec with
  | simple spec => exact RequestDocument.size_paged ..
  | relevance spec => exact RequestDocument.size_paged ..
  | aggregate spec => exact absurd rfl paged

end Specification

theorem AggregateSpec.canonical_known?_aggs (spec : AggregateSpec) :
    (spec.document.known? "aggs").map Json.canonical =
      some (Wire.groups spec.bucket spec.sample) :=
  congrArg some (canonical_groups spec.bucket spec.sample)

/-- A count has the same number in a specification and in its request. -/
theorem SpecKind.CountPlace.at?_toJson {spec : Specification} {input inside : List Json.Step}
    {root : String} (place : CountPlace spec.kind input root inside) {tuning : Tuning}
    (apart : (spec.document tuning).raw.get? root = none) {number : Json.Number}
    (given : spec.toJson.at? input = some (.number number)) :
    (spec.document tuning).toJson.at? (.key root :: inside) = some (.number number) := by
  rw [Json.at?_key, RequestDocument.get?_toJson, apart, Option.none_or]
  generalize same : spec.kind = kind at place
  cases place with
  | offset paged =>
    subst same
    rw [Specification.at?_pagination paged] at given
    rw [RequestDocument.known?, Specification.offset_document paged]
    cases held : spec.page with
    | none =>
      rw [held] at given
      cases given
    | some page =>
      rw [held] at given
      cases given
      rfl
  | size paged =>
    subst same
    rw [Specification.at?_pagination paged] at given
    rw [RequestDocument.known?, Specification.size_document paged]
    cases held : spec.page with
    | none =>
      rw [held] at given
      cases given
    | some page =>
      rw [held] at given
      cases given
      rfl
  | groups | sample =>
    cases spec with
    | aggregate spec =>
      cases given
      exact congrArg (Option.bind · _) spec.canonical_known?_aggs
    | simple | relevance => cases same

namespace RelevanceSpec

/-- The path of the number of characters that tolerance leaves alone in a request. -/
def prefixLengthPath : List Json.Step :=
  [.key "query", .key "function_score", .key "query", .key "bool", .key "should", .item 1,
    .key "multi_match", .key "prefix_length"]

theorem at?_prefixLengthPath {spec : RelevanceSpec} {tuning : Tuning}
    (apart : (spec.document tuning).raw.get? "query" = none) :
    (spec.document tuning).toJson.at? prefixLengthPath =
      some (.number (.ofUInt32 tuning.prefixLength)) := by
  rw [prefixLengthPath, Json.at?_key, get?_query_of_apart apart, canonical_scored,
    canonical_fuzzyClause]
  rfl

end RelevanceSpec

/-! ### Operands -/

namespace Clause

/-- The path of the operand in a clause. -/
def operandPath : Clause → List Json.Step
  | .term field _ => [.key "term", .key field]
  | .terms field _ => [.key "terms", .key field]
  | .matching field _ => [.key "match", .key field]
  | .multiMatch _ => []
  | .nested _ inner => .key "nested" :: .key "query" :: inner.operandPath

/-- A clause has an operand at its path. -/
def Carries (clause : Clause) (operand : Json) : Prop :=
  clause.toJson.canonical.at? clause.operandPath = some operand

theorem carries_term (field : String) (operand : Operand) :
    (Clause.term field operand).Carries operand.toJson := by
  rw [Carries, canonical_toJson_term, operandPath, Wire.term]
  simp [Json.at?_key, Json.single, Members.last?_singleton]

theorem carries_matching (field : String) (operand : Operand) :
    (Clause.matching field operand).Carries operand.toJson := by
  rw [Carries, canonical_toJson_matching, operandPath, Wire.matching]
  simp [Json.at?_key, Json.single, Members.last?_singleton]

theorem carries_exactly (field : String) (operand : Operand) :
    (Clause.exactly field operand).Carries operand.toJson := by
  cases operand with
  | single scalar => exact carries_term field (.single scalar)
  | list scalars =>
    rw [Carries, canonical_toJson_exactly]
    simp [exactly, operandPath, Wire.exact, Operand.toJson, Wire.terms, Json.at?_key, Json.single,
      Members.last?_singleton]

theorem carries_nested (path : String) {inner : Clause} {operand : Json}
    (carries : inner.Carries operand) : (Clause.nested path inner).Carries operand := by
  rw [Carries, canonical_toJson_nested, operandPath, Wire.nested]
  exact carries

end Clause

namespace Assembly

variable {α : Type} {item : Shape α} {compile : α → Clause} {operand : α → Operand}

/-- The constraint in a place of a section becomes a clause with its operand. -/
theorem exists_clause_of_at? (carries : ∀ constraint,
      (compile constraint).Carries (operand constraint).toJson)
    (written : ∀ constraint, (item.write constraint).get? "value" =
      some (operand constraint).toJson)
    {items : Option (List α)} {index : Nat} {json : Json}
    (given : ((Shape.nullable (.list item)).write items).at? [.item index, .key "value"] =
      some json) :
    ∃ clause, (clausesOf compile items)[index]? = some clause ∧ clause.Carries json := by
  cases items with
  | none => cases given
  | some items =>
    rw [Json.at?_item, Shape.write, Shape.write, Json.items_array, List.getElem?_map,
      Option.bind_eq_some_iff] at given
    obtain ⟨_, found, given⟩ := given
    obtain ⟨constraint, here, rfl⟩ := Option.map_eq_some_iff.mp found
    rw [Json.at?_key, written] at given
    cases given
    refine ⟨compile constraint, ?_, carries constraint⟩
    rw [clausesOf_some, List.getElem?_map, here]
    rfl

end Assembly

theorem getElem?_flatten_of_getElem? {α : Type} {groups : List (List α)} {position index : Nat}
    {group : List α} {item : α} (here : groups[position]? = some group)
    (found : group[index]? = some item) :
    groups.flatten[((groups.map List.length).take position).sum + index]? = some item := by
  induction groups generalizing position with
  | nil => cases here
  | cons first rest ih =>
    cases position with
    | zero =>
      cases here
      have within : index < group.length := (List.getElem?_eq_some_iff.mp found).1
      simpa [List.getElem?_append_left within] using found
    | succ position =>
      have later := ih here
      have behind : ((first :: rest).map List.length |>.take (position + 1)).sum + index =
          first.length + (((rest.map List.length).take position).sum + index) := by
        simp [Nat.add_assoc]
      rw [behind, List.flatten_cons, List.getElem?_append_right (Nat.le_add_right ..),
        Nat.add_sub_cancel_left]
      exact later

namespace Specification

variable {spec : Specification} {tuning : Tuning}

/-- A constraint with an operand becomes a clause of its section's group with that operand. -/
theorem exists_clause_of_group {group index : Nat} {name : String}
    (named : spec.kind.sections[group]? = some name) {json : Json}
    (given : spec.toJson.at? [.key name, .item index, .key "value"] = some json) :
    ∃ clauses, (spec.clauseGroups tuning)[group]? = some clauses ∧
      ∃ clause, clauses[index]? = some clause ∧ clause.Carries json := by
  have exactly (constraint : FieldConstraint) :
      constraint.exactClause.Carries constraint.operand.toJson := Clause.carries_exactly ..
  have matching (constraint : FieldConstraint) :
      constraint.matchClause.Carries constraint.operand.toJson := Clause.carries_matching ..
  have nestedExactly (constraint : NestedConstraint) :
      constraint.exactClause.Carries constraint.operand.toJson :=
    Clause.carries_nested _ (Clause.carries_exactly ..)
  have nestedMatching (constraint : NestedConstraint) :
      constraint.matchClause.Carries constraint.operand.toJson :=
    Clause.carries_nested _ (Clause.carries_matching ..)
  have filter (mode : FilterMode) (constraint : FieldConstraint) :
      (RelevanceSpec.filterClause mode constraint).Carries constraint.operand.toJson := by
    cases mode with
    | exactTerm => exact Clause.carries_term ..
    | listAware => exact exactly constraint
  have plain (constraint : FieldConstraint) :
      (FieldConstraint.shape.write constraint).get? "value" = some constraint.operand.toJson := rfl
  have nested (constraint : NestedConstraint) :
      (NestedConstraint.shape.write constraint).get? "value" = some constraint.operand.toJson := rfl
  cases spec with
  | simple spec =>
    match group, named with
    | 0, rfl => exact ⟨_, rfl, exists_clause_of_at? exactly plain given⟩
    | 1, rfl => exact ⟨_, rfl, exists_clause_of_at? matching plain given⟩
    | 2, rfl => exact ⟨_, rfl, exists_clause_of_at? nestedExactly nested given⟩
    | 3, rfl => exact ⟨_, rfl, exists_clause_of_at? nestedMatching nested given⟩
  | relevance spec =>
    match group, named with
    | 0, rfl => exact ⟨_, rfl, exists_clause_of_at? (filter tuning.filterMode) plain given⟩
    | 1, rfl => exact ⟨_, rfl, exists_clause_of_at? matching plain given⟩
  | aggregate spec =>
    match group, named with
    | 0, rfl => exact ⟨_, rfl, exists_clause_of_at? exactly plain given⟩
    | 1, rfl => exact ⟨_, rfl, exists_clause_of_at? matching plain given⟩

theorem at?_mustPath (apart : (spec.document tuning).raw.get? "query" = none) :
    (spec.document tuning).toJson.at? spec.kind.mustPath =
      some (.array ((spec.document tuning).must.map fun clause => clause.toJson.canonical)) := by
  have query (path : List Json.Step) : (spec.document tuning).toJson.at? (.key "query" :: path) =
      (spec.document tuning).query.toJson.canonical.at? path := by
    rw [Json.at?_key, RequestDocument.get?_toJson, apart]
    rfl
  cases spec with
  | simple spec =>
    have bool : ((Specification.simple spec).document tuning).query =
        .bool ⟨none, spec.clauses⟩ := RequestDocument.query_paged ..
    refine (query _).trans ?_
    rw [RequestDocument.must, bool, SimpleSpec.canonical_query]
    rfl
  | relevance spec =>
    have scored : ((Specification.relevance spec).document tuning).query = spec.scored tuning :=
      RequestDocument.query_paged ..
    refine (query _).trans ?_
    rw [RequestDocument.must, scored, RelevanceSpec.canonical_scored]
    rfl
  | aggregate spec =>
    refine (query _).trans ?_
    rw [RequestDocument.must]
    exact congrArg (Json.at? _) (SimpleSpec.canonical_query spec.clauses)

/-- The operand of a constraint is found in its clause, and the clause in the request. -/
theorem exists_at?_operandPath (apart : (spec.document tuning).raw.get? "query" = none)
    {group index : Nat} {name : String} (named : spec.kind.sections[group]? = some name)
    {json : Json} (given : spec.toJson.at? [.key name, .item index, .key "value"] = some json) :
    ∃ clause, (spec.document tuning).must[(spec.groupSizes.take group).sum + index]? =
        some clause ∧
      (spec.document tuning).toJson.at? (spec.kind.mustPath ++
        .item ((spec.groupSizes.take group).sum + index) :: clause.operandPath) = some json := by
  obtain ⟨clauses, here, clause, found, carries⟩ := exists_clause_of_group named given
  have placed : (spec.document tuning).must[(spec.groupSizes.take group).sum + index]? =
      some clause := by
    rw [must_document, ← map_length_clauseGroups tuning]
    exact getElem?_flatten_of_getElem? here found
  refine ⟨clause, placed, ?_⟩
  rw [Json.at?_append, at?_mustPath apart, Option.bind_some, Json.at?_item, Json.items_array,
    List.getElem?_map, placed]
  exact carries

end Specification

end QueryAssembly
