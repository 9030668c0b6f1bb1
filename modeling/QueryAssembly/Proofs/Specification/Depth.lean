import QueryAssembly.Proofs.Assembly.Relevance
import QueryAssembly.Proofs.Assembly.Simple
import QueryAssembly.Proofs.Json.Depth
import QueryAssembly.Proofs.Specification.Shapes

/-!
# How deep a document is

What assembly writes by itself is at most nine levels deep under the root.  Raw options may be as
deep as a text allows, but on their way from the text to the root of the document they lose the
level of their section, which is the level that the root adds.  So the document of a specification
read from a text is never too deep to be read back.
-/

namespace QueryAssembly

namespace Json

variable {bound : Nat}

theorem depth_le_of_flat {json : Json} (flat : json.depth = 0) : json.depth ≤ bound := by
  rw [flat]
  exact Nat.zero_le bound

theorem itemsDepth_le_iff {items : List Json} :
    itemsDepth items ≤ bound ↔ ∀ item ∈ items, item.depth ≤ bound := by
  induction items with
  | nil => simp [itemsDepth]
  | cons item rest ih => rw [itemsDepth, Nat.max_le, ih, List.forall_mem_cons]

theorem membersDepth_cons_le_iff {key : String} {value : Json} {rest : List (String × Json)} :
    membersDepth ((key, value) :: rest) ≤ bound ↔
      value.depth ≤ bound ∧ membersDepth rest ≤ bound :=
  Nat.max_le

theorem membersDepth_le_iff {members : List (String × Json)} :
    membersDepth members ≤ bound ↔ ∀ member ∈ members, member.2.depth ≤ bound := by
  induction members with
  | nil => simp [membersDepth]
  | cons member rest ih => rw [membersDepth_cons_le_iff, ih, List.forall_mem_cons]

theorem membersDepth_append_le_iff {first second : List (String × Json)} :
    membersDepth (first ++ second) ≤ bound ↔
      membersDepth first ≤ bound ∧ membersDepth second ≤ bound := by
  simp only [membersDepth_le_iff, List.mem_append, or_imp, forall_and]

theorem membersDepth_optional_le {α : Type} {key : String} {toJson : α → Json} {value : Option α}
    (each : ∀ held, value = some held → (toJson held).depth ≤ bound) :
    membersDepth (optional key toJson value) ≤ bound := by
  cases value with
  | none => exact Nat.zero_le bound
  | some held => exact membersDepth_cons_le_iff.mpr ⟨each held rfl, Nat.zero_le bound⟩

@[simp] theorem depth_single (key : String) (value : Json) :
    (single key value).depth = value.depth + 1 := by
  simp [single, depth, membersDepth]

theorem depth_array_le_iff {items : List Json} :
    (Json.array items).depth ≤ bound + 1 ↔ ∀ item ∈ items, item.depth ≤ bound := by
  rw [depth, Nat.add_le_add_iff_right, itemsDepth_le_iff]

theorem depth_array_map_le {α : Type} {toJson : α → Json} {items : List α}
    (each : ∀ item ∈ items, (toJson item).depth ≤ bound) :
    (Json.array (items.map toJson)).depth ≤ bound + 1 := by
  rw [depth_array_le_iff]
  intro written inside
  obtain ⟨item, found, rfl⟩ := List.mem_map.mp inside
  exact each item found

theorem depth_object_le_iff {members : List (String × Json)} :
    (Json.object members).depth ≤ bound + 1 ↔ membersDepth members ≤ bound := by
  rw [depth, Nat.add_le_add_iff_right]

theorem membersDepth_put_le (key : String) (value : Json) (members : List (String × Json)) :
    membersDepth (Members.put key value members) ≤ max value.depth (membersDepth members) := by
  induction members with
  | nil => simp [Members.put, membersDepth]
  | cons member rest ih =>
    obtain ⟨first, held⟩ := member
    simp only [Members.put]
    split
    · simp [membersDepth]
    · split <;> simp only [membersDepth] <;> omega

theorem membersDepth_overlay_le {base upper : List (String × Json)}
    (below : membersDepth base ≤ bound) (above : membersDepth upper ≤ bound) :
    membersDepth (Members.overlay base upper) ≤ bound := by
  induction upper generalizing base with
  | nil => exact below
  | cons member rest ih =>
    obtain ⟨first, others⟩ := membersDepth_cons_le_iff.mp above
    have put := membersDepth_put_le member.1 member.2 base
    have here : membersDepth (Members.put member.1 member.2 base) ≤ bound :=
      Nat.le_trans put (Nat.max_le.mpr ⟨first, below⟩)
    exact ih here others

end Json

open Json

/-! ### Parts of a request -/

theorem Scalar.depth_toJson (scalar : Scalar) : scalar.toJson.depth = 0 := by
  cases scalar <;> rfl

theorem Scalar.depth_listToJson_le (scalars : List Scalar) :
    (Json.array (scalars.map Scalar.toJson)).depth ≤ 1 :=
  depth_array_map_le fun scalar _ => depth_le_of_flat scalar.depth_toJson

theorem Operand.depth_toJson_le (operand : Operand) : operand.toJson.depth ≤ 1 := by
  cases operand with
  | single scalar => exact depth_le_of_flat scalar.depth_toJson
  | list scalars => exact Scalar.depth_listToJson_le scalars

theorem Binary64.depth_toJson (value : Binary64) : value.toJson.depth = 0 := by
  cases value <;> rfl

theorem MultiMatch.depth_toJson_le (body : MultiMatch) : body.toJson.depth ≤ 2 := by
  have fields : (Json.array (body.fields.map .string)).depth ≤ 1 :=
    depth_array_map_le fun _ _ => Nat.le_refl 0
  rw [toJson, depth_object_le_iff]
  simp only [membersDepth_append_le_iff, membersDepth_cons_le_iff]
  refine ⟨⟨⟨⟨Nat.zero_le 1, Nat.zero_le 1, fields, Nat.zero_le 1⟩, ?_⟩, ?_⟩, ?_⟩
  · exact membersDepth_optional_le fun boost _ => depth_le_of_flat boost.depth_toJson
  · exact membersDepth_optional_le fun _ _ => Nat.zero_le 1
  · exact membersDepth_optional_le fun _ _ => Nat.zero_le 1

namespace Clause

/-- The number of nested clauses around the innermost one. -/
def nesting : Clause → Nat
  | .nested _ inner => inner.nesting + 1
  | .term _ _ | .terms _ _ | .matching _ _ | .multiMatch _ => 0

/-- A clause takes three levels, and two more for every nested clause around it. -/
theorem depth_toJson_le (clause : Clause) : clause.toJson.depth ≤ 2 * clause.nesting + 3 := by
  induction clause with
  | term field operand | matching field operand =>
    have := operand.depth_toJson_le
    simp only [toJson, depth_single, nesting]
    omega
  | terms field scalars =>
    have := Scalar.depth_listToJson_le scalars
    simp only [toJson, depth_single, nesting]
    omega
  | multiMatch body =>
    have := body.depth_toJson_le
    simp only [toJson, depth_single, nesting]
    omega
  | nested path inner ih =>
    simp only [toJson, depth_single, depth, membersDepth, nesting]
    omega

theorem nesting_exactly (field : String) (operand : Operand) :
    (Clause.exactly field operand).nesting = 0 := by
  cases operand <;> rfl

end Clause

theorem SortDirective.depth_toJson_le (directive : SortDirective) :
    directive.toJson.depth ≤ 3 := by
  rw [toJson, depth_single, Nat.add_le_add_iff_right, depth_object_le_iff]
  simp only [membersDepth_append_le_iff, membersDepth_cons_le_iff]
  refine ⟨⟨⟨Nat.zero_le 1, Nat.zero_le 1⟩, ?_⟩, ?_⟩
  · exact membersDepth_optional_le fun _ _ => Nat.zero_le 1
  · exact membersDepth_optional_le fun path _ => Nat.le_of_eq (depth_single "path" (.string path))

theorem SortDirective.depth_listToJson_le (directives : List SortDirective) :
    (listToJson directives).depth ≤ 4 :=
  depth_array_map_le fun directive _ => directive.depth_toJson_le

theorem TopHits.depth_toJson_le (sample : TopHits) : sample.toJson.depth ≤ 6 := by
  rw [toJson, depth_single, Nat.add_le_add_iff_right, depth_object_le_iff]
  simp only [membersDepth_cons_le_iff]
  exact ⟨SortDirective.depth_listToJson_le sample.sort, Nat.zero_le 4, Nat.zero_le 4,
    Nat.zero_le 4⟩

theorem BucketAggregation.depth_toJson_le (aggregation : BucketAggregation) :
    aggregation.toJson.depth ≤ 8 := by
  have samples : (Json.object (aggregation.samples.members.map fun sample =>
      (sample.1, sample.2.toJson))).depth ≤ 7 := by
    rw [depth_object_le_iff, membersDepth_le_iff]
    intro member inside
    obtain ⟨sample, -, rfl⟩ := List.mem_map.mp inside
    exact sample.2.depth_toJson_le
  rw [toJson, depth_object_le_iff]
  simp only [membersDepth_cons_le_iff]
  refine ⟨?_, samples, Nat.zero_le 7⟩
  rw [depth_object_le_iff]
  simp only [membersDepth_cons_le_iff, depth_single]
  exact ⟨Nat.zero_le 6, Nat.zero_le 6, by simp [depth], Nat.zero_le 6⟩

theorem BoolQuery.depth_toJson_le {body : BoolQuery} {bound : Nat}
    (should : ∀ clause ∈ body.should.getD [], clause.nesting ≤ bound)
    (must : ∀ clause ∈ body.must, clause.nesting ≤ bound) :
    body.toJson.depth ≤ 2 * bound + 5 := by
  have clauses {clauses : List Clause} (each : ∀ clause ∈ clauses, clause.nesting ≤ bound) :
      (clausesToJson clauses).depth ≤ 2 * bound + 4 := by
    apply depth_array_map_le
    intro clause inside
    have := clause.depth_toJson_le
    have := each clause inside
    omega
  rw [toJson, depth_object_le_iff, membersDepth_append_le_iff]
  constructor
  · apply membersDepth_optional_le
    intro held given
    rw [given] at should
    exact clauses should
  · exact membersDepth_cons_le_iff.mpr ⟨clauses must, Nat.zero_le _⟩

/-- The number of wrappers around the innermost combination. -/
def Query.wrappers : Query → Nat
  | .bool _ => 0
  | .functionScore query _ => query.wrappers + 1

theorem Query.depth_toJson_le (query : Query) (bound : Nat)
    (should : ∀ clause ∈ query.innermost.should.getD [], clause.nesting ≤ bound)
    (must : ∀ clause ∈ query.innermost.must, clause.nesting ≤ bound) :
    query.toJson.depth ≤ 2 * query.wrappers + 2 * bound + 6 := by
  induction query with
  | bool body =>
    have := body.depth_toJson_le should must
    simp only [toJson, depth_single, wrappers]
    omega
  | functionScore query minScore ih =>
    have inner := ih should must
    have score := minScore.depth_toJson
    simp only [toJson, depth_single, depth, membersDepth, wrappers]
    omega

/-! ### Documents -/

/-- A document whose query and raw options are not too deep is at most one level deeper. -/
theorem RequestDocument.depth_toJson_le {document : RequestDocument} {bound : Nat}
    (room : 9 ≤ bound) (query : document.query.toJson.depth ≤ bound)
    (raw : membersDepth document.raw.members ≤ bound) : document.toJson.depth ≤ bound + 1 := by
  have known : membersDepth document.knownMembers ≤ bound := by
    simp only [knownMembers, membersDepth_append_le_iff, membersDepth_cons_le_iff]
    refine ⟨⟨⟨⟨⟨query, Nat.zero_le bound⟩, ?_⟩, ?_⟩, ?_⟩, ?_⟩
    · exact membersDepth_optional_le fun _ _ => Nat.zero_le bound
    · exact membersDepth_optional_le fun _ _ => Nat.zero_le bound
    · apply membersDepth_optional_le
      intro sort _
      have := SortDirective.depth_listToJson_le sort
      omega
    · apply membersDepth_optional_le
      intro aggregations _
      have : (aggregationsToJson aggregations).depth ≤ 9 := by
        rw [aggregationsToJson, depth_object_le_iff, membersDepth_le_iff]
        intro member inside
        obtain ⟨aggregation, -, rfl⟩ := List.mem_map.mp inside
        exact aggregation.2.depth_toJson_le
      omega
  rw [toJson, depth_object_le_iff]
  exact membersDepth_overlay_le
    (Nat.le_trans (membersDepth_canonicalMembers_le document.knownMembers) known) raw

/-! ### Specifications -/

namespace Assembly

/-- The clauses of a section are nested no deeper than its compiler nests them. -/
theorem nesting_le_of_mem_clausesOf {α : Type} {compile : α → Clause} {items : Option (List α)}
    {bound : Nat} (compiled : ∀ item, (compile item).nesting ≤ bound) {clause : Clause}
    (inside : clause ∈ clausesOf compile items) : clause.nesting ≤ bound := by
  obtain ⟨item, -, rfl⟩ := List.mem_map.mp inside
  exact compiled item

theorem nesting_of_mem_filterClauses {compile : FieldConstraint → Clause}
    {filters matching : Option (List FieldConstraint)}
    (compiled : ∀ constraint, (compile constraint).nesting ≤ 0) {clause : Clause}
    (inside : clause ∈ filterClauses compile filters matching) : clause.nesting ≤ 0 := by
  rcases List.mem_append.mp inside with inside | inside
  · exact nesting_le_of_mem_clausesOf compiled inside
  · exact nesting_le_of_mem_clausesOf (fun _ => Nat.le_refl 0) inside

end Assembly

theorem FieldConstraint.nesting_exactClause (constraint : FieldConstraint) :
    constraint.exactClause.nesting ≤ 0 :=
  Nat.le_of_eq (Clause.nesting_exactly _ _)

open Assembly

/-- Raw options lose the level of their section. -/
theorem RawOptions.membersDepth_le {raw : Option RawOptions} {bound : Nat}
    (written : ((Shape.nullable .rawOptions).write raw).depth ≤ bound + 1) :
    membersDepth (raw.getD .empty).members ≤ bound := by
  cases raw with
  | none => exact Nat.zero_le bound
  | some options => exact depth_object_le_iff.mp written

namespace SimpleSpec

theorem nesting_of_mem_clauses {spec : SimpleSpec} {clause : Clause}
    (inside : clause ∈ spec.clauses) : clause.nesting ≤ 1 := by
  simp only [clauses, List.mem_append] at inside
  rcases inside with (inside | inside) | inside
  · have flat := nesting_of_mem_filterClauses FieldConstraint.nesting_exactClause inside
    omega
  · refine nesting_le_of_mem_clausesOf (fun constraint => ?_) inside
    simp only [NestedConstraint.exactClause, Clause.nesting, Clause.nesting_exactly]
    omega
  · exact nesting_le_of_mem_clausesOf (fun _ => Nat.le_refl 1) inside

theorem depth_toJson_document_le {spec : SimpleSpec} {bound : Nat} (room : 9 ≤ bound)
    (written : (shape.write spec).depth ≤ bound + 2) : spec.document.toJson.depth ≤ bound + 1 := by
  rw [document_eq_paged]
  apply RequestDocument.depth_toJson_le room
  · have query := Query.depth_toJson_le (.bool ⟨none, spec.clauses⟩) 1
      (fun _ => nofun) fun _ => nesting_of_mem_clauses
    simp only [Query.wrappers] at query
    rw [RequestDocument.query_paged]
    omega
  · have sections := membersDepth_le_iff.mp (depth_object_le_iff.mp written)
    exact RawOptions.membersDepth_le (sections ("raw_options", _) (by simp [Fields.write]))

end SimpleSpec

namespace RelevanceSpec

theorem nesting_of_mem_clauses {spec : RelevanceSpec} {mode : FilterMode} {clause : Clause}
    (inside : clause ∈ spec.clauses mode) : clause.nesting ≤ 0 := by
  cases mode with
  | exactTerm =>
    have flat (constraint : FieldConstraint) : constraint.termClause.nesting ≤ 0 := Nat.le_refl 0
    exact nesting_of_mem_filterClauses flat inside
  | listAware => exact nesting_of_mem_filterClauses FieldConstraint.nesting_exactClause inside

theorem depth_toJson_document_le {spec : RelevanceSpec} {bound : Nat} (room : 9 ≤ bound)
    (written : (shape.write spec).depth ≤ bound + 2) (tuning : Tuning) :
    (spec.document tuning).toJson.depth ≤ bound + 1 := by
  rw [document_eq_paged]
  apply RequestDocument.depth_toJson_le room
  · have query := Query.depth_toJson_le
      (.functionScore
        (.bool
          ⟨some [phraseClause spec.query spec.fields.phrase tuning,
            fuzzyClause spec.query spec.fields.fuzzy tuning], spec.clauses tuning.filterMode⟩)
        tuning.minScore) 0
      (by simp [Query.innermost, phraseClause, fuzzyClause, Clause.nesting])
      fun _ => nesting_of_mem_clauses
    simp only [Query.wrappers] at query
    rw [RequestDocument.query_paged]
    omega
  · have sections := membersDepth_le_iff.mp (depth_object_le_iff.mp written)
    exact RawOptions.membersDepth_le (sections ("raw_options", _) (by simp [Fields.write]))

end RelevanceSpec

namespace AggregateSpec

theorem nesting_of_mem_clauses {spec : AggregateSpec} {clause : Clause}
    (inside : clause ∈ spec.clauses) : clause.nesting ≤ 0 :=
  nesting_of_mem_filterClauses FieldConstraint.nesting_exactClause inside

theorem depth_toJson_document_le (spec : AggregateSpec) : spec.document.toJson.depth ≤ 10 := by
  apply RequestDocument.depth_toJson_le (Nat.le_refl 9)
  · have query := Query.depth_toJson_le (.bool ⟨none, spec.clauses⟩) 0
      (fun _ => nofun) fun _ => nesting_of_mem_clauses
    simp only [Query.wrappers] at query
    exact Nat.le_trans query (by omega)
  · exact Nat.zero_le 9

end AggregateSpec

/-- The document of a specification read from a text can be read from a text. -/
theorem Specification.depth_toJson_document_le {kind : SpecKind} {text : String}
    {spec : Specification} (read : readText kind text = .ok spec) (tuning : Tuning) :
    (spec.document tuning).toJson.depth ≤ Origin.textLevels := by
  have room : 9 ≤ 125 := by omega
  cases kind with
  | simple =>
    obtain ⟨simple, accepted, rfl⟩ := map_ok_iff.mp read
    have written := (Shape.accepts_of_readText SimpleSpec.lossless_shape accepted).shallow
    exact Nat.le_trans (SimpleSpec.depth_toJson_document_le room written) (by decide)
  | relevance =>
    obtain ⟨relevance, accepted, rfl⟩ := map_ok_iff.mp read
    have written := (Shape.accepts_of_readText RelevanceSpec.lossless_shape accepted).shallow
    exact Nat.le_trans (RelevanceSpec.depth_toJson_document_le room written tuning) (by decide)
  | aggregate =>
    obtain ⟨aggregate, -, rfl⟩ := map_ok_iff.mp read
    exact Nat.le_trans aggregate.depth_toJson_document_le (by decide)

end QueryAssembly
