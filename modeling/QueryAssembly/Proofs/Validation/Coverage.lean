import QueryAssembly.Proofs.Assembly.Relevance
import QueryAssembly.Proofs.Assembly.Simple
import QueryAssembly.Proofs.Validation.Checks
import QueryAssembly.Specification

/-!
# Validation covers what assembly writes

Validation looks at a specification and never at its request.  `RequestDocument.Complete` says of a
request that every name in it is given and that every size it asks for is positive; a specification
passes validation exactly when its request is complete.  Each section is compared on its own
(`Assembly.clausesOf_named_iff`), item by item.
-/

namespace QueryAssembly

/-- A text that is not blank stands wherever a clause names a field or a path, or searches. -/
def Clause.Named : Clause → Prop
  | .term field _ | .terms field _ | .matching field _ => Text.isBlank field = false
  | .multiMatch body => Text.isBlank body.query = false
  | .nested path inner => Text.isBlank path = false ∧ inner.Named

/-- A directive names its field and, when it has one, its path. -/
structure SortDirective.Named (directive : SortDirective) : Prop where
  field : Text.isBlank directive.field = false
  nestedPath : ∀ path, directive.nestedPath = some path → Text.isBlank path = false

/-- A sample asks for a document, and every directive of its sort is named. -/
structure TopHits.Complete (sample : TopHits) : Prop where
  size : 0 < sample.size
  sort : ∀ directive ∈ sample.sort, directive.Named

/-- An aggregation names its field and asks for a group, and every sample is complete. -/
structure BucketAggregation.Complete (aggregation : BucketAggregation) : Prop where
  field : Text.isBlank aggregation.field = false
  size : 0 < aggregation.size
  samples : ∀ member ∈ aggregation.samples.members, member.2.Complete

/-- A request names whatever it asks for and asks for something. -/
structure RequestDocument.Complete (document : RequestDocument) : Prop where
  must : ∀ clause ∈ document.query.innermost.must, clause.Named
  should : ∀ clause ∈ document.query.innermost.should.getD [], clause.Named
  sort : ∀ directive ∈ document.sort.getD [], directive.Named
  aggregations : ∀ aggregations, document.aggregations = some aggregations →
    ∀ member ∈ aggregations.members, member.2.Complete

/-! ### Items -/

theorem Clause.named_exactly_iff {field : String} {operand : Operand} :
    (Clause.exactly field operand).Named ↔ Text.isBlank field = false := by
  cases operand <;> exact Iff.rfl

theorem FieldConstraint.named_exactClause_iff (constraint : FieldConstraint) :
    constraint.exactClause.Named ↔ constraint.validate = .ok () := by
  rw [exactClause, Clause.named_exactly_iff, validate_ok_iff]

theorem FieldConstraint.named_matchClause_iff (constraint : FieldConstraint) :
    constraint.matchClause.Named ↔ constraint.validate = .ok () :=
  validate_ok_iff.symm

theorem RelevanceSpec.named_filterClause_iff (mode : FilterMode) (constraint : FieldConstraint) :
    (filterClause mode constraint).Named ↔ constraint.validate = .ok () := by
  cases mode with
  | exactTerm => exact FieldConstraint.validate_ok_iff.symm
  | listAware => exact constraint.named_exactClause_iff

theorem NestedConstraint.named_exactClause_iff (constraint : NestedConstraint) :
    constraint.exactClause.Named ↔ constraint.validate = .ok () := by
  rw [exactClause, Clause.Named, Clause.named_exactly_iff, validate_ok_iff]

theorem NestedConstraint.named_matchClause_iff (constraint : NestedConstraint) :
    constraint.matchClause.Named ↔ constraint.validate = .ok () :=
  validate_ok_iff.symm

theorem SortKey.named_directive_iff (key : SortKey) :
    key.directive.Named ↔ key.validate = .ok () := by
  rw [validate_ok_iff]
  constructor
  · rintro ⟨field, path⟩
    refine ⟨field, fun marker marked => path marker.path ?_⟩
    rw [directive, marked]
    rfl
  · rintro ⟨field, path⟩
    refine ⟨field, fun given found => ?_⟩
    obtain ⟨marker, marked, rfl⟩ := Option.map_eq_some_iff.mp found
    exact path marker marked

/-! ### Sections -/

namespace Assembly

theorem clausesOf_named_iff {α : Type} {compile : α → Clause} {check : α → Check}
    (each : ∀ item, (compile item).Named ↔ check item = .ok ()) (items : Option (List α)) :
    (∀ clause ∈ clausesOf compile items, clause.Named) ↔ Check.eachIn check items = .ok () := by
  rw [Check.eachIn_ok_iff, clausesOf, List.forall_mem_map]
  exact forall₂_congr fun item _ => each item

theorem filterClauses_named_iff {compile : FieldConstraint → Clause}
    (each : ∀ constraint, (compile constraint).Named ↔ constraint.validate = .ok ())
    (filters matching : Option (List FieldConstraint)) :
    (∀ clause ∈ filterClauses compile filters matching, clause.Named) ↔
      Check.eachIn FieldConstraint.validate filters = .ok () ∧
        Check.eachIn FieldConstraint.validate matching = .ok () := by
  rw [filterClauses, List.forall_mem_append, clausesOf_named_iff each,
    clausesOf_named_iff FieldConstraint.named_matchClause_iff]

end Assembly

theorem SortKey.named_directives_iff (keys : Option (List SortKey)) :
    (∀ named ∈ (keys.map fun keys => keys.map directive).getD [], named.Named) ↔
      Check.eachIn validate keys = .ok () := by
  rw [Check.eachIn_ok_iff]
  cases keys with
  | none => simp
  | some keys =>
    rw [Option.map_some, Option.getD_some, Option.getD_some, List.forall_mem_map]
    exact forall₂_congr fun key _ => key.named_directive_iff

theorem BucketAggregation.complete_ofSpecs_iff {bucket : BucketSpec} {sample : SampleSpec} :
    (ofSpecs bucket sample).Complete ↔ bucket.validate = .ok () ∧ sample.validate = .ok () := by
  rw [BucketSpec.validate_ok_iff, SampleSpec.validate_ok_iff]
  have samples : (ofSpecs bucket sample).samples.members =
      [(sampleName, ⟨[(SortKey.plain sample.field sample.order).directive], sample.size, 0⟩)] := rfl
  constructor
  · rintro ⟨field, size, complete⟩
    rw [samples, List.forall_mem_singleton] at complete
    obtain ⟨sample_size, sort⟩ := complete
    exact ⟨⟨field, size⟩, (sort _ (List.mem_singleton_self _)).field, sample_size⟩
  · rintro ⟨⟨field, size⟩, sample_field, sample_size⟩
    refine ⟨field, size, ?_⟩
    rw [samples, List.forall_mem_singleton]
    refine ⟨sample_size, ?_⟩
    rw [List.forall_mem_singleton]
    exact ⟨sample_field, nofun⟩

/-! ### Requests -/

theorem RequestDocument.complete_paged_iff (query : Query) (page : Option Page)
    (sorts : Option (List SortKey)) (raw : RawOptions) :
    (paged query page sorts raw).Complete ↔
      (∀ clause ∈ query.innermost.must, clause.Named) ∧
        (∀ clause ∈ query.innermost.should.getD [], clause.Named) ∧
        Check.eachIn SortKey.validate sorts = .ok () := by
  rw [← SortKey.named_directives_iff]
  constructor
  · rintro ⟨must, should, sort, -⟩
    rw [query_paged] at must should
    rw [sort_paged] at sort
    exact ⟨must, should, sort⟩
  · rintro ⟨must, should, sort⟩
    refine ⟨?_, ?_, ?_, ?_⟩
    · rw [query_paged]
      exact must
    · rw [query_paged]
      exact should
    · rw [sort_paged]
      exact sort
    · rw [aggregations_paged]
      exact nofun

theorem SimpleSpec.complete_document_iff (spec : SimpleSpec) :
    spec.document.Complete ↔ spec.validate = .ok () := by
  have plain := Assembly.filterClauses_named_iff FieldConstraint.named_exactClause_iff
    spec.filters spec.matching
  have nestedFilters :=
    Assembly.clausesOf_named_iff NestedConstraint.named_exactClause_iff spec.nestedFilters
  have nestedMatching :=
    Assembly.clausesOf_named_iff NestedConstraint.named_matchClause_iff spec.nestedMatching
  rw [document_eq_paged, RequestDocument.complete_paged_iff]
  show (∀ clause ∈ spec.clauses, clause.Named) ∧ (∀ clause ∈ [], Clause.Named clause) ∧ _ ↔ _
  rw [clauses, List.forall_mem_append, List.forall_mem_append, plain, nestedFilters,
    nestedMatching, validate]
  simp only [Check.and_then_ok_iff, List.not_mem_nil, false_implies, implies_true, true_and,
    and_assoc]

theorem RelevanceSpec.complete_document_iff (spec : RelevanceSpec) (tuning : Tuning) :
    (spec.document tuning).Complete ↔ spec.validate = .ok () := by
  have must := Assembly.filterClauses_named_iff (named_filterClause_iff tuning.filterMode)
    spec.filters spec.matching
  have should : (∀ clause ∈ [phraseClause spec.query spec.fields.phrase tuning,
      fuzzyClause spec.query spec.fields.fuzzy tuning], clause.Named) ↔
        Text.isBlank spec.query = false := by
    rw [List.forall_mem_cons, List.forall_mem_singleton]
    exact and_self_iff
  rw [document_eq_paged, RequestDocument.complete_paged_iff]
  show (∀ clause ∈ spec.clauses tuning.filterMode, clause.Named) ∧
    (∀ clause ∈ [phraseClause spec.query spec.fields.phrase tuning,
      fuzzyClause spec.query spec.fields.fuzzy tuning], clause.Named) ∧ _ ↔ _
  rw [clauses, must, should, validate, Check.and_then_ok_iff, Check.and_then_ok_iff,
    Check.and_then_ok_iff, Check.present_ok_iff, and_left_comm, and_assoc]

theorem AggregateSpec.complete_document_iff (spec : AggregateSpec) :
    spec.document.Complete ↔ spec.validate = .ok () := by
  have must := Assembly.filterClauses_named_iff FieldConstraint.named_exactClause_iff
    spec.filters spec.matching
  have groups : spec.document.aggregations = some (.single BucketAggregation.standardName
      (.ofSpecs spec.bucket spec.sample)) := rfl
  rw [validate, Check.and_then_ok_iff, Check.and_then_ok_iff, Check.and_then_ok_iff, ← must,
    ← and_assoc, ← BucketAggregation.complete_ofSpecs_iff]
  constructor
  · intro complete
    have group := complete.aggregations _ groups
    rw [Table.members_single, List.forall_mem_singleton] at group
    exact ⟨group, complete.must⟩
  · rintro ⟨group, clauses⟩
    refine ⟨clauses, nofun, nofun, fun aggregations found => ?_⟩
    cases groups.symm.trans found
    rw [Table.members_single, List.forall_mem_singleton]
    exact group

/-- A specification passes validation exactly when its request is complete. -/
theorem Specification.validate_ok_iff_complete (spec : Specification) (tuning : Tuning) :
    spec.validate = .ok () ↔ (spec.document tuning).Complete := by
  cases spec with
  | simple spec => exact spec.complete_document_iff.symm
  | relevance spec => exact (spec.complete_document_iff tuning).symm
  | aggregate spec => exact spec.complete_document_iff.symm

end QueryAssembly
