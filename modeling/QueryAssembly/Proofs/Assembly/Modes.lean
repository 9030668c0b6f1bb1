import QueryAssembly.Proofs.Building.Interleaving
import QueryAssembly.Proofs.Json.Equality
import QueryAssembly.Proofs.Tuning.Standard

/-!
# The two modes of filters

A tuning takes a filter with a list either as one exact value or as a membership.  Under two tunings
that differ in nothing else, the requests of one specification have the same clauses in the same
places, except at the filters with a list, and are equal everywhere besides.  The mode that tells
lists from scalars makes the clauses of the other two kinds of specifications.
-/

namespace QueryAssembly

open Assembly

/-! ### Equality with itself -/

instance : ReflBEq Json.Number := ⟨Json.Number.equal_self _⟩

deriving instance ReflBEq for Scalar

deriving instance ReflBEq for Operand

instance : ReflBEq RawOptions := ⟨fun {options} => Json.equalMembers_self options.members⟩

theorem Binary64.beq_self_of_finite {value : Binary64} {number : Binary64.Finite}
    (finite : value = .finite number) : (value == value) = true := by
  subst finite
  exact Json.Number.equal_self (.real number)

theorem FieldConstraint.matchClause_beq_self (constraint : FieldConstraint) :
    (constraint.matchClause == constraint.matchClause) = true := by
  change (constraint.field == constraint.field && constraint.operand == constraint.operand) = true
  simp only [BEq.rfl, Bool.and_self]

/-! ### Tunings -/

/-- The tunings take lists in different ways, and agree on everything else. -/
structure Tuning.ModesApart (first second : Tuning) : Prop where
  /-- The modes differ. -/
  apart : first.filterMode ≠ second.filterMode
  /-- The mode is the only difference. -/
  besides : { first with filterMode := second.filterMode } = second

/-! ### The other kinds of specifications -/

theorem Assembly.filterClauses_congr (compile : FieldConstraint → Clause)
    {filters matching others further : Option (List FieldConstraint)}
    (same : filters.getD [] = others.getD []) (alike : matching.getD [] = further.getD []) :
    filterClauses compile filters matching = filterClauses compile others further := by
  rw [filterClauses, filterClauses, clausesOf, clausesOf, clausesOf, clausesOf, same, alike]

/-- Without nested constraints, a simple specification has the clauses of its plain ones. -/
theorem SimpleSpec.clauses_of_plain {spec : SimpleSpec} (filters : spec.nestedFilters.getD [] = [])
    (matching : spec.nestedMatching.getD [] = []) :
    spec.clauses = filterClauses FieldConstraint.exactClause spec.filters spec.matching := by
  rw [clauses, clausesOf, clausesOf, filters, matching]
  simp only [List.map_nil, List.append_nil]

/-! ### Documents with one query or another -/

theorem RequestDocument.beq_query {document : RequestDocument}
    (plain : document.aggregations = none) (query : Query) :
    (document == { document with query }) = (document.query == query) := by
  change (document.query == query && (document.offset == document.offset &&
    (document.size == document.size && (document.sort == document.sort &&
      (document.aggregations == document.aggregations && document.raw == document.raw))))) = _
  have absent : ((none : Option (Table BucketAggregation)) == none) = true := rfl
  simp only [plain, absent, BEq.rfl, Bool.and_true]

theorem Query.scored_beq {should : List Clause} {minScore : Binary64}
    (same : (should == should) = true) (score : (minScore == minScore) = true)
    (must other : List Clause) :
    (Query.functionScore (.bool ⟨some should, must⟩) minScore ==
      .functionScore (.bool ⟨some should, other⟩) minScore) = (must == other) := by
  change ((should == should && must == other) && minScore == minScore) = _
  rw [same, score, Bool.true_and, Bool.and_true]

namespace RelevanceSpec

/-- The clause of a filter with a list in a given mode. -/
def listClause (field : String) (scalars : List Scalar) : FilterMode → Clause
  | .exactTerm => .term field (.list scalars)
  | .listAware => .terms field scalars

theorem filterClause_list (field : String) (scalars : List Scalar) (mode : FilterMode) :
    filterClause mode ⟨field, .list scalars⟩ = listClause field scalars mode := by
  cases mode <;> rfl

theorem filterClause_single (field : String) (scalar : Scalar) (mode : FilterMode) :
    filterClause mode ⟨field, .single scalar⟩ = .term field (.single scalar) := by
  cases mode <;> rfl

section

variable {first second : FilterMode} (apart : first ≠ second) (constraint : FieldConstraint)

include apart

/-- Different modes agree on the clauses of scalars alone. -/
theorem filterClause_eq_iff :
    filterClause first constraint = filterClause second constraint ↔
      constraint.operand.isList = false := by
  obtain ⟨field, operand⟩ := constraint
  cases operand with
  | list scalars =>
    rw [filterClause_list, filterClause_list]
    cases first <;> cases second <;> first | exact absurd rfl apart | exact iff_of_false nofun nofun
  | single scalar =>
    rw [filterClause_single, filterClause_single]
    exact iff_of_true rfl rfl

theorem filterClause_beq_iff :
    (filterClause first constraint == filterClause second constraint) = true ↔
      constraint.operand.isList = false := by
  obtain ⟨field, operand⟩ := constraint
  cases operand with
  | list scalars =>
    rw [filterClause_list, filterClause_list]
    cases first <;> cases second <;> first | exact absurd rfl apart | exact iff_of_false nofun nofun
  | single scalar =>
    rw [filterClause_single, filterClause_single]
    refine iff_of_true ?_ rfl
    change (field == field && Operand.single scalar == .single scalar) = true
    simp only [BEq.rfl, Bool.and_self]

end

/-! ### Lists of clauses -/

/-- A filter with a list stands at an index. -/
def ListAt (spec : RelevanceSpec) (index : Nat) : Prop :=
  ∃ field scalars, (spec.filters.getD [])[index]? = some ⟨field, .list scalars⟩

theorem not_listAt_iff {spec : RelevanceSpec} {index : Nat} :
    ¬spec.ListAt index ↔
      ∀ constraint, (spec.filters.getD [])[index]? = some constraint →
        constraint.operand.isList = false := by
  refine ⟨fun none ⟨field, operand⟩ found => ?_, fun each ⟨field, scalars, found⟩ => ?_⟩
  · cases operand with
    | list scalars => exact absurd ⟨field, scalars, found⟩ none
    | single scalar => rfl
  · exact absurd (each _ found) nofun

theorem forall_not_listAt_iff {spec : RelevanceSpec} :
    (∀ index, ¬spec.ListAt index) ↔
      ∀ constraint ∈ spec.filters.getD [], constraint.operand.isList = false := by
  simp only [not_listAt_iff, List.mem_iff_getElem?]
  exact ⟨fun each constraint ⟨index, found⟩ => each index constraint found,
    fun each index constraint found => each constraint ⟨index, found⟩⟩

theorem getElem?_clauses (spec : RelevanceSpec) (mode : FilterMode) (index : Nat) :
    (spec.clauses mode)[index]? =
      ((spec.filters.getD [])[index]?.map (filterClause mode)).or
        ((spec.matching.getD [])[index - (spec.filters.getD []).length]?.map
          FieldConstraint.matchClause) := by
  rw [clauses, filterClauses, clausesOf, clausesOf, List.getElem?_append, List.length_map]
  split
  case isTrue within => simp [within]
  case isFalse beyond => simp [List.getElem?_eq_none (Nat.le_of_not_lt beyond)]

theorem length_clauses (spec : RelevanceSpec) (mode : FilterMode) :
    (spec.clauses mode).length =
      (spec.filters.getD []).length + (spec.matching.getD []).length := by
  rw [clauses, filterClauses, List.length_append, length_clausesOf, length_clausesOf]

section

variable (spec : RelevanceSpec) {first second : FilterMode} (apart : first ≠ second)

include apart

/-- The clauses at one place are equal unless a filter with a list stands there. -/
theorem getElem?_clauses_eq_iff (index : Nat) :
    (spec.clauses first)[index]? = (spec.clauses second)[index]? ↔ ¬spec.ListAt index := by
  rw [getElem?_clauses, getElem?_clauses, not_listAt_iff]
  cases (spec.filters.getD [])[index]? with
  | some constraint => simpa using filterClause_eq_iff apart constraint
  | none => simp

theorem getElem?_clauses_beq_iff (index : Nat) :
    ((spec.clauses first)[index]? == (spec.clauses second)[index]?) = true ↔
      ¬spec.ListAt index := by
  rw [getElem?_clauses, getElem?_clauses, not_listAt_iff]
  cases (spec.filters.getD [])[index]? with
  | some constraint =>
    rw [Option.map_some, Option.map_some, Option.some_or, Option.some_or, Option.some_beq_some,
      filterClause_beq_iff apart]
    simp
  | none =>
    refine iff_of_true ?_ (by simp)
    cases (spec.matching.getD [])[index - (spec.filters.getD []).length]? with
    | some constraint =>
      simp only [Option.map_none, Option.none_or, Option.map_some, Option.some_beq_some,
        constraint.matchClause_beq_self]
    | none => rfl

theorem clauses_eq_iff :
    spec.clauses first = spec.clauses second ↔ ∀ index, ¬spec.ListAt index := by
  simp only [List.ext_getElem?_iff, getElem?_clauses_eq_iff spec apart]

theorem clauses_beq_iff :
    (spec.clauses first == spec.clauses second) = true ↔ ∀ index, ¬spec.ListAt index := by
  simp only [beq_iff_getElem?, getElem?_clauses_beq_iff spec apart]

end

/-! ### Documents -/

/-- The mode of a tuning decides about the clauses that must hold, and about nothing else. -/
theorem document_filterMode (spec : RelevanceSpec) (tuning : Tuning) (mode : FilterMode) :
    spec.document { tuning with filterMode := mode } =
      (spec.document tuning).mapMust fun _ => spec.clauses mode := by
  rw [document_eq_paged, document_eq_paged, RequestDocument.mapMust_paged]
  rfl

theorem phraseClause_beq_self (query : String) (fields : List String) {tuning : Tuning}
    {boost : Binary64.Finite} (boost_finite : tuning.phraseBoost = .finite boost) :
    (phraseClause query fields tuning == phraseClause query fields tuning) = true := by
  change (query == query && (MultiMatchKind.phrase == .phrase && (fields == fields &&
    (tuning.phraseBoost == tuning.phraseBoost && ((none : Option String) == none &&
      (none : Option UInt32) == none))))) = true
  simp only [BEq.rfl, Binary64.beq_self_of_finite boost_finite, Bool.and_self]

theorem fuzzyClause_beq_self (query : String) (fields : List String) (tuning : Tuning) :
    (fuzzyClause query fields tuning == fuzzyClause query fields tuning) = true := by
  change (query == query && (MultiMatchKind.mostFields == .mostFields && (fields == fields &&
    ((none : Option Binary64) == none && (some tuning.fuzziness == some tuning.fuzziness &&
      some tuning.prefixLength == some tuning.prefixLength))))) = true
  have absent : ((none : Option Binary64) == none) = true := rfl
  simp only [BEq.rfl, absent, Bool.and_self]

/-- With finite numbers, the requests of two modes are equal when their clauses are. -/
theorem document_beq_filterMode (spec : RelevanceSpec) {tuning : Tuning} (mode : FilterMode)
    {boost minScore : Binary64.Finite} (boost_finite : tuning.phraseBoost = .finite boost)
    (score_finite : tuning.minScore = .finite minScore) :
    (spec.document tuning == spec.document { tuning with filterMode := mode }) =
      (spec.clauses tuning.filterMode == spec.clauses mode) := by
  have plain : (spec.document tuning).aggregations = none := by
    rw [document_eq_paged, RequestDocument.aggregations_paged]
  have should : ([phraseClause spec.query spec.fields.phrase tuning,
      fuzzyClause spec.query spec.fields.fuzzy tuning] ==
        [phraseClause spec.query spec.fields.phrase tuning,
          fuzzyClause spec.query spec.fields.fuzzy tuning]) = true := by
    rw [List.cons_beq_cons, List.cons_beq_cons, phraseClause_beq_self _ _ boost_finite,
      fuzzyClause_beq_self]
    rfl
  rw [spec.document_filterMode tuning mode, RequestDocument.mapMust,
    RequestDocument.beq_query plain, document_eq_paged, RequestDocument.query_paged]
  exact Query.scored_beq should (Binary64.beq_self_of_finite score_finite) _ _

/-- The mode that tells lists from scalars makes the clauses of the other kinds of specifications.
Two tunings that differ in the mode alone give the same clauses in the same places, except that
every filter with a list has the clause of the mode; all else in the two requests is equal, and so
are the requests unless a filter has a list. -/
theorem document_of_modesApart (spec : RelevanceSpec) :
    (∀ tuning : Tuning, tuning.filterMode = .listAware →
      (∀ simple : SimpleSpec, simple.filters.getD [] = spec.filters.getD [] →
        simple.matching.getD [] = spec.matching.getD [] → simple.nestedFilters.getD [] = [] →
        simple.nestedMatching.getD [] = [] →
          simple.document.must = (spec.document tuning).must) ∧
      ∀ aggregate : AggregateSpec, aggregate.filters.getD [] = spec.filters.getD [] →
        aggregate.matching.getD [] = spec.matching.getD [] →
          aggregate.document.must = (spec.document tuning).must) ∧
    ∀ first second : Tuning, first.ModesApart second →
      (spec.document first).must.length = (spec.document second).must.length ∧
      (∀ (index : Nat) (field : String) (scalars : List Scalar),
        (spec.filters.getD [])[index]? = some ⟨field, .list scalars⟩ →
        (spec.document first).must[index]? = some (listClause field scalars first.filterMode) ∧
        (spec.document second).must[index]? =
          some (listClause field scalars second.filterMode)) ∧
      (∀ index : Nat,
        ((spec.document first).must[index]? = (spec.document second).must[index]? ↔
          ¬spec.ListAt index) ∧
        (((spec.document first).must[index]? == (spec.document second).must[index]?) = true ↔
          ¬spec.ListAt index)) ∧
      spec.document second =
        (spec.document first).mapMust (fun _ => (spec.document second).must) ∧
      (spec.document first = spec.document second ↔
        ∀ constraint ∈ spec.filters.getD [], constraint.operand.isList = false) ∧
      ∀ boost minScore, first.phraseBoost = .finite boost → first.minScore = .finite minScore →
        ((spec.document first == spec.document second) = true ↔
          ∀ constraint ∈ spec.filters.getD [], constraint.operand.isList = false) := by
  simp only [must_document]
  refine ⟨fun tuning aware => ⟨?simple, ?aggregate⟩, ?modes⟩
  case simple =>
    intro simple filters matching noFilters noMatching
    rw [SimpleSpec.must_document, SimpleSpec.clauses_of_plain noFilters noMatching,
      filterClauses_congr _ filters matching, clauses, aware]
    rfl
  case aggregate =>
    intro aggregate filters matching
    rw [AggregateSpec.must_document, AggregateSpec.clauses,
      filterClauses_congr _ filters matching, clauses, aware]
    rfl
  case modes =>
    rintro first second ⟨apart, besides⟩
    have other : spec.document second =
        (spec.document first).mapMust fun _ => spec.clauses second.filterMode := by
      rw [← besides, document_filterMode]
    refine ⟨?length, ?lists, ?places, other, ?equal, ?derived⟩
    case length => rw [length_clauses, length_clauses]
    case lists =>
      intro index field scalars found
      rw [getElem?_clauses, getElem?_clauses, found, ← filterClause_list, ← filterClause_list]
      exact ⟨rfl, rfl⟩
    case places =>
      exact fun index =>
        ⟨spec.getElem?_clauses_eq_iff apart index, spec.getElem?_clauses_beq_iff apart index⟩
    case equal =>
      rw [← forall_not_listAt_iff, ← spec.clauses_eq_iff apart]
      refine ⟨fun same => ?_, fun same => ?_⟩
      · rw [← must_document, ← must_document, same]
      · rw [other, ← same]
        exact spec.document_filterMode first first.filterMode
    case derived =>
      intro boost minScore boost_finite score_finite
      rw [← forall_not_listAt_iff, ← spec.clauses_beq_iff apart,
        ← spec.document_beq_filterMode _ boost_finite score_finite, besides]

/-- Of a filter with a list and one with a scalar, the standard mode and the other one differ at the
first alone. -/
theorem document_of_modesApart_standard :
    let spec : RelevanceSpec :=
      { empty with
        query := "red shoes"
        filters := some [⟨"tag", .list [.text "new"]⟩, ⟨"brand", .single (.text "acme")⟩] }
    let aware : Tuning := { Tuning.standard with filterMode := .listAware }
    Tuning.standard.ModesApart aware ∧
      (spec.document .standard).must[0]? = some (.term "tag" (.list [.text "new"])) ∧
      (spec.document aware).must[0]? = some (.terms "tag" [.text "new"]) ∧
      (spec.document .standard).must[1]? = (spec.document aware).must[1]? ∧
      (spec.document .standard == spec.document aware) = false := by
  intro spec aware
  have modes : Tuning.standard.ModesApart aware := ⟨nofun, rfl⟩
  obtain ⟨-, lists, places, -, -, equal⟩ := (document_of_modesApart spec).2 _ _ modes
  obtain ⟨first, second⟩ := lists 0 "tag" [.text "new"] rfl
  have scalar : ¬spec.ListAt 1 := fun ⟨field, scalars, found⟩ => by cases found
  refine ⟨modes, first, second, (places 1).1.mpr scalar, ?_⟩
  rw [Bool.eq_false_iff, Ne, equal _ _ Tuning.phraseBoost_standard Tuning.minScore_standard]
  intro none
  cases none ⟨"tag", .list [.text "new"]⟩ List.mem_cons_self

end RelevanceSpec

end QueryAssembly
