import Mathlib.Algebra.GroupWithZero.Nat
import QueryAssembly.Proofs.Assembly.Relevance
import QueryAssembly.Proofs.Assembly.Simple
import QueryAssembly.Proofs.Building.Runs
import QueryAssembly.Proofs.Outcome

/-!
# Runs of building steps

The sections that become clauses stand one after the other in a request (`clauseGroups`).  A step
that adds to one of them inserts its clause behind the group it belongs to and changes nothing else,
whatever steps came before; a step that fails changes nothing at all; and runs that agree section by
section end alike.
-/

namespace QueryAssembly

/-! ### Groups -/

theorem insertIdx_length_add {α : Type} (before after : List α) (index : Nat) (item : α) :
    (before ++ after).insertIdx (before.length + index) item =
      before ++ after.insertIdx index item := by
  induction before with
  | nil => simp
  | cons first rest ih =>
    have shifted : (first :: rest).length + index = rest.length + index + 1 := by
      rw [List.length_cons]
      omega
    rw [shifted, List.cons_append, List.insertIdx_succ_cons, ih, List.cons_append]

/-- An item at the end of a group stands behind the items of that group and of those before it. -/
theorem flatten_modify_append {α : Type} {groups : List (List α)} {position : Nat}
    (within : position < groups.length) (item : α) :
    (groups.modify position (· ++ [item])).flatten =
      groups.flatten.insertIdx ((groups.map List.length).take (position + 1)).sum item := by
  induction groups generalizing position with
  | nil => cases within
  | cons group rest ih =>
    cases position with
    | zero =>
      have last := insertIdx_length_add group rest.flatten 0 item
      simpa using last.symm
    | succ position =>
      have later := ih (Nat.lt_of_succ_lt_succ within)
      rw [List.modify_succ_cons, List.flatten_cons, later, List.flatten_cons, List.map_cons,
        List.take_succ_cons, List.sum_cons, insertIdx_length_add]

theorem sum_take_le_sum (sizes : List Nat) (count : Nat) : (sizes.take count).sum ≤ sizes.sum := by
  have split := congrArg List.sum (List.take_append_drop count sizes)
  rw [List.sum_append] at split
  omega

namespace Assembly

theorem clausesOf_appendTo {α : Type} (compile : α → Clause) (item : α)
    (items : Option (List α)) :
    clausesOf compile (appendTo item items) = clausesOf compile items ++ [compile item] := by
  simp [clausesOf, appendTo]

theorem length_clausesOf {α : Type} (compile : α → Clause) (items : Option (List α)) :
    (clausesOf compile items).length = (items.getD []).length :=
  List.length_map compile

end Assembly

/-! ### Documents -/

theorem Query.mapInnermost_congr {change other : BoolQuery → BoolQuery} (query : Query)
    (same : change query.innermost = other query.innermost) :
    query.mapInnermost change = query.mapInnermost other := by
  induction query with
  | bool body => exact congrArg Query.bool same
  | functionScore query minScore ih => exact congrArg (Query.functionScore · minScore) (ih same)

namespace RequestDocument

/-- The clauses that must hold. -/
def must (document : RequestDocument) : List Clause := document.query.innermost.must

/-- Change the clauses that must hold, and nothing else. -/
def mapMust (change : List Clause → List Clause) (document : RequestDocument) : RequestDocument :=
  { document with
    query := document.query.mapInnermost fun body => { body with must := change body.must } }

/-- Put one more clause among those that must hold. -/
def insertMust (index : Nat) (clause : Clause) (document : RequestDocument) : RequestDocument :=
  document.mapMust fun clauses => clauses.insertIdx index clause

theorem mapMust_congr {change other : List Clause → List Clause} {document : RequestDocument}
    (same : change document.must = other document.must) :
    document.mapMust change = document.mapMust other := by
  refine congrArg (fun query => { document with query }) ?_
  apply Query.mapInnermost_congr
  exact congrArg (BoolQuery.mk document.query.innermost.should) same

theorem mapMust_paged (change : List Clause → List Clause) (query : Query) (page : Option Page)
    (sorts : Option (List SortKey)) (raw : RawOptions) :
    (paged query page sorts raw).mapMust change =
      paged (query.mapInnermost fun body => { body with must := change body.must })
        page sorts raw := by
  cases page <;> rfl

end RequestDocument

theorem SimpleSpec.must_document (spec : SimpleSpec) : spec.document.must = spec.clauses := by
  rw [document_eq_paged, RequestDocument.must, RequestDocument.query_paged]
  rfl

theorem RelevanceSpec.must_document (spec : RelevanceSpec) (tuning : Tuning) :
    (spec.document tuning).must = spec.clauses tuning.filterMode := by
  rw [document_eq_paged, RequestDocument.must, RequestDocument.query_paged]
  rfl

theorem AggregateSpec.must_document (spec : AggregateSpec) : spec.document.must = spec.clauses :=
  rfl

namespace Addition

/-- The place of a section among those that become clauses. -/
def group? : Addition → Option Nat
  | .filter _ => some 0
  | .matching _ => some 1
  | .nestedFilter _ => some 2
  | .nestedMatching _ => some 3
  | .sort _ | .page _ | .raw _ _ => none

end Addition

namespace Specification

open Assembly

variable (tuning : Tuning)

/-- The kind of a specification. -/
def kind : Specification → SpecKind
  | .simple _ => .simple
  | .relevance _ => .relevance
  | .aggregate _ => .aggregate

/-- The numbers of items in the sections that become clauses, in the order of their clauses. -/
def groupSizes : Specification → List Nat
  | .simple spec =>
    [(spec.filters.getD []).length, (spec.matching.getD []).length,
      (spec.nestedFilters.getD []).length, (spec.nestedMatching.getD []).length]
  | .relevance spec => [(spec.filters.getD []).length, (spec.matching.getD []).length]
  | .aggregate spec => [(spec.filters.getD []).length, (spec.matching.getD []).length]

/-- The clause of an addition to a specification that has the section. -/
def clause? : Specification → Addition → Option Clause
  | .simple _, .filter constraint => some constraint.exactClause
  | .simple _, .matching constraint => some constraint.matchClause
  | .simple _, .nestedFilter constraint => some constraint.exactClause
  | .simple _, .nestedMatching constraint => some constraint.matchClause
  | .relevance _, .filter constraint =>
    some (RelevanceSpec.filterClause tuning.filterMode constraint)
  | .relevance _, .matching constraint => some constraint.matchClause
  | .aggregate _, .filter constraint => some constraint.exactClause
  | .aggregate _, .matching constraint => some constraint.matchClause
  | _, _ => none

/-- The clauses that must hold, section by section. -/
def clauseGroups : Specification → List (List Clause)
  | .simple spec =>
    [clausesOf FieldConstraint.exactClause spec.filters,
      clausesOf FieldConstraint.matchClause spec.matching,
      clausesOf NestedConstraint.exactClause spec.nestedFilters,
      clausesOf NestedConstraint.matchClause spec.nestedMatching]
  | .relevance spec =>
    [clausesOf (RelevanceSpec.filterClause tuning.filterMode) spec.filters,
      clausesOf FieldConstraint.matchClause spec.matching]
  | .aggregate spec =>
    [clausesOf FieldConstraint.exactClause spec.filters,
      clausesOf FieldConstraint.matchClause spec.matching]

theorem map_length_clauseGroups (spec : Specification) :
    (spec.clauseGroups tuning).map List.length = spec.groupSizes := by
  cases spec <;> simp [clauseGroups, groupSizes, length_clausesOf]

theorem must_document (spec : Specification) :
    (spec.document tuning).must = (spec.clauseGroups tuning).flatten := by
  cases spec with
  | simple spec =>
    refine spec.must_document.trans ?_
    simp [SimpleSpec.clauses, filterClauses, clauseGroups]
  | relevance spec =>
    refine (spec.must_document tuning).trans ?_
    simp [RelevanceSpec.clauses, filterClauses, clauseGroups]
  | aggregate spec =>
    refine spec.must_document.trans ?_
    simp [AggregateSpec.clauses, filterClauses, clauseGroups]

variable {tuning} {spec : Specification} {addition : Addition} {group : Nat} {clause : Clause}

/-- An addition that becomes a clause adds it to the end of one group. -/
theorem clauseGroups_add (place : addition.group? = some group)
    (compiled : spec.clause? tuning addition = some clause) :
    (spec.add addition).clauseGroups tuning =
      (spec.clauseGroups tuning).modify group (· ++ [clause]) := by
  cases spec <;> cases addition <;> cases place <;> cases compiled <;>
    simp [add, SimpleSpec.add, RelevanceSpec.add, AggregateSpec.add, clauseGroups,
      clausesOf_appendTo]

theorem group_lt_length (place : addition.group? = some group)
    (compiled : spec.clause? tuning addition = some clause) :
    group < (spec.clauseGroups tuning).length := by
  cases spec <;> cases addition <;> cases place <;> cases compiled <;> simp [clauseGroups]

/-- An addition that becomes a clause leaves everything else in the request alone. -/
theorem document_add (compiled : spec.clause? tuning addition = some clause) :
    (spec.add addition).document tuning =
      (spec.document tuning).mapMust fun _ => ((spec.add addition).document tuning).must := by
  cases spec with
  | simple spec =>
    change (spec.add addition).document =
      spec.document.mapMust fun _ => (spec.add addition).document.must
    rw [SimpleSpec.document_eq_paged, SimpleSpec.document_eq_paged, RequestDocument.mapMust_paged,
      RequestDocument.must, RequestDocument.query_paged]
    cases addition <;> cases compiled <;> rfl
  | relevance spec =>
    change (spec.add addition).document tuning =
      (spec.document tuning).mapMust fun _ => ((spec.add addition).document tuning).must
    rw [RelevanceSpec.document_eq_paged, RelevanceSpec.document_eq_paged,
      RequestDocument.mapMust_paged, RequestDocument.must, RequestDocument.query_paged]
    cases addition <;> cases compiled <;> rfl
  | aggregate spec => cases addition <;> cases compiled <;> rfl

/-- An addition that becomes a clause is inserted behind its own group. -/
theorem document_add_eq_insertMust (place : addition.group? = some group)
    (compiled : spec.clause? tuning addition = some clause) :
    (spec.add addition).document tuning =
      (spec.document tuning).insertMust (spec.groupSizes.take (group + 1)).sum clause := by
  have grown := flatten_modify_append (group_lt_length place compiled) clause
  rw [map_length_clauseGroups, ← clauseGroups_add place compiled, ← must_document,
    ← must_document] at grown
  rw [document_add compiled]
  exact RequestDocument.mapMust_congr grown

theorem sum_take_groupSizes_le (spec : Specification) (tuning : Tuning) (count : Nat) :
    (spec.groupSizes.take count).sum ≤ (spec.document tuning).must.length := by
  rw [must_document, List.length_flatten, map_length_clauseGroups]
  exact sum_take_le_sum spec.groupSizes count

end Specification

/-! ### Sort keys by names -/

/-- A marker whose mode is given by name. -/
def NestedMarker.ofNames (marker : String × String) : Except NameError NestedMarker :=
  (SortMode.parse marker.2).map (NestedMarker.mk marker.1)

namespace SortKey

theorem markNamed_ok_iff {key marked : SortKey} {markers : List (String × String)} :
    key.markNamed markers = .ok marked ↔
      ∃ nested, markers.mapM NestedMarker.ofNames = .ok nested ∧
        marked = ⟨key.field, key.order, nested.getLast?.or key.nested⟩ := by
  induction markers generalizing key with
  | nil =>
    constructor
    · intro same
      cases same
      exact ⟨[], rfl, rfl⟩
    · rintro ⟨nested, none_given, rfl⟩
      cases none_given
      rfl
  | cons marker rest ih =>
    obtain ⟨path, given⟩ := marker
    rw [markNamed, bind_ok_iff, List.mapM_cons]
    constructor
    · rintro ⟨mode, parsed, later⟩
      obtain ⟨nested, found, rfl⟩ := ih.mp later
      have first : NestedMarker.ofNames (path, given) = .ok ⟨path, mode⟩ :=
        map_ok_iff.mpr ⟨mode, parsed, rfl⟩
      refine ⟨⟨path, mode⟩ :: nested, ?_, ?_⟩
      · rw [first, found]
        rfl
      · rw [List.getLast?_cons]
        cases nested.getLast? <;> rfl
    · rintro ⟨nested, found, rfl⟩
      obtain ⟨first, made, found⟩ := bind_ok_iff.mp found
      obtain ⟨others, further, found⟩ := bind_ok_iff.mp found
      obtain ⟨mode, parsed, rfl⟩ := map_ok_iff.mp made
      cases found
      refine ⟨mode, parsed, ih.mpr ⟨others, further, ?_⟩⟩
      rw [List.getLast?_cons]
      cases others.getLast? <;> rfl

/-- Every name must stand for something, and the last marker stays. -/
theorem ofNames_ok_iff {field order : String} {markers : List (String × String)} {key : SortKey} :
    ofNames field order markers = .ok key ↔
      ∃ direction nested, SortOrder.parse order = .ok direction ∧
        markers.mapM NestedMarker.ofNames = .ok nested ∧
        key = ⟨field, direction, nested.getLast?⟩ := by
  rw [ofNames, bind_ok_iff]
  constructor
  · rintro ⟨direction, parsed, marked⟩
    obtain ⟨nested, found, rfl⟩ := markNamed_ok_iff.mp marked
    exact ⟨direction, nested, parsed, found, congrArg (SortKey.mk field direction) Option.or_none⟩
  · rintro ⟨direction, nested, parsed, found, rfl⟩
    refine ⟨direction, parsed, markNamed_ok_iff.mpr ⟨nested, found, ?_⟩⟩
    exact congrArg (SortKey.mk field direction) Option.or_none.symm

end SortKey

/-! ### Runs -/

namespace Specification

theorem build_append (spec : Specification) (steps later : List BuildStep) :
    spec.build (steps ++ later) = (spec.build steps).build later := by
  have whole : BuildStep.additions (steps ++ later) =
      BuildStep.additions steps ++ BuildStep.additions later := List.filterMap_append
  cases spec <;>
    simp only [build, SimpleSpec.build, RelevanceSpec.build, AggregateSpec.build, whole,
      List.foldl_append]

theorem build_singleton (spec : Specification) (step : BuildStep) :
    spec.build [step] = ((step.addition.map spec.add).toOption).getD spec := by
  have only : BuildStep.additions [step] = step.addition.toOption.toList := by
    cases outcome : step.addition <;> simp [BuildStep.additions, outcome, Except.toOption]
  cases spec <;>
    · simp only [build, SimpleSpec.build, RelevanceSpec.build, AggregateSpec.build, only]
      cases step.addition <;> rfl

theorem build_eq_of_sameSections (spec : Specification) {left right : List BuildStep}
    (same : Addition.SameSections (BuildStep.additions left) (BuildStep.additions right)) :
    spec.build left = spec.build right := by
  have raw (held : Option RawOptions) := RawOptions.setEach_eq_of_last?_eq same.raw held
  cases spec with
  | simple spec =>
    refine congrArg Specification.simple ?_
    rw [SimpleSpec.build, SimpleSpec.build, SimpleSpec.foldl_add, SimpleSpec.foldl_add,
      replaceEach_eq, replaceEach_eq, same.filters, same.matching, same.nestedFilters,
      same.nestedMatching, same.sorts, same.page, raw]
  | relevance spec =>
    refine congrArg Specification.relevance ?_
    rw [RelevanceSpec.build, RelevanceSpec.build, RelevanceSpec.foldl_add,
      RelevanceSpec.foldl_add, replaceEach_eq, replaceEach_eq, same.filters, same.matching,
      same.sorts, same.page, raw]
  | aggregate spec =>
    refine congrArg Specification.aggregate ?_
    rw [AggregateSpec.build, AggregateSpec.build, AggregateSpec.foldl_add,
      AggregateSpec.foldl_add, same.filters, same.matching]

end Specification

namespace Session

/-- Build on a session; a step that fails leaves it as it is. -/
def build (session : Session) (steps : List BuildStep) : Session :=
  steps.foldl (fun session step => (session.step step).toOption.getD session) session

theorem specification_add (session : Session) (addition : Addition) (kind : SpecKind) :
    (session.add addition).specification kind = (session.specification kind).add addition := by
  cases kind <;> rfl

theorem specification_step (session : Session) (step : BuildStep) (kind : SpecKind) :
    ((session.step step).toOption.getD session).specification kind =
      (session.specification kind).build [step] := by
  rw [Specification.build_singleton, Session.step]
  cases step.addition with
  | ok addition => exact specification_add session addition kind
  | error unknown => rfl

/-- Each specification of a session is built on its own. -/
theorem specification_build (session : Session) (steps : List BuildStep) (kind : SpecKind) :
    (session.build steps).specification kind = (session.specification kind).build steps := by
  induction steps generalizing session with
  | nil => cases kind <;> rfl
  | cons step rest ih =>
    have taken : session.build (step :: rest) =
        ((session.step step).toOption.getD session).build rest := rfl
    have first := Specification.build_append (session.specification kind) [step] rest
    rw [taken, ih, specification_step, ← first, List.singleton_append]

/-- Runs that agree section by section end alike, whatever turns the sections take; each step that
adds a constraint inserts its one clause behind its own group; and a step that fails changes
nothing. -/
theorem build_independent (session : Session) (kind : SpecKind) (tuning : Tuning) :
    (∀ left right,
      Addition.SameSections (BuildStep.additions left) (BuildStep.additions right) →
        (session.build left).specification kind = (session.build right).specification kind ∧
        ((session.build left).specification kind).validate =
          ((session.build right).specification kind).validate ∧
        ((session.build left).specification kind).document tuning =
          ((session.build right).specification kind).document tuning) ∧
    (∀ steps step addition group clause,
      step.addition = .ok addition → addition.group? = some group →
      ((session.build steps).specification kind).clause? tuning addition = some clause →
        let before := (session.build steps).specification kind
        let after := (session.build (steps ++ [step])).specification kind
        let index := (before.groupSizes.take (group + 1)).sum
        index ≤ (before.document tuning).must.length ∧
          after.document tuning = (before.document tuning).insertMust index clause) ∧
    (∀ steps step unknown,
      step.addition = .error unknown → session.build (steps ++ [step]) = session.build steps) ∧
    ∀ field order markers addition,
      (BuildStep.sort field order markers).addition = .ok addition ↔
        ∃ direction nested, SortOrder.parse order = .ok direction ∧
          markers.mapM NestedMarker.ofNames = .ok nested ∧
          addition = .sort ⟨field, direction, nested.getLast?⟩ := by
  refine ⟨?interleaved, ?inserted, ?failed, ?named⟩
  case interleaved =>
    intro left right same
    have built := Specification.build_eq_of_sameSections (session.specification kind) same
    rw [specification_build, specification_build, built]
    exact ⟨rfl, rfl, rfl⟩
  case inserted =>
    intro steps step addition group clause adds place compiled
    have bound := Specification.sum_take_groupSizes_le
      ((session.build steps).specification kind) tuning (group + 1)
    refine ⟨bound, ?_⟩
    have last : (session.build (steps ++ [step])).specification kind =
        ((session.build steps).specification kind).add addition := by
      rw [specification_build, Specification.build_append, Specification.build_singleton, adds,
        ← specification_build]
      rfl
    rw [last]
    exact Specification.document_add_eq_insertMust place compiled
  case failed =>
    intro steps step unknown fails
    rw [build, List.foldl_append, List.foldl_cons, List.foldl_nil, Session.step, fails]
    rfl
  case named =>
    intro field order markers addition
    rw [BuildStep.addition, map_ok_iff]
    constructor
    · rintro ⟨key, named, rfl⟩
      obtain ⟨direction, nested, parsed, found, rfl⟩ := SortKey.ofNames_ok_iff.mp named
      exact ⟨direction, nested, parsed, found, rfl⟩
    · rintro ⟨direction, nested, parsed, found, rfl⟩
      exact ⟨_, SortKey.ofNames_ok_iff.mpr ⟨direction, nested, parsed, found, rfl⟩, rfl⟩

/-- A failing sort and an option that is replaced later leave no trace, and a match goes before the
nested filter that was there first. -/
theorem build_independent_initial :
    Addition.SameSections
        (BuildStep.additions
          [.add (.filter ⟨"tag", .single (.text "new")⟩), .sort "price" "sideways" [],
            .add (.raw "explain" .null)])
        (BuildStep.additions
          [.add (.raw "explain" (.bool true)), .add (.raw "explain" .null),
            .add (.filter ⟨"tag", .single (.text "new")⟩)]) ∧
      (initial.build
        [.add (.filter ⟨"tag", .single (.text "new")⟩), .sort "price" "sideways" [],
          .add (.raw "explain" .null)]).specification .simple =
      (initial.build
        [.add (.raw "explain" (.bool true)), .add (.raw "explain" .null),
          .add (.filter ⟨"tag", .single (.text "new")⟩)]).specification .simple ∧
      ((initial.build
          [.add (.nestedFilter ⟨"offers", "offers.id", .single (.bool true)⟩),
            .add (.matching ⟨"title", .list []⟩)]).specification .simple).document .standard =
        (((initial.build
            [.add (.nestedFilter ⟨"offers", "offers.id", .single (.bool true)⟩)]).specification
              .simple).document .standard).insertMust 0 (.matching "title" (.list [])) ∧
      (BuildStep.sort "price" "sideways" []).addition = .error (.sortOrder "sideways") ∧
      initial.build ([] ++ [.sort "price" "sideways" []]) = initial.build [] := by
  have same : Addition.SameSections
      (BuildStep.additions
        [.add (.filter ⟨"tag", .single (.text "new")⟩), .sort "price" "sideways" [],
          .add (.raw "explain" .null)])
      (BuildStep.additions
        [.add (.raw "explain" (.bool true)), .add (.raw "explain" .null),
          .add (.filter ⟨"tag", .single (.text "new")⟩)]) := by
    refine ⟨rfl, rfl, rfl, rfl, rfl, rfl, fun key => ?_⟩
    change Option.map _ (Members.last? key [("explain", Json.null)]) =
      Option.map _ (Members.last? key [("explain", Json.bool true), ("explain", Json.null)])
    rw [Members.last?_cons, Members.last?_cons, Members.last?_singleton]
    by_cases found : "explain" = key <;> simp [found]
  obtain ⟨interleaved, inserted, failed, -⟩ := build_independent initial .simple .standard
  refine ⟨same, (interleaved _ _ same).1, ?_, rfl, failed [] _ _ rfl⟩
  exact (inserted [.add (.nestedFilter ⟨"offers", "offers.id", .single (.bool true)⟩)]
    (.add (.matching ⟨"title", .list []⟩)) _ 1 _ rfl rfl rfl).2

end Session

end QueryAssembly
