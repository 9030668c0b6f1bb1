import QueryAssembly.Proofs.Building.Runs
import QueryAssembly.Proofs.Validation.Checks

/-!
# The first demand that is not met

Validation is one walk along the demands of a specification, section by section and item by item.
`Specification.demands` lists them without any rule for stopping; the answer of validation is the
error of the first one that is not met.  What stands behind that one plays no part, so an item at
the end of a section cannot change an error that comes from the section itself or from one before.
-/

namespace QueryAssembly

/-- Something that validation asks of a specification. -/
inductive Demand where
  /-- The text under a name is not blank. -/
  | present (name text : String)
  /-- A group of documents is asked for. -/
  | buckets (count : UInt64)
  /-- A document of each group is asked for. -/
  | sample (count : UInt64)

namespace Demand

/-- A text has a character that is no white space; a count is not zero. -/
def Met : Demand → Prop
  | .present _ text => ∃ character ∈ text.toList, Text.isWhiteSpace character = false
  | .buckets count | .sample count => 0 < count

/-- The error of a demand that is not met. -/
def error : Demand → SpecError
  | .present name _ => .missingField name
  | .buckets _ => .noBuckets
  | .sample _ => .noSample

/-- The check of a demand. -/
def check : Demand → Check
  | .present name text => Check.present name text
  | .buckets count => Check.positive .noBuckets count
  | .sample count => Check.positive .noSample count

theorem met_iff_isBlank {name text : String} :
    (present name text).Met ↔ Text.isBlank text = false := by
  rw [Met, Text.isBlank, List.all_eq_false]
  simp only [Bool.not_eq_true]

instance : DecidablePred Met
  | .present _ text => decidable_of_iff (Text.isBlank text = false) met_iff_isBlank.symm
  | .buckets count | .sample count => inferInstanceAs (Decidable (0 < count))

theorem check_eq_ok_iff (demand : Demand) : demand.check = .ok () ↔ demand.Met := by
  cases demand with
  | present name text => rw [check, Check.present_ok_iff, met_iff_isBlank]
  | buckets count => exact Check.positive_ok_iff
  | sample count => exact Check.positive_ok_iff

theorem check_eq_error {demand : Demand} (unmet : ¬demand.Met) :
    demand.check = .error demand.error := by
  rw [← check_eq_ok_iff] at unmet
  cases demand with
  | present name text =>
    rw [check, Check.present] at unmet ⊢
    split
    · rfl
    · exact absurd (if_neg ‹_›) unmet
  | buckets count | sample count =>
    rw [check, Check.positive] at unmet ⊢
    split
    · rfl
    · exact absurd (if_neg ‹_›) unmet

/-- A demand is not met, all those before it are, and this is its error. -/
def FailsFirst (demands : List Demand) (error : SpecError) : Prop :=
  ∃ before demand after, demands = before ++ demand :: after ∧
    (∀ earlier ∈ before, earlier.Met) ∧ ¬demand.Met ∧ demand.error = error

theorem FailsFirst.of_prefix {front demands : List Demand} {error : SpecError}
    (fails : FailsFirst front error) (starts : front <+: demands) : FailsFirst demands error := by
  obtain ⟨before, demand, after, rfl, met, unmet, same⟩ := fails
  obtain ⟨further, rfl⟩ := starts
  refine ⟨before, demand, after ++ further, ?_, met, unmet, same⟩
  rw [List.append_assoc, List.cons_append]

theorem not_failsFirst_nil {error : SpecError} : ¬FailsFirst [] error := by
  rintro ⟨before, demand, after, same, -⟩
  cases before <;> cases same

theorem failsFirst_cons_iff {demand : Demand} {rest : List Demand} {error : SpecError} :
    FailsFirst (demand :: rest) error ↔
      (¬demand.Met ∧ demand.error = error) ∨ (demand.Met ∧ FailsFirst rest error) := by
  constructor
  · rintro ⟨before, failing, after, same, met, unmet, named⟩
    cases before with
    | nil =>
      cases same
      exact .inl ⟨unmet, named⟩
    | cons first before =>
      cases same
      have further := fun earlier found => met earlier (List.mem_cons_of_mem _ found)
      exact .inr ⟨met _ List.mem_cons_self, before, failing, after, rfl, further, unmet, named⟩
  · rintro (⟨unmet, named⟩ | ⟨here, before, failing, after, rfl, met, unmet, named⟩)
    · exact ⟨[], demand, rest, rfl, nofun, unmet, named⟩
    · exact ⟨demand :: before, failing, after, rfl, List.forall_mem_cons.mpr ⟨here, met⟩, unmet,
        named⟩

end Demand

namespace Check

variable {α : Type} {check : α → Check}

theorem each_append (items others : List α) :
    each check (items ++ others) = (each check items >>= fun _ => each check others) := by
  induction items with
  | nil => rfl
  | cons item rest ih =>
    rw [List.cons_append, each, each, ih]
    cases check item <;> rfl

theorem each_singleton (item : α) : each check [item] = check item := by
  rw [each]
  cases check item <;> rfl

/-- Items are checked one after the other as their demands are. -/
theorem eachIn_eq_each {demands : α → List Demand}
    (same : ∀ item, check item = each Demand.check (demands item)) (items : Option (List α)) :
    eachIn check items = each Demand.check ((items.getD []).flatMap demands) := by
  rw [eachIn]
  induction items.getD [] with
  | nil => rfl
  | cons item rest ih => rw [each, List.flatMap_cons, each_append, same, ih]

/-- The walk along demands ends at the first one that is not met. -/
theorem each_eq_error_iff {demands : List Demand} {error : SpecError} :
    each Demand.check demands = .error error ↔ Demand.FailsFirst demands error := by
  induction demands with
  | nil => exact iff_of_false nofun Demand.not_failsFirst_nil
  | cons demand rest ih =>
    rw [each, Demand.failsFirst_cons_iff]
    by_cases met : demand.Met
    · rw [demand.check_eq_ok_iff.mpr met]
      simpa [met, bind, Except.bind] using ih
    · rw [Demand.check_eq_error met]
      simp [met, bind, Except.bind]

end Check

/-! ### The demands of items -/

/-- What is asked of a field constraint. -/
def FieldConstraint.demands (constraint : FieldConstraint) : List Demand :=
  [.present "field" constraint.field]

/-- What is asked of a nested constraint. -/
def NestedConstraint.demands (constraint : NestedConstraint) : List Demand :=
  [.present "path" constraint.path, .present "key" constraint.key]

/-- What is asked of a sort key; a marker adds a demand. -/
def SortKey.demands (key : SortKey) : List Demand :=
  .present "field" key.field ::
    (key.nested.map fun marker => Demand.present "nested.path" marker.path).toList

/-- What is asked of a grouping. -/
def BucketSpec.demands (spec : BucketSpec) : List Demand :=
  [.present "aggs.field" spec.field, .buckets spec.size]

/-- What is asked of a sample. -/
def SampleSpec.demands (spec : SampleSpec) : List Demand :=
  [.present "top_hit.field" spec.field, .sample spec.size]

theorem FieldConstraint.validate_eq_each (constraint : FieldConstraint) :
    constraint.validate = Check.each Demand.check constraint.demands := by
  rw [demands, Check.each_singleton]
  rfl

theorem NestedConstraint.validate_eq_each (constraint : NestedConstraint) :
    constraint.validate = Check.each Demand.check constraint.demands := by
  rw [demands, Check.each, Check.each_singleton]
  rfl

theorem SortKey.validate_eq_each (key : SortKey) :
    key.validate = Check.each Demand.check key.demands := by
  rw [demands, Check.each, validate]
  cases key.nested with
  | none => rfl
  | some marker =>
    rw [Option.map_some, Option.toList_some, Check.each_singleton]
    rfl

theorem BucketSpec.validate_eq_each (spec : BucketSpec) :
    spec.validate = Check.each Demand.check spec.demands := by
  rw [demands, Check.each, Check.each_singleton]
  rfl

theorem SampleSpec.validate_eq_each (spec : SampleSpec) :
    spec.validate = Check.each Demand.check spec.demands := by
  rw [demands, Check.each, Check.each_singleton]
  rfl

/-- What is asked of the thing that is added. -/
def Addition.demands : Addition → List Demand
  | .filter constraint | .matching constraint => constraint.demands
  | .nestedFilter constraint | .nestedMatching constraint => constraint.demands
  | .sort key => key.demands
  | .page _ | .raw _ _ => []

/-- A prefix of sections is still there when the last of them has grown at its end. -/
theorem flatten_take_prefix_modify {α : Type} (sections : List (List α)) (place : Nat)
    (items : List α) :
    (sections.take (place + 1)).flatten <+: (sections.modify place (· ++ items)).flatten := by
  induction sections generalizing place with
  | nil => simp
  | cons first rest ih =>
    cases place with
    | zero => simp
    | succ place => simpa using ih place

namespace Specification

/-- What is asked of a specification, section by section in the order of the checks. -/
def demandSections : Specification → List (List Demand)
  | .simple spec =>
    [(spec.filters.getD []).flatMap FieldConstraint.demands,
      (spec.matching.getD []).flatMap FieldConstraint.demands,
      (spec.nestedFilters.getD []).flatMap NestedConstraint.demands,
      (spec.nestedMatching.getD []).flatMap NestedConstraint.demands,
      (spec.sorts.getD []).flatMap SortKey.demands]
  | .relevance spec =>
    [[.present "query" spec.query],
      (spec.filters.getD []).flatMap FieldConstraint.demands,
      (spec.matching.getD []).flatMap FieldConstraint.demands,
      (spec.sorts.getD []).flatMap SortKey.demands]
  | .aggregate spec =>
    [spec.bucket.demands, spec.sample.demands,
      (spec.filters.getD []).flatMap FieldConstraint.demands,
      (spec.matching.getD []).flatMap FieldConstraint.demands]

/-- All that is asked of a specification, in order. -/
def demands (spec : Specification) : List Demand :=
  spec.demandSections.flatten

/-- The place of the section that an addition goes to, among those with demands. -/
def demandSection? : Specification → Addition → Option Nat
  | .simple _, .filter _ => some 0
  | .simple _, .matching _ => some 1
  | .simple _, .nestedFilter _ => some 2
  | .simple _, .nestedMatching _ => some 3
  | .simple _, .sort _ => some 4
  | .relevance _, .filter _ => some 1
  | .relevance _, .matching _ => some 2
  | .relevance _, .sort _ => some 3
  | .aggregate _, .filter _ => some 2
  | .aggregate _, .matching _ => some 3
  | _, _ => none

theorem validate_eq_each (spec : Specification) :
    spec.validate = Check.each Demand.check spec.demands := by
  have constraints := Check.eachIn_eq_each FieldConstraint.validate_eq_each
  have nested := Check.eachIn_eq_each NestedConstraint.validate_eq_each
  have sorts := Check.eachIn_eq_each SortKey.validate_eq_each
  cases spec with
  | simple spec =>
    simp only [demands, demandSections, List.flatten_cons, List.flatten_nil, List.append_nil,
      Check.each_append, validate, SimpleSpec.validate, constraints, nested, sorts]
  | relevance spec =>
    simp only [demands, demandSections, List.flatten_cons, List.flatten_nil, List.append_nil,
      Check.each_append, Check.each_singleton, validate, RelevanceSpec.validate, constraints,
      sorts, Demand.check]
  | aggregate spec =>
    simp only [demands, demandSections, List.flatten_cons, List.flatten_nil, List.append_nil,
      Check.each_append, validate, AggregateSpec.validate, constraints,
      BucketSpec.validate_eq_each, SampleSpec.validate_eq_each]

/-- An addition puts its demands at the end of its section. -/
theorem demandSections_add {spec : Specification} {addition : Addition} {place : Nat}
    (goes : spec.demandSection? addition = some place) :
    (spec.add addition).demandSections =
      spec.demandSections.modify place (· ++ addition.demands) := by
  cases spec <;> cases addition <;> cases goes <;>
    simp [add, SimpleSpec.add, RelevanceSpec.add, AggregateSpec.add, demandSections,
      Addition.demands, appendTo]

/-- Validation passes when every demand is met, and otherwise gives the error of the first one that
is not; an item at the end of a section leaves alone an error from that section or an earlier
one. -/
theorem validate_eq_error_iff_failsFirst (spec : Specification) :
    (spec.validate = .ok () ↔ ∀ demand ∈ spec.demands, demand.Met) ∧
    (∀ error, spec.validate = .error error ↔ Demand.FailsFirst spec.demands error) ∧
    ∀ addition place error, spec.demandSection? addition = some place →
      Demand.FailsFirst (spec.demandSections.take (place + 1)).flatten error →
        spec.validate = .error error ∧ (spec.add addition).validate = .error error := by
  refine ⟨?passes, ?fails, ?grows⟩
  case passes =>
    rw [validate_eq_each, Check.each_ok_iff]
    exact forall₂_congr fun demand _ => demand.check_eq_ok_iff
  case fails =>
    intro error
    rw [validate_eq_each, Check.each_eq_error_iff]
  case grows =>
    intro addition place error goes fails
    have before : (spec.demandSections.take (place + 1)).flatten <+: spec.demands :=
      ⟨(spec.demandSections.drop (place + 1)).flatten,
        by rw [← List.flatten_append, List.take_append_drop, demands]⟩
    have after := flatten_take_prefix_modify spec.demandSections place addition.demands
    rw [← demandSections_add goes] at after
    rw [validate_eq_each, validate_eq_each, Check.each_eq_error_iff, Check.each_eq_error_iff]
    exact ⟨fails.of_prefix before, fails.of_prefix after⟩

/-- A blank path is reported before the blank key beside it and the blank sort after it, and a
faulty nested filter that joins later changes nothing; a count of no groups is reported before the
field of the sample. -/
theorem validate_eq_error_iff_failsFirst_path :
    let nested := Specification.simple { SimpleSpec.empty with
      matching := some [⟨"title", .list []⟩]
      nestedFilters := some [⟨"\u2003", "", .single (.bool true)⟩]
      sorts := some [.plain "" .ascending] }
    let empty := Specification.aggregate
      ⟨⟨"brand", 0, .descending⟩, ⟨"", .ascending, 0⟩, none, some [⟨" ", .list []⟩]⟩
    Demand.FailsFirst (nested.demandSections.take 3).flatten (.missingField "path") ∧
      (nested.validate = .error (.missingField "path") ∧
        (nested.add (.nestedFilter ⟨"offers", " ", .list []⟩)).validate =
          .error (.missingField "path")) ∧
      SpecError.message (.missingField "path") = "missing field: path" ∧
      empty.validate = .error .noBuckets ∧
      SpecError.message .noBuckets =
        "invalid specification: aggregation bucket count must be positive" := by
  intro nested empty
  have fails : Demand.FailsFirst (nested.demandSections.take 3).flatten
      (.missingField "path") :=
    ⟨[.present "field" "title"], .present "path" "\u2003", [.present "key" ""], rfl, by decide,
      by decide, rfl⟩
  have none_asked : Demand.FailsFirst empty.demands .noBuckets :=
    ⟨[.present "aggs.field" "brand"], .buckets 0, _, rfl, by decide, by decide, rfl⟩
  have grows := (validate_eq_error_iff_failsFirst nested).2.2
  exact ⟨fails, grows (.nestedFilter ⟨"offers", " ", .list []⟩) 2 _ rfl fails, rfl,
    ((validate_eq_error_iff_failsFirst empty).2.1 _).mpr none_asked, rfl⟩

end Specification

end QueryAssembly
