import QueryAssembly.Proofs.Building.Interleaving
import QueryAssembly.Proofs.Request.Description

/-!
# Events and documents

The events of an assembly are reported before its document is complete, at other places for each
kind of specification.  Still they tell the truth about the finished document
(`RequestDocument.Tells`): which clauses were required, in which order and each by its own text, and
every count in the summary.
-/

namespace QueryAssembly

/-- What a subscriber is told of an event. -/
structure Event.Record where
  /-- How much the event matters. -/
  level : Event.Level
  /-- The part of the library that it comes from. -/
  part : String
  /-- What happened. -/
  message : String
  /-- The texts that go with it, by name. -/
  details : List (String × String)
deriving DecidableEq

/-- What a subscriber is told of an event, whatever its level. -/
def Event.record (event : Event) : Event.Record :=
  ⟨event.level, event.part, event.message, event.details⟩

/-- The record of a step that has a text. -/
def Event.Record.step (text : String) : Event.Record :=
  ⟨.trace, "relevance", "relevance must clause", [("clause", text)]⟩

/-- A record of the step by which a clause became required: its text shows that very clause and no
other. -/
def Clause.ToldBy (clause : Clause) (record : Event.Record) : Prop :=
  ∃ text, record = .step text ∧ ∀ other : Clause, other.Shown text ↔ other = clause

/-- Records tell how a finished document was made. -/
inductive RequestDocument.Tells (document : RequestDocument) : SpecKind → List Event.Record → Prop where
  /-- Of a simple query, the number of its clauses. -/
  | simple :
    document.Tells .simple
      [⟨.debug, "simple", "assembled simple query",
        [("clauses", toString document.must.length)]⟩]
  /-- Of a relevance query, every required clause in turn, and then the numbers of fields that are
  searched and of the steps told before. -/
  | relevance {phrase fuzzy : List String} {steps : List Event.Record}
    (searched : document.searched = [phrase, fuzzy])
    (told : List.Forall₂ Clause.ToldBy document.must steps) :
    document.Tells .relevance
      (steps ++
        [⟨.debug, "relevance", "assembled relevance query",
          [("phrase_fields", toString phrase.length), ("fuzzy_fields", toString fuzzy.length),
            ("must", toString steps.length)]⟩])
  /-- Of an aggregate query, the field and the number of its groups and the number of its clauses. -/
  | aggregate {groups : BucketAggregation}
    (found : document.aggregations.bind (·.get? "top_tags") = some groups) :
    document.Tells .aggregate
      [⟨.debug, "aggregation", "assembled aggregation query",
        [("field", groups.field), ("buckets", toString groups.size.toNat),
          ("must", toString document.must.length)]⟩]

theorem Clause.toldBy_record (clause : Clause) :
    clause.ToldBy (Event.clauseRequired clause).record := by
  refine ⟨clause.describe, rfl, fun other => ?_⟩
  rw [other.shown_iff]
  exact Clause.describe_injective.eq_iff

namespace Specification

variable (spec : Specification) (tuning : Tuning)

theorem length_must_document : (spec.document tuning).must.length = spec.groupSizes.sum := by
  rw [must_document, List.length_flatten, map_length_clauseGroups]

/-- The records of an assembly tell how its document was made. -/
theorem tells_document :
    (spec.document tuning).Tells spec.kind ((spec.assembly tuning).events.map Event.record) := by
  cases spec with
  | simple spec =>
    have told : spec.document.Tells .simple _ := .simple
    rwa [spec.must_document] at told
  | relevance spec =>
    have steps : List.Forall₂ Clause.ToldBy (spec.document tuning).must
        (((spec.clauses tuning.filterMode).map .clauseRequired).map Event.record) := by
      rw [spec.must_document, List.map_map, List.forall₂_map_right_iff, List.forall₂_same]
      exact fun clause _ => clause.toldBy_record
    have told := RequestDocument.Tells.relevance (spec.searched_document tuning) steps
    rw [List.length_map, List.length_map] at told
    show (spec.document tuning).Tells .relevance ((spec.assembly tuning).events.map Event.record)
    rw [RelevanceSpec.assembly, List.map_append]
    exact told
  | aggregate spec =>
    have found : spec.document.aggregations.bind (·.get? "top_tags") =
        some (.ofSpecs spec.bucket spec.sample) := rfl
    have told : spec.document.Tells .aggregate _ := .aggregate found
    exact told

/-- The records of an assembly tell how its document was made, one for every required clause among
them, and there are as many required clauses as the sections have items. -/
theorem events_assembly :
    (spec.document tuning).Tells spec.kind
        ((spec.assembly tuning).events.map Event.record) ∧
      (spec.document tuning).must.length = spec.groupSizes.sum :=
  ⟨spec.tells_document tuning, spec.length_must_document tuning⟩

/-- Quotation marks, line ends and characters that do not show are escaped, a list is told from a
scalar, and an integer from a floating point number. -/
theorem events_assembly_escaped :
    let spec : Specification := .relevance
      { query := "shoe", fields := ⟨["name^5", "brand"], ["name^5"]⟩,
        filters := some
          [⟨"a\"b", .single (.text "it's\n\u0301")⟩,
            ⟨"c", .list [.bool true, .number (.ofUInt64 1), .text "1"]⟩],
        matching := some [⟨"", .list [.number (.real ⟨false, ⟨0x3FF0000000000000, by decide⟩⟩)]⟩],
        sorts := none, page := none, raw := none }
    let tuning : Tuning := { Tuning.standard with filterMode := .listAware }
    let records : List Event.Record :=
      [.step ("Term \x7b field: \"a\\\"b\", " ++
          "value: Scalar(String(\"it's\\n\\u\x7b301\x7d\")) \x7d"),
        .step ("Terms \x7b field: \"c\", " ++
          "values: [Bool(true), Number(Number(1)), String(\"1\")] \x7d"),
        .step "Match \x7b field: \"\", value: List([Number(Number(1.0))]) \x7d",
        ⟨.debug, "relevance", "assembled relevance query",
          [("phrase_fields", "2"), ("fuzzy_fields", "1"), ("must", "3")]⟩]
    (spec.assembly tuning).events.map Event.record = records ∧
      (spec.document tuning).Tells .relevance records ∧ (spec.document tuning).must.length = 3 := by
  intro spec tuning records
  have reported : (spec.assembly tuning).events.map Event.record = records := by
    simp only [spec, tuning, records]
    decide +kernel
  have told := events_assembly spec tuning
  rw [reported] at told
  exact ⟨reported, told⟩

end Specification

end QueryAssembly
