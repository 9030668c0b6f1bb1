import Mathlib.Logic.Relation
import QueryAssembly.Proofs.Shape.Forms
import QueryAssembly.Proofs.Shape.Frames
import QueryAssembly.Proofs.Specification.Alike

/-!
# Lists and objects in a specification

Every structure of a specification may be given as the list of its fields or as an object under
their names, wherever it stands and whatever the form of those around it and inside it.  The order
in a list is the declared one, and only defaulted fields may be missing at its end.
-/

namespace QueryAssembly

open Json (Script ListEnd ObjectEnd)
open Reading (Labels MayEnd)

/-- The structures of the input. -/
inductive RecordType where
  /-- A constraint on a field. -/
  | fieldConstraint
  /-- A constraint on a field of nested objects. -/
  | nestedConstraint
  /-- The marker of a sort key on nested objects. -/
  | nestedMarker
  /-- A sort key. -/
  | sortKey
  /-- A page of the result. -/
  | page
  /-- The fields in which a text is searched. -/
  | searchFields
  /-- How documents are grouped. -/
  | bucket
  /-- How groups are sampled. -/
  | sample
  /-- A simple specification. -/
  | simple
  /-- A relevance specification. -/
  | relevance
  /-- An aggregate specification. -/
  | aggregate
  /-- A tuning. -/
  | tuning

namespace RecordType

/-- The values of a structure. -/
def Value : RecordType → Type
  | .fieldConstraint => FieldConstraint
  | .nestedConstraint => NestedConstraint
  | .nestedMarker => NestedMarker
  | .sortKey => SortKey
  | .page => Page
  | .searchFields => SearchFields
  | .bucket => BucketSpec
  | .sample => SampleSpec
  | .simple => SimpleSpec
  | .relevance => RelevanceSpec
  | .aggregate => AggregateSpec
  | .tuning => Tuning

/-- How a structure is written. -/
def shape : (type : RecordType) → Shape type.Value
  | .fieldConstraint => FieldConstraint.shape
  | .nestedConstraint => NestedConstraint.shape
  | .nestedMarker => NestedMarker.shape
  | .sortKey => SortKey.shape
  | .page => Page.shape
  | .searchFields => SearchFields.shape
  | .bucket => BucketSpec.shape
  | .sample => SampleSpec.shape
  | .simple => SimpleSpec.shape
  | .relevance => RelevanceSpec.shape
  | .aggregate => AggregateSpec.shape
  | .tuning => Tuning.shape

/-- The names of the fields of a structure, in the order of a list. -/
def names : RecordType → List String
  | .fieldConstraint => ["field", "value"]
  | .nestedConstraint => ["path", "key", "value"]
  | .nestedMarker => ["path", "mode"]
  | .sortKey => ["field", "order", "nested"]
  | .page => ["from", "size"]
  | .searchFields => ["phrase_fields", "fuzzy_fields"]
  | .bucket => ["field", "size", "order"]
  | .sample => ["field", "order", "size"]
  | .simple =>
    ["filters", "matches", "nested_filters", "nested_matches", "sorts", "pagination", "raw_options"]
  | .relevance => ["query", "fields", "filters", "matches", "sorts", "pagination", "raw_options"]
  | .aggregate => ["aggs", "top_hit", "filters", "matches"]
  | .tuning => ["phrase_boost", "prefix_length", "min_score", "fuzziness", "relevance_filters"]

/-- The names of the fields that a list may leave out at its end. -/
def defaulted : RecordType → List String
  | .sortKey => ["nested"]
  | .aggregate => ["filters", "matches"]
  | .tuning => ["phrase_boost", "prefix_length", "min_score", "fuzziness", "relevance_filters"]
  | _ => []

theorem record (type : RecordType) : type.shape.Record type.names type.defaulted := by
  cases type <;> exact .mk ..

theorem nodup_names (type : RecordType) : type.names.Nodup := by
  cases type <;> decide

end RecordType

/-- What a value is read from. -/
inductive Medium where
  /-- A text. -/
  | text
  /-- A tree. -/
  | tree

namespace Medium

/-- The inputs of a medium. -/
def Input : Medium → Type
  | .text => String
  | .tree => Json

/-- Read a value of a shape. -/
def read {α : Type} (shape : Shape α) : (medium : Medium) → medium.Input → Except ReadError α
  | .text, written => shape.readText written
  | .tree, json => shape.readTree json

/-- An input holds a script: a text spells it, and a tree is written so. -/
def Holds : (medium : Medium) → medium.Input → Script → Prop
  | .text, written, script => script.WrittenAs written
  | .tree, json, script => json.canonical.script = script

/-- Where a value is read from. -/
def origin : Medium → Origin
  | .text => .text Origin.textLevels
  | .tree => .tree

variable {α : Type} {shape : Shape α} {medium : Medium} {input : medium.Input}

theorem read_of_holds {script : Script} (holds : medium.Holds input script) :
    medium.read shape input = shape.read medium.origin script := by
  cases medium with
  | text => exact shape.readText_of_writtenAs holds
  | tree =>
    cases holds
    rfl

/-- Whatever is accepted holds a script, so no accepted input is left out. -/
theorem exists_holds_of_read {value : α} (read : medium.read shape input = .ok value) :
    ∃ script, medium.Holds input script := by
  cases medium with
  | text => exact Shape.exists_writtenAs_of_readText read
  | tree => exact ⟨_, rfl⟩

end Medium

/-- Two scripts differ in the form of one structure at one place: the first has a list where the
second has an object that gives the same values to the same fields. -/
inductive Shape.OtherForm {β : Type} (whole : Shape β) : Script → Script → Prop where
  /-- A structure, a place, and the two forms. -/
  | mk (type : RecordType) (frame : Frame type.shape whole) {items : List Script}
    {members : List (Except Json.Fault String × Script)}
    (ends : MayEnd type.names type.defaulted items.length)
    (labels : Labels type.names items members) :
    OtherForm whole (frame.fill (.list items .closed)) (frame.fill (.object members .closed))

theorem Shape.OtherForm.read_ok_iff {β : Type} {whole : Shape β} {first second : Script}
    (other : whole.OtherForm first second) (origin : Origin) (value : β) :
    whole.read origin first = .ok value ↔ whole.read origin second = .ok value := by
  obtain ⟨type, frame, ends, labels⟩ := other
  refine frame.read_fill_congr (by simp) (fun inside held => ?_) origin value
  rw [type.record.read_list_ok_iff type.nodup_names labels]
  exact and_iff_right ends

/-- Scripts that differ in the form of several structures, one after the other, are read alike. -/
theorem Shape.read_ok_iff_of_forms {β : Type} {whole : Shape β} {first second : Script}
    (forms : Relation.EqvGen whole.OtherForm first second) (origin : Origin) (value : β) :
    whole.read origin first = .ok value ↔ whole.read origin second = .ok value := by
  induction forms with
  | rel _ _ other => exact other.read_ok_iff origin value
  | refl _ => rfl
  | symm _ _ _ ih => exact ih.symm
  | trans _ _ _ _ _ before after => exact before.trans after

namespace RecordType

theorem mayEnd_of_fill {β : Type} {whole : Shape β} (type : RecordType)
    (frame : Frame type.shape whole) {items : List Script} {origin : Origin} {value : β}
    (read : whole.read origin (frame.fill (.list items .closed)) = .ok value) :
    MayEnd type.names type.defaulted items.length := by
  obtain ⟨inside, held, here⟩ := frame.exists_read_of_fill (by simp) read
  have labels : Labels type.names items (Reading.labelled type.names items) :=
    ⟨[], by rw [List.append_nil], nofun⟩
  exact ((type.record.read_list_ok_iff type.nodup_names labels).mp here).1

/-- In a text as in a tree, a structure may switch between its two forms at every place where it
stands.  A list is accepted if it is not longer than the declared names, if all that it lacks is
defaulted, and if the object of the same values is accepted, which then has the same value; and an
accepted object that gives all fields is one that gives each of them once, so the list of its values
is accepted too.  Several places may switch, independently of one another. -/
theorem read_forms (medium : Medium) {β : Type} (whole : Shape β) :
    (∀ (type : RecordType) (frame : Frame type.shape whole) (items : List Script)
      (listed : medium.Input) (value : β),
      medium.Holds listed (frame.fill (.list items .closed)) →
      medium.read whole listed = .ok value →
        items.length ≤ type.names.length ∧
          ∀ name ∈ type.names.drop items.length, name ∈ type.defaulted) ∧
    (∀ (type : RecordType) (frame : Frame type.shape whole) (items : List Script)
      (members : List (Except Json.Fault String × Script)) (listed keyed : medium.Input)
      (value : β),
      Labels type.names items members →
      medium.Holds listed (frame.fill (.list items .closed)) →
      medium.Holds keyed (frame.fill (.object members .closed)) →
        (medium.read whole listed = .ok value ↔
          (items.length ≤ type.names.length ∧
            ∀ name ∈ type.names.drop items.length, name ∈ type.defaulted) ∧
          medium.read whole keyed = .ok value)) ∧
    (∀ (type : RecordType) (frame : Frame type.shape whole)
      (members : List (Except Json.Fault String × Script)) (keyed : medium.Input) (value : β),
      medium.Holds keyed (frame.fill (.object members .closed)) →
      medium.read whole keyed = .ok value →
      (∀ name ∈ type.names, ∃ script, (.ok name, script) ∈ members) →
        ∃ items : List Script, items.length = type.names.length ∧ Labels type.names items members ∧
          ∀ listed, medium.Holds listed (frame.fill (.list items .closed)) →
            medium.read whole listed = .ok value) ∧
    ∀ (first second : Script) (left right : medium.Input) (value : β),
      Relation.EqvGen whole.OtherForm first second →
      medium.Holds left first → medium.Holds right second →
        (medium.read whole left = .ok value ↔ medium.read whole right = .ok value) := by
  refine ⟨?_, ?_, ?_, ?_⟩
  · intro type frame items listed value holds read
    rw [Medium.read_of_holds holds] at read
    exact type.mayEnd_of_fill frame read
  · intro type frame items members listed keyed value labels listed_holds keyed_holds
    rw [Medium.read_of_holds listed_holds, Medium.read_of_holds keyed_holds]
    constructor
    · intro read
      have ends := type.mayEnd_of_fill frame read
      exact ⟨ends, ((Shape.OtherForm.mk type frame ends labels).read_ok_iff _ value).mp read⟩
    · rintro ⟨ends, read⟩
      exact ((Shape.OtherForm.mk type frame ends labels).read_ok_iff _ value).mpr read
  · intro type frame members keyed value keyed_holds read given
    rw [Medium.read_of_holds keyed_holds] at read
    obtain ⟨inside, held, here⟩ := frame.exists_read_of_fill (by simp) read
    obtain ⟨items, length, labels⟩ := type.record.exists_labels type.nodup_names here given
    refine ⟨items, length, labels, fun listed listed_holds => ?_⟩
    have ends : MayEnd type.names type.defaulted items.length := by
      rw [length]
      exact ⟨Nat.le_refl _, by simp⟩
    rw [Medium.read_of_holds listed_holds]
    exact ((Shape.OtherForm.mk type frame ends labels).read_ok_iff _ value).mpr read
  · intro first second left right value forms left_holds right_holds
    rw [Medium.read_of_holds left_holds, Medium.read_of_holds right_holds]
    exact whole.read_ok_iff_of_forms forms _ value

/-- In a text, a sort key without a marker may be a list of two; in a tree, a whole specification of
two groups without constraints may be one. -/
theorem read_forms_short :
    SimpleSpec.shape.readText "\x7b\"sorts\":[[\"price\",\"asc\"]]\x7d" =
        .ok { SimpleSpec.empty with sorts := some [⟨"price", .ascending, none⟩] } ∧
      AggregateSpec.shape.readTree
          (.array [.array [.string "tag", .number (.ofUInt64 5), .string "asc"],
            .array [.string "date", .string "desc", .number (.ofUInt64 1)]]) =
        .ok ⟨⟨"tag", 5, .ascending⟩, ⟨"date", .descending, 1⟩, none, none⟩ := by
  constructor
  · let items : List Script := [.string (.ok "price"), .string (.ok "asc")]
    let members : List (Except Json.Fault String × Script) :=
      [(.ok "order", .string (.ok "asc")), (.ok "field", .string (.ok "price")), (.ok "x", .null)]
    let frame : Frame sortKey.shape SimpleSpec.shape :=
      .member "sorts" [] [] .closed
        (.there _ _ (by decide) <| .there _ _ (by decide) <| .there _ _ (by decide) <|
          .there _ _ (by decide) (.here ..))
        (.nullable (.item [] [] .closed .here))
    have unasked : ∀ member ∈ [(Except.ok "x", Script.null)],
        Reading.Unasked sortKey.names member := by
      intro member found
      cases List.mem_singleton.mp found
      exact ⟨"x", rfl, by decide, rfl⟩
    have listed : Medium.text.Holds "\x7b\"sorts\":[[\"price\",\"asc\"]]\x7d"
        (frame.fill (.list items .closed)) :=
      Json.writtenAs_text .compact
        (.object [("sorts", .array [.array [.string "price", .string "asc"]])])
    have keyed : Medium.text.Holds
        "\x7b\"sorts\":[\x7b\"order\":\"asc\",\"field\":\"price\",\"x\":null\x7d]\x7d"
        (frame.fill (.object members .closed)) :=
      Json.writtenAs_text .compact (.object [("sorts", .array
        [.object [("order", .string "asc"), ("field", .string "price"), ("x", .null)]])])
    refine ((read_forms .text SimpleSpec.shape).2.1 sortKey frame items members _ _ _
      ⟨_, .swap _ _ _, unasked⟩ listed keyed).mpr ⟨by decide, ?_⟩
    rw [Medium.read_of_holds keyed]
    rfl
  · let bucket : Json := .array [.string "tag", .number (.ofUInt64 5), .string "asc"]
    let sample : Json := .array [.string "date", .string "desc", .number (.ofUInt64 1)]
    have keyed : Medium.tree.Holds (.object [("aggs", bucket), ("top_hit", sample)])
        (.object [(.ok "aggs", bucket.script), (.ok "top_hit", sample.script)] .closed) := rfl
    refine ((read_forms .tree AggregateSpec.shape).2.1 aggregate .here
      [bucket.script, sample.script] _ (.array [bucket, sample]) _ _ ⟨[], .refl _, nofun⟩ rfl
        keyed).mpr ⟨by decide, ?_⟩
    rfl

end RecordType

end QueryAssembly
