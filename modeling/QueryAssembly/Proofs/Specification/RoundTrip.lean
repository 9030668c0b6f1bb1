import QueryAssembly.Proofs.Specification.Shapes

/-!
# Specifications are printed and read back

Every part of a specification, and a tuning as well, is read back from its printed text exactly.
So printing what was read is a normal form: it is read as the same value and prints as itself.
-/

namespace QueryAssembly

/-- The types whose values are printed and read. -/
inductive WireType where
  | fieldConstraint
  | nestedConstraint
  | sortKey
  | page
  | rawOptions
  | simpleSpec
  | relevanceSpec
  | aggregateSpec
  | tuning

namespace WireType

/-- The values of a type. -/
def Value : WireType → Type
  | .fieldConstraint => FieldConstraint
  | .nestedConstraint => NestedConstraint
  | .sortKey => SortKey
  | .page => Page
  | .rawOptions => RawOptions
  | .simpleSpec => SimpleSpec
  | .relevanceSpec => RelevanceSpec
  | .aggregateSpec => AggregateSpec
  | .tuning => Tuning

/-- How the values of a type are written. -/
def shape : (type : WireType) → Shape type.Value
  | .fieldConstraint => FieldConstraint.shape
  | .nestedConstraint => NestedConstraint.shape
  | .sortKey => SortKey.shape
  | .page => Page.shape
  | .rawOptions => .rawOptions
  | .simpleSpec => SimpleSpec.shape
  | .relevanceSpec => RelevanceSpec.shape
  | .aggregateSpec => AggregateSpec.shape
  | .tuning => Tuning.shape

/-- The floating point numbers of a value are finite.  Only a tuning has any that might not be. -/
def FloatsFinite : (type : WireType) → type.Value → Prop
  | .tuning, (value : Tuning) =>
    (∃ boost, value.phraseBoost = .finite boost) ∧ ∃ score, value.minScore = .finite score
  | _, _ => True

/-- The text of a value. -/
def print (type : WireType) (value : type.Value) : String :=
  (type.shape.write value).compact

/-- The value of a text. -/
def read (type : WireType) (text : String) : Except ReadError type.Value :=
  type.shape.readText text

/-- The text of the value of a text. -/
def reprint (type : WireType) (text : String) : Except ReadError String :=
  (type.read text).map type.print

theorem lossless_shape : (type : WireType) → type.shape.Lossless
  | .fieldConstraint => FieldConstraint.lossless_shape
  | .nestedConstraint => NestedConstraint.lossless_shape
  | .sortKey => SortKey.lossless_shape
  | .page => Page.lossless_shape
  | .rawOptions => .leaf trivial
  | .simpleSpec => SimpleSpec.lossless_shape
  | .relevanceSpec => RelevanceSpec.lossless_shape
  | .aggregateSpec => AggregateSpec.lossless_shape
  | .tuning => Tuning.lossless_shape

theorem isFinite_of_floatsFinite (type : WireType) {value : type.Value}
    (finite : type.FloatsFinite value) : type.shape.IsFinite value := by
  cases type with
  | tuning => exact ⟨finite.1, trivial, finite.2, trivial, trivial, trivial⟩
  | _ =>
    simp [shape, FieldConstraint.shape, NestedConstraint.shape, NestedMarker.shape, SortKey.shape,
      Page.shape, SimpleSpec.shape, RelevanceSpec.shape, SearchFields.shape, AggregateSpec.shape,
      BucketSpec.shape, SampleSpec.shape, Shape.IsFinite, Fields.IsFinite]

/-- What is printed is read back exactly, and printing what was read is a normal form. -/
theorem read_print (type : WireType) :
    (∀ value : type.Value, type.FloatsFinite value →
      (type.shape.write value).depth ≤ Origin.textLevels →
        type.read (type.print value) = .ok value) ∧
    ∀ text printed, type.reprint text = .ok printed →
      type.read printed = type.read text ∧ type.reprint printed = .ok printed := by
  have back (value : type.Value)
      (accepts : (Origin.text Origin.textLevels).Accepts type.shape value) :
      type.read (type.print value) = .ok value :=
    Shape.readText_text type.lossless_shape .compact accepts
  constructor
  · intro value finite shallow
    exact back value ⟨type.isFinite_of_floatsFinite finite, shallow⟩
  · intro text printed printed_again
    obtain ⟨value, read, rfl⟩ := map_ok_iff.mp printed_again
    have again := back value (Shape.accepts_of_readText type.lossless_shape read)
    refine ⟨again.trans read.symm, ?_⟩
    rw [reprint, again]
    rfl

/-- A page that is written as a list is printed as an object, and a zero keeps its sign. -/
theorem read_print_page :
    (WireType.page.reprint "[5,10]" = .ok "\x7b\"from\":5,\"size\":10\x7d" ∧
      WireType.page.reprint "\x7b\"from\":5,\"size\":10\x7d" =
        .ok "\x7b\"from\":5,\"size\":10\x7d") ∧
    (WireType.tuning.FloatsFinite
        (⟨.finite ⟨true, .zero⟩, 1, .finite ⟨false, .zero⟩, "AUTO", .listAware⟩ : Tuning) ∧
      WireType.tuning.read (WireType.tuning.print
          (⟨.finite ⟨true, .zero⟩, 1, .finite ⟨false, .zero⟩, "AUTO", .listAware⟩ : Tuning)) =
        .ok (⟨.finite ⟨true, .zero⟩, 1, .finite ⟨false, .zero⟩, "AUTO", .listAware⟩ : Tuning)) := by
  have parsed : Json.parse "[5,10]" =
      .ok (.array [.number (.ofUInt64 5), .number (.ofUInt64 10)]) := by
    have printed : "[5,10]" =
        (Json.array [.number (.ofUInt64 5), .number (.ofUInt64 10)]).text .compact := by
      rfl
    rw [printed]
    exact Json.parse_text .compact (by decide)
  have read : WireType.page.read "[5,10]" = .ok (⟨5, 10⟩ : Page) :=
    (Shape.readText_ok_iff Page.lossless_shape.namesDiffer parsed).mpr
      ⟨rfl, trivial, trivial, trivial⟩
  have printed : WireType.page.print (⟨5, 10⟩ : Page) = "\x7b\"from\":5,\"size\":10\x7d" := by
    rfl
  have reprinted : WireType.page.reprint "[5,10]" = .ok "\x7b\"from\":5,\"size\":10\x7d" := by
    rw [reprint, read, ← printed]
    rfl
  have finite : WireType.tuning.FloatsFinite
      (⟨.finite ⟨true, .zero⟩, 1, .finite ⟨false, .zero⟩, "AUTO", .listAware⟩ : Tuning) :=
    ⟨⟨_, rfl⟩, ⟨_, rfl⟩⟩
  exact ⟨⟨reprinted, ((read_print .page).2 _ _ reprinted).2⟩,
    finite, (read_print .tuning).1 _ finite (by decide)⟩

end WireType

end QueryAssembly
