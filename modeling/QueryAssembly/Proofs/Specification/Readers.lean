import QueryAssembly.Proofs.Shape.Agreement
import QueryAssembly.Proofs.Specification.Shapes

/-!
# Two readers of specifications

A specification is read from a text as it is from the tree of that text, except that the text must
not repeat a name of a field: the tree keeps the last of several values and cannot tell.
-/

namespace QueryAssembly

/-- No object that is read as a part of a specification repeats a name of the fields of that part.
Keys without a meaning may be repeated, and so may the keys of raw options. -/
def SpecKind.KeysOnce : SpecKind → Json → Prop
  | .simple => SimpleSpec.shape.KeysOnce
  | .relevance => RelevanceSpec.shape.KeysOnce
  | .aggregate => AggregateSpec.shape.KeysOnce

theorem Shape.readText_ok_iff_readTree {α : Type} {shape : Shape α} (differ : shape.NamesDiffer)
    {text : String} {written : Json} (parsed : Json.parse text = .ok written) (value : α) :
    shape.readText text = .ok value ↔
      shape.readTree written.canonical = .ok value ∧ shape.KeysOnce written := by
  rw [readText_ok_iff differ parsed, readTree_ok_iff differ, ofJson?_canonical]

namespace Specification

theorem map_ok_iff_of_ok_iff {α : Type} {text tree : Except ReadError α} {Once : Prop}
    (same : ∀ value, text = .ok value ↔ tree = .ok value ∧ Once) (wrap : α → Specification)
    (spec : Specification) :
    text.map wrap = .ok spec ↔ tree.map wrap = .ok spec ∧ Once := by
  simp only [map_ok_iff, same]
  constructor
  · rintro ⟨value, ⟨read, once⟩, rfl⟩
    exact ⟨⟨value, read, rfl⟩, once⟩
  · rintro ⟨⟨value, read, rfl⟩, once⟩
    exact ⟨value, ⟨read, once⟩, rfl⟩

/-- A text and its tree give the same specifications, up to repeated names of fields. -/
theorem readText_ok_iff_readTree_ok {text : String} {written : Json}
    (parsed : Json.parse text = .ok written) (kind : SpecKind) (spec : Specification) :
    readText kind text = .ok spec ↔
      readTree kind written.canonical = .ok spec ∧ kind.KeysOnce written := by
  cases kind with
  | simple =>
    have same := Shape.readText_ok_iff_readTree SimpleSpec.lossless_shape.namesDiffer parsed
    exact map_ok_iff_of_ok_iff same .simple spec
  | relevance =>
    have same := Shape.readText_ok_iff_readTree RelevanceSpec.lossless_shape.namesDiffer parsed
    exact map_ok_iff_of_ok_iff same .relevance spec
  | aggregate =>
    have same := Shape.readText_ok_iff_readTree AggregateSpec.lossless_shape.namesDiffer parsed
    exact map_ok_iff_of_ok_iff same .aggregate spec

/-- A key without a meaning may be repeated. -/
theorem readText_ok_of_unknown_repeated :
    Json.parse "\x7b\"x\":1,\"filters\":[],\"x\":2\x7d" =
      .ok (.object [("x", .number (.ofUInt64 1)), ("filters", .array []),
        ("x", .number (.ofUInt64 2))]) ∧
    readText .simple "\x7b\"x\":1,\"filters\":[],\"x\":2\x7d" =
      .ok (.simple { SimpleSpec.empty with filters := some [] }) := by
  have printed : "\x7b\"x\":1,\"filters\":[],\"x\":2\x7d" =
      (Json.object [("x", .number (.ofUInt64 1)), ("filters", .array []),
        ("x", .number (.ofUInt64 2))]).text .compact := by
    rfl
  have parsed : Json.parse "\x7b\"x\":1,\"filters\":[],\"x\":2\x7d" =
      .ok (.object [("x", .number (.ofUInt64 1)), ("filters", .array []),
        ("x", .number (.ofUInt64 2))]) := by
    rw [printed]
    exact Json.parse_text .compact (by decide)
  have once : SpecKind.simple.KeysOnce (.object [("x", .number (.ofUInt64 1)),
      ("filters", .array []), ("x", .number (.ofUInt64 2))]) := by
    simp [SpecKind.KeysOnce, SimpleSpec.shape, Shape.KeysOnce, Fields.KeysOnceUnder,
      Members.under, Json.items]
  exact ⟨parsed, (readText_ok_iff_readTree_ok parsed .simple _).mpr ⟨rfl, once⟩⟩

end Specification

end QueryAssembly
