import QueryAssembly.Proofs.Shape.Lossless
import QueryAssembly.Proofs.Tuning.Standard
import QueryAssembly.Specification

/-!
# The shapes of specifications

Specifications, their parts and tunings are written in lossless shapes: all fields of a record have
different names, and only sections that are lists, records or raw options may be null.
-/

namespace QueryAssembly

open Fields.Lossless (nil cons required optional)

theorem FieldConstraint.lossless_shape : shape.Lossless :=
  .record (by decide) (required (.leaf trivial) (required (.leaf trivial) nil))

theorem NestedConstraint.lossless_shape : shape.Lossless :=
  .record (by decide)
    (required (.leaf trivial) (required (.leaf trivial) (required (.leaf trivial) nil)))

theorem NestedMarker.lossless_shape : shape.Lossless :=
  .record (by decide) (required (.leaf trivial) (required (.leaf trivial) nil))

theorem SortKey.lossless_shape : shape.Lossless :=
  .record (by decide) <| required (.leaf trivial) <| required (.leaf trivial) <|
    optional trivial rfl NestedMarker.lossless_shape nil

theorem Page.lossless_shape : shape.Lossless :=
  .record (by decide) (required (.leaf trivial) (required (.leaf trivial) nil))

theorem SearchFields.lossless_shape : shape.Lossless :=
  .record (by decide)
    (required (.list (.leaf trivial)) (required (.list (.leaf trivial)) nil))

theorem BucketSpec.lossless_shape : shape.Lossless :=
  .record (by decide)
    (required (.leaf trivial) (required (.leaf trivial) (required (.leaf trivial) nil)))

theorem SampleSpec.lossless_shape : shape.Lossless :=
  .record (by decide)
    (required (.leaf trivial) (required (.leaf trivial) (required (.leaf trivial) nil)))

theorem SimpleSpec.lossless_shape : shape.Lossless :=
  .record (by decide) <|
    optional trivial rfl (.list FieldConstraint.lossless_shape) <|
    optional trivial rfl (.list FieldConstraint.lossless_shape) <|
    optional trivial rfl (.list NestedConstraint.lossless_shape) <|
    optional trivial rfl (.list NestedConstraint.lossless_shape) <|
    optional trivial rfl (.list SortKey.lossless_shape) <|
    optional trivial rfl Page.lossless_shape <|
    optional trivial rfl (.leaf trivial) nil

theorem RelevanceSpec.lossless_shape : shape.Lossless :=
  .record (by decide) <|
    required (.leaf trivial) <|
    required SearchFields.lossless_shape <|
    optional trivial rfl (.list FieldConstraint.lossless_shape) <|
    optional trivial rfl (.list FieldConstraint.lossless_shape) <|
    optional trivial rfl (.list SortKey.lossless_shape) <|
    optional trivial rfl Page.lossless_shape <|
    optional trivial rfl (.leaf trivial) nil

theorem AggregateSpec.lossless_shape : shape.Lossless :=
  .record (by decide) <|
    required BucketSpec.lossless_shape <|
    required SampleSpec.lossless_shape <|
    optional trivial rfl (.list FieldConstraint.lossless_shape) <|
    optional trivial rfl (.list FieldConstraint.lossless_shape) nil

/-- The fields of a tuning that are left out stand for finite numbers. -/
theorem Tuning.lossless_shape : shape.Lossless := by
  have boost : (Presence.always standard.phraseBoost).Flat .real :=
    Presence.flat_always ⟨_, phraseBoost_standard⟩ (Shape.depth_write_real _)
  have score : (Presence.always standard.minScore).Flat .real :=
    Presence.flat_always ⟨_, minScore_standard⟩ (Shape.depth_write_real _)
  exact .record (by decide) <|
    cons boost (.leaf trivial) <|
    cons (Presence.flat_always trivial rfl) (.leaf trivial) <|
    cons score (.leaf trivial) <|
    cons (Presence.flat_always trivial rfl) (.leaf trivial) <|
    cons (Presence.flat_always trivial rfl) (.leaf trivial) nil

end QueryAssembly
