import QueryAssembly.Shape.Basic

/-!
# Constraints on fields

A field constraint compares one field with an operand.  A nested constraint does so for a field of
the objects in a nested list, which is found under a path of its own.  Whether a constraint filters
or matches depends on the section of the specification in which it stands.
-/

namespace QueryAssembly

/-- A field and what it is compared with. -/
structure FieldConstraint where
  /-- The name of the field. -/
  field : String
  /-- What the field is compared with. -/
  operand : Operand
deriving BEq

namespace FieldConstraint

/-- How a field constraint is written. -/
def shape : Shape FieldConstraint :=
  .record "FieldValue"
    (.cons "field" .required .text <|
      .cons "value" .required .operand .nil)
    ⟨fun (field, operand, ()) => ⟨field, operand⟩,
      fun constraint => (constraint.field, constraint.operand, ()),
      fun _ => rfl, fun _ => rfl⟩

end FieldConstraint

/-- A field of nested objects and what it is compared with. -/
structure NestedConstraint where
  /-- The path of the nested list. -/
  path : String
  /-- The full name of the field inside it. -/
  key : String
  /-- What the field is compared with. -/
  operand : Operand
deriving BEq

namespace NestedConstraint

/-- How a nested constraint is written. -/
def shape : Shape NestedConstraint :=
  .record "NestedFieldValue"
    (.cons "path" .required .text <|
      .cons "key" .required .text <|
      .cons "value" .required .operand .nil)
    ⟨fun (path, key, operand, ()) => ⟨path, key, operand⟩,
      fun constraint => (constraint.path, constraint.key, constraint.operand, ()),
      fun _ => rfl, fun _ => rfl⟩

end NestedConstraint

end QueryAssembly
