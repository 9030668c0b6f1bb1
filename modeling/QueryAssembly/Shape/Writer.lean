import QueryAssembly.Shape.Basic

/-!
# Writing values of a shape

`Shape.write` gives the JSON form of a value: records are objects with their fields in declared
order, a field without a value is null, and so is a floating point number that is not finite.
-/

namespace QueryAssembly

mutual

/-- The JSON form of a value of a shape. -/
def Shape.write : {α : Type} → Shape α → α → Json
  | _, .text, value => .string value
  | _, .count, value => .number (.ofUInt64 value)
  | _, .smallCount, value => .number (.ofUInt32 value)
  | _, .real, value => value.toJson
  | _, .scalar, value => value.toJson
  | _, .operand, value => value.toJson
  | _, .order, value => .string value.name
  | _, .sortMode, value => .string value.name
  | _, .filterMode, value => .string value.name
  | _, .rawOptions, value => value.toJson
  | _, .list item, values => .array (values.map item.write)
  | _, .nullable _, none => .null
  | _, .nullable inner, some value => inner.write value
  | _, .record _ fields packing, value => .object (fields.write (packing.unpack value))

/-- The members of a record, in declared order. -/
def Fields.write : {types : List Type} → Fields types → Values types → List (String × Json)
  | _, .nil, _ => []
  | _, .cons name _ shape rest, (value, values) => (name, shape.write value) :: rest.write values

end

end QueryAssembly
