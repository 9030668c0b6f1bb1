import QueryAssembly.Proofs.Json.Scripts
import QueryAssembly.Proofs.Shape.Readable

/-!
# Shapes that lose nothing

A lossless shape has what the laws of reading and writing ask for.  Shapes are lossless by their
make: a record is when its fields have different names and are lossless themselves.
-/

namespace QueryAssembly

/-- The values of a shape are found again when they are printed and read. -/
structure Shape.Lossless {α : Type} (shape : Shape α) : Prop where
  namesDiffer : shape.NamesDiffer
  nullsDiffer : shape.NullsDiffer
  defaultsFlat : shape.DefaultsFlat

/-- The values of fields are found again when they are printed and read. -/
structure Fields.Lossless {types : List Type} (fields : Fields types) : Prop where
  namesDiffer : fields.NamesDiffer
  nullsDiffer : fields.NullsDiffer
  defaultsFlat : fields.DefaultsFlat

/-- What stands for a field that is left out is finite, and no container. -/
def Presence.Flat {α : Type} (presence : Presence α) (shape : Shape α) : Prop :=
  ∀ absent, presence.absent? = some absent → shape.IsFinite absent ∧ (shape.write absent).depth = 0

theorem Shape.depth_write_real (value : Binary64) : (Shape.real.write value).depth = 0 := by
  cases value <;> rfl

namespace Presence

variable {α : Type}

theorem flat_required {shape : Shape α} : Presence.required.Flat shape :=
  nofun

theorem flat_always {shape : Shape α} {absent : α} (finite : shape.IsFinite absent)
    (depth : (shape.write absent).depth = 0) : (Presence.always absent).Flat shape := by
  rintro _ ⟨⟩
  exact ⟨finite, depth⟩

theorem flat_none {inner : Shape α} {presence : Presence (Option α)}
    (left_out : presence.absent? = some none) : presence.Flat (.nullable inner) := by
  intro absent found
  cases left_out.symm.trans found
  refine ⟨?_, rfl⟩
  intro held same
  cases same

end Presence

namespace Shape

/-- No value of a shape has parts with a shape of their own. -/
def IsLeaf : {α : Type} → Shape α → Prop
  | _, .list _ | _, .nullable _ | _, .record _ _ _ => False
  | _, .text | _, .count | _, .smallCount | _, .real | _, .scalar | _, .operand | _, .order
  | _, .sortMode | _, .filterMode | _, .rawOptions => True

variable {α : Type}

namespace Lossless

theorem leaf {shape : Shape α} (leaf : shape.IsLeaf) : shape.Lossless := by
  cases shape with
  | list item => exact leaf.elim
  | nullable inner => exact leaf.elim
  | record name fields packing => exact leaf.elim
  | _ => exact ⟨trivial, trivial, trivial⟩

theorem list {item : Shape α} (inside : item.Lossless) : (Shape.list item).Lossless :=
  ⟨inside.namesDiffer, inside.nullsDiffer, inside.defaultsFlat⟩

theorem nullable {inner : Shape α} (given : inner.NeverNull) (inside : inner.Lossless) :
    (Shape.nullable inner).Lossless :=
  ⟨inside.namesDiffer, ⟨given, inside.nullsDiffer⟩, inside.defaultsFlat⟩

theorem record {types : List Type} {name : String} {fields : Fields types}
    {packing : Packing types α} (differ : fields.names.Nodup) (inside : fields.Lossless) :
    (Shape.record name fields packing).Lossless :=
  ⟨⟨differ, inside.namesDiffer⟩, inside.nullsDiffer, inside.defaultsFlat⟩

end Lossless

end Shape

namespace Fields.Lossless

variable {α : Type} {types : List Type} {name : String} {presence : Presence α} {shape : Shape α}
  {rest : Fields types}

theorem nil : Fields.nil.Lossless :=
  ⟨trivial, trivial, trivial⟩

theorem cons (flat : presence.Flat shape) (first : shape.Lossless) (others : rest.Lossless) :
    (Fields.cons name presence shape rest).Lossless :=
  ⟨⟨first.namesDiffer, others.namesDiffer⟩, ⟨first.nullsDiffer, others.nullsDiffer⟩,
    flat, first.defaultsFlat, others.defaultsFlat⟩

theorem required (first : shape.Lossless) (others : rest.Lossless) :
    (Fields.cons name .required shape rest).Lossless :=
  cons Presence.flat_required first others

/-- A section that is null when it is left out. -/
theorem optional {inner : Shape α} {presence : Presence (Option α)} (given : inner.NeverNull)
    (left_out : presence.absent? = some none) (inside : inner.Lossless) (others : rest.Lossless) :
    (Fields.cons name presence (.nullable inner) rest).Lossless :=
  cons (Presence.flat_none left_out) (.nullable given inside) others

end Fields.Lossless

namespace Shape

variable {α : Type}

theorem readText_text {shape : Shape α} (lossless : shape.Lossless) (style : Json.Style)
    {value : α} (accepts : (Origin.text Origin.textLevels).Accepts shape value) :
    shape.readText ((shape.write value).text style) = .ok value := by
  have parsed := Json.parse_text style accepts.shallow
  rw [readText_ok_iff lossless.namesDiffer parsed]
  exact ⟨shape.ofJson?_write lossless.namesDiffer lossless.nullsDiffer value accepts.finite,
    shape.keysOnce_write lossless.namesDiffer value⟩

theorem accepts_of_readText {shape : Shape α} (lossless : shape.Lossless) {text : String}
    {value : α} (read : shape.readText text = .ok value) :
    (Origin.text Origin.textLevels).Accepts shape value := by
  unfold readText at read
  obtain ⟨found, read, ended⟩ := bind_ok_iff.mp read
  have same : found = value := by
    split at ended
    · exact Except.ok.inj ended
    · cases ended
  rw [← same]
  exact shape.accepts_of_read lossless.defaultsFlat read

end Shape

end QueryAssembly
