import QueryAssembly.Binary64.Basic
import QueryAssembly.Spec.Names
import QueryAssembly.Spec.Operand
import QueryAssembly.Spec.RawOptions

/-!
# Shapes of values

A shape describes how the values of a type are written: as a plain value, a list, a value that may
be null, or a record of named fields.  Reading and writing are defined once, by recursion on the
shape, so every law about them is one induction that serves all types of specifications.
-/

namespace QueryAssembly

/-- The values of several fields. -/
@[reducible] def Values : List Type → Type
  | [] => Unit
  | type :: types => type × Values types

/-- The values of several fields as far as they are known. -/
@[reducible] def Slots : List Type → Type
  | [] => Unit
  | type :: types => Option type × Slots types

/-- A structure, taken apart into its fields and put together from them. -/
structure Packing (types : List Type) (α : Type) where
  /-- Put the fields together. -/
  pack : Values types → α
  /-- Take the fields apart. -/
  unpack : α → Values types
  /-- Nothing is lost when a structure is taken apart. -/
  pack_unpack : ∀ value, pack (unpack value) = value
  /-- Nothing is lost when fields are put together. -/
  unpack_pack : ∀ values, unpack (pack values) = values

/-- Whether a field must be given. -/
inductive Presence (α : Type) where
  /-- The field must be given. -/
  | required
  /-- A keyed record may leave the field out; a list of fields may not. -/
  | keyed (absent : α)
  /-- The field may be left out, at the end of a list of fields too. -/
  | always (absent : α)

mutual

/-- How the values of a type are written. -/
inductive Shape : Type → Type 1 where
  /-- A text. -/
  | text : Shape String
  /-- A natural number of 64 bits. -/
  | count : Shape UInt64
  /-- A natural number of 32 bits. -/
  | smallCount : Shape UInt32
  /-- A floating point number. -/
  | real : Shape Binary64
  /-- A scalar. -/
  | scalar : Shape Scalar
  /-- An operand. -/
  | operand : Shape Operand
  /-- The name of a sort order. -/
  | order : Shape SortOrder
  /-- The name of a sort mode. -/
  | sortMode : Shape SortMode
  /-- The name of a filter mode. -/
  | filterMode : Shape FilterMode
  /-- An object with any keys. -/
  | rawOptions : Shape RawOptions
  /-- A list of values of one shape. -/
  | list {α : Type} (item : Shape α) : Shape (List α)
  /-- A value or null. -/
  | nullable {α : Type} (inner : Shape α) : Shape (Option α)
  /-- A record: an object under the names of the fields, or a list in their order. -/
  | record {types : List Type} {α : Type} (name : String) (fields : Fields types)
      (packing : Packing types α) : Shape α

/-- The fields of a record, in declared order. -/
inductive Fields : List Type → Type 1 where
  /-- No field. -/
  | nil : Fields []
  /-- A field before others. -/
  | cons {α : Type} {types : List Type} (name : String) (presence : Presence α)
      (shape : Shape α) (rest : Fields types) : Fields (α :: types)

end

namespace Fields

/-- The number of fields. -/
def size : {types : List Type} → Fields types → Nat
  | _, .nil => 0
  | _, .cons _ _ _ rest => rest.size + 1

/-- The names of the fields, in declared order. -/
def names : {types : List Type} → Fields types → List String
  | _, .nil => []
  | _, .cons name _ _ rest => name :: rest.names

/-- No field is known yet. -/
def unknown : {types : List Type} → Fields types → Slots types
  | _, .nil => ()
  | _, .cons _ _ _ rest => (none, rest.unknown)

end Fields

end QueryAssembly
