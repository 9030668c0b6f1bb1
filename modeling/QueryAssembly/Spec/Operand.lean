import QueryAssembly.Json.Basic

/-!
# Operands of a constraint

A constraint compares a field with one scalar or with a list of scalars.  On the wire an operand is
the bare scalar or the bare list, so its kind shows only in its JSON form: `Operand.ofJson?`
recovers exactly what `Operand.toJson` writes.
-/

namespace QueryAssembly

/-- A single value: truth value, number or text. -/
inductive Scalar where
  /-- A truth value. -/
  | bool (value : Bool)
  /-- A number. -/
  | number (value : Json.Number)
  /-- A text. -/
  | text (value : String)
deriving BEq

namespace Scalar

/-- The JSON form of a scalar. -/
def toJson : Scalar → Json
  | .bool value => .bool value
  | .number value => .number value
  | .text value => .string value

/-- The scalar that a JSON value is, if it is one. -/
def ofJson? : Json → Option Scalar
  | .bool value => some (.bool value)
  | .number value => some (.number value)
  | .string value => some (.text value)
  | _ => none

@[simp] theorem ofJson?_toJson (scalar : Scalar) : ofJson? scalar.toJson = some scalar := by
  cases scalar <;> rfl

theorem toJson_of_ofJson? {json : Json} {scalar : Scalar} (read : ofJson? json = some scalar) :
    scalar.toJson = json := by
  cases json <;> simp [ofJson?] at read <;> subst read <;> rfl

/-- The scalars that JSON values are, if each is one. -/
def listOfJson? : List Json → Option (List Scalar)
  | [] => some []
  | item :: rest =>
    match ofJson? item, listOfJson? rest with
    | some scalar, some further => some (scalar :: further)
    | _, _ => none

@[simp] theorem listOfJson?_map_toJson (scalars : List Scalar) :
    listOfJson? (scalars.map toJson) = some scalars := by
  induction scalars with
  | nil => rfl
  | cons scalar rest ih => simp [listOfJson?, ih]

theorem map_toJson_of_listOfJson? {items : List Json} {scalars : List Scalar}
    (read : listOfJson? items = some scalars) : scalars.map toJson = items := by
  induction items generalizing scalars with
  | nil => simp [listOfJson?] at read; subst read; rfl
  | cons item rest ih =>
    simp only [listOfJson?] at read
    split at read
    · rename_i scalar further first second
      cases read
      simp [toJson_of_ofJson? first, ih second]
    · cases read

end Scalar

/-- What a field is compared with: a list asks for membership, a scalar for equality. -/
inductive Operand where
  /-- Any of several scalars. -/
  | list (scalars : List Scalar)
  /-- One scalar. -/
  | single (scalar : Scalar)
deriving BEq

namespace Operand

/-- The operand is a list. -/
def isList : Operand → Bool
  | .list _ => true
  | .single _ => false

/-- The JSON form of an operand. -/
def toJson : Operand → Json
  | .list scalars => .array (scalars.map Scalar.toJson)
  | .single scalar => scalar.toJson

/-- The operand that a JSON value is, if it is one. -/
def ofJson? : Json → Option Operand
  | .array items => (Scalar.listOfJson? items).map .list
  | json => (Scalar.ofJson? json).map .single

@[simp] theorem ofJson?_toJson (operand : Operand) : ofJson? operand.toJson = some operand := by
  cases operand with
  | list scalars => simp [toJson, ofJson?]
  | single scalar => cases scalar <;> rfl

theorem toJson_of_ofJson? {json : Json} {operand : Operand}
    (read : ofJson? json = some operand) : operand.toJson = json := by
  cases json <;> simp [ofJson?, Scalar.ofJson?] at read
  case array items =>
    obtain ⟨scalars, found, rfl⟩ := read
    simp [toJson, Scalar.map_toJson_of_listOfJson? found]
  all_goals subst read; rfl

end Operand

end QueryAssembly
