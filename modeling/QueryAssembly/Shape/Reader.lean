import QueryAssembly.Json.Builder
import QueryAssembly.Reading.Leaf
import QueryAssembly.Shape.Basic

/-!
# Reading values of a shape

`Shape.read` reads a script from left to right into a value of a shape and stops at the first
problem, be it in the text or in the data.  Members of a keyed record may come in any order and
members with unknown keys are only skipped; `Shape.readText` and `Shape.readTree` are the two ways
to begin.
-/

namespace QueryAssembly

open Json (Script ListEnd ObjectEnd)

namespace Reading

/-- Read items of one kind up to the end of their list. -/
def readItems {α : Type} (read : Script → Except ReadError α) :
    List Script → ListEnd → Except ReadError (List α)
  | [], stop =>
    match stop.readFault with
    | none => .ok []
    | some fault => .error (.malformed fault)
  | item :: rest, stop => do
    let value ← read item
    let values ← readItems read rest stop
    return value :: values

/-- Read members one after the other, up to the end of their object. -/
def readMembers {σ : Type} (read : String → Script → σ → Except ReadError σ) :
    List (Except Json.Fault String × Script) → ObjectEnd → σ → Except ReadError σ
  | [], stop, known =>
    match stop.readFault with
    | none => .ok known
    | some fault => .error (.malformed fault)
  | (key, value) :: rest, stop, known => do
    let key ← ReadError.ofFault key
    let further ← read key value known
    readMembers read rest stop further

/-- The end of a list of fields, when every field has been read. -/
def readSurplus (origin : Origin) (read : Nat) : List Script → ListEnd → Except ReadError Unit
  | [], stop =>
    match stop.surplusFault with
    | none => .ok ()
    | some fault => .error (.malformed fault)
  | _ :: rest, _ =>
    match origin with
    | .text _ => .error (.malformed .trailingCharacters)
    | .tree => .error (.tooManyFields (read + 1 + rest.length))

/-- Skip a value that nobody asked for. -/
def skip (script : Script) : Except ReadError Unit :=
  match script.skipFault with
  | none => .ok ()
  | some fault => .error (.malformed fault)

/-- The value of a field that no key names. -/
def absentValue {α : Type} (name : String) : Presence α → Except ReadError α
  | .required => .error (.missingField name)
  | .keyed absent => .ok absent
  | .always absent => .ok absent

/-- The value of a field beyond the end of a list of fields. -/
def beyondEnd {α : Type} (error : ReadError) : Presence α → Except ReadError α
  | .always absent => .ok absent
  | _ => .error error

end Reading

open Reading

namespace Fields

/-- The values of all fields, once every member has been read. -/
def complete : {types : List Type} → Fields types → Slots types → Except ReadError (Values types)
  | _, .nil, _ => .ok ()
  | _, .cons name presence _ rest, (slot, slots) => do
    let value ←
      match slot with
      | some value => .ok value
      | none => absentValue name presence
    let values ← rest.complete slots
    return (value, values)

end Fields

mutual

/-- Read a value of a shape. -/
def Shape.read : {α : Type} → Shape α → Origin → Script → Except ReadError α
  | _, .text, _, script => readText script
  | _, .count, _, script => readCount script
  | _, .smallCount, _, script => readSmallCount script
  | _, .real, _, script => readReal script
  | _, .scalar, origin, script => readScalar origin script
  | _, .operand, origin, script => readOperand origin script
  | _, .order, _, script => readNamed SortOrder.parse script
  | _, .sortMode, _, script => readNamed SortMode.parse script
  | _, .filterMode, origin, script => readMode origin script
  | _, .rawOptions, origin, script => readRawOptions origin script
  | _, .list item, origin, script =>
    match script with
    | .list items stop => do
      let inside ← ReadError.ofFault origin.enter
      readItems (item.read inside) items stop
    | other => mismatch other .list
  | _, .nullable inner, origin, script =>
    match script with
    | .null => .ok none
    | other => (inner.read origin other).map some
  | _, .record name fields packing, origin, script =>
    match script with
    | .list items stop => do
      let inside ← ReadError.ofFault origin.enter
      let values ← fields.readPositional inside name fields.size 0 items stop
      return packing.pack values
    | .object members stop => do
      let inside ← ReadError.ofFault origin.enter
      let slots ← readMembers (fields.readMember inside) members stop fields.unknown
      let values ← fields.complete slots
      return packing.pack values
    | other => mismatch other (.record name)

/-- Read fields in declared order from a list, of which some fields are read already. -/
def Fields.readPositional : {types : List Type} → Fields types → Origin → String → Nat → Nat →
    List Script → ListEnd → Except ReadError (Values types)
  | _, .nil, origin, _, _, done, items, stop => readSurplus origin done items stop
  | _, .cons _ presence _ rest, origin, record, size, done, [], stop =>
    match stop.readFault with
    | some fault => .error (.malformed fault)
    | none => do
      let value ← beyondEnd (.tooFewFields done record size) presence
      let values ← rest.readPositional origin record size (done + 1) [] stop
      return (value, values)
  | _, .cons _ _ shape rest, origin, record, size, done, item :: items, stop => do
    let value ← shape.read origin item
    let values ← rest.readPositional origin record size (done + 1) items stop
    return (value, values)

/-- Read a member into the field that its key names, or skip it when no field has that name. -/
def Fields.readMember : {types : List Type} → Fields types → Origin → String → Script →
    Slots types → Except ReadError (Slots types)
  | _, .nil, _, _, script, known => do
    skip script
    return known
  | _, .cons name _ shape rest, origin, key, script, (slot, slots) =>
    if key = name then
      match slot with
      | some _ => .error (.duplicateField name)
      | none => do
        let value ← shape.read origin script
        return (some value, slots)
    else do
      let further ← rest.readMember origin key script slots
      return (slot, further)

end

namespace Shape

/-- Read a whole text: nothing but white space may follow the value. -/
def readText {α : Type} (shape : Shape α) (text : String) : Except ReadError α := do
  let (script, rest) := Script.ofText text
  let value ← shape.read (.text Origin.textLevels) script
  match rest with
  | [] => .ok value
  | _ :: _ => .error (.malformed .trailingCharacters)

/-- Read a tree; of equal keys the last wins, and members are visited by ascending key. -/
def readTree {α : Type} (shape : Shape α) (json : Json) : Except ReadError α :=
  shape.read .tree json.canonical.script

end Shape

end QueryAssembly
