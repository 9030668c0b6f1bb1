import QueryAssembly.Proofs.Json.Canonical
import QueryAssembly.Shape.Basic

/-!
# What a JSON value denotes

`Shape.ofJson?` says which value of a shape a JSON value denotes, by recursion on the shape and
without any order of reading: a keyed record takes for each field the last value under its name.
`Shape.KeysOnce` is the one thing a reader asks beyond that.  Both readers are measured against
this pair, and canonical order changes neither: `Shape.ofJson?_canonical` and
`Shape.keysOnce_of_isCanonical`.
-/

namespace QueryAssembly

namespace Json

/-- The text that a value is, if it is one. -/
def text? : Json → Option String
  | .string value => some value
  | _ => none

/-- The natural number of 64 bits that a value is, if it is one. -/
def count? : Json → Option UInt64
  | .number (.integer value _ _) =>
    if 0 ≤ value then
      if bound : value.toNat < 0x10000000000000000 then some (.ofNatLT value.toNat bound) else none
    else none
  | _ => none

/-- The natural number of 32 bits that a value is, if it is one. -/
def smallCount? : Json → Option UInt32
  | .number (.integer value _ _) =>
    if 0 ≤ value then
      if bound : value.toNat < 0x100000000 then some (.ofNatLT value.toNat bound) else none
    else none
  | _ => none

/-- The floating point number that a value is rounded to, if it is a number. -/
def real? : Json → Option Binary64
  | .number value => some value.toBinary64
  | _ => none

/-- The choice that a value names, if it is a text that names one. -/
def named? {α : Type} (parse : String → Except NameError α) (json : Json) : Option α :=
  json.text?.bind fun name => (parse name).toOption

/-- The filter mode that a value names, alone or as the only key over null. -/
def mode? : Json → Option FilterMode
  | .string name => FilterMode.ofName? name
  | .object members =>
    match canonicalMembers members with
    | [(name, .null)] => FilterMode.ofName? name
    | _ => none
  | _ => none

/-- The raw options that a value is, if it is an object. -/
def rawOptions? : Json → Option RawOptions
  | .object members => some (.ofMembers members)
  | _ => none

end Json

namespace Presence

variable {α : Type}

/-- The value of a field that a keyed record leaves out. -/
def absent? : Presence α → Option α
  | .required => none
  | .keyed absent => some absent
  | .always absent => some absent

/-- The value of a field beyond the end of a list of fields. -/
def beyond? : Presence α → Option α
  | .always absent => some absent
  | _ => none

end Presence

mutual

/-- The value of a shape that a JSON value denotes, if it denotes one. -/
def Shape.ofJson? : {α : Type} → Shape α → Json → Option α
  | _, .text, json => json.text?
  | _, .count, json => json.count?
  | _, .smallCount, json => json.smallCount?
  | _, .real, json => json.real?
  | _, .scalar, json => Scalar.ofJson? json
  | _, .operand, json => Operand.ofJson? json
  | _, .order, json => json.named? SortOrder.parse
  | _, .sortMode, json => json.named? SortMode.parse
  | _, .filterMode, json => json.mode?
  | _, .rawOptions, json => json.rawOptions?
  | _, .list item, json =>
    match json with
    | .array items => items.mapM item.ofJson?
    | _ => none
  | _, .nullable inner, json =>
    match json with
    | .null => some none
    | other => (inner.ofJson? other).map some
  | _, .record _ fields packing, json =>
    match json with
    | .array items => (fields.ofItems? items).map packing.pack
    | .object members => (fields.ofMembers? members).map packing.pack
    | _ => none

/-- The values of fields that are given in declared order. -/
def Fields.ofItems? : {types : List Type} → Fields types → List Json → Option (Values types)
  | _, .nil, [] => some ()
  | _, .nil, _ :: _ => none
  | _, .cons _ presence _ rest, [] => do
    let value ← presence.beyond?
    let values ← rest.ofItems? []
    return (value, values)
  | _, .cons _ _ shape rest, item :: items => do
    let value ← shape.ofJson? item
    let values ← rest.ofItems? items
    return (value, values)

/-- The values of fields that are given by name. -/
def Fields.ofMembers? : {types : List Type} → Fields types → List (String × Json) →
    Option (Values types)
  | _, .nil, _ => some ()
  | _, .cons name presence shape rest, members => do
    let value ← ((Members.last? name members).map shape.ofJson?).getD presence.absent?
    let values ← rest.ofMembers? members
    return (value, values)

end

mutual

/-- No object that is read as a record repeats a name of its fields, and none that is read as a
choice repeats a key. -/
def Shape.KeysOnce : {α : Type} → Shape α → Json → Prop
  | _, .list item, json => ∀ value ∈ json.items, item.KeysOnce value
  | _, .nullable inner, json => inner.KeysOnce json
  | _, .filterMode, json =>
    match json with
    | .object members => (members.map Prod.fst).Nodup
    | _ => True
  | _, .record _ fields _, json =>
    match json with
    | .array items => fields.KeysOnceAmong items
    | .object members => fields.KeysOnceUnder members
    | _ => True
  | _, .text, _ | _, .count, _ | _, .smallCount, _ | _, .real, _ | _, .scalar, _ | _, .operand, _
  | _, .order, _ | _, .sortMode, _ | _, .rawOptions, _ => True

/-- No key is repeated inside fields that are given in declared order. -/
def Fields.KeysOnceAmong : {types : List Type} → Fields types → List Json → Prop
  | _, .nil, _ => True
  | _, .cons _ _ _ _, [] => True
  | _, .cons _ _ shape rest, item :: items => shape.KeysOnce item ∧ rest.KeysOnceAmong items

/-- No name of a field is repeated, and no key inside a field. -/
def Fields.KeysOnceUnder : {types : List Type} → Fields types → List (String × Json) → Prop
  | _, .nil, _ => True
  | _, .cons name _ shape rest, members =>
    (Members.under name members).length ≤ 1 ∧
      (∀ value ∈ Members.under name members, shape.KeysOnce value) ∧ rest.KeysOnceUnder members

end

mutual

/-- The fields of every record in a shape have different names. -/
def Shape.NamesDiffer : {α : Type} → Shape α → Prop
  | _, .list item => item.NamesDiffer
  | _, .nullable inner => inner.NamesDiffer
  | _, .record _ fields _ => fields.names.Nodup ∧ fields.NamesDiffer
  | _, .text | _, .count | _, .smallCount | _, .real | _, .scalar | _, .operand | _, .order
  | _, .sortMode | _, .filterMode | _, .rawOptions => True

/-- The fields of every record inside fields have different names. -/
def Fields.NamesDiffer : {types : List Type} → Fields types → Prop
  | _, .nil => True
  | _, .cons _ _ shape rest => shape.NamesDiffer ∧ rest.NamesDiffer

end

/-! ### Canonical order -/

namespace Scalar

theorem ofJson?_canonical (json : Json) : ofJson? json.canonical = ofJson? json := by
  cases json <;> rfl

theorem listOfJson?_canonicalItems (items : List Json) :
    listOfJson? (Json.canonicalItems items) = listOfJson? items := by
  induction items with
  | nil => rfl
  | cons item rest ih => simp only [Json.canonicalItems, listOfJson?, ofJson?_canonical, ih]

end Scalar

theorem Operand.ofJson?_canonical (json : Json) : ofJson? json.canonical = ofJson? json := by
  cases json with
  | array items =>
    simp only [Json.canonical, ofJson?, Scalar.listOfJson?_canonicalItems]
  | _ => rfl

namespace Json

theorem canonicalMembers_canonicalMembers (members : List (String × Json)) :
    canonicalMembers (canonicalMembers members) = canonicalMembers members := by
  have same := canonical_canonical (.object members)
  simpa only [canonical, Json.object.injEq] using same

theorem mode?_canonical (json : Json) : json.canonical.mode? = json.mode? := by
  cases json with
  | object members => simp only [canonical, mode?, canonicalMembers_canonicalMembers]
  | _ => rfl

/-- The only key of a value names a mode when nothing is held under it. -/
theorem mode?_singleton_iff {name : String} {payload : Json} {mode : FilterMode} :
    (Json.object [(name, payload)]).mode? = some mode ↔
      FilterMode.ofName? name = some mode ∧ payload = .null := by
  simp only [mode?, canonicalMembers, Members.offer_nil]
  by_cases null : payload = .null
  · simp [null, canonical]
  · have other := mt canonical_eq_null_iff.mp null
    simp only [null, and_false, iff_false]
    split
    · rename_i same
      simp only [List.cons.injEq, Prod.mk.injEq, and_true] at same
      exact absurd same.2 other
    · simp

theorem mode?_eq_none_of_ne {first second : String × Json} {rest : List (String × Json)}
    (differ : first.1 ≠ second.1) : (Json.object (first :: second :: rest)).mode? = none := by
  simp only [mode?]
  split
  · rename_i single
    exact absurd single (canonicalMembers_ne_singleton differ _)
  · rfl

theorem rawOptions?_canonical (json : Json) : json.canonical.rawOptions? = json.rawOptions? := by
  cases json with
  | object members =>
    simp only [canonical, rawOptions?, RawOptions.ofMembers, canonicalMembers_canonicalMembers]
  | _ => rfl

end Json

mutual

/-- Canonical order does not change what a value denotes. -/
theorem Shape.ofJson?_canonical : {α : Type} → (shape : Shape α) → (json : Json) →
    shape.ofJson? json.canonical = shape.ofJson? json
  | _, .text, json => by cases json <;> rfl
  | _, .count, json => by cases json <;> rfl
  | _, .smallCount, json => by cases json <;> rfl
  | _, .real, json => by cases json <;> rfl
  | _, .scalar, json => Scalar.ofJson?_canonical json
  | _, .operand, json => Operand.ofJson?_canonical json
  | _, .order, json => by cases json <;> rfl
  | _, .sortMode, json => by cases json <;> rfl
  | _, .filterMode, json => Json.mode?_canonical json
  | _, .rawOptions, json => Json.rawOptions?_canonical json
  | _, .list item, json => by
    cases json with
    | array items =>
      have each : item.ofJson? ∘ Json.canonical = item.ofJson? :=
        funext fun json => item.ofJson?_canonical json
      simp only [Json.canonical, Shape.ofJson?, Json.canonicalItems_eq_map, List.mapM_map, each]
    | _ => rfl
  | _, .nullable inner, json => by
    cases json with
    | null => rfl
    | bool value => rfl
    | number value => rfl
    | string value => rfl
    | array items => exact congrArg (Option.map some) (inner.ofJson?_canonical (.array items))
    | object members =>
      exact congrArg (Option.map some) (inner.ofJson?_canonical (.object members))
  | _, .record _ fields packing, json => by
    cases json with
    | array items => simp only [Json.canonical, Shape.ofJson?, fields.ofItems?_canonicalItems]
    | object members =>
      simp only [Json.canonical, Shape.ofJson?, fields.ofMembers?_canonicalMembers]
    | _ => rfl

theorem Fields.ofItems?_canonicalItems : {types : List Type} → (fields : Fields types) →
    (items : List Json) → fields.ofItems? (Json.canonicalItems items) = fields.ofItems? items
  | _, .nil, [] => rfl
  | _, .nil, _ :: _ => rfl
  | _, .cons _ _ _ _, [] => rfl
  | _, .cons _ _ shape rest, item :: items => by
    rw [Json.canonicalItems, Fields.ofItems?, Fields.ofItems?, shape.ofJson?_canonical,
      rest.ofItems?_canonicalItems]

theorem Fields.ofMembers?_canonicalMembers : {types : List Type} → (fields : Fields types) →
    (members : List (String × Json)) →
      fields.ofMembers? (Json.canonicalMembers members) = fields.ofMembers? members
  | _, .nil, _ => rfl
  | _, .cons name _ shape rest, members => by
    simp only [Fields.ofMembers?, Json.last?_canonicalMembers,
      rest.ofMembers?_canonicalMembers]
    cases Members.last? name members with
    | none => rfl
    | some json => simp only [Option.map_some, Option.getD_some, shape.ofJson?_canonical]

end

theorem Members.nodup_of_ascending {α : Type} {members : List (String × α)}
    (ascending : Members.Ascending members) : (members.map Prod.fst).Nodup :=
  List.Pairwise.imp (fun {left right} (before : left < right) (same : left = right) =>
    String.lt_irrefl right (same ▸ before)) ascending

mutual

/-- In a canonical value no key is repeated anywhere. -/
theorem Shape.keysOnce_of_isCanonical : {α : Type} → (shape : Shape α) → {json : Json} →
    json.IsCanonical → shape.KeysOnce json
  | _, .text, _, _ | _, .count, _, _ | _, .smallCount, _, _ | _, .real, _, _
  | _, .scalar, _, _ | _, .operand, _, _ | _, .order, _, _ | _, .sortMode, _, _
  | _, .rawOptions, _, _ => trivial
  | _, .filterMode, json, canonical => by
    cases json with
    | object members => exact Members.nodup_of_ascending canonical.1
    | _ => trivial
  | _, .list item, json, canonical => by
    intro value found
    cases json with
    | array items =>
      exact item.keysOnce_of_isCanonical (Json.isCanonical_of_mem_items canonical found)
    | _ => cases found
  | _, .nullable inner, _, canonical => inner.keysOnce_of_isCanonical canonical
  | _, .record _ fields _, json, canonical => by
    cases json with
    | array items => exact fields.keysOnceAmong_of_isCanonical canonical
    | object members => exact fields.keysOnceUnder_of_isCanonical canonical.1 canonical.2
    | _ => trivial

theorem Fields.keysOnceAmong_of_isCanonical : {types : List Type} → (fields : Fields types) →
    {items : List Json} → Json.ItemsCanonical items → fields.KeysOnceAmong items
  | _, .nil, _, _ => trivial
  | _, .cons _ _ _ _, [], _ => trivial
  | _, .cons _ _ shape rest, _ :: _, canonical =>
    ⟨shape.keysOnce_of_isCanonical canonical.1, rest.keysOnceAmong_of_isCanonical canonical.2⟩

theorem Fields.keysOnceUnder_of_isCanonical : {types : List Type} → (fields : Fields types) →
    {members : List (String × Json)} → Members.Ascending members →
      Json.MembersCanonical members → fields.KeysOnceUnder members
  | _, .nil, _, _, _ => trivial
  | _, .cons name _ shape rest, _, ascending, canonical =>
    ⟨Members.length_under_le_one ascending name,
      fun _ found => shape.keysOnce_of_isCanonical
        (Json.isCanonical_of_mem_members canonical (Members.mem_under.mp found)),
      rest.keysOnceUnder_of_isCanonical ascending canonical⟩

end

end QueryAssembly
