import QueryAssembly.Proofs.Shape.Denotation
import QueryAssembly.Shape.Writer

/-!
# What is written denotes the value

A value is found again in its JSON form, as long as its floating point numbers are finite and no
value inside an optional one is written as null, which would stand for nothing.
-/

namespace QueryAssembly

mutual

/-- Every floating point number in a value is finite. -/
def Shape.IsFinite : {α : Type} → Shape α → α → Prop
  | _, .real, value => ∃ finite, value = .finite finite
  | _, .list item, values => ∀ value ∈ values, item.IsFinite value
  | _, .nullable inner, value => ∀ held, value = some held → inner.IsFinite held
  | _, .record _ fields packing, value => fields.IsFinite (packing.unpack value)
  | _, .text, _ | _, .count, _ | _, .smallCount, _ | _, .scalar, _ | _, .operand, _
  | _, .order, _ | _, .sortMode, _ | _, .filterMode, _ | _, .rawOptions, _ => True

/-- Every floating point number in the values of fields is finite. -/
def Fields.IsFinite : {types : List Type} → Fields types → Values types → Prop
  | _, .nil, _ => True
  | _, .cons _ _ shape rest, (value, values) => shape.IsFinite value ∧ rest.IsFinite values

end

/-- No value of a shape is written as null. -/
def Shape.NeverNull : {α : Type} → Shape α → Prop
  | _, .real | _, .nullable _ => False
  | _, .text | _, .count | _, .smallCount | _, .scalar | _, .operand | _, .order | _, .sortMode
  | _, .filterMode | _, .rawOptions | _, .list _ | _, .record _ _ _ => True

mutual

/-- Nothing inside an optional value is written as null. -/
def Shape.NullsDiffer : {α : Type} → Shape α → Prop
  | _, .list item => item.NullsDiffer
  | _, .nullable inner => inner.NeverNull ∧ inner.NullsDiffer
  | _, .record _ fields _ => fields.NullsDiffer
  | _, .text | _, .count | _, .smallCount | _, .real | _, .scalar | _, .operand | _, .order
  | _, .sortMode | _, .filterMode | _, .rawOptions => True

/-- Nothing inside an optional value of a field is written as null. -/
def Fields.NullsDiffer : {types : List Type} → Fields types → Prop
  | _, .nil => True
  | _, .cons _ _ shape rest => shape.NullsDiffer ∧ rest.NullsDiffer

end

theorem Json.count?_ofUInt64 (value : UInt64) :
    (Json.number (.ofUInt64 value)).count? = some value := by
  have bound := value.toNat_lt
  simp [Number.ofUInt64, count?, bound]

theorem Json.smallCount?_ofUInt32 (value : UInt32) :
    (Json.number (.ofUInt32 value)).smallCount? = some value := by
  have bound := value.toNat_lt
  simp [Number.ofUInt32, smallCount?, bound]

theorem Shape.write_ne_null : {α : Type} → {shape : Shape α} → shape.NeverNull → (value : α) →
    shape.write value ≠ .null
  | _, .text, _, _ | _, .count, _, _ | _, .smallCount, _, _ | _, .order, _, _
  | _, .sortMode, _, _ | _, .filterMode, _, _ | _, .rawOptions, _, _ | _, .list _, _, _
  | _, .record _ _ _, _, _ => nofun
  | _, .scalar, _, value => by cases value <;> nofun
  | _, .operand, _, .list _ => nofun
  | _, .operand, _, .single value => by cases value <;> nofun

theorem Shape.ofJson?_nullable {α : Type} {inner : Shape α} {json : Json} (given : json ≠ .null) :
    (nullable inner).ofJson? json = (inner.ofJson? json).map some := by
  cases json with
  | null => exact absurd rfl given
  | _ => rfl

theorem mapM_map_eq_some {α β : Type} {write : α → β} {read : β → Option α} {values : List α}
    (each : ∀ value ∈ values, read (write value) = some value) :
    (values.map write).mapM read = some values := by
  induction values with
  | nil => rfl
  | cons value rest ih =>
    have first := each value List.mem_cons_self
    have others := ih fun other found => each other (List.mem_cons_of_mem value found)
    simp [List.mapM_cons, first, others]

theorem Fields.map_fst_write : {types : List Type} → (fields : Fields types) →
    (values : Values types) → (fields.write values).map Prod.fst = fields.names
  | _, .nil, _ => rfl
  | _, .cons name _ _ rest, (_, values) => congrArg (name :: ·) (rest.map_fst_write values)

/-- Each of some members is the only one with its key. -/
def Members.Holds (members written : List (String × Json)) : Prop :=
  ∀ key json, (key, json) ∈ written → under key members = [json]

theorem Fields.holds_write {types : List Type} {fields : Fields types}
    (differ : fields.names.Nodup) (values : Values types) :
    Members.Holds (fields.write values) (fields.write values) := by
  intro key json found
  refine Members.under_eq_singleton ?_ found
  rw [fields.map_fst_write]
  exact differ

mutual

/-- A written value denotes the value that was written. -/
theorem Shape.ofJson?_write : {α : Type} → (shape : Shape α) → shape.NamesDiffer →
    shape.NullsDiffer → (value : α) → shape.IsFinite value →
      shape.ofJson? (shape.write value) = some value
  | _, .text, _, _, _, _ => rfl
  | _, .count, _, _, value, _ => Json.count?_ofUInt64 value
  | _, .smallCount, _, _, value, _ => Json.smallCount?_ofUInt32 value
  | _, .real, _, _, _, ⟨_, rfl⟩ => rfl
  | _, .scalar, _, _, value, _ => value.ofJson?_toJson
  | _, .operand, _, _, value, _ => value.ofJson?_toJson
  | _, .order, _, _, value, _ => by
    simp [Shape.write, Shape.ofJson?, Json.named?, Json.text?, Except.toOption]
  | _, .sortMode, _, _, value, _ => by
    simp [Shape.write, Shape.ofJson?, Json.named?, Json.text?, Except.toOption]
  | _, .filterMode, _, _, value, _ => value.ofName?_name
  | _, .rawOptions, _, _, value, _ => congrArg some value.ofMembers_members
  | _, .list item, differ, nulls, values, finite =>
    mapM_map_eq_some fun value found => item.ofJson?_write differ nulls value (finite value found)
  | _, .nullable _, _, _, none, _ => rfl
  | _, .nullable inner, differ, nulls, some held, finite => by
    have inside := inner.ofJson?_write differ nulls.2 held (finite held rfl)
    rw [Shape.write, Shape.ofJson?_nullable (Shape.write_ne_null nulls.1 held), inside,
      Option.map_some]
  | _, .record _ fields packing, differ, nulls, value, finite => by
    have held := fields.holds_write differ.1 (packing.unpack value)
    have given := fields.ofMembers?_of_holds differ.2 nulls _ finite held
    rw [Shape.write, Shape.ofJson?, given, Option.map_some, packing.pack_unpack]

theorem Fields.ofMembers?_of_holds : {types : List Type} → (fields : Fields types) →
    fields.NamesDiffer → fields.NullsDiffer → (values : Values types) → fields.IsFinite values →
      {members : List (String × Json)} → Members.Holds members (fields.write values) →
        fields.ofMembers? members = some values
  | _, .nil, _, _, _, _, _, _ => rfl
  | _, .cons name _ shape rest, differ, nulls, (value, values), finite, members, held => by
    have here : Members.last? name members = some (shape.write value) := by
      rw [Members.last?, held name _ List.mem_cons_self, List.getLast?_singleton]
    have denoted := shape.ofJson?_write differ.1 nulls.1 value finite.1
    have others := rest.ofMembers?_of_holds differ.2 nulls.2 values finite.2
      fun key json found => held key json (List.mem_cons_of_mem _ found)
    simp [Fields.ofMembers?, here, denoted, others]

end

mutual

/-- A written value repeats no key. -/
theorem Shape.keysOnce_write : {α : Type} → (shape : Shape α) → shape.NamesDiffer → (value : α) →
    shape.KeysOnce (shape.write value)
  | _, .text, _, _ | _, .count, _, _ | _, .smallCount, _, _ | _, .real, _, _
  | _, .scalar, _, _ | _, .operand, _, _ | _, .order, _, _ | _, .sortMode, _, _
  | _, .filterMode, _, _ | _, .rawOptions, _, _ => trivial
  | _, .list item, differ, values => by
    intro json found
    obtain ⟨value, -, rfl⟩ := List.mem_map.mp found
    exact item.keysOnce_write differ value
  | _, .nullable inner, _, none => inner.keysOnce_of_isCanonical trivial
  | _, .nullable inner, differ, some held => inner.keysOnce_write differ held
  | _, .record _ fields packing, differ, value =>
    fields.keysOnceUnder_of_holds differ.2 (packing.unpack value)
      (fields.holds_write differ.1 (packing.unpack value))

theorem Fields.keysOnceUnder_of_holds : {types : List Type} → (fields : Fields types) →
    fields.NamesDiffer → (values : Values types) → {members : List (String × Json)} →
      Members.Holds members (fields.write values) → fields.KeysOnceUnder members
  | _, .nil, _, _, _, _ => trivial
  | _, .cons name _ shape rest, differ, (value, values), members, held => by
    have here := held name (shape.write value) List.mem_cons_self
    have others := rest.keysOnceUnder_of_holds differ.2 values
      fun key json found => held key json (List.mem_cons_of_mem _ found)
    refine ⟨by simp [here], ?_, others⟩
    intro json found
    rw [here, List.mem_singleton] at found
    rw [found]
    exact shape.keysOnce_write differ.1 value

end

end QueryAssembly
