import QueryAssembly.Proofs.Outcome
import QueryAssembly.Proofs.Shape.Denotation

/-!
# Records that are written as objects

A record may also be written as the bare list of its fields.  `Shape.Keyed` says of a value that
every record in it is written as an object; what such a value denotes is found member by member, and
a member that is missing denotes what null does wherever the field may be left out as null.
-/

namespace QueryAssembly

mutual

/-- Every record that is read in a value is written as an object. -/
def Shape.Keyed : {α : Type} → Shape α → Json → Prop
  | _, .list item, json => ∀ value ∈ json.items, item.Keyed value
  | _, .nullable inner, json => json ≠ .null → inner.Keyed json
  | _, .record _ fields _, json =>
    match json with
    | .object members => fields.KeyedUnder members
    | _ => False
  | _, .text, _ | _, .count, _ | _, .smallCount, _ | _, .real, _ | _, .scalar, _ | _, .operand, _
  | _, .order, _ | _, .sortMode, _ | _, .filterMode, _ | _, .rawOptions, _ => True

/-- Every record inside fields that are given by name is written as an object. -/
def Fields.KeyedUnder : {types : List Type} → Fields types → List (String × Json) → Prop
  | _, .nil, _ => True
  | _, .cons name _ shape rest, members =>
    (∀ value, Members.last? name members = some value → shape.Keyed value) ∧
      rest.KeyedUnder members

end

/-- A value is written as an object wherever it is a record. -/
structure Shape.Writes {α : Type} (shape : Shape α) (json : Json) (value : α) : Prop where
  keyed : shape.Keyed json
  denoted : shape.ofJson? json = some value

/-- The values of fields are written as members. -/
structure Fields.Writes {types : List Type} (fields : Fields types)
    (members : List (String × Json)) (values : Values types) : Prop where
  keyed : fields.KeyedUnder members
  denoted : fields.ofMembers? members = some values

/-- The first field is written as the member of its name, where a missing member counts as null. -/
theorem Fields.Writes.member_of_cons {α : Type} {types : List Type} {name : String}
    {presence : Presence α} {shape : Shape α} {rest : Fields types}
    {members : List (String × Json)} {value : α} {values : Values types}
    (written : (Fields.cons name presence shape rest).Writes members (value, values))
    (null : ∀ absent, presence.absent? = some absent → shape.Writes .null absent) :
    shape.Writes ((Json.object members).member name) value ∧ rest.Writes members values := by
  obtain ⟨⟨keyed, rest_keyed⟩, denoted⟩ := written
  obtain ⟨denoted, rest_denoted⟩ := pair_some_iff.mp denoted
  refine ⟨?_, rest_keyed, rest_denoted⟩
  rw [Json.member, Json.get?_object]
  cases found : Members.last? name members with
  | none =>
    rw [found] at denoted
    exact null value denoted
  | some json =>
    rw [found] at denoted
    exact ⟨keyed json found, denoted⟩

theorem Fields.Writes.member_of_required {α : Type} {types : List Type} {name : String}
    {shape : Shape α} {rest : Fields types} {members : List (String × Json)} {value : α}
    {values : Values types}
    (written : (Fields.cons name .required shape rest).Writes members (value, values)) :
    shape.Writes ((Json.object members).member name) value ∧ rest.Writes members values :=
  written.member_of_cons nofun

theorem Fields.Writes.member_of_optional {α : Type} {types : List Type} {name : String}
    {presence : Presence (Option α)} {inner : Shape α} {rest : Fields types}
    {members : List (String × Json)} {value : Option α} {values : Values types}
    (written : (Fields.cons name presence (.nullable inner) rest).Writes members (value, values))
    (left_out : presence.absent? = some none) :
    (Shape.nullable inner).Writes ((Json.object members).member name) value ∧
      rest.Writes members values := by
  refine written.member_of_cons fun absent found => ?_
  cases left_out.symm.trans found
  exact ⟨fun other => absurd rfl other, rfl⟩

namespace Shape.Writes

variable {α β : Type} {json : Json}

theorem members_of_record {types : List Type} {name : String} {fields : Fields types}
    {packing : Packing types α} {value : α}
    (written : (Shape.record name fields packing).Writes json value) :
    ∃ members, json = .object members ∧ fields.Writes members (packing.unpack value) := by
  obtain ⟨keyed, denoted⟩ := written
  cases json with
  | object members =>
    obtain ⟨values, given, rfl⟩ := Option.map_eq_some_iff.mp denoted
    rw [packing.unpack_pack]
    exact ⟨members, rfl, keyed, given⟩
  | _ => exact keyed.elim

/-- A list is written item by item, whatever is made of the items afterwards. -/
theorem map_list {item : Shape α} {values : List α}
    (written : (Shape.list item).Writes json values) {after : α → β} {direct : Json → β}
    (each : ∀ part value, item.Writes part value → after value = direct part) :
    values.map after = json.items.map direct := by
  obtain ⟨keyed, denoted⟩ := written
  cases json with
  | array items =>
    rw [Json.items_array]
    replace denoted : items.mapM item.ofJson? = some values := denoted
    replace keyed : ∀ part ∈ items, item.Keyed part := keyed
    induction items generalizing values with
    | nil =>
      cases denoted
      rfl
    | cons part rest ih =>
      rw [List.mapM_cons] at denoted
      obtain ⟨value, first, denoted⟩ := Option.bind_eq_some_iff.mp denoted
      obtain ⟨further, others, same⟩ := Option.bind_eq_some_iff.mp denoted
      cases same
      have head := each part value ⟨keyed part List.mem_cons_self, first⟩
      have tail := ih others fun other found => keyed other (List.mem_cons_of_mem part found)
      rw [List.map_cons, List.map_cons, head, tail]
  | _ => cases denoted

theorem map_nullable {inner : Shape α} {value : Option α}
    (written : (Shape.nullable inner).Writes json value) {after : α → β} {direct : Json → β}
    (each : ∀ value, inner.Writes json value → after value = direct json) :
    value.map after = json.unlessNull.map direct := by
  obtain ⟨keyed, denoted⟩ := written
  cases json with
  | null =>
    cases denoted
    rfl
  | _ =>
    obtain ⟨held, found, rfl⟩ := Option.map_eq_some_iff.mp denoted
    exact congrArg some (each held ⟨keyed (by simp), found⟩)

theorem map_nullable_list {item : Shape α} {values : Option (List α)}
    (written : (Shape.nullable (.list item)).Writes json values) {after : α → β}
    {direct : Json → β} (each : ∀ part value, item.Writes part value → after value = direct part) :
    values.map (fun values => values.map after) =
      json.unlessNull.map fun json => json.items.map direct :=
  written.map_nullable fun _ inside => inside.map_list each

end Shape.Writes

end QueryAssembly
