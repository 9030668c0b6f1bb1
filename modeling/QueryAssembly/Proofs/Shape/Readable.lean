import QueryAssembly.Proofs.Binary64.Rounding
import QueryAssembly.Proofs.Shape.Agreement
import QueryAssembly.Proofs.Shape.RoundTrip

/-!
# What has been read can be read again

A value that comes out of a reader has finite floating point numbers only, and its written form is
no deeper than what was read.  Both hold of a reader wherever it stands, so they are carried through
a record member by member (`Fields.Known`).
-/

namespace QueryAssembly

open Json (Script ListEnd ObjectEnd)

namespace Origin

/-- A value may be written and read again here. -/
structure Accepts (origin : Origin) {α : Type} (shape : Shape α) (value : α) : Prop where
  finite : shape.IsFinite value
  shallow : origin.Admits (shape.write value).depth

theorem admits_itemsDepth_iff {origin : Origin} {items : List Json} :
    origin.Admits (Json.itemsDepth items) ↔ ∀ item ∈ items, origin.Admits item.depth := by
  induction items with
  | nil => simp [Json.itemsDepth]
  | cons item rest ih => simp [Json.itemsDepth, admits_max_iff, ih]

end Origin

mutual

/-- What stands for a field that is left out is finite, and no container. -/
def Shape.DefaultsFlat : {α : Type} → Shape α → Prop
  | _, .list item => item.DefaultsFlat
  | _, .nullable inner => inner.DefaultsFlat
  | _, .record _ fields _ => fields.DefaultsFlat
  | _, .text | _, .count | _, .smallCount | _, .real | _, .scalar | _, .operand | _, .order
  | _, .sortMode | _, .filterMode | _, .rawOptions => True

/-- What stands for each of some fields is finite, and no container. -/
def Fields.DefaultsFlat : {types : List Type} → Fields types → Prop
  | _, .nil => True
  | _, .cons _ presence shape rest =>
    (∀ absent, presence.absent? = some absent →
        shape.IsFinite absent ∧ (shape.write absent).depth = 0) ∧
      shape.DefaultsFlat ∧ rest.DefaultsFlat

end

namespace Reading

theorem readReal_finite {script : Script} {value : Binary64} (read : readReal script = .ok value) :
    ∃ finite, value = .finite finite := by
  unfold readReal at read
  split at read
  · rename_i number
    cases read
    cases number with
    | integer held lower upper => exact Binary64.ofInt_finite lower upper
    | real held => exact ⟨held, rfl⟩
  · simp at read

theorem readRawOptions_admits {origin : Origin} {script : Script} {options : RawOptions}
    (read : readRawOptions origin script = .ok options) : origin.Admits options.toJson.depth := by
  obtain ⟨members, -, admits, rfl⟩ := readRawOptions_ok_iff.mp read
  exact admits.mono (Json.depth_canonical_le (.object members))

theorem readItems_forall {α : Type} {read : Script → Except ReadError α} {Holds : α → Prop}
    (each : ∀ script value, read script = .ok value → Holds value) {items : List Script}
    {stop : ListEnd} {values : List α} (whole : readItems read items stop = .ok values) :
    ∀ value ∈ values, Holds value := by
  induction items generalizing values with
  | nil =>
    obtain ⟨-, rfl⟩ := readItems_nil_iff.mp whole
    exact fun _ found => absurd found List.not_mem_nil
  | cons item rest ih =>
    obtain ⟨value, first, further, others, rfl⟩ := readItems_cons_iff.mp whole
    exact List.forall_mem_cons.mpr ⟨each item value first, ih others⟩

/-- What every member preserves, all members preserve. -/
theorem readMembers_induction {σ : Type} {read : String → Script → σ → Except ReadError σ}
    {Holds : σ → Prop}
    (each : ∀ key script known further,
      Holds known → read key script known = .ok further → Holds further)
    {members : List (Except Json.Fault String × Script)} {stop : ObjectEnd} {known last : σ}
    (first : Holds known) (whole : readMembers read members stop known = .ok last) :
    Holds last := by
  induction members generalizing known with
  | nil =>
    obtain ⟨-, rfl⟩ := readMembers_nil_iff.mp whole
    exact first
  | cons member rest ih =>
    obtain ⟨key, script⟩ := member
    obtain ⟨name, -, further, step, whole⟩ := readMembers_cons_iff.mp whole
    exact ih (each name script known further first step) whole

end Reading

open Reading

/-- The values of fields may be written and read again here. -/
structure Origin.AcceptsAll (origin : Origin) {types : List Type} (fields : Fields types)
    (values : Values types) : Prop where
  finite : fields.IsFinite values
  shallow : origin.Admits (Json.membersDepth (fields.write values))

theorem Origin.AcceptsAll.cons {origin : Origin} {α : Type} {types : List Type} {name : String}
    {presence : Presence α} {shape : Shape α} {rest : Fields types} {value : α}
    {values : Values types} (first : origin.Accepts shape value)
    (others : origin.AcceptsAll rest values) :
    origin.AcceptsAll (.cons name presence shape rest) (value, values) :=
  ⟨⟨first.finite, others.finite⟩, admits_max_iff.mpr ⟨first.shallow, others.shallow⟩⟩

namespace Fields

/-- Every value that is known of some fields may be written and read again here. -/
def Known (origin : Origin) : {types : List Type} → Fields types → Slots types → Prop
  | _, .nil, _ => True
  | _, .cons _ _ shape rest, (slot, slots) =>
    (∀ value, slot = some value → origin.Accepts shape value) ∧ rest.Known origin slots

theorem known_unknown (origin : Origin) : {types : List Type} → (fields : Fields types) →
    fields.Known origin fields.unknown
  | _, .nil => trivial
  | _, .cons _ _ _ rest => ⟨nofun, rest.known_unknown origin⟩

theorem accepts_absent {origin : Origin} {α : Type} {types : List Type} {name : String}
    {presence : Presence α} {shape : Shape α} {rest : Fields types}
    (flat : (cons name presence shape rest).DefaultsFlat) {absent : α}
    (found : presence.absent? = some absent) : origin.Accepts shape absent := by
  obtain ⟨finite, depth⟩ := flat.1 absent found
  refine ⟨finite, ?_⟩
  rw [depth]
  exact origin.admits_zero

theorem acceptsAll_of_complete {origin : Origin} : {types : List Type} →
    (fields : Fields types) → fields.DefaultsFlat → {slots : Slots types} →
      fields.Known origin slots → {values : Values types} →
        fields.complete slots = .ok values → origin.AcceptsAll fields values
  | _, .nil, _, _, _, _, _ => ⟨trivial, origin.admits_zero⟩
  | _, .cons _ presence shape rest, flat, (slot, slots), known, (value, values), completed => by
    obtain ⟨held, completed⟩ := complete_cons_iff.mp completed
    have others := rest.acceptsAll_of_complete flat.2.2 known.2 completed
    rcases held with given | ⟨-, absent⟩
    · exact .cons (known.1 value given) others
    · exact .cons (accepts_absent flat absent) others

end Fields

theorem Presence.absent?_of_beyond? {α : Type} {presence : Presence α} {value : α}
    (found : presence.beyond? = some value) : presence.absent? = some value := by
  cases presence with
  | always absent => exact found
  | required => cases found
  | keyed absent => cases found

mutual

/-- A value that has been read may be written and read again in the same place. -/
theorem Shape.accepts_of_read : {α : Type} → (shape : Shape α) → shape.DefaultsFlat →
    {origin : Origin} → {script : Script} → {value : α} →
      shape.read origin script = .ok value → origin.Accepts shape value
  | _, .text, _, origin, _, _, _ => ⟨trivial, origin.admits_zero⟩
  | _, .count, _, origin, _, _, _ => ⟨trivial, origin.admits_zero⟩
  | _, .smallCount, _, origin, _, _, _ => ⟨trivial, origin.admits_zero⟩
  | _, .real, _, origin, _, _, read => by
    obtain ⟨finite, rfl⟩ := readReal_finite read
    exact ⟨⟨finite, rfl⟩, origin.admits_zero⟩
  | _, .scalar, _, origin, _, value, _ => by
    cases value <;> exact ⟨trivial, origin.admits_zero⟩
  | _, .operand, _, _, _, _, read => by
    obtain ⟨json, -, admits, denoted⟩ := readAlternative_ok_iff.mp read
    refine ⟨trivial, ?_⟩
    rw [Shape.write, Operand.toJson_of_ofJson? denoted]
    exact admits
  | _, .order, _, origin, _, _, _ => ⟨trivial, origin.admits_zero⟩
  | _, .sortMode, _, origin, _, _, _ => ⟨trivial, origin.admits_zero⟩
  | _, .filterMode, _, origin, _, _, _ => ⟨trivial, origin.admits_zero⟩
  | _, .rawOptions, _, _, _, _, read => ⟨trivial, readRawOptions_admits read⟩
  | _, .list item, flat, origin, script, values, read => by
    cases script with
    | list items stop =>
      obtain ⟨inside, entered, read⟩ := bind_ok_iff.mp read
      have each := readItems_forall
        (fun _ value here => item.accepts_of_read flat here) read
      refine ⟨fun value found => (each value found).finite, Origin.admits_succ_iff.mpr
        ⟨inside, ofFault_eq_ok_iff.mp entered, Origin.admits_itemsDepth_iff.mpr ?_⟩⟩
      intro json found
      obtain ⟨value, member, rfl⟩ := List.mem_map.mp found
      exact (each value member).shallow
    | _ => simp [Shape.read] at read
  | _, .nullable inner, flat, origin, script, value, read => by
    have held {script : Script} (read : (inner.read origin script).map some = .ok value) :
        origin.Accepts (.nullable inner) value := by
      obtain ⟨held, here, rfl⟩ := map_ok_iff.mp read
      have inside := inner.accepts_of_read flat here
      refine ⟨?_, inside.shallow⟩
      rintro _ ⟨⟩
      exact inside.finite
    cases script with
    | null =>
      cases read
      exact ⟨nofun, origin.admits_zero⟩
    | _ => exact held read
  | _, .record name fields packing, flat, origin, script, value, read => by
    have packed {inside : Origin} (entered : origin.enter = .ok inside) {values : Values _}
        (accepted : inside.AcceptsAll fields values) :
        origin.Accepts (.record name fields packing) (packing.pack values) := by
      refine ⟨?_, Origin.admits_succ_iff.mpr ⟨inside, entered, ?_⟩⟩
      · rw [Shape.IsFinite, packing.unpack_pack]
        exact accepted.finite
      · rw [packing.unpack_pack]
        exact accepted.shallow
    cases script with
    | list items stop =>
      obtain ⟨inside, entered, read⟩ := bind_ok_iff.mp read
      obtain ⟨values, given, made⟩ := bind_ok_iff.mp read
      cases made
      exact packed (ofFault_eq_ok_iff.mp entered) (fields.acceptsAll_of_readPositional flat given)
    | object members stop =>
      obtain ⟨inside, entered, read⟩ := bind_ok_iff.mp read
      obtain ⟨slots, gathered, read⟩ := bind_ok_iff.mp read
      obtain ⟨values, completed, made⟩ := bind_ok_iff.mp read
      cases made
      have known : fields.Known inside slots := readMembers_induction
        (fun _ _ _ _ known step => fields.known_of_readMember flat known step)
        (fields.known_unknown inside) gathered
      exact packed (ofFault_eq_ok_iff.mp entered)
        (fields.acceptsAll_of_complete flat known completed)
    | _ => simp [Shape.read] at read

theorem Fields.acceptsAll_of_readPositional : {types : List Type} → (fields : Fields types) →
    fields.DefaultsFlat → {origin : Origin} → {record : String} → {size done : Nat} →
      {items : List Script} → {stop : ListEnd} → {values : Values types} →
        fields.readPositional origin record size done items stop = .ok values →
          origin.AcceptsAll fields values
  | _, .nil, _, origin, _, _, _, _, _, _, _ => ⟨trivial, origin.admits_zero⟩
  | _, .cons _ presence shape rest, flat, origin, record, size, done, [], stop, (value, values),
      read => by
    unfold Fields.readPositional at read
    split at read
    · cases read
    · obtain ⟨beyond, read⟩ := pair_ok_iff.mp read
      have absent := Presence.absent?_of_beyond? (beyondEnd_eq_ok_iff.mp beyond)
      exact .cons (Fields.accepts_absent flat absent)
        (rest.acceptsAll_of_readPositional flat.2.2 read)
  | _, .cons _ _ shape rest, flat, origin, record, size, done, item :: items, stop,
      (value, values), read => by
    unfold Fields.readPositional at read
    obtain ⟨first, read⟩ := pair_ok_iff.mp read
    exact .cons (shape.accepts_of_read flat.2.1 first)
      (rest.acceptsAll_of_readPositional flat.2.2 read)

theorem Fields.known_of_readMember : {types : List Type} → (fields : Fields types) →
    fields.DefaultsFlat → {origin : Origin} → {key : String} → {script : Script} →
      {known further : Slots types} → fields.Known origin known →
        fields.readMember origin key script known = .ok further → fields.Known origin further
  | _, .nil, _, _, _, _, _, _, _, _ => trivial
  | _, .cons name presence shape rest, flat, origin, key, script, (slot, slots), further, known,
      read => by
    by_cases same : key = name
    · subst same
      cases slot with
      | some held =>
        rw [Fields.readMember_known] at read
        cases read
      | none =>
        obtain ⟨value, here, rfl⟩ := Fields.readMember_unknown_iff.mp read
        refine ⟨?_, known.2⟩
        rintro _ ⟨⟩
        exact shape.accepts_of_read flat.2.1 here
    · obtain ⟨others, there, rfl⟩ := (Fields.readMember_other_iff same).mp read
      exact ⟨known.1, rest.known_of_readMember flat.2.2 known.2 there⟩

end

end QueryAssembly
