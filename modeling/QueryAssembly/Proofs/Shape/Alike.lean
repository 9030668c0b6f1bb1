import QueryAssembly.Proofs.Json.Reordered
import QueryAssembly.Proofs.Shape.Agreement

/-!
# Scripts that are read alike

`Shape.Alike` relates two scripts of a shape that differ in ways to which reading is blind: members
in another order, members that no field asks for, and null in the place of an optional field that is
left out, in every record at any depth, and the order of members inside raw options.  Each of them
leaves the outcome of reading as it is (`Shape.Alike.read_ok_iff`).
-/

namespace QueryAssembly

open Json (Script ListEnd ObjectEnd)

/-! ### Members one after the other -/

namespace Reading

variable {σ : Type} {read : String → Script → σ → Except ReadError σ}

theorem readMembers_append_iff {front back : List (Except Json.Fault String × Script)}
    {stop : ObjectEnd} {before after : σ} :
    readMembers read (front ++ back) stop before = .ok after ↔
      ∃ between, readMembers read front .closed before = .ok between ∧
        readMembers read back stop between = .ok after := by
  induction front generalizing before with
  | nil =>
    constructor
    · intro later
      exact ⟨before, rfl, later⟩
    · rintro ⟨between, here, later⟩
      cases here
      exact later
  | cons member rest ih =>
    obtain ⟨key, value⟩ := member
    rw [List.cons_append, readMembers_cons_iff]
    simp only [readMembers_cons_iff, ih]
    constructor
    · rintro ⟨name, sound, first, here, between, further, later⟩
      exact ⟨between, ⟨name, sound, first, here, further⟩, later⟩
    · rintro ⟨between, ⟨name, sound, first, here, further⟩, later⟩
      exact ⟨name, sound, first, here, between, further, later⟩

theorem readMembers_singleton_iff {name : String} {value : Script} {before after : σ} :
    readMembers read [(.ok name, value)] .closed before = .ok after ↔
      read name value before = .ok after := by
  rw [readMembers_cons_iff]
  constructor
  · rintro ⟨_, sound, between, here, later⟩
    cases sound
    cases later
    exact here
  · intro here
    exact ⟨name, rfl, after, here, rfl⟩

/-- Two members that are read one after the other may change places. -/
def Commutes (read : String → Script → σ → Except ReadError σ) : Prop :=
  ∀ first second left right before after,
    (∃ between, read first left before = .ok between ∧ read second right between = .ok after) →
      ∃ between, read second right before = .ok between ∧ read first left between = .ok after

/-- When any two members may change places, so may all of them. -/
theorem readMembers_ok_of_perm (commutes : Commutes read)
    {members others : List (Except Json.Fault String × Script)} (perm : members.Perm others)
    {stop : ObjectEnd} {before after : σ}
    (done : readMembers read members stop before = .ok after) :
    readMembers read others stop before = .ok after := by
  induction perm generalizing before with
  | nil => exact done
  | cons member _ ih =>
    obtain ⟨key, value⟩ := member
    obtain ⟨name, sound, between, here, later⟩ := readMembers_cons_iff.mp done
    exact readMembers_cons_iff.mpr ⟨name, sound, between, here, ih later⟩
  | swap member other rest =>
    obtain ⟨key, value⟩ := member
    obtain ⟨further, held⟩ := other
    obtain ⟨name, sound, first, here, done⟩ := readMembers_cons_iff.mp done
    obtain ⟨next, further_sound, second, there, later⟩ := readMembers_cons_iff.mp done
    obtain ⟨between, moved, back⟩ := commutes _ _ _ _ _ _ ⟨first, here, there⟩
    refine readMembers_cons_iff.mpr ⟨next, further_sound, between, moved, ?_⟩
    exact readMembers_cons_iff.mpr ⟨name, sound, second, back, later⟩
  | trans _ _ first second => exact second (first done)

end Reading

open Reading

namespace Fields

/-- A field has a given name, place, presence and shape; it is the first one of its name. -/
inductive Has : {types : List Type} → Fields types → String → Nat → {α : Type} → Presence α →
    Shape α → Prop where
  /-- The first field. -/
  | here {α : Type} {types : List Type} (name : String) (presence : Presence α)
    (shape : Shape α) (rest : Fields types) :
    Has (.cons name presence shape rest) name 0 presence shape
  /-- A field after the first one. -/
  | there {α β : Type} {types : List Type} {name other : String} {place : Nat}
    {presence : Presence α} {shape : Shape α} {rest : Fields types} (first : Presence β)
    (skipped : Shape β) (different : name ≠ other) (has : Has rest name place presence shape) :
    Has (.cons other first skipped rest) name (place + 1) presence shape

variable {origin : Origin}

theorem readMember_comm {first second : String} {left right : Script} : {types : List Type} →
    (fields : Fields types) → {before after : Slots types} →
      (∃ between, fields.readMember origin first left before = .ok between ∧
        fields.readMember origin second right between = .ok after) →
      ∃ between, fields.readMember origin second right before = .ok between ∧
        fields.readMember origin first left between = .ok after
  | _, .nil, _, _, ⟨_, here, there⟩ => by
    simp only [readMember, bind_ok_iff] at here there ⊢
    obtain ⟨outcome, left_skipped, same⟩ := here
    obtain ⟨further, right_skipped, equal⟩ := there
    exact ⟨_, ⟨further, right_skipped, equal⟩, outcome, left_skipped, same⟩
  | _, .cons name presence shape rest, (slot, slots), (held, others), ⟨between, here, there⟩ => by
    by_cases mine : first = name
    · subst mine
      cases slot with
      | some known =>
        rw [readMember_known] at here
        cases here
      | none =>
        obtain ⟨value, read, rfl⟩ := readMember_unknown_iff.mp here
        by_cases also : second = first
        · subst also
          rw [readMember_known] at there
          cases there
        · obtain ⟨further, later, same⟩ := (readMember_other_iff also).mp there
          cases same
          refine ⟨(none, others), (readMember_other_iff also).mpr ⟨others, later, rfl⟩, ?_⟩
          exact readMember_unknown_iff.mpr ⟨value, read, rfl⟩
    · obtain ⟨further, later, rfl⟩ := (readMember_other_iff mine).mp here
      by_cases also : second = name
      · subst also
        cases slot with
        | some known =>
          rw [readMember_known] at there
          cases there
        | none =>
          obtain ⟨value, read, same⟩ := readMember_unknown_iff.mp there
          cases same
          refine ⟨(some value, slots), readMember_unknown_iff.mpr ⟨value, read, rfl⟩, ?_⟩
          exact (readMember_other_iff mine).mpr ⟨others, later, rfl⟩
      · obtain ⟨last, done, same⟩ := (readMember_other_iff also).mp there
        cases same
        obtain ⟨middle, moved, back⟩ := rest.readMember_comm ⟨further, later, done⟩
        refine ⟨(slot, middle), (readMember_other_iff also).mpr ⟨middle, moved, rfl⟩, ?_⟩
        exact (readMember_other_iff mine).mpr ⟨others, back, rfl⟩

/-- A member that no field asks for is only skipped. -/
theorem readMember_of_notMem {key : String} {script : Script} (sound : script.skipFault = none) :
    {types : List Type} → (fields : Fields types) → key ∉ fields.names →
      (known : Slots types) → fields.readMember origin key script known = .ok known
  | _, .nil, _, _ => by
    rw [readMember, skip, sound]
    rfl
  | _, .cons name _ _ rest, unknown, (slot, slots) => by
    simp only [names, List.mem_cons, not_or] at unknown
    exact (readMember_other_iff unknown.1).mpr
      ⟨slots, rest.readMember_of_notMem sound unknown.2 slots, rfl⟩

section

variable {types : List Type} {fields : Fields types} {name : String} {place : Nat} {α : Type}
  {presence : Presence α} {shape : Shape α} {left right : Script}

/-- Values that are read alike fill the field they stand under alike. -/
theorem Has.readMember_congr (has : fields.Has name place presence shape)
    (same : ∀ value, shape.read origin left = .ok value ↔ shape.read origin right = .ok value)
    (before after : Slots types) :
    fields.readMember origin name left before = .ok after ↔
      fields.readMember origin name right before = .ok after := by
  induction has with
  | here name presence shape rest =>
    obtain ⟨slot, slots⟩ := before
    cases slot with
    | some known => rw [readMember_known, readMember_known]
    | none =>
      rw [readMember_unknown_iff, readMember_unknown_iff]
      simp only [same]
  | there first skipped different has ih =>
    obtain ⟨slot, slots⟩ := before
    rw [readMember_other_iff different, readMember_other_iff different]
    simp only [ih same]

/-- Values that are read alike fill the place of a field alike. -/
theorem Has.readPositional_congr (has : fields.Has name place presence shape)
    (same : ∀ value, shape.read origin left = .ok value ↔ shape.read origin right = .ok value)
    {record : String} {size done : Nat} {front back : List Script} (here : front.length = place)
    {stop : ListEnd} (values : Values types) :
    fields.readPositional origin record size done (front ++ left :: back) stop = .ok values ↔
      fields.readPositional origin record size done (front ++ right :: back) stop =
        .ok values := by
  induction has generalizing front done with
  | here name presence shape rest =>
    cases List.eq_nil_of_length_eq_zero here
    obtain ⟨value, others⟩ := values
    simp only [List.nil_append, readPositional, pair_ok_iff, same]
  | there first skipped different has ih =>
    obtain ⟨item, further, rfl⟩ := List.exists_cons_of_length_eq_add_one here
    obtain ⟨value, others⟩ := values
    have rest := @ih same (done + 1) further (Nat.succ.inj here) others
    simp only [List.cons_append, readPositional, pair_ok_iff, rest]

end

/-- The fields of a name are not known yet. -/
def Vacant (name : String) : {types : List Type} → Fields types → Slots types → Prop
  | _, .nil, _ => True
  | _, .cons other _ _ rest, (slot, slots) =>
    (other = name → slot = none) ∧ rest.Vacant name slots

theorem vacant_unknown (name : String) : {types : List Type} → (fields : Fields types) →
    fields.Vacant name fields.unknown
  | _, .nil => trivial
  | _, .cons _ _ _ rest => ⟨fun _ => rfl, rest.vacant_unknown name⟩

theorem vacant_of_readMember {key name : String} (different : key ≠ name) {script : Script} :
    {types : List Type} → (fields : Fields types) → {before after : Slots types} →
      fields.readMember origin key script before = .ok after → fields.Vacant name before →
        fields.Vacant name after
  | _, .nil, _, _, _, _ => trivial
  | _, .cons other presence shape rest, (slot, slots), after, done, held => by
    obtain ⟨vacant, others⟩ := held
    by_cases mine : key = other
    · subst mine
      cases slot with
      | some known =>
        rw [readMember_known] at done
        cases done
      | none =>
        obtain ⟨value, -, rfl⟩ := readMember_unknown_iff.mp done
        exact ⟨fun same => absurd same different, others⟩
    · obtain ⟨further, later, rfl⟩ := (readMember_other_iff mine).mp done
      exact ⟨vacant, rest.vacant_of_readMember different later others⟩

theorem vacant_of_readMembers {name : String} {types : List Type} {fields : Fields types}
    {members : List (Except Json.Fault String × Script)}
    (missing : ∀ member ∈ members, member.1 ≠ .ok name) {stop : ObjectEnd}
    {before after : Slots types}
    (done : readMembers (fields.readMember origin) members stop before = .ok after)
    (vacant : fields.Vacant name before) : fields.Vacant name after := by
  induction members generalizing before with
  | nil =>
    obtain ⟨-, rfl⟩ := readMembers_nil_iff.mp done
    exact vacant
  | cons member rest ih =>
    obtain ⟨key, value⟩ := member
    obtain ⟨held, sound, between, here, later⟩ := readMembers_cons_iff.mp done
    have different : held ≠ name := by
      rintro rfl
      exact missing (key, value) List.mem_cons_self sound
    exact ih (fun other found => missing other (List.mem_cons_of_mem _ found)) later
      (fields.vacant_of_readMember different here vacant)

/-- To give a field the value that stands for leaving it out is no different from leaving it out. -/
theorem Has.readMember_absent {name : String} {place : Nat} {types : List Type}
    {fields : Fields types} {α : Type} {presence : Presence α} {shape : Shape α}
    (has : fields.Has name place presence shape) {script : Script} {value : α}
    (absent : presence.absent? = some value) (read : shape.read origin script = .ok value)
    {known : Slots types} (vacant : fields.Vacant name known) :
    ∃ further, fields.readMember origin name script known = .ok further ∧
      ∀ values, fields.complete further = .ok values ↔ fields.complete known = .ok values := by
  induction has with
  | here name presence shape rest =>
    obtain ⟨slot, slots⟩ := known
    obtain rfl : slot = none := vacant.1 rfl
    refine ⟨(some value, slots), readMember_unknown_iff.mpr ⟨value, read, rfl⟩, ?_⟩
    rintro ⟨held, values⟩
    rw [complete_cons_iff, complete_cons_iff]
    simp [absent]
  | there first skipped different has ih =>
    obtain ⟨slot, slots⟩ := known
    obtain ⟨further, done, same⟩ := ih absent read vacant.2
    refine ⟨(slot, further), (readMember_other_iff different).mpr ⟨further, done, rfl⟩, ?_⟩
    rintro ⟨held, values⟩
    rw [complete_cons_iff, complete_cons_iff, same]

theorem readMembers_perm_iff {types : List Type} {fields : Fields types}
    {members others : List (Except Json.Fault String × Script)} (perm : members.Perm others)
    {stop : ObjectEnd} {before after : Slots types} :
    readMembers (fields.readMember origin) members stop before = .ok after ↔
      readMembers (fields.readMember origin) others stop before = .ok after := by
  have commutes : Commutes (fields.readMember origin) := fun _ _ _ _ _ _ => fields.readMember_comm
  exact ⟨readMembers_ok_of_perm commutes perm, readMembers_ok_of_perm commutes perm.symm⟩

/-- Null in the place of an optional field says no more than leaving the field out. -/
theorem readMembers_null_iff {types : List Type} {fields : Fields types} {name : String}
    {place : Nat} {α : Type} {presence : Presence (Option α)} {inner : Shape α}
    (has : fields.Has name place presence (.nullable inner))
    (optional : presence.absent? = some none)
    {members : List (Except Json.Fault String × Script)}
    (missing : ∀ member ∈ members, member.1 ≠ .ok name) (origin : Origin) (values : Values types) :
    (∃ slots, readMembers (fields.readMember origin) members .closed fields.unknown =
        .ok slots ∧ fields.complete slots = .ok values) ↔
      ∃ slots, readMembers (fields.readMember origin) (members ++ [(.ok name, .null)]) .closed
          fields.unknown = .ok slots ∧ fields.complete slots = .ok values := by
  have null : (Shape.nullable inner).read origin .null = .ok none := rfl
  simp only [readMembers_append_iff, readMembers_singleton_iff]
  constructor
  · rintro ⟨slots, read, completed⟩
    have vacant := vacant_of_readMembers missing read (fields.vacant_unknown name)
    obtain ⟨further, done, same⟩ := has.readMember_absent optional null vacant
    exact ⟨further, ⟨slots, read, done⟩, (same values).mpr completed⟩
  · rintro ⟨slots, ⟨between, read, done⟩, completed⟩
    have vacant := vacant_of_readMembers missing read (fields.vacant_unknown name)
    obtain ⟨further, also, same⟩ := has.readMember_absent optional null vacant
    rw [done] at also
    cases also
    exact ⟨between, read, (same values).mp completed⟩

end Fields

/-! ### Scripts -/

/-- Two scripts differ in ways to which reading is blind. -/
inductive Shape.Alike : {α : Type} → Shape α → Script → Script → Prop where
  /-- A script and itself. -/
  | refl {α : Type} (shape : Shape α) (script : Script) : Alike shape script script
  /-- The other way round. -/
  | symm {α : Type} {shape : Shape α} {left right : Script} (alike : Alike shape left right) :
    Alike shape right left
  /-- One after the other. -/
  | trans {α : Type} {shape : Shape α} {first second third : Script}
    (alike : Alike shape first second) (further : Alike shape second third) :
    Alike shape first third
  /-- The members inside raw options are in another order. -/
  | raw {left right : Json} (reordered : left.Reordered right) :
    Alike .rawOptions left.script right.script
  /-- Inside a value that may be null. -/
  | nullable {α : Type} {inner : Shape α} {left right : Script}
    (alike : Alike inner left right) : Alike (.nullable inner) left right
  /-- Inside an item of a list. -/
  | item {α : Type} {item : Shape α} {left right : Script} (front back : List Script)
    (stop : ListEnd) (alike : Alike item left right) :
    Alike (.list item) (.list (front ++ left :: back) stop) (.list (front ++ right :: back) stop)
  /-- Inside a field of a record that is written as a list. -/
  | place {α β : Type} {types : List Type} {record name : String} {fields : Fields types}
    {packing : Packing types α} {presence : Presence β} {shape : Shape β} {left right : Script}
    (front back : List Script) (stop : ListEnd)
    (has : fields.Has name front.length presence shape) (alike : Alike shape left right) :
    Alike (.record record fields packing) (.list (front ++ left :: back) stop)
      (.list (front ++ right :: back) stop)
  /-- Inside a field of a record that is written as an object. -/
  | member {α β : Type} {types : List Type} {record name : String} {fields : Fields types}
    {packing : Packing types α} {place : Nat} {presence : Presence β} {shape : Shape β}
    {left right : Script} (front back : List (Except Json.Fault String × Script))
    (stop : ObjectEnd) (has : fields.Has name place presence shape)
    (alike : Alike shape left right) :
    Alike (.record record fields packing) (.object (front ++ (.ok name, left) :: back) stop)
      (.object (front ++ (.ok name, right) :: back) stop)
  /-- The members of a record change places. -/
  | order {α : Type} {types : List Type} {record : String} {fields : Fields types}
    {packing : Packing types α} {members others : List (Except Json.Fault String × Script)}
    (stop : ObjectEnd) (perm : members.Perm others) :
    Alike (.record record fields packing) (.object members stop) (.object others stop)
  /-- A member that no field asks for; its value is sound in form. -/
  | unknown {α : Type} {types : List Type} {record key : String} {fields : Fields types}
    {packing : Packing types α} {value : Script}
    (members : List (Except Json.Fault String × Script)) (other : key ∉ fields.names)
    (sound : value.skipFault = none) :
    Alike (.record record fields packing) (.object members .closed)
      (.object ((.ok key, value) :: members) .closed)
  /-- Null in the place of an optional field that is left out. -/
  | null {α β : Type} {types : List Type} {record name : String} {fields : Fields types}
    {packing : Packing types α} {place : Nat} {presence : Presence (Option β)} {inner : Shape β}
    (members : List (Except Json.Fault String × Script))
    (has : fields.Has name place presence (.nullable inner))
    (optional : presence.absent? = some none) (missing : ∀ member ∈ members, member.1 ≠ .ok name) :
    Alike (.record record fields packing) (.object members .closed)
      (.object (members ++ [(.ok name, .null)]) .closed)

namespace Reading

theorem readItems_congr {α : Type} {read : Script → Except ReadError α} {left right : Script}
    (same : ∀ value, read left = .ok value ↔ read right = .ok value) (front back : List Script)
    (stop : ListEnd) (values : List α) :
    readItems read (front ++ left :: back) stop = .ok values ↔
      readItems read (front ++ right :: back) stop = .ok values := by
  induction front generalizing values with
  | nil => simp only [List.nil_append, readItems_cons_iff, same]
  | cons item rest ih => simp only [List.cons_append, readItems_cons_iff, ih]

end Reading

namespace Reading

theorem admits_of_readRawOptions {origin : Origin} {json : Json} {value : RawOptions}
    (read : readRawOptions origin json.script = .ok value) : origin.Admits json.depth := by
  obtain ⟨members, same, admits, -⟩ := readRawOptions_ok_iff.mp read
  rw [Json.script_inj.mp same]
  exact admits

/-- Raw options are read alike from values that differ in the order of members alone. -/
theorem readRawOptions_of_reordered {left right : Json} (reordered : left.Reordered right)
    {origin : Origin} {value : RawOptions}
    (read : readRawOptions origin left.script = .ok value) :
    readRawOptions origin right.script = .ok value := by
  have admits := admits_of_readRawOptions read
  have also : origin.Admits right.depth := reordered.depth_eq ▸ admits
  rw [readRawOptions_script_ok_iff admits, ← Json.rawOptions?_canonical,
    reordered.canonical_eq, Json.rawOptions?_canonical] at read
  exact (readRawOptions_script_ok_iff also).mpr read

end Reading

theorem Shape.read_nullable_ok_iff {α : Type} {inner : Shape α} {origin : Origin}
    {script : Script} {value : Option α} :
    (Shape.nullable inner).read origin script = .ok value ↔
      (script = .null ∧ value = none) ∨
        (script ≠ .null ∧ ∃ held, inner.read origin script = .ok held ∧ some held = value) := by
  cases script
  case null => simp [Shape.read, eq_comm]
  all_goals simp [Shape.read, map_ok_iff]

namespace Shape.Alike

variable {α : Type} {shape : Shape α} {left right : Script}

theorem null_iff (alike : shape.Alike left right) : left = .null ↔ right = .null := by
  induction alike with
  | refl shape script => rfl
  | symm _ ih => exact ih.symm
  | trans _ _ first second => exact first.trans second
  | raw reordered =>
    rw [Json.script_eq_null_iff, Json.script_eq_null_iff, ← Json.canonical_eq_null_iff,
      reordered.canonical_eq, Json.canonical_eq_null_iff]
  | nullable _ ih => exact ih
  | item | place | member | order | unknown | null => simp

/-- Alike scripts are read to the same value, or not at all. -/
theorem read_ok_iff (alike : shape.Alike left right) (origin : Origin) (value : α) :
    shape.read origin left = .ok value ↔ shape.read origin right = .ok value := by
  induction alike generalizing origin with
  | refl shape script => rfl
  | symm _ ih => exact (ih origin value).symm
  | trans _ _ first second => exact (first origin value).trans (second origin value)
  | raw reordered =>
    exact ⟨readRawOptions_of_reordered reordered, readRawOptions_of_reordered reordered.symm⟩
  | nullable alike ih =>
    rw [read_nullable_ok_iff, read_nullable_ok_iff, ne_eq, ne_eq, alike.null_iff]
    simp only [ih origin]
  | item front back stop alike ih =>
    simp only [Shape.read, bind_ok_iff, readItems_congr (ih _)]
  | place front back stop has alike ih =>
    simp only [Shape.read, bind_ok_iff, has.readPositional_congr (ih _) rfl]
  | member front back stop has alike ih =>
    simp only [Shape.read, bind_ok_iff, readMembers_append_iff, readMembers_cons_iff,
      Except.ok.injEq, exists_eq_left', has.readMember_congr (ih _)]
  | order stop perm =>
    simp only [Shape.read, bind_ok_iff, Fields.readMembers_perm_iff perm]
  | unknown members other sound =>
    simp only [Shape.read, bind_ok_iff, readMembers_cons_iff, Except.ok.injEq, exists_eq_left',
      Fields.readMember_of_notMem sound _ other]
  | @null α β types record name fields packing place presence inner members has optional
      missing =>
    simp only [Shape.read, bind_ok_iff]
    refine exists_congr fun inside => and_congr_right fun _ => ?_
    have whole (values : Values types) := Fields.readMembers_null_iff has optional missing inside
      values
    constructor
    · rintro ⟨slots, read, values, completed, packed⟩
      obtain ⟨further, done, filled⟩ := (whole values).mp ⟨slots, read, completed⟩
      exact ⟨further, done, values, filled, packed⟩
    · rintro ⟨slots, read, values, completed, packed⟩
      obtain ⟨further, done, filled⟩ := (whole values).mpr ⟨slots, read, completed⟩
      exact ⟨further, done, values, filled, packed⟩

end Shape.Alike

end QueryAssembly
