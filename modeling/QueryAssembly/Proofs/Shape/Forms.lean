import QueryAssembly.Proofs.Shape.Alike
import QueryAssembly.Proofs.Shape.Sound

/-!
# Two forms of a record

A record is written as the list of its fields or as an object under their names.  Both forms are
read to the same value (`Fields.readPositional_ok_iff`): a list may end early when every field it
lacks has a default of its own, and then it says what the object without those names says; it may
never go on after the last field.
-/

namespace QueryAssembly

open Json (Script ListEnd ObjectEnd)

namespace Reading

/-- Members under names in order, as far as there are items. -/
def labelled (names : List String) (items : List Script) :
    List (Except Json.Fault String × Script) :=
  names.zipWith (fun name item => (.ok name, item)) items

/-- A member that no field asks for; its key and its value are sound in form. -/
def Unasked (names : List String) (member : Except Json.Fault String × Script) : Prop :=
  ∃ key, member.1 = .ok key ∧ key ∉ names ∧ member.2.skipFault = none

/-- Members, in any order, give items to the first of some names and nothing to the others; beyond
that there may be members that no field asks for. -/
def Labels (names : List String) (items : List Script)
    (members : List (Except Json.Fault String × Script)) : Prop :=
  ∃ others, members.Perm (labelled names items ++ others) ∧
    ∀ member ∈ others, Unasked names member

/-- A list of so many items may end there: the names after them are defaulted. -/
def MayEnd (names defaulted : List String) (count : Nat) : Prop :=
  count ≤ names.length ∧ ∀ name ∈ names.drop count, name ∈ defaulted

theorem mem_names_of_mem_labelled {name : String} {script : Script} {names : List String}
    {items : List Script} (found : (.ok name, script) ∈ labelled names items) : name ∈ names := by
  induction names generalizing items with
  | nil => cases found
  | cons first rest ih =>
    cases items with
    | nil => cases found
    | cons item items =>
      rcases List.mem_cons.mp found with same | found
      · cases same
        exact List.mem_cons_self
      · exact List.mem_cons_of_mem first (ih found)

end Reading

open Reading

theorem Presence.beyond?_eq_some_iff {α : Type} {presence : Presence α} {value : α} :
    presence.beyond? = some value ↔ presence.beyond?.isSome ∧ presence.absent? = some value := by
  cases presence <;> simp [Presence.beyond?, Presence.absent?]

namespace Fields

/-- The names of the fields that a list may leave out. -/
def defaulted : {types : List Type} → Fields types → List String
  | _, .nil => []
  | _, .cons name (.always _) _ rest => name :: rest.defaulted
  | _, .cons _ _ _ rest => rest.defaulted

/-- A list of so many items may end there: the fields after them have defaults of their own. -/
def Fits : {types : List Type} → Fields types → Nat → Prop
  | _, .nil, count => count = 0
  | _, .cons _ presence _ rest, 0 => presence.beyond?.isSome ∧ rest.Fits 0
  | _, .cons _ _ _ rest, count + 1 => rest.Fits count

theorem mem_names_of_mem_defaulted {name : String} : {types : List Type} →
    (fields : Fields types) → name ∈ fields.defaulted → name ∈ fields.names
  | _, .cons first (.always _) _ rest, found => by
    rcases List.mem_cons.mp found with rfl | found
    · exact List.mem_cons_self
    · exact List.mem_cons_of_mem first (rest.mem_names_of_mem_defaulted found)
  | _, .cons first .required _ rest, found | _, .cons first (.keyed _) _ rest, found =>
    List.mem_cons_of_mem first (rest.mem_names_of_mem_defaulted found)

theorem mem_defaulted_cons_iff {α : Type} {types : List Type} {name key : String}
    {presence : Presence α} {shape : Shape α} {rest : Fields types} :
    key ∈ (cons name presence shape rest).defaulted ↔
      (key = name ∧ presence.beyond?.isSome) ∨ key ∈ rest.defaulted := by
  cases presence <;> simp [defaulted, Presence.beyond?]

/-- The names that a list may leave out are not affected by a field of another name. -/
theorem forall_mem_defaulted_cons_iff {α : Type} {types : List Type} {name : String}
    {presence : Presence α} {shape : Shape α} {rest : Fields types} {keys : List String}
    (absent : name ∉ keys) :
    (∀ key ∈ keys, key ∈ (cons name presence shape rest).defaulted) ↔
      ∀ key ∈ keys, key ∈ rest.defaulted := by
  refine forall₂_congr fun key found => ?_
  have different : key ≠ name := by
    rintro rfl
    exact absent found
  simp [mem_defaulted_cons_iff, different]

/-- A list fits when it is not too long and every field that it leaves out may be left out. -/
theorem fits_iff : {types : List Type} → (fields : Fields types) → fields.names.Nodup →
    (count : Nat) → (fields.Fits count ↔ MayEnd fields.names fields.defaulted count)
  | _, .nil, _, count => by simp [Fits, MayEnd, names]
  | _, .cons name presence shape rest, differ, 0 => by
    obtain ⟨absent, differ⟩ := List.nodup_cons.mp differ
    have here : name ∉ rest.defaulted := fun found => absent (rest.mem_names_of_mem_defaulted found)
    have later := rest.fits_iff differ 0
    rw [MayEnd, List.drop_zero, and_iff_right (Nat.zero_le _)] at later
    rw [Fits, later, MayEnd, names, List.drop_zero, and_iff_right (Nat.zero_le _),
      List.forall_mem_cons, forall_mem_defaulted_cons_iff absent, mem_defaulted_cons_iff]
    simp [here]
  | _, .cons name presence shape rest, differ, count + 1 => by
    obtain ⟨absent, differ⟩ := List.nodup_cons.mp differ
    have later : name ∉ rest.names.drop count := fun found => absent (List.mem_of_mem_drop found)
    rw [Fits, rest.fits_iff differ count, MayEnd, MayEnd, names, List.drop_succ_cons,
      List.length_cons, forall_mem_defaulted_cons_iff later, Nat.add_le_add_iff_right]

variable {origin : Origin}

/-- Members that give nothing to the first field are read by the others. -/
theorem readMembers_cons_of_other_iff {α : Type} {types : List Type} {name : String}
    {presence : Presence α} {shape : Shape α} {rest : Fields types}
    {members : List (Except Json.Fault String × Script)} {stop : ObjectEnd}
    (other : ∀ member ∈ members, member.1 ≠ .ok name) {slot : Option α} {slots : Slots types}
    {after : Slots (α :: types)} :
    readMembers ((cons name presence shape rest).readMember origin) members stop (slot, slots) =
        .ok after ↔
      ∃ further, readMembers (rest.readMember origin) members stop slots = .ok further ∧
        (slot, further) = after := by
  induction members generalizing slots with
  | nil => simp only [readMembers_nil_iff, and_assoc, exists_and_left, exists_eq_left']
  | cons member others ih =>
    obtain ⟨key, value⟩ := member
    obtain ⟨first, others_other⟩ := List.forall_mem_cons.mp other
    simp only [readMembers_cons_iff]
    constructor
    · rintro ⟨held, rfl, between, here, later⟩
      have different : held ≠ name := fun same => first (congrArg Except.ok same)
      obtain ⟨further, read, rfl⟩ := (readMember_other_iff different).mp here
      obtain ⟨last, done, same⟩ := (ih others_other).mp later
      exact ⟨last, ⟨held, rfl, further, read, done⟩, same⟩
    · rintro ⟨last, ⟨held, rfl, further, here, later⟩, same⟩
      have different : held ≠ name := fun same => first (congrArg Except.ok same)
      exact ⟨held, rfl, (slot, further), (readMember_other_iff different).mpr ⟨further, here, rfl⟩,
        (ih others_other).mpr ⟨last, later, same⟩⟩

/-- A list of fields is read as the object of the same values is. -/
theorem readPositional_ok_iff (record : String) (size : Nat) : {types : List Type} →
    (fields : Fields types) → fields.names.Nodup → (items : List Script) → (done : Nat) →
      (values : Values types) →
        (fields.readPositional origin record size done items .closed = .ok values ↔
          fields.Fits items.length ∧
            ∃ slots, readMembers (fields.readMember origin) (labelled fields.names items) .closed
                fields.unknown = .ok slots ∧ fields.complete slots = .ok values)
  | _, .nil, _, [], _, () => by
    simp [readPositional, readSurplus, ListEnd.surplusFault, Fits, labelled, names,
      readMembers_nil_iff, complete]
  | _, .nil, _, _ :: _, _, () => by
    cases origin <;> simp [readPositional, readSurplus, Fits]
  | _, .cons name presence shape rest, differ, [], done, (value, values) => by
    have later := rest.readPositional_ok_iff record size (List.nodup_cons.mp differ).2 []
      (done + 1) values
    simp only [labelled, List.zipWith_nil_right, readMembers_nil_iff, true_and, exists_eq_left',
      List.length_nil] at later ⊢
    have completed : (cons name presence shape rest).complete (none, rest.unknown) =
        .ok (value, values) ↔
          presence.absent? = some value ∧ rest.complete rest.unknown = .ok values :=
      complete_cons_iff.trans (by simp)
    simp only [readPositional, ListEnd.readFault, pair_ok_iff, beyondEnd_eq_ok_iff, later, Fits,
      unknown, completed, Presence.beyond?_eq_some_iff]
    exact and_and_and_comm
  | _, .cons name presence shape rest, differ, item :: items, done, (value, values) => by
    obtain ⟨absent, differ⟩ := List.nodup_cons.mp differ
    have later := rest.readPositional_ok_iff record size differ items (done + 1) values
    have other : ∀ member ∈ labelled rest.names items, member.1 ≠ .ok name := by
      rintro ⟨key, script⟩ found same
      cases same
      exact absent (mem_names_of_mem_labelled found)
    have first : labelled (cons name presence shape rest).names (item :: items) =
        (.ok name, item) :: labelled rest.names items := rfl
    simp only [readPositional, pair_ok_iff, later, first, readMembers_cons_iff, Except.ok.injEq,
      exists_eq_left', unknown]
    constructor
    · rintro ⟨read, fits, slots, members, completed⟩
      refine ⟨fits, (some value, slots), ⟨(some value, rest.unknown), ?_, ?_⟩, ?_⟩
      · exact readMember_unknown_iff.mpr ⟨value, read, rfl⟩
      · exact (readMembers_cons_of_other_iff other).mpr ⟨slots, members, rfl⟩
      · exact complete_cons_iff.mpr ⟨.inl rfl, completed⟩
    · rintro ⟨fits, slots, ⟨between, here, members⟩, completed⟩
      obtain ⟨held, read, rfl⟩ := readMember_unknown_iff.mp here
      obtain ⟨further, others, rfl⟩ := (readMembers_cons_of_other_iff other).mp members
      obtain ⟨known, filled⟩ := complete_cons_iff.mp completed
      obtain rfl : held = value := by simpa using known
      exact ⟨read, fits, further, others, filled⟩

section

variable {types : List Type} {fields : Fields types}
  {members others : List (Except Json.Fault String × Script)}

/-- Members that no field asks for are only skipped. -/
theorem readMembers_unasked_iff (unasked : ∀ member ∈ others, Unasked fields.names member)
    {before after : Slots types} :
    readMembers (fields.readMember origin) others .closed before = .ok after ↔ before = after := by
  induction others with
  | nil => simp only [readMembers_nil_iff, true_and]
  | cons member rest ih =>
    obtain ⟨⟨key, sound_key, unknown, sound⟩, rest_unasked⟩ := List.forall_mem_cons.mp unasked
    obtain ⟨_, value⟩ := member
    cases sound_key
    simp only [readMembers_cons_iff, Except.ok.injEq, exists_eq_left',
      fields.readMember_of_notMem sound unknown, ih rest_unasked]

theorem readMembers_labels_iff {items : List Script} (labels : Labels fields.names items members)
    {before after : Slots types} :
    readMembers (fields.readMember origin) members .closed before = .ok after ↔
      readMembers (fields.readMember origin) (labelled fields.names items) .closed before =
        .ok after := by
  obtain ⟨others, perm, unasked⟩ := labels
  simp only [readMembers_perm_iff perm, readMembers_append_iff, readMembers_unasked_iff unasked,
    exists_eq_right]

end

/-- What is left for the other fields after one member has given the first field its value. -/
theorem readMembers_known {α : Type} {types : List Type} {name : String} {presence : Presence α}
    {shape : Shape α} {rest : Fields types}
    {members : List (Except Json.Fault String × Script)} {known : α} {slots : Slots types}
    {after : Slots (α :: types)}
    (read : readMembers ((cons name presence shape rest).readMember origin) members .closed
      (some known, slots) = .ok after) :
    ∀ member ∈ members, member.1 ≠ .ok name := by
  induction members generalizing slots with
  | nil => simp
  | cons member others ih =>
    obtain ⟨key, value⟩ := member
    obtain ⟨held, rfl, between, here, later⟩ := readMembers_cons_iff.mp read
    have different : held ≠ name := by
      rintro rfl
      rw [readMember_known] at here
      cases here
    obtain ⟨further, -, rfl⟩ := (readMember_other_iff different).mp here
    exact List.forall_mem_cons.mpr ⟨fun same => different (Except.ok.inj same), ih later⟩

theorem unasked_of_readMembers_nil {members : List (Except Json.Fault String × Script)}
    {after : Slots []}
    (read : readMembers (nil.readMember origin) members .closed () = .ok after) :
    ∀ member ∈ members, Unasked [] member := by
  induction members with
  | nil => simp
  | cons member others ih =>
    obtain ⟨key, value⟩ := member
    obtain ⟨held, rfl, between, here, later⟩ := readMembers_cons_iff.mp read
    obtain ⟨_, skipped, -⟩ := bind_ok_iff.mp here
    exact List.forall_mem_cons.mpr
      ⟨⟨held, rfl, List.not_mem_nil, skipFault_of_skip skipped⟩, ih later⟩

/-- Accepted members that give something to every field give it once, and beyond that there are only
members that no field asks for. -/
theorem exists_labels : {types : List Type} → (fields : Fields types) → fields.names.Nodup →
    {members : List (Except Json.Fault String × Script)} → {after : Slots types} →
      readMembers (fields.readMember origin) members .closed fields.unknown = .ok after →
      (∀ name ∈ fields.names, ∃ value, (.ok name, value) ∈ members) →
        ∃ items : List Script, items.length = fields.names.length ∧
          Labels fields.names items members
  | _, .nil, _, members, _, read, _ =>
    ⟨[], rfl, members, .refl _, unasked_of_readMembers_nil read⟩
  | _, .cons name presence shape rest, differ, members, _, read, given => by
    obtain ⟨absent, differ⟩ := List.nodup_cons.mp differ
    obtain ⟨item, found⟩ := given name List.mem_cons_self
    obtain ⟨front, back, rfl⟩ := List.append_of_mem found
    obtain ⟨key, sound, between, here, later⟩ :=
      readMembers_cons_iff.mp ((readMembers_perm_iff List.perm_middle).mp read)
    cases sound
    obtain ⟨value, -, rfl⟩ := readMember_unknown_iff.mp here
    have other := readMembers_known later
    obtain ⟨further, others_read, -⟩ := (readMembers_cons_of_other_iff other).mp later
    have others_given : ∀ key ∈ rest.names, ∃ value, (.ok key, value) ∈ front ++ back := by
      intro key known
      obtain ⟨held, there⟩ := given key (List.mem_cons_of_mem name known)
      rcases List.mem_cons.mp (List.perm_middle.subset there) with same | there
      · cases same
        exact absurd known absent
      · exact ⟨held, there⟩
    obtain ⟨items, length, others, perm, unasked⟩ :=
      rest.exists_labels differ others_read others_given
    refine ⟨item :: items, congrArg (· + 1) length, others, ?_, ?_⟩
    · exact List.perm_middle.trans (perm.cons _)
    · intro member left
      obtain ⟨key, sound_key, unknown, sound⟩ := unasked member left
      have different : key ≠ name := by
        rintro rfl
        exact other member (perm.symm.subset (List.mem_append_right _ left)) sound_key
      exact ⟨key, sound_key, List.not_mem_cons_of_ne_of_not_mem different unknown, sound⟩

end Fields

/-! ### Records -/

/-- A shape is a record of fields with given names, the defaulted ones of which a list may leave
out. -/
inductive Shape.Record : {α : Type} → Shape α → List String → List String → Prop where
  /-- A record. -/
  | mk {α : Type} {types : List Type} (name : String) (fields : Fields types)
    (packing : Packing types α) :
    Record (.record name fields packing) fields.names fields.defaulted

namespace Shape.Record

variable {α : Type} {shape : Shape α} {names defaulted : List String} {items : List Script}
  {members : List (Except Json.Fault String × Script)} {origin : Origin} {value : α}

/-- A list is read as a record if it may end where it does, and then as the object of the same
values is. -/
theorem read_list_ok_iff (record : shape.Record names defaulted) (differ : names.Nodup)
    (labels : Labels names items members) :
    shape.read origin (.list items .closed) = .ok value ↔
      MayEnd names defaulted items.length ∧
        shape.read origin (.object members .closed) = .ok value := by
  cases record with
  | mk name fields packing =>
    simp only [Shape.read, bind_ok_iff, fields.readPositional_ok_iff name fields.size differ items,
      fields.fits_iff differ, Fields.readMembers_labels_iff labels]
    constructor
    · rintro ⟨inside, entered, values, ⟨fits, slots, read, completed⟩, made⟩
      exact ⟨fits, inside, entered, slots, read, values, completed, made⟩
    · rintro ⟨fits, inside, entered, slots, read, values, completed, made⟩
      exact ⟨inside, entered, values, ⟨fits, slots, read, completed⟩, made⟩

/-- An accepted object that gives something to every field gives it once. -/
theorem exists_labels (record : shape.Record names defaulted) (differ : names.Nodup)
    (read : shape.read origin (.object members .closed) = .ok value)
    (given : ∀ name ∈ names, ∃ script, (.ok name, script) ∈ members) :
    ∃ items : List Script, items.length = names.length ∧ Labels names items members := by
  cases record with
  | mk name fields packing =>
    obtain ⟨inside, -, read⟩ := bind_ok_iff.mp read
    obtain ⟨slots, gathered, -⟩ := bind_ok_iff.mp read
    exact fields.exists_labels differ gathered given

end Shape.Record

end QueryAssembly
