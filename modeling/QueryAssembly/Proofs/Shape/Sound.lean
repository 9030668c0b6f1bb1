import QueryAssembly.Proofs.Json.Scripts
import QueryAssembly.Proofs.Shape.Agreement

/-!
# Reading looks at everything

A text is not accepted unless all of it is sound in form, the members included that are skipped and
the items that no field is left for (`Shape.skipFault_of_read`).
-/

namespace QueryAssembly

open Json (Script ListEnd ObjectEnd)

namespace Reading

variable {levels : Nat} {script : Script}

theorem skipFault_of_readText {value : String} (read : readText script = .ok value) :
    script.skipFault = none := by
  cases script with
  | string held => rfl
  | _ => simp [readText] at read

theorem skipFault_of_readCount {value : UInt64} (read : readCount script = .ok value) :
    script.skipFault = none := by
  cases script with
  | number held => rfl
  | _ => simp [readCount] at read

theorem skipFault_of_readSmallCount {value : UInt32} (read : readSmallCount script = .ok value) :
    script.skipFault = none := by
  cases script with
  | number held => rfl
  | _ => simp [readSmallCount] at read

theorem skipFault_of_readReal {value : Binary64} (read : readReal script = .ok value) :
    script.skipFault = none := by
  cases script with
  | number held => rfl
  | _ => simp [readReal] at read

theorem skipFault_of_readNamed {α : Type} {parse : String → Except NameError α} {value : α}
    (read : readNamed parse script = .ok value) : script.skipFault = none := by
  obtain ⟨name, held, -⟩ := bind_ok_iff.mp read
  exact skipFault_of_readText held

theorem skipFault_of_readAlternative {α : Type} {type : String} {alternative? : Json → Option α}
    {origin : Origin} {value : α}
    (read : readAlternative type alternative? origin script = .ok value) :
    script.skipFault = none := by
  obtain ⟨json, rfl, -⟩ := readAlternative_ok_iff.mp read
  exact Json.skipFault_script json

theorem skipFault_of_readRawOptions {origin : Origin} {value : RawOptions}
    (read : readRawOptions origin script = .ok value) : script.skipFault = none := by
  obtain ⟨members, rfl, -⟩ := readRawOptions_ok_iff.mp read
  exact Json.skipFault_script (.object members)

theorem skipFault_of_readUnit (read : readUnit script = .ok ()) : script.skipFault = none := by
  cases script with
  | null => rfl
  | _ => simp [readUnit] at read

theorem closed_of_endAfterChoice {further : List (Except Json.Fault String × Script)}
    {stop : ObjectEnd} {outcome : Unit} (ended : endAfterChoice further stop = .ok outcome) :
    further = [] ∧ stop = .closed := by
  unfold endAfterChoice at ended
  split at ended
  · exact ⟨rfl, rfl⟩
  · cases ended
  · cases ended

theorem skipFault_of_readModeFromText {mode : FilterMode}
    (read : readModeFromText levels script = .ok mode) : script.skipFault = none := by
  cases script with
  | string held => rfl
  | object members stop =>
    obtain ⟨inside, -, read⟩ := bind_ok_iff.mp read
    match members with
    | [] => cases read
    | (key, payload) :: further =>
      obtain ⟨name, -, read⟩ := bind_ok_iff.mp read
      obtain ⟨chosen, -, read⟩ := bind_ok_iff.mp read
      obtain ⟨_, unit, read⟩ := bind_ok_iff.mp read
      obtain ⟨_, ended, -⟩ := bind_ok_iff.mp read
      obtain ⟨rfl, rfl⟩ := closed_of_endAfterChoice ended
      exact Script.skipFault_object_eq_none_iff.mpr
        ⟨Script.skipMembersFault_cons_eq_none_iff.mpr ⟨skipFault_of_readUnit unit, rfl⟩, rfl⟩
  | damaged damage => cases damage <;> cases read
  | null | bool | number | list => cases read

/-- Items that are all read are sound in form, and so is their list. -/
theorem skipFault_of_readItems {α : Type} {read : Script → Except ReadError α}
    (sound : ∀ item value, read item = .ok value → item.skipFault = none) {items : List Script}
    {stop : ListEnd} {values : List α} (done : readItems read items stop = .ok values) :
    (Script.list items stop).skipFault = none := by
  rw [Script.skipFault_list_eq_none_iff]
  induction items generalizing values with
  | nil => exact ⟨rfl, (readItems_nil_iff.mp done).1⟩
  | cons item rest ih =>
    obtain ⟨value, here, others, later, -⟩ := readItems_cons_iff.mp done
    obtain ⟨rest_sound, closed⟩ := ih later
    exact ⟨Script.skipItemsFault_cons_eq_none_iff.mpr ⟨sound item value here, rest_sound⟩, closed⟩

/-- Members that are all read or skipped are sound in form, and so is their object. -/
theorem skipFault_of_readMembers {σ : Type} {read : String → Script → σ → Except ReadError σ}
    (sound : ∀ key value before after, read key value before = .ok after → value.skipFault = none)
    {members : List (Except Json.Fault String × Script)} {stop : ObjectEnd} {before after : σ}
    (done : readMembers read members stop before = .ok after) :
    (Script.object members stop).skipFault = none := by
  rw [Script.skipFault_object_eq_none_iff]
  induction members generalizing before with
  | nil => exact ⟨rfl, (readMembers_nil_iff.mp done).1⟩
  | cons member rest ih =>
    obtain ⟨key, value⟩ := member
    obtain ⟨name, -, between, here, later⟩ := readMembers_cons_iff.mp done
    obtain ⟨rest_sound, closed⟩ := ih later
    have value_sound := sound name value before between here
    exact ⟨Script.skipMembersFault_cons_eq_none_iff.mpr ⟨value_sound, rest_sound⟩, closed⟩

theorem skipFault_of_skip {outcome : Unit} (skipped : skip script = .ok outcome) :
    script.skipFault = none := by
  unfold skip at skipped
  split at skipped
  · assumption
  · cases skipped

theorem skipFault_of_readSurplus {done : Nat} {items : List Script} {stop : ListEnd}
    {outcome : Unit} (read : readSurplus (.text levels) done items stop = .ok outcome) :
    (Script.list items stop).skipFault = none := by
  match items, stop with
  | [], .closed => rfl

end Reading

theorem Origin.exists_of_enter_text {levels : Nat} {inside : Origin}
    (entered : (Origin.text levels).enter = .ok inside) : ∃ further, inside = .text further := by
  cases levels with
  | zero => cases entered
  | succ further =>
    cases entered
    exact ⟨further, rfl⟩

open Reading

mutual

/-- What is read from a text is sound in form. -/
theorem Shape.skipFault_of_read : {α : Type} → (shape : Shape α) → {levels : Nat} →
    {script : Script} → {value : α} → shape.read (.text levels) script = .ok value →
      script.skipFault = none
  | _, .text, _, _, _, read => skipFault_of_readText read
  | _, .count, _, _, _, read => skipFault_of_readCount read
  | _, .smallCount, _, _, _, read => skipFault_of_readSmallCount read
  | _, .real, _, _, _, read => skipFault_of_readReal read
  | _, .scalar, _, _, _, read => skipFault_of_readAlternative read
  | _, .operand, _, _, _, read => skipFault_of_readAlternative read
  | _, .order, _, _, _, read => skipFault_of_readNamed read
  | _, .sortMode, _, _, _, read => skipFault_of_readNamed read
  | _, .filterMode, _, _, _, read => skipFault_of_readModeFromText read
  | _, .rawOptions, _, _, _, read => skipFault_of_readRawOptions read
  | _, .list item, levels, script, _, read => by
    cases script with
    | list items stop =>
      obtain ⟨inside, entered, done⟩ := bind_ok_iff.mp read
      obtain ⟨further, rfl⟩ := Origin.exists_of_enter_text (ofFault_eq_ok_iff.mp entered)
      exact skipFault_of_readItems (fun _ _ => item.skipFault_of_read) done
    | _ => simp [Shape.read] at read
  | _, .nullable inner, levels, script, _, read => by
    cases script with
    | null => rfl
    | _ =>
      obtain ⟨value, read, -⟩ := map_ok_iff.mp read
      exact inner.skipFault_of_read read
  | _, .record name fields packing, levels, script, _, read => by
    cases script with
    | list items stop =>
      obtain ⟨inside, entered, done⟩ := bind_ok_iff.mp read
      obtain ⟨further, rfl⟩ := Origin.exists_of_enter_text (ofFault_eq_ok_iff.mp entered)
      obtain ⟨values, done, -⟩ := bind_ok_iff.mp done
      exact fields.skipFault_of_readPositional done
    | object members stop =>
      obtain ⟨inside, entered, done⟩ := bind_ok_iff.mp read
      obtain ⟨further, rfl⟩ := Origin.exists_of_enter_text (ofFault_eq_ok_iff.mp entered)
      obtain ⟨slots, done, -⟩ := bind_ok_iff.mp done
      exact skipFault_of_readMembers (fun _ _ _ _ => fields.skipFault_of_readMember) done
    | _ => simp [Shape.read] at read

theorem Fields.skipFault_of_readPositional : {types : List Type} → (fields : Fields types) →
    {levels : Nat} → {record : String} → {size done : Nat} → {items : List Script} →
      {stop : ListEnd} → {values : Values types} →
        fields.readPositional (.text levels) record size done items stop = .ok values →
          (Script.list items stop).skipFault = none
  | _, .nil, _, _, _, _, _, _, _, read => skipFault_of_readSurplus read
  | _, .cons name presence shape rest, _, _, _, _, [], stop, _, read => by
    cases stop with
    | closed => rfl
    | _ => cases read
  | _, .cons name presence shape rest, _, _, _, _, item :: items, stop, _, read => by
    obtain ⟨value, here, read⟩ := bind_ok_iff.mp read
    obtain ⟨values, later, -⟩ := bind_ok_iff.mp read
    have others := rest.skipFault_of_readPositional later
    obtain ⟨rest_sound, closed⟩ := Script.skipFault_list_eq_none_iff.mp others
    exact Script.skipFault_list_eq_none_iff.mpr
      ⟨Script.skipItemsFault_cons_eq_none_iff.mpr ⟨shape.skipFault_of_read here, rest_sound⟩,
        closed⟩

theorem Fields.skipFault_of_readMember : {types : List Type} → (fields : Fields types) →
    {levels : Nat} → {key : String} → {script : Script} → {before after : Slots types} →
      fields.readMember (.text levels) key script before = .ok after → script.skipFault = none
  | _, .nil, _, _, _, _, _, read => by
    obtain ⟨outcome, skipped, -⟩ := bind_ok_iff.mp read
    exact skipFault_of_skip skipped
  | _, .cons name presence shape rest, levels, key, script, (slot, slots), after, read => by
    by_cases mine : key = name
    · subst mine
      cases slot with
      | some known =>
        rw [Fields.readMember_known] at read
        cases read
      | none =>
        obtain ⟨value, read, -⟩ := Fields.readMember_unknown_iff.mp read
        exact shape.skipFault_of_read read
    · obtain ⟨further, read, -⟩ := (Fields.readMember_other_iff mine).mp read
      exact rest.skipFault_of_readMember read

end

end QueryAssembly
