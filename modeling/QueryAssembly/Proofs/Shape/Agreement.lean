import QueryAssembly.Proofs.Json.Depth
import QueryAssembly.Proofs.Shape.Denotation
import QueryAssembly.Shape.Reader

/-!
# Readers agree with the denotation

Reading the faultless script of a value gives what the value denotes, from a text and from a tree
alike, provided that the origin admits its depth and that no key is repeated
(`Shape.read_script_ok_iff`).  The heart of it is a keyed record, whose members come in any order:
`Fields.Filled` says what reading has put into each field, and one more member is one more step of
it.
-/

namespace QueryAssembly

open Json (Script ListEnd ObjectEnd)

namespace Reading

@[simp] theorem mismatch_eq_ok_iff {α : Type} {script : Script} {expected : Expected} {value : α} :
    mismatch script expected = .ok value ↔ False := by
  unfold mismatch
  cases script.found <;> simp

@[simp] theorem ofFault_eq_ok_iff {α : Type} {result : Except Json.Fault α} {value : α} :
    ReadError.ofFault result = .ok value ↔ result = .ok value := by
  cases result <;> simp [ReadError.ofFault]

section

variable {α σ : Type} {read : Script → Except ReadError α}
  {take : String → Script → σ → Except ReadError σ}

theorem readItems_nil_iff {stop : ListEnd} {values : List α} :
    readItems read [] stop = .ok values ↔ stop = .closed ∧ [] = values := by
  cases stop <;> simp [readItems, ListEnd.readFault]

theorem readItems_cons_iff {item : Script} {rest : List Script} {stop : ListEnd}
    {values : List α} :
    readItems read (item :: rest) stop = .ok values ↔
      ∃ value, read item = .ok value ∧ ∃ others, readItems read rest stop = .ok others ∧
        value :: others = values := by
  simp only [readItems, bind_ok_iff, pure, Except.pure, Except.ok.injEq]

theorem readMembers_nil_iff {stop : ObjectEnd} {before after : σ} :
    readMembers take [] stop before = .ok after ↔ stop = .closed ∧ before = after := by
  cases stop <;> simp [readMembers, ObjectEnd.readFault]

theorem readMembers_cons_iff {key : Except Json.Fault String} {value : Script}
    {rest : List (Except Json.Fault String × Script)} {stop : ObjectEnd} {before after : σ} :
    readMembers take ((key, value) :: rest) stop before = .ok after ↔
      ∃ name, key = .ok name ∧ ∃ between, take name value before = .ok between ∧
        readMembers take rest stop between = .ok after := by
  simp only [readMembers, bind_ok_iff, ofFault_eq_ok_iff]

end

theorem readText_script_ok_iff {json : Json} {value : String} :
    readText json.script = .ok value ↔ json.text? = some value := by
  cases json <;> simp [Json.script, readText, Json.text?]

theorem readCount_script_ok_iff {json : Json} {value : UInt64} :
    readCount json.script = .ok value ↔ json.count? = some value := by
  cases json with
  | number held =>
    cases held with
    | integer held lower upper =>
      simp only [Json.script, readCount, Json.count?]
      by_cases natural : 0 ≤ held
      · simp only [natural, true_and, if_true]
        split <;> simp
      · simp [natural]
    | real held => simp [Json.script, readCount, Json.count?]
  | _ => simp [Json.script, readCount, Json.count?]

theorem readSmallCount_script_ok_iff {json : Json} {value : UInt32} :
    readSmallCount json.script = .ok value ↔ json.smallCount? = some value := by
  cases json with
  | number held =>
    cases held with
    | integer held lower upper =>
      simp only [Json.script, readSmallCount, Json.smallCount?]
      by_cases natural : 0 ≤ held
      · simp only [natural, true_and, if_true]
        split <;> simp
      · simp [natural]
    | real held => simp [Json.script, readSmallCount, Json.smallCount?]
  | _ => simp [Json.script, readSmallCount, Json.smallCount?]

theorem readReal_script_ok_iff {json : Json} {value : Binary64} :
    readReal json.script = .ok value ↔ json.real? = some value := by
  cases json <;> simp [Json.script, readReal, Json.real?]

theorem readAlternative_ok_iff {α : Type} {type : String} {alternative? : Json → Option α}
    {origin : Origin} {script : Script} {value : α} :
    readAlternative type alternative? origin script = .ok value ↔
      ∃ json, script = json.script ∧ origin.Admits json.depth ∧
        alternative? json = some value := by
  simp only [readAlternative, bind_ok_iff, ofFault_eq_ok_iff, Script.toJson_ok_iff, and_assoc]
  refine exists_congr fun json => and_congr_right fun _ => and_congr_right fun _ => ?_
  cases alternative? json <;> simp

theorem readAlternative_script_ok_iff {α : Type} {type : String} {alternative? : Json → Option α}
    {origin : Origin} {json : Json} (admits : origin.Admits json.depth) {value : α} :
    readAlternative type alternative? origin json.script = .ok value ↔
      alternative? json = some value := by
  rw [readAlternative_ok_iff]
  constructor
  · rintro ⟨other, same, -, chosen⟩
    rw [Json.script_inj.mp same]
    exact chosen
  · intro chosen
    exact ⟨json, rfl, admits, chosen⟩

theorem readNamed_script_ok_iff {α : Type} {parse : String → Except NameError α} {json : Json}
    {value : α} :
    readNamed parse json.script = .ok value ↔ json.named? parse = some value := by
  simp only [readNamed, bind_ok_iff, readText_script_ok_iff, Json.named?, Option.bind_eq_some_iff]
  refine exists_congr fun name => and_congr_right fun _ => ?_
  cases parse name <;> simp [Except.toOption]

theorem readRawOptions_ok_iff {origin : Origin} {script : Script} {value : RawOptions} :
    readRawOptions origin script = .ok value ↔
      ∃ members, script = (Json.object members).script ∧
        origin.Admits (Json.object members).depth ∧ .ofMembers members = value := by
  cases script with
  | object members stop =>
    simp only [readRawOptions, bind_ok_iff, ofFault_eq_ok_iff, Script.membersToJson_ok_iff]
    constructor
    · rintro ⟨inside, entered, values, ⟨rfl, rfl, admits⟩, made⟩
      exact ⟨values, rfl, Origin.admits_succ_iff.mpr ⟨inside, entered, admits⟩, Except.ok.inj made⟩
    · rintro ⟨values, same, admits, rfl⟩
      obtain ⟨inside, entered, admits⟩ := Origin.admits_succ_iff.mp admits
      cases same
      exact ⟨inside, entered, values, ⟨rfl, rfl, admits⟩, rfl⟩
  | _ => simp [readRawOptions, Json.script]

theorem readRawOptions_script_ok_iff {origin : Origin} {json : Json}
    (admits : origin.Admits json.depth) {value : RawOptions} :
    readRawOptions origin json.script = .ok value ↔ json.rawOptions? = some value := by
  rw [readRawOptions_ok_iff]
  constructor
  · rintro ⟨members, same, -, rfl⟩
    rw [Json.script_inj.mp same]
    rfl
  · intro denoted
    cases json with
    | object members => exact ⟨members, rfl, admits, Option.some.inj denoted⟩
    | _ => cases denoted

theorem chosenMode_ok_iff {name : String} {mode : FilterMode} :
    chosenMode name = .ok mode ↔ FilterMode.ofName? name = some mode := by
  unfold chosenMode
  cases FilterMode.ofName? name <;> simp

theorem readUnit_script_ok_iff {json : Json} {outcome : Unit} :
    readUnit json.script = .ok outcome ↔ json = .null := by
  cases json <;> simp [Json.script, readUnit]

/-- The only key of an object names the mode, and nothing may be held under it. -/
theorem readMode_single_ok_iff {origin : Origin} {name : String} {payload : Json}
    (admits : origin.Admits (Json.object [(name, payload)]).depth) {mode : FilterMode} :
    readMode origin (Json.object [(name, payload)]).script = .ok mode ↔
      FilterMode.ofName? name = some mode ∧ payload = .null := by
  obtain ⟨inside, entered, -⟩ := Origin.admits_succ_iff.mp admits
  cases origin with
  | text levels =>
    simp [Json.script, Json.scriptMembers, readMode, readModeFromText, entered, bind_ok_iff,
      chosenMode_ok_iff, readUnit_script_ok_iff, endAfterChoice, pure, Except.pure]
  | tree =>
    simp [Json.script, Json.scriptMembers, readMode, readModeFromTree, bind_ok_iff,
      chosenMode_ok_iff, readUnit_script_ok_iff, pure, Except.pure]

theorem readMode_several_ne_ok {origin : Origin} {first second : String × Json}
    {rest : List (String × Json)} {mode : FilterMode} :
    readMode origin (Json.object (first :: second :: rest)).script ≠ .ok mode := by
  cases origin <;>
    simp [Json.script, Json.scriptMembers, readMode, readModeFromText, readModeFromTree,
      bind_ok_iff, endAfterChoice, Functor.map, Except.map]

theorem readMode_script_ok_iff {origin : Origin} {json : Json}
    (admits : origin.Admits json.depth) {mode : FilterMode} :
    readMode origin json.script = .ok mode ↔
      json.mode? = some mode ∧ Shape.filterMode.KeysOnce json := by
  cases json with
  | string name =>
    cases origin <;>
      simp [Json.script, readMode, readModeFromText, readModeFromTree, bind_ok_iff,
        chosenMode_ok_iff, Json.mode?, Shape.KeysOnce]
  | object members =>
    cases members with
    | nil =>
      cases origin <;>
        simp [Json.script, Json.scriptMembers, readMode, readModeFromText, readModeFromTree,
          bind_ok_iff, Json.mode?, Json.canonicalMembers]
    | cons first rest =>
      cases rest with
      | nil =>
        have once : Shape.filterMode.KeysOnce (.object [first]) := by simp [Shape.KeysOnce]
        rw [readMode_single_ok_iff admits, Json.mode?_singleton_iff]
        exact (and_iff_left once).symm
      | cons second rest =>
        refine iff_of_false readMode_several_ne_ok ?_
        rintro ⟨denoted, once⟩
        have differ : first.1 ≠ second.1 := by
          simp only [Shape.KeysOnce, List.map_cons, List.nodup_cons, List.mem_cons] at once
          exact fun same => once.1 (.inl same)
        rw [Json.mode?_eq_none_of_ne differ] at denoted
        cases denoted
  | _ =>
    cases origin <;>
      simp [Json.script, readMode, readModeFromText, readModeFromTree, Json.mode?]

theorem readItems_script_ok_iff {α : Type} {read : Script → Except ReadError α}
    {denote : Json → Option α} {Once : Json → Prop} {items : List Json}
    (each : ∀ item ∈ items, ∀ value,
      read item.script = .ok value ↔ denote item = some value ∧ Once item) (values : List α) :
    readItems read (Json.scriptItems items) .closed = .ok values ↔
      items.mapM denote = some values ∧ ∀ item ∈ items, Once item := by
  induction items generalizing values with
  | nil => simp [Json.scriptItems, readItems_nil_iff]
  | cons item rest ih =>
    have here := each item List.mem_cons_self
    have further := ih fun other found => each other (List.mem_cons_of_mem item found)
    simp only [Json.scriptItems, readItems_cons_iff, here, further, List.mapM_cons,
      Option.bind_eq_bind, Option.bind_eq_some_iff, pure, Option.some.injEq,
      List.forall_mem_cons]
    constructor
    · rintro ⟨value, ⟨denoted, once⟩, others, ⟨rest_denoted, rest_once⟩, rfl⟩
      exact ⟨⟨value, denoted, others, rest_denoted, rfl⟩, once, rest_once⟩
    · rintro ⟨⟨value, denoted, others, rest_denoted, rfl⟩, once, rest_once⟩
      exact ⟨value, ⟨denoted, once⟩, others, ⟨rest_denoted, rest_once⟩, rfl⟩

@[simp] theorem skip_script (json : Json) : skip json.script = .ok () := by
  simp [skip]

@[simp] theorem absentValue_eq_ok_iff {α : Type} {name : String} {presence : Presence α}
    {value : α} : absentValue name presence = .ok value ↔ presence.absent? = some value := by
  cases presence <;> simp [absentValue, Presence.absent?]

@[simp] theorem beyondEnd_eq_ok_iff {α : Type} {error : ReadError} {presence : Presence α}
    {value : α} : beyondEnd error presence = .ok value ↔ presence.beyond? = some value := by
  cases presence <;> simp [beyondEnd, Presence.beyond?]

theorem readSurplus_script_ok_iff {origin : Origin} {done : Nat} {items : List Json}
    {outcome : Unit} :
    readSurplus origin done (Json.scriptItems items) .closed = .ok outcome ↔ items = [] := by
  cases items with
  | nil => simp [Json.scriptItems, readSurplus, ListEnd.surplusFault]
  | cons item rest => cases origin <;> simp [Json.scriptItems, readSurplus]

/-- What the values under the name of a field make of it: nothing changes without a value, one value
is read into a field that is not known yet, and anything else is a repetition. -/
def SlotFilled {α : Type} (read : Json → Except ReadError α) :
    List Json → Option α → Option α → Prop
  | [], before, after => after = before
  | [json], none, after => ∃ value, read json = .ok value ∧ after = some value
  | _, _, _ => False

theorem slotFilled_cons {α : Type} {read : Json → Except ReadError α} {json : Json}
    {rest : List Json} {before after : Option α} :
    SlotFilled read (json :: rest) before after ↔
      before = none ∧ ∃ value, read json = .ok value ∧ SlotFilled read rest (some value) after := by
  cases before <;> cases rest <;> simp [SlotFilled]

end Reading

open Reading

/-- What members make of the fields that are known before them. -/
def Fields.Filled (origin : Origin) (members : List (String × Json)) : {types : List Type} →
    Fields types → Slots types → Slots types → Prop
  | _, .nil, _, _ => True
  | _, .cons name _ shape rest, (before, others), (after, further) =>
    SlotFilled (fun json => shape.read origin json.script) (Members.under name members)
        before after ∧
      rest.Filled origin members others further

namespace Fields

theorem filled_nil (origin : Origin) : {types : List Type} → (fields : Fields types) →
    {before after : Slots types} → (fields.Filled origin [] before after ↔ after = before)
  | _, .nil, _, _ => iff_of_true trivial rfl
  | _, .cons _ _ _ rest, (_, _), (_, _) =>
    (and_congr_right fun _ => rest.filled_nil origin).trans (Prod.mk.injEq ..).symm.to_iff

/-- A member whose name no field has makes nothing of them. -/
theorem filled_cons_of_notMem {origin : Origin} {key : String} {json : Json}
    {members : List (String × Json)} : {types : List Type} → (fields : Fields types) →
    key ∉ fields.names → {before after : Slots types} →
      (fields.Filled origin ((key, json) :: members) before after ↔
        fields.Filled origin members before after)
  | _, .nil, _, _, _ => Iff.rfl
  | _, .cons name _ _ rest, unknown, (_, _), (_, _) => by
    simp only [names, List.mem_cons, not_or] at unknown
    simp only [Filled, Members.under_cons_of_ne unknown.1, rest.filled_cons_of_notMem unknown.2]

section

variable {α : Type} {types : List Type} {name : String} {presence : Presence α} {shape : Shape α}
  {rest : Fields types} {origin : Origin} {script : Script} {others : Slots types}

theorem readMember_unknown_iff {after : Slots (α :: types)} :
    (cons name presence shape rest).readMember origin name script (none, others) = .ok after ↔
      ∃ value, shape.read origin script = .ok value ∧ (some value, others) = after := by
  have step : (cons name presence shape rest).readMember origin name script (none, others) =
      shape.read origin script >>= fun value => .ok (some value, others) := by
    rw [readMember]
    exact if_pos rfl
  rw [step, bind_ok_iff]
  simp only [Except.ok.injEq]

theorem readMember_known {known : α} :
    (cons name presence shape rest).readMember origin name script (some known, others) =
      .error (.duplicateField name) :=
  if_pos rfl

theorem readMember_other_iff {key : String} (different : key ≠ name) {slot : Option α}
    {after : Slots (α :: types)} :
    (cons name presence shape rest).readMember origin key script (slot, others) = .ok after ↔
      ∃ further, rest.readMember origin key script others = .ok further ∧
        (slot, further) = after := by
  have step : (cons name presence shape rest).readMember origin key script (slot, others) =
      rest.readMember origin key script others >>= fun further => .ok (slot, further) :=
    if_neg different
  rw [step, bind_ok_iff]
  simp only [Except.ok.injEq]

end

/-- One more member is one more step. -/
theorem readMember_filled_iff {origin : Origin} {key : String} {json : Json}
    {members : List (String × Json)} : {types : List Type} → (fields : Fields types) →
    fields.names.Nodup → {before after : Slots types} →
      ((∃ between, fields.readMember origin key json.script before = .ok between ∧
          fields.Filled origin members between after) ↔
        fields.Filled origin ((key, json) :: members) before after)
  | _, .nil, _, before, _ => by
    refine iff_of_true ⟨before, ?_, trivial⟩ trivial
    simp only [readMember, skip_script]
    rfl
  | _, .cons name presence shape rest, differ, (before, others), (after, further) => by
    simp only [names, List.nodup_cons] at differ
    by_cases same : key = name
    · subst same
      simp only [Filled, Members.under_cons_self, slotFilled_cons,
        rest.filled_cons_of_notMem differ.1]
      cases before with
      | some known => simp [readMember_known]
      | none =>
        constructor
        · rintro ⟨_, stepped, filled⟩
          obtain ⟨value, read, rfl⟩ := readMember_unknown_iff.mp stepped
          exact ⟨⟨rfl, value, read, filled.1⟩, filled.2⟩
        · rintro ⟨⟨-, value, read, filled⟩, remaining⟩
          exact ⟨_, readMember_unknown_iff.mpr ⟨value, read, rfl⟩, filled, remaining⟩
    · simp only [readMember_other_iff same, Filled, Members.under_cons_of_ne same,
        ← rest.readMember_filled_iff differ.2]
      constructor
      · rintro ⟨_, ⟨between, read, rfl⟩, filled, remaining⟩
        exact ⟨filled, between, read, remaining⟩
      · rintro ⟨filled, between, read, remaining⟩
        exact ⟨_, ⟨between, read, rfl⟩, filled, remaining⟩

theorem readMembers_ok_iff {origin : Origin} {types : List Type} (fields : Fields types)
    (differ : fields.names.Nodup) {members : List (String × Json)} {before after : Slots types} :
    readMembers (fields.readMember origin) (Json.scriptMembers members) .closed before =
        .ok after ↔
      fields.Filled origin members before after := by
  induction members generalizing before with
  | nil =>
    rw [Json.scriptMembers, readMembers_nil_iff, fields.filled_nil origin]
    exact ⟨fun done => done.2.symm, fun same => ⟨rfl, same.symm⟩⟩
  | cons member rest ih =>
    obtain ⟨key, json⟩ := member
    simp only [Json.scriptMembers, readMembers_cons_iff, Except.ok.injEq, exists_eq_left', ih]
    exact fields.readMember_filled_iff differ

theorem complete_cons_iff {α : Type} {types : List Type} {name : String}
    {presence : Presence α} {shape : Shape α} {rest : Fields types} {slot : Option α}
    {slots : Slots types} {value : α} {values : Values types} :
    (cons name presence shape rest).complete (slot, slots) = .ok (value, values) ↔
      (slot = some value ∨ slot = none ∧ presence.absent? = some value) ∧
        rest.complete slots = .ok values := by
  cases slot with
  | none =>
    simp only [complete, pair_ok_iff, absentValue_eq_ok_iff, reduceCtorEq, false_or, true_and]
  | some known =>
    simp only [complete, pair_ok_iff, Except.ok.injEq, Option.some.injEq, reduceCtorEq,
      false_and, or_false]

end Fields

/-- What comes of a field of a keyed record, whose name holds the given values. -/
theorem Reading.slotFilled_complete_iff {α : Type} {read : Json → Except ReadError α}
    {denote : Json → Option α} {Once : Json → Prop} {held : List Json}
    (each : ∀ json ∈ held, ∀ value, read json = .ok value ↔ denote json = some value ∧ Once json)
    (presence : Presence α) (value : α) :
    (∃ slot, SlotFilled read held none slot ∧
        (slot = some value ∨ slot = none ∧ presence.absent? = some value)) ↔
      (held.getLast?.map denote).getD presence.absent? = some value ∧
        held.length ≤ 1 ∧ ∀ json ∈ held, Once json := by
  match held with
  | [] => simp [SlotFilled]
  | [json] =>
    have here := each json List.mem_cons_self
    simp only [SlotFilled, here, List.getLast?_singleton, List.length_singleton,
      List.mem_singleton, forall_eq, Nat.le_refl, true_and]
    constructor
    · rintro ⟨_, ⟨_, read, rfl⟩, known | ⟨unknown, -⟩⟩
      · cases known
        exact read
      · cases unknown
    · intro read
      exact ⟨some value, ⟨value, read, rfl⟩, .inl rfl⟩
  | first :: second :: rest => simp [SlotFilled]

mutual

/-- Reading the faultless script of a value gives what the value denotes, unless a key is
repeated. -/
theorem Shape.read_script_ok_iff {origin : Origin} {json : Json} : {α : Type} →
    (shape : Shape α) → shape.NamesDiffer → origin.Admits json.depth → ∀ value : α,
      (shape.read origin json.script = .ok value ↔
        shape.ofJson? json = some value ∧ shape.KeysOnce json)
  | _, .text, _, _, _ => by
    simp only [Shape.read, readText_script_ok_iff, Shape.ofJson?, Shape.KeysOnce, and_true]
  | _, .count, _, _, _ => by
    simp only [Shape.read, readCount_script_ok_iff, Shape.ofJson?, Shape.KeysOnce, and_true]
  | _, .smallCount, _, _, _ => by
    simp only [Shape.read, readSmallCount_script_ok_iff, Shape.ofJson?, Shape.KeysOnce, and_true]
  | _, .real, _, _, _ => by
    simp only [Shape.read, readReal_script_ok_iff, Shape.ofJson?, Shape.KeysOnce, and_true]
  | _, .scalar, _, admits, _ => by
    simp only [Shape.read, readScalar, readAlternative_script_ok_iff admits, Shape.ofJson?,
      Shape.KeysOnce, and_true]
  | _, .operand, _, admits, _ => by
    simp only [Shape.read, readOperand, readAlternative_script_ok_iff admits, Shape.ofJson?,
      Shape.KeysOnce, and_true]
  | _, .order, _, _, _ => by
    simp only [Shape.read, readNamed_script_ok_iff, Shape.ofJson?, Shape.KeysOnce, and_true]
  | _, .sortMode, _, _, _ => by
    simp only [Shape.read, readNamed_script_ok_iff, Shape.ofJson?, Shape.KeysOnce, and_true]
  | _, .filterMode, _, admits, _ => readMode_script_ok_iff admits
  | _, .rawOptions, _, admits, _ => by
    simp only [Shape.read, readRawOptions_script_ok_iff admits, Shape.ofJson?, Shape.KeysOnce,
      and_true]
  | _, .list item, differ, admits, values => by
    cases json with
    | array items =>
      obtain ⟨inside, entered, admits⟩ := Origin.admits_succ_iff.mp admits
      have each := fun json (found : json ∈ items) =>
        item.read_script_ok_iff differ (admits.mono (Json.depth_le_itemsDepth found))
      simp only [Json.script, Shape.read, entered, ReadError.ofFault, bind_ok_iff, Except.ok.injEq,
        exists_eq_left', readItems_script_ok_iff each, Shape.ofJson?, Shape.KeysOnce,
        Json.items_array]
    | _ => simp [Json.script, Shape.read, Shape.ofJson?]
  | _, .nullable inner, differ, admits, value => by
    have inside := inner.read_script_ok_iff differ admits
    cases json with
    | null =>
      have once : inner.KeysOnce .null := inner.keysOnce_of_isCanonical trivial
      simp [Json.script, Shape.read, Shape.ofJson?, Shape.KeysOnce, once]
    | _ =>
      simp only [Json.script] at inside
      simp only [Json.script, Shape.read, map_ok_iff, inside, Shape.ofJson?, Shape.KeysOnce]
      exact map_some_and_iff.symm
  | _, .record name fields packing, differ, admits, value => by
    cases json with
    | array items =>
      obtain ⟨inside, entered, admits⟩ := Origin.admits_succ_iff.mp admits
      have step := fields.readPositional_script_ok_iff name fields.size differ.2 admits 0
      simp only [Json.script, Shape.read, entered, ReadError.ofFault, bind_ok_iff, Except.ok.injEq,
        exists_eq_left', step, Shape.ofJson?, Shape.KeysOnce, map_some_and_iff, pure, Except.pure]
    | object members =>
      obtain ⟨inside, entered, admits⟩ := Origin.admits_succ_iff.mp admits
      have step := fields.filled_complete_iff admits differ.2
      simp only [Json.script, Shape.read, entered, ReadError.ofFault, bind_ok_iff, Except.ok.injEq,
        exists_eq_left', fields.readMembers_ok_iff differ.1, Shape.ofJson?, Shape.KeysOnce,
        Option.map_eq_some_iff, pure, Except.pure]
      constructor
      · rintro ⟨slots, filled, values, completed, rfl⟩
        obtain ⟨denoted, once⟩ := (step values).mp ⟨slots, filled, completed⟩
        exact ⟨⟨values, denoted, rfl⟩, once⟩
      · rintro ⟨⟨values, denoted, rfl⟩, once⟩
        obtain ⟨slots, filled, completed⟩ := (step values).mpr ⟨denoted, once⟩
        exact ⟨slots, filled, values, completed, rfl⟩
    | _ => simp [Json.script, Shape.read, Shape.ofJson?]

theorem Fields.readPositional_script_ok_iff {origin : Origin} : {types : List Type} →
    (fields : Fields types) → (record : String) → (size : Nat) → fields.NamesDiffer →
      {items : List Json} → origin.Admits (Json.itemsDepth items) → (done : Nat) →
      ∀ values : Values types,
      (fields.readPositional origin record size done (Json.scriptItems items) .closed =
          .ok values ↔
        fields.ofItems? items = some values ∧ fields.KeysOnceAmong items)
  | _, .nil, _, _, _, items, _, _, _ => by
    simp only [Fields.readPositional, readSurplus_script_ok_iff]
    cases items <;> simp [Fields.ofItems?, Fields.KeysOnceAmong]
  | _, .cons _ presence _ rest, record, size, differ, [], admits, done, (value, values) => by
    have further := rest.readPositional_script_ok_iff record size differ.2 admits (done + 1)
    have once : rest.KeysOnceAmong [] := rest.keysOnceAmong_of_isCanonical trivial
    simp only [Json.scriptItems, once, and_true] at further
    simp only [Json.scriptItems, Fields.readPositional, ListEnd.readFault, pair_ok_iff,
      beyondEnd_eq_ok_iff, further, Fields.ofItems?, pair_some_iff, Fields.KeysOnceAmong, and_true]
  | _, .cons _ _ shape rest, record, size, differ, item :: items, admits, done,
      (value, values) => by
    have ⟨first, others⟩ := Origin.admits_max_iff.mp admits
    have here := shape.read_script_ok_iff differ.1 first
    have further := rest.readPositional_script_ok_iff record size differ.2 others (done + 1)
    simp only [Json.scriptItems, Fields.readPositional, pair_ok_iff, here, further,
      Fields.ofItems?, pair_some_iff, Fields.KeysOnceAmong]
    exact and_and_and_comm

theorem Fields.filled_complete_iff {origin : Origin} {members : List (String × Json)}
    (admits : origin.Admits (Json.membersDepth members)) : {types : List Type} →
    (fields : Fields types) → fields.NamesDiffer → ∀ values : Values types,
      ((∃ slots, fields.Filled origin members fields.unknown slots ∧
          fields.complete slots = .ok values) ↔
        fields.ofMembers? members = some values ∧ fields.KeysOnceUnder members)
  | _, .nil, _, _ => by
    simp [Fields.Filled, Fields.complete, Fields.ofMembers?, Fields.KeysOnceUnder]
  | _, .cons name presence shape rest, differ, (value, values) => by
    have each := fun json (found : json ∈ Members.under name members) =>
      shape.read_script_ok_iff differ.1
        (admits.mono (Json.depth_le_membersDepth (Members.mem_under.mp found)))
    have here := slotFilled_complete_iff each presence value
    have further := rest.filled_complete_iff admits differ.2 values
    simp only [Fields.ofMembers?, pair_some_iff, Fields.KeysOnceUnder, Members.last?]
    constructor
    · rintro ⟨⟨slot, slots⟩, ⟨slot_filled, slots_filled⟩, completed⟩
      obtain ⟨known, completed⟩ := Fields.complete_cons_iff.mp completed
      obtain ⟨denoted, single, once⟩ := here.mp ⟨slot, slot_filled, known⟩
      obtain ⟨rest_denoted, rest_once⟩ := further.mp ⟨slots, slots_filled, completed⟩
      exact ⟨⟨denoted, rest_denoted⟩, single, once, rest_once⟩
    · rintro ⟨⟨denoted, rest_denoted⟩, single, once, rest_once⟩
      obtain ⟨slot, slot_filled, known⟩ := here.mpr ⟨denoted, single, once⟩
      obtain ⟨slots, slots_filled, completed⟩ := further.mpr ⟨rest_denoted, rest_once⟩
      exact ⟨(slot, slots), ⟨slot_filled, slots_filled⟩,
        Fields.complete_cons_iff.mpr ⟨known, completed⟩⟩

end

namespace Shape

/-- A tree is read as what it denotes, whatever the order of its members. -/
theorem readTree_ok_iff {α : Type} {shape : Shape α} (differ : shape.NamesDiffer) {json : Json}
    {value : α} : shape.readTree json = .ok value ↔ shape.ofJson? json = some value := by
  have once : shape.KeysOnce json.canonical :=
    shape.keysOnce_of_isCanonical (Json.isCanonical_canonical json)
  have admits : Origin.tree.Admits json.canonical.depth := trivial
  rw [readTree, shape.read_script_ok_iff differ admits, ofJson?_canonical]
  exact and_iff_left once

/-- A text that is a JSON text is read as what its value denotes, unless a key is repeated. -/
theorem readText_ok_iff {α : Type} {shape : Shape α} (differ : shape.NamesDiffer) {text : String}
    {json : Json} (parsed : Json.parse text = .ok json) {value : α} :
    shape.readText text = .ok value ↔ shape.ofJson? json = some value ∧ shape.KeysOnce json := by
  obtain ⟨written, shallow⟩ := Json.parse_ok_iff.mp parsed
  have admits : (Origin.text Origin.textLevels).Admits json.depth := shallow
  rw [← shape.read_script_ok_iff differ admits, readText, written, bind_ok_iff]
  simp

end Shape

end QueryAssembly
