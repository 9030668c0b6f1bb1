import QueryAssembly.Json.Builder
import QueryAssembly.Proofs.Json.Canonical
import QueryAssembly.Proofs.Outcome
import QueryAssembly.Reading.Origin

/-!
# Depth of nesting and whole values

`Json.depth` counts the containers around the innermost value.  A script denotes a value exactly
when it is the faultless script of that value and the origin admits its depth, so whoever reads a
whole value may forget scripts: `Script.toJson_ok_iff`.  `Json.parse` is the reading of a text for
its own sake.
-/

namespace QueryAssembly

namespace Json

mutual

/-- The number of containers around the innermost part of a value, itself included. -/
def depth : Json → Nat
  | .null | .bool _ | .number _ | .string _ => 0
  | .array items => itemsDepth items + 1
  | .object members => membersDepth members + 1

/-- The depth of the deepest item. -/
def itemsDepth : List Json → Nat
  | [] => 0
  | item :: rest => max item.depth (itemsDepth rest)

/-- The depth of the deepest value of a member. -/
def membersDepth : List (String × Json) → Nat
  | [] => 0
  | (_, value) :: rest => max value.depth (membersDepth rest)

end

theorem depth_le_itemsDepth {item : Json} {items : List Json} (found : item ∈ items) :
    item.depth ≤ itemsDepth items := by
  induction items with
  | nil => cases found
  | cons first rest ih =>
    simp only [itemsDepth]
    rcases List.mem_cons.mp found with rfl | found
    · exact Nat.le_max_left ..
    · exact Nat.le_trans (ih found) (Nat.le_max_right ..)

theorem depth_le_membersDepth {key : String} {value : Json} {members : List (String × Json)}
    (found : (key, value) ∈ members) : value.depth ≤ membersDepth members := by
  induction members with
  | nil => cases found
  | cons first rest ih =>
    obtain ⟨firstKey, held⟩ := first
    simp only [membersDepth]
    rcases List.mem_cons.mp found with same | found
    · cases same
      exact Nat.le_max_left ..
    · exact Nat.le_trans (ih found) (Nat.le_max_right ..)

theorem membersDepth_offer_le (key : String) (value : Json) (members : List (String × Json)) :
    membersDepth (Members.offer key value members) ≤ max value.depth (membersDepth members) := by
  induction members with
  | nil => simp [Members.offer, membersDepth]
  | cons member rest ih =>
    obtain ⟨first, held⟩ := member
    simp only [Members.offer]
    split
    · simp [membersDepth]
    · split
      · exact Nat.le_max_right ..
      · simp only [membersDepth]
        omega

mutual

theorem depth_canonical_le : (json : Json) → json.canonical.depth ≤ json.depth
  | .null | .bool _ | .number _ | .string _ => Nat.le_refl _
  | .array items => Nat.succ_le_succ (itemsDepth_canonicalItems_le items)
  | .object members => Nat.succ_le_succ (membersDepth_canonicalMembers_le members)

theorem itemsDepth_canonicalItems_le :
    (items : List Json) → itemsDepth (canonicalItems items) ≤ itemsDepth items
  | [] => Nat.le_refl _
  | item :: rest => by
    have first := depth_canonical_le item
    have further := itemsDepth_canonicalItems_le rest
    simp only [canonicalItems, itemsDepth]
    omega

theorem membersDepth_canonicalMembers_le :
    (members : List (String × Json)) →
      membersDepth (canonicalMembers members) ≤ membersDepth members
  | [] => Nat.le_refl _
  | (key, value) :: rest => by
    have first := depth_canonical_le value
    have further := membersDepth_canonicalMembers_le rest
    have offered := membersDepth_offer_le key value.canonical (canonicalMembers rest)
    simp only [canonicalMembers, membersDepth]
    omega

end

end Json

namespace Origin

/-- Containers may be nested so deep here. -/
def Admits : Origin → Nat → Prop
  | .text levels, depth => depth ≤ levels
  | .tree, _ => True

theorem Admits.mono {origin : Origin} {lower upper : Nat} (admits : origin.Admits upper)
    (below : lower ≤ upper) : origin.Admits lower := by
  cases origin with
  | text levels => exact Nat.le_trans below admits
  | tree => trivial

@[simp] theorem admits_zero (origin : Origin) : origin.Admits 0 := by
  cases origin with
  | text levels => exact Nat.zero_le levels
  | tree => trivial

theorem admits_max_iff {origin : Origin} {left right : Nat} :
    origin.Admits (max left right) ↔ origin.Admits left ∧ origin.Admits right := by
  cases origin with
  | text levels => exact Nat.max_le
  | tree => simp [Admits]

/-- What is admitted around a container is admitted inside it, one level less deep. -/
theorem admits_succ_iff {origin : Origin} {depth : Nat} :
    origin.Admits (depth + 1) ↔ ∃ inside, origin.enter = .ok inside ∧ inside.Admits depth := by
  cases origin with
  | tree => simp [Admits, enter]
  | text levels =>
    cases levels with
    | zero => simp [Admits, enter]
    | succ levels => simp [Admits, enter]

end Origin

namespace Json

namespace Script

mutual

/-- A script denotes a value exactly when it is the faultless script of that value and the value is
not nested too deeply. -/
theorem toJson_ok_iff {origin : Origin} : {script : Script} → {json : Json} →
    (script.toJson origin = .ok json ↔ script = json.script ∧ origin.Admits json.depth)
  | .null, json => by cases json <;> simp [toJson, Json.script, depth]
  | .bool value, json => by cases json <;> simp [toJson, Json.script, depth]
  | .number value, json => by
    cases value <;> cases json <;> simp [toJson, Json.script, depth, Except.map]
  | .string value, json => by
    cases value <;> cases json <;> simp [toJson, Json.script, depth, Except.map]
  | .damaged damage, json => by cases json <;> simp [toJson, Json.script]
  | .list items stop, json => by
    simp only [toJson, bind_ok_iff, itemsToJson_ok_iff, pure, Except.pure, Except.ok.injEq]
    constructor
    · rintro ⟨inside, entered, values, ⟨rfl, rfl, admits⟩, rfl⟩
      exact ⟨rfl, Origin.admits_succ_iff.mpr ⟨inside, entered, admits⟩⟩
    · rintro ⟨written, admits⟩
      cases json with
      | array values =>
        obtain ⟨inside, entered, admits⟩ := Origin.admits_succ_iff.mp admits
        cases written
        exact ⟨inside, entered, values, ⟨rfl, rfl, admits⟩, rfl⟩
      | _ => cases written
  | .object members stop, json => by
    simp only [toJson, bind_ok_iff, membersToJson_ok_iff, pure, Except.pure, Except.ok.injEq]
    constructor
    · rintro ⟨inside, entered, values, ⟨rfl, rfl, admits⟩, rfl⟩
      exact ⟨rfl, Origin.admits_succ_iff.mpr ⟨inside, entered, admits⟩⟩
    · rintro ⟨written, admits⟩
      cases json with
      | object values =>
        obtain ⟨inside, entered, admits⟩ := Origin.admits_succ_iff.mp admits
        cases written
        exact ⟨inside, entered, values, ⟨rfl, rfl, admits⟩, rfl⟩
      | _ => cases written

theorem itemsToJson_ok_iff {origin : Origin} : {items : List Script} → {stop : ListEnd} →
    {values : List Json} → (itemsToJson origin items stop = .ok values ↔
      items = scriptItems values ∧ stop = .closed ∧ origin.Admits (itemsDepth values))
  | [], stop, values => by
    cases stop <;> cases values <;>
      simp [itemsToJson, scriptItems, ListEnd.readFault, itemsDepth]
  | item :: rest, stop, values => by
    simp only [itemsToJson, bind_ok_iff, toJson_ok_iff, itemsToJson_ok_iff, pure, Except.pure,
      Except.ok.injEq]
    cases values with
    | nil => simp [scriptItems]
    | cons first further =>
      simp only [scriptItems, itemsDepth, Origin.admits_max_iff, List.cons.injEq]
      constructor
      · rintro ⟨_, ⟨rfl, shallow⟩, _, ⟨rfl, rfl, others⟩, rfl, rfl⟩
        exact ⟨⟨rfl, rfl⟩, rfl, shallow, others⟩
      · rintro ⟨⟨rfl, rfl⟩, rfl, shallow, others⟩
        exact ⟨first, ⟨rfl, shallow⟩, further, ⟨rfl, rfl, others⟩, rfl, rfl⟩

theorem membersToJson_ok_iff {origin : Origin} :
    {members : List (Except Fault String × Script)} → {stop : ObjectEnd} →
    {values : List (String × Json)} → (membersToJson origin members stop = .ok values ↔
      members = scriptMembers values ∧ stop = .closed ∧ origin.Admits (membersDepth values))
  | [], stop, values => by
    cases stop <;> cases values <;>
      simp [membersToJson, scriptMembers, ObjectEnd.readFault, membersDepth]
  | (key, value) :: rest, stop, values => by
    simp only [membersToJson, bind_ok_iff, toJson_ok_iff, membersToJson_ok_iff, pure, Except.pure,
      Except.ok.injEq]
    cases values with
    | nil => simp [scriptMembers]
    | cons first further =>
      obtain ⟨name, held⟩ := first
      simp only [scriptMembers, membersDepth, Origin.admits_max_iff, List.cons.injEq,
        Prod.mk.injEq]
      constructor
      · rintro ⟨_, rfl, _, ⟨rfl, shallow⟩, _, ⟨rfl, rfl, others⟩, ⟨rfl, rfl⟩, rfl⟩
        exact ⟨⟨⟨rfl, rfl⟩, rfl⟩, rfl, shallow, others⟩
      · rintro ⟨⟨⟨rfl, rfl⟩, rfl⟩, rfl, shallow, others⟩
        exact ⟨name, rfl, held, ⟨rfl, shallow⟩, further, ⟨rfl, rfl, others⟩, ⟨rfl, rfl⟩, rfl⟩

end

end Script

theorem script_inj {left right : Json} : left.script = right.script ↔ left = right := by
  refine ⟨fun same => ?_, congrArg script⟩
  have first : left.script.toJson .tree = .ok left := Script.toJson_ok_iff.mpr ⟨rfl, trivial⟩
  have second : left.script.toJson .tree = .ok right :=
    Script.toJson_ok_iff.mpr ⟨same, trivial⟩
  rw [first] at second
  exact Except.ok.inj second

theorem script_eq_null_iff {json : Json} : json.script = .null ↔ json = .null :=
  @script_inj json .null

/-- The value that a whole text denotes, members in written order. -/
def parse (text : String) : Except Fault Json := do
  let (script, rest) := Script.ofText text
  let json ← script.toJson (.text Origin.textLevels)
  match rest with
  | [] => return json
  | _ :: _ => .error .trailingCharacters

theorem parse_ok_iff {text : String} {json : Json} :
    parse text = .ok json ↔
      Script.ofText text = (json.script, []) ∧ json.depth ≤ Origin.textLevels := by
  unfold parse
  generalize Script.ofText text = written
  obtain ⟨script, rest⟩ := written
  simp only [bind_ok_iff, Script.toJson_ok_iff, Prod.mk.injEq]
  cases rest with
  | nil =>
    constructor
    · rintro ⟨_, ⟨rfl, shallow⟩, found⟩
      cases found
      exact ⟨⟨rfl, rfl⟩, shallow⟩
    · rintro ⟨⟨rfl, -⟩, shallow⟩
      exact ⟨json, ⟨rfl, shallow⟩, rfl⟩
  | cons token further => simp

end Json

end QueryAssembly
