import QueryAssembly.Json.Number
import QueryAssembly.Ordered.Members

/-!
# JSON values

A value keeps the members of its objects in the order in which they were given, because parts of a
request are shown in their declared order.  `canonical` is the order of a finished request: keys
ascend at every depth and the last of several equal keys wins.  `IsCanonical` says so of a value,
and `canonical_eq_of_isCanonical` that nothing is then left to do.
-/

namespace QueryAssembly

/-- A JSON value. -/
inductive Json where
  /-- The null value. -/
  | null
  /-- A truth value. -/
  | bool (value : Bool)
  /-- A number. -/
  | number (value : Json.Number)
  /-- A text. -/
  | string (value : String)
  /-- A list of values. -/
  | array (items : List Json)
  /-- Values under keys, in the order given. -/
  | object (members : List (String × Json))

namespace Json

mutual

/-- Equality of values, with numbers compared as numbers. -/
def equal : Json → Json → Bool
  | .null, .null => true
  | .bool left, .bool right => left == right
  | .number left, .number right => left == right
  | .string left, .string right => left == right
  | .array left, .array right => equalItems left right
  | .object left, .object right => equalMembers left right
  | _, _ => false

/-- Equality of lists, item by item. -/
def equalItems : List Json → List Json → Bool
  | [], [] => true
  | left :: furtherLeft, right :: furtherRight =>
    equal left right && equalItems furtherLeft furtherRight
  | _, _ => false

/-- Equality of members, one after the other. -/
def equalMembers : List (String × Json) → List (String × Json) → Bool
  | [], [] => true
  | (leftKey, left) :: furtherLeft, (rightKey, right) :: furtherRight =>
    leftKey == rightKey && equal left right && equalMembers furtherLeft furtherRight
  | _, _ => false

end

instance : BEq Json := ⟨equal⟩

mutual

/-- Put the members of every object in ascending order; of equal keys the last wins. -/
def canonical : Json → Json
  | .null => .null
  | .bool value => .bool value
  | .number value => .number value
  | .string value => .string value
  | .array items => .array (canonicalItems items)
  | .object members => .object (canonicalMembers members)

/-- Put every item in canonical order. -/
def canonicalItems : List Json → List Json
  | [] => []
  | item :: rest => item.canonical :: canonicalItems rest

/-- Put members in ascending order, with their values in canonical order. -/
def canonicalMembers : List (String × Json) → List (String × Json)
  | [] => []
  | (key, value) :: rest => Members.offer key value.canonical (canonicalMembers rest)

end

mutual

/-- Keys ascend strictly in every object of a value. -/
def IsCanonical : Json → Prop
  | .null => True
  | .bool _ => True
  | .number _ => True
  | .string _ => True
  | .array items => ItemsCanonical items
  | .object members => Members.Ascending members ∧ MembersCanonical members

/-- Every item is canonical. -/
def ItemsCanonical : List Json → Prop
  | [] => True
  | item :: rest => IsCanonical item ∧ ItemsCanonical rest

/-- The value of every member is canonical. -/
def MembersCanonical : List (String × Json) → Prop
  | [] => True
  | (_, value) :: rest => IsCanonical value ∧ MembersCanonical rest

end

theorem membersCanonical_put {key : String} {value : Json} {members : List (String × Json)}
    (new : value.IsCanonical) (old : MembersCanonical members) :
    MembersCanonical (Members.put key value members) := by
  induction members with
  | nil => exact ⟨new, trivial⟩
  | cons member rest ih =>
    obtain ⟨first, held⟩ := member
    simp only [Members.put]
    split
    · exact ⟨new, old⟩
    · split
      · exact ⟨new, old.2⟩
      · exact ⟨old.1, ih old.2⟩

theorem membersCanonical_offer {key : String} {value : Json} {members : List (String × Json)}
    (new : value.IsCanonical) (old : MembersCanonical members) :
    MembersCanonical (Members.offer key value members) := by
  induction members with
  | nil => exact ⟨new, trivial⟩
  | cons member rest ih =>
    obtain ⟨first, held⟩ := member
    simp only [Members.offer]
    split
    · exact ⟨new, old⟩
    · split
      · exact old
      · exact ⟨old.1, ih old.2⟩

mutual

theorem isCanonical_canonical : (value : Json) → value.canonical.IsCanonical
  | .null | .bool _ | .number _ | .string _ => trivial
  | .array items => itemsCanonical_canonicalItems items
  | .object members => membersCanonical_canonicalMembers members

theorem itemsCanonical_canonicalItems :
    (items : List Json) → ItemsCanonical (canonicalItems items)
  | [] => trivial
  | item :: rest => ⟨isCanonical_canonical item, itemsCanonical_canonicalItems rest⟩

theorem membersCanonical_canonicalMembers : (members : List (String × Json)) →
    Members.Ascending (canonicalMembers members) ∧ MembersCanonical (canonicalMembers members)
  | [] => ⟨.nil, trivial⟩
  | (_, value) :: rest =>
    have further := membersCanonical_canonicalMembers rest
    ⟨Members.ascending_offer further.1,
      membersCanonical_offer (isCanonical_canonical value) further.2⟩

end

mutual

theorem canonical_eq_of_isCanonical : {value : Json} → value.IsCanonical → value.canonical = value
  | .null, _ | .bool _, _ | .number _, _ | .string _, _ => rfl
  | .array _, held => congrArg Json.array (canonicalItems_eq_of_itemsCanonical held)
  | .object _, held => congrArg Json.object (canonicalMembers_eq_of_canonical held.1 held.2)

theorem canonicalItems_eq_of_itemsCanonical :
    {items : List Json} → ItemsCanonical items → canonicalItems items = items
  | [], _ => rfl
  | _ :: _, held => by
    rw [canonicalItems, canonical_eq_of_isCanonical held.1,
      canonicalItems_eq_of_itemsCanonical held.2]

theorem canonicalMembers_eq_of_canonical : {members : List (String × Json)} →
    Members.Ascending members → MembersCanonical members → canonicalMembers members = members
  | [], _, _ => rfl
  | (key, value) :: rest, ascending, held => by
    have ⟨above, further⟩ := Members.ascending_cons.mp ascending
    rw [canonicalMembers, canonical_eq_of_isCanonical held.1,
      canonicalMembers_eq_of_canonical further held.2]
    exact Members.offer_of_forall_lt above

end

/-- The object with a single member. -/
def single (key : String) (value : Json) : Json := .object [(key, value)]

/-- A member that is left out when it has no value. -/
def optional {α : Type} (key : String) (toJson : α → Json) : Option α → List (String × Json)
  | none => []
  | some value => [(key, toJson value)]

end Json

/-- The JSON form of a floating point number; null unless it is finite. -/
def Binary64.toJson : Binary64 → Json
  | .finite value => .number (.real value)
  | _ => .null

end QueryAssembly
