import QueryAssembly.Json.Basic
import QueryAssembly.Proofs.Ordered.Lookup

/-!
# Looking into canonical values

Canonical order changes neither what a key holds nor, inside it, anything but the order of keys:
`last?_canonicalMembers` is the one fact about it that readers of objects need.
-/

namespace QueryAssembly.Json

/-- The value under a key of an object, the last of several; nothing else has keys. -/
def get? (key : String) : Json → Option Json
  | .object members => Members.last? key members
  | _ => none

/-- The value under a key, null when there is none. -/
def member (json : Json) (key : String) : Json :=
  (json.get? key).getD .null

/-- A value unless it is null. -/
def unlessNull : Json → Option Json
  | .null => none
  | json => some json

/-- The items of a list; nothing else has items. -/
def items : Json → List Json
  | .array items => items
  | _ => []

@[simp] theorem get?_object (key : String) (members : List (String × Json)) :
    (Json.object members).get? key = Members.last? key members := rfl

@[simp] theorem items_array (items : List Json) : (Json.array items).items = items := rfl

theorem last?_optional {α : Type} (key name : String) (toJson : α → Json) (value : Option α) :
    Members.last? key (optional name toJson value) =
      if name = key then value.map toJson else none := by
  cases value with
  | none => simp [optional]
  | some value => simp [optional, Members.last?_singleton]

@[simp] theorem canonical_canonical (json : Json) : json.canonical.canonical = json.canonical :=
  canonical_eq_of_isCanonical (isCanonical_canonical json)

theorem canonical_eq_null_iff {json : Json} : json.canonical = .null ↔ json = .null := by
  cases json <;> simp [canonical]

theorem canonicalItems_eq_map (items : List Json) :
    canonicalItems items = items.map canonical := by
  induction items with
  | nil => rfl
  | cons item rest ih => simp [canonicalItems, ih]

theorem ascending_canonicalMembers (members : List (String × Json)) :
    Members.Ascending (canonicalMembers members) :=
  (membersCanonical_canonicalMembers members).1

theorem last?_canonicalMembers (key : String) (members : List (String × Json)) :
    Members.last? key (canonicalMembers members) =
      (Members.last? key members).map canonical := by
  rw [Members.last?_eq_lookup (ascending_canonicalMembers members)]
  induction members with
  | nil => rfl
  | cons member rest ih =>
    obtain ⟨first, value⟩ := member
    rw [canonicalMembers, Members.lookup_offer (ascending_canonicalMembers rest), ih,
      Members.last?_cons]
    by_cases same : first = key
    · cases Members.last? key rest <;> simp [same]
    · cases Members.last? key rest <;> simp [same]

/-- Two members with different keys stay two members. -/
theorem canonicalMembers_ne_singleton {first second : String × Json}
    {rest : List (String × Json)} (differ : first.1 ≠ second.1) (only : String × Json) :
    canonicalMembers (first :: second :: rest) ≠ [only] := by
  intro same
  have held (key : String) (value : Json) (found : (key, value) ∈ first :: second :: rest) :
      key = only.1 := by
    refine Decidable.byContradiction fun other => ?_
    have here := last?_canonicalMembers key (first :: second :: rest)
    rw [same, Members.last?_cons, if_neg (Ne.symm other)] at here
    have missing : Members.under key (first :: second :: rest) = [] := by
      rw [← Members.last?_eq_none_iff]
      exact Option.map_eq_none_iff.mp here.symm
    have present := Members.mem_under.mpr found
    rw [missing] at present
    cases present
  apply differ
  rw [held first.1 first.2 (by simp), held second.1 second.2 (by simp)]

theorem isCanonical_of_mem_items {item : Json} {items : List Json}
    (canonical : ItemsCanonical items) (found : item ∈ items) : item.IsCanonical := by
  induction items with
  | nil => cases found
  | cons first rest ih =>
    rcases List.mem_cons.mp found with rfl | found
    · exact canonical.1
    · exact ih canonical.2 found

theorem isCanonical_of_mem_members {key : String} {value : Json}
    {members : List (String × Json)} (canonical : MembersCanonical members)
    (found : (key, value) ∈ members) : value.IsCanonical := by
  induction members with
  | nil => cases found
  | cons first rest ih =>
    rcases List.mem_cons.mp found with rfl | found
    · exact canonical.1
    · exact ih canonical.2 found

theorem isCanonical_member {json : Json} (canonical : json.IsCanonical) (key : String) :
    (json.member key).IsCanonical := by
  cases json with
  | object members =>
    unfold member
    rw [get?_object]
    cases found : Members.last? key members with
    | none => exact trivial
    | some value => exact isCanonical_of_mem_members canonical.2 (Members.mem_of_last? found)
  | _ => exact trivial

end QueryAssembly.Json
