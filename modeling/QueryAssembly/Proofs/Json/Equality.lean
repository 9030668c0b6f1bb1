import QueryAssembly.Proofs.Json.Canonical
import QueryAssembly.Spec.RawOptions

/-!
# Comparing values

Values are compared as the program compares them, so that both zeros are one number.  This is not
identity, but it is known from the parts: lists are compared item by item, and objects with
ascending keys are compared key by key.  A record leaves out the parts that it does not have, and is
still compared part by part, because its keys differ (`Json.canonical_laidOut_beq_iff`).
-/

namespace QueryAssembly

/-! ### Lists and options -/

section

variable {α β : Type} [BEq α] [BEq β]

theorem beq_map_map {change : α → β}
    (faithful : ∀ first second, (change first == change second) = (first == second))
    (left right : List α) : (left.map change == right.map change) = (left == right) := by
  induction left generalizing right with
  | nil => cases right <;> rfl
  | cons first rest ih =>
    cases right with
    | nil => rfl
    | cons second others =>
      rw [List.map_cons, List.map_cons, List.cons_beq_cons, List.cons_beq_cons, faithful, ih]

theorem beq_option_map {change : α → β}
    (faithful : ∀ first second, (change first == change second) = (first == second))
    (left right : Option α) : (left.map change == right.map change) = (left == right) := by
  cases left <;> cases right
  case some.some first second => exact faithful first second
  all_goals rfl

/-- Where no item of one part equals an item of the other, joined lists are compared part by
part. -/
theorem beq_append_append {left right left' right' : List α}
    (apart : ∀ first ∈ left, ∀ second ∈ right', (first == second) = false)
    (apart' : ∀ first ∈ right, ∀ second ∈ left', (first == second) = false) :
    (left ++ right == left' ++ right') = (left == left' && right == right') := by
  induction left generalizing left' with
  | nil =>
    cases left' with
    | nil => simp
    | cons second others =>
      cases right with
      | nil => rfl
      | cons first rest =>
        have different := apart' first List.mem_cons_self second List.mem_cons_self
        simp [different]
  | cons first rest ih =>
    cases left' with
    | nil =>
      cases right' with
      | nil => rfl
      | cons second others =>
        have different := apart first List.mem_cons_self second List.mem_cons_self
        simp [different]
    | cons second others =>
      have later := ih (fun item found => apart item (List.mem_cons_of_mem first found))
        (fun item found other there => apart' item found other (List.mem_cons_of_mem second there))
      rw [List.cons_append, List.cons_append, List.cons_beq_cons, List.cons_beq_cons, later,
        Bool.and_assoc]

/-- Lists are equal when they are equal at every place. -/
theorem beq_iff_getElem? {left right : List α} :
    (left == right) = true ↔ ∀ index : Nat, (left[index]? == right[index]?) = true := by
  induction left generalizing right with
  | nil =>
    cases right with
    | nil => exact iff_of_true rfl fun _ => rfl
    | cons second others => exact iff_of_false nofun fun same => nomatch same 0
  | cons first rest ih =>
    cases right with
    | nil => exact iff_of_false nofun fun same => nomatch same 0
    | cons second others =>
      rw [List.cons_beq_cons, Bool.and_eq_true, ih]
      exact Nat.and_forall_add_one (p := fun index =>
        ((first :: rest)[index]? == (second :: others)[index]?) = true)

theorem rel_beq_iff {left right : Option α} :
    Option.Rel (fun first second => (first == second) = true) left right ↔
      (left == right) = true := by
  cases left <;> cases right
  case none.none => exact iff_of_true .none rfl
  case some.some first second =>
    constructor
    · rintro (related | _)
      exact related
    · intro same
      exact .some same
  all_goals exact iff_of_false nofun nofun

theorem forall₂_beq_iff {left right : List (String × α)} :
    List.Forall₂ (fun first second => first.1 = second.1 ∧ (first.2 == second.2) = true)
      left right ↔ (left == right) = true := by
  induction left generalizing right with
  | nil =>
    cases right with
    | nil => exact iff_of_true .nil rfl
    | cons second others => exact iff_of_false nofun nofun
  | cons first rest ih =>
    cases right with
    | nil => exact iff_of_false nofun nofun
    | cons second others =>
      have pair : (first == second) = (first.1 == second.1 && first.2 == second.2) := rfl
      rw [List.forall₂_cons, ih, List.cons_beq_cons, pair, Bool.and_eq_true, Bool.and_eq_true,
        beq_iff_eq (a := first.1)]

end

/-! ### Values -/

namespace Json

theorem Number.equal_self (value : Number) : value.equal value = true := by
  cases value with
  | integer value lower upper => exact beq_self_eq_true value
  | real value =>
    change value.equal value = true
    simp [Binary64.Finite.equal]

mutual

theorem equal_self : (value : Json) → equal value value = true
  | .null => rfl
  | .bool value => beq_self_eq_true value
  | .number value => value.equal_self
  | .string value => beq_self_eq_true value
  | .array items => equalItems_self items
  | .object members => equalMembers_self members

theorem equalItems_self : (items : List Json) → equalItems items items = true
  | [] => rfl
  | item :: rest => by rw [equalItems, equal_self item, equalItems_self rest, Bool.and_self]

theorem equalMembers_self :
    (members : List (String × Json)) → equalMembers members members = true
  | [] => rfl
  | (key, value) :: rest => by
    rw [equalMembers, equal_self value, equalMembers_self rest, beq_self_eq_true key,
      Bool.and_self, Bool.and_self]

end

instance : ReflBEq Json := ⟨equal_self _⟩

@[simp] theorem number_beq_number (left right : Number) :
    (Json.number left == Json.number right) = (left == right) := rfl

@[simp] theorem string_beq_string (left right : String) :
    (Json.string left == Json.string right) = (left == right) := rfl

@[simp] theorem array_beq_array (left right : List Json) :
    (Json.array left == Json.array right) = (left == right) := by
  change equalItems left right = _
  induction left generalizing right with
  | nil => cases right <;> rfl
  | cons first rest ih =>
    cases right with
    | nil => rfl
    | cons second others =>
      rw [equalItems, ih, List.cons_beq_cons]
      rfl

@[simp] theorem object_beq_object (left right : List (String × Json)) :
    (Json.object left == Json.object right) = (left == right) := by
  change equalMembers left right = _
  induction left generalizing right with
  | nil => cases right <;> rfl
  | cons first rest ih =>
    cases right with
    | nil => rfl
    | cons second others =>
      rw [equalMembers, ih, List.cons_beq_cons]
      rfl

@[simp] theorem member_beq_member (left right : String) (first second : Json) :
    ((left, first) == (right, second)) = (left == right && first == second) := rfl

@[simp] theorem single_beq_single (left right : String) (first second : Json) :
    (Json.single left first == Json.single right second) = (left == right && first == second) := by
  rw [single, single, object_beq_object, List.cons_beq_cons, member_beq_member]
  exact Bool.and_true _

/-- Lists of texts are compared as texts are. -/
@[simp] theorem texts_beq_texts (left right : List String) :
    (Json.array (left.map .string) == Json.array (right.map .string)) = (left == right) := by
  rw [array_beq_array, beq_map_map string_beq_string]

theorem beq_of_ascending {left right : List (String × Json)}
    (left_ascending : Members.Ascending left) (right_ascending : Members.Ascending right) :
    (Json.object left == Json.object right) = true ↔
      ∀ key, (left.lookup key == right.lookup key) = true := by
  rw [object_beq_object, ← forall₂_beq_iff]
  refine (Members.forall₂_iff_lookup (fun first second => (first == second) = true)
    left_ascending right_ascending).trans ?_
  exact forall_congr' fun _ => rel_beq_iff

/-- In canonical order, objects are compared by the last value of every key. -/
theorem canonical_beq_iff {left right : List (String × Json)} :
    ((Json.object left).canonical == (Json.object right).canonical) = true ↔
      ∀ key, ((Members.last? key left).map canonical ==
        (Members.last? key right).map canonical) = true := by
  have left_ascending := ascending_canonicalMembers left
  have right_ascending := ascending_canonicalMembers right
  refine (beq_of_ascending left_ascending right_ascending).trans (forall_congr' fun key => ?_)
  rw [← last?_canonicalMembers, ← last?_canonicalMembers, Members.last?_eq_lookup left_ascending,
    Members.last?_eq_lookup right_ascending]

theorem Number.integer_beq_integer {left right : Int} (lower : -0x8000000000000000 ≤ left)
    (upper : left < 0x10000000000000000) (lower' : -0x8000000000000000 ≤ right)
    (upper' : right < 0x10000000000000000) :
    (integer left lower upper == integer right lower' upper') = (left == right) := rfl

theorem Number.ofUInt32_beq (left right : UInt32) :
    (ofUInt32 left == ofUInt32 right) = (left == right) := by
  rw [ofUInt32, ofUInt32, integer_beq_integer, Bool.eq_iff_iff, beq_iff_eq, beq_iff_eq,
    Int.natCast_inj, UInt32.toNat_inj]

theorem Number.ofUInt64_beq (left right : UInt64) :
    (ofUInt64 left == ofUInt64 right) = (left == right) := by
  rw [ofUInt64, ofUInt64, integer_beq_integer, Bool.eq_iff_iff, beq_iff_eq, beq_iff_eq,
    Int.natCast_inj, UInt64.toNat_inj]

/-! ### Records -/

section

variable {α : Type}

/-- The members of a record by its layout, which gives the part under each key; a part that the
record does not have is left out. -/
def laidOut (layout : List (String × (α → Option Json))) (record : α) : List (String × Json) :=
  layout.flatMap fun part => optional part.1 id (part.2 record)

variable {layout : List (String × (α → Option Json))}

theorem last?_laidOut_cons (key : String) (part : String × (α → Option Json)) (record : α) :
    Members.last? key (laidOut (part :: layout) record) =
      (Members.last? key (laidOut layout record)).or
        (if part.1 = key then part.2 record else none) := by
  rw [laidOut, List.flatMap_cons, Members.last?_append, last?_optional, Option.map_id]
  rfl

theorem last?_laidOut_of_notMem {key : String} (other : key ∉ layout.map Prod.fst) (record : α) :
    Members.last? key (laidOut layout record) = none := by
  induction layout with
  | nil => rfl
  | cons part rest ih =>
    rw [List.map_cons, List.mem_cons, not_or] at other
    rw [last?_laidOut_cons, ih other.2, if_neg (Ne.symm other.1), Option.or_none]

theorem last?_laidOut (differ : (layout.map Prod.fst).Nodup)
    {part : String × (α → Option Json)} (found : part ∈ layout) (record : α) :
    Members.last? part.1 (laidOut layout record) = part.2 record := by
  induction layout with
  | nil => cases found
  | cons first rest ih =>
    rw [List.map_cons, List.nodup_cons] at differ
    rw [last?_laidOut_cons]
    rcases List.mem_cons.mp found with rfl | found
    · rw [last?_laidOut_of_notMem differ.1, if_pos rfl, Option.none_or]
    · have later : part.1 ∈ rest.map Prod.fst := List.mem_map_of_mem found
      have different : first.1 ≠ part.1 := fun same => differ.1 (same ▸ later)
      rw [ih differ.2 found, if_neg different, Option.or_none]

/-- Records of one layout are equal when they are equal part by part. -/
theorem canonical_laidOut_beq_iff (differ : (layout.map Prod.fst).Nodup) {first second : α} :
    ((Json.object (laidOut layout first)).canonical ==
        (Json.object (laidOut layout second)).canonical) = true ↔
      ∀ part ∈ layout, ((part.2 first).map canonical == (part.2 second).map canonical) = true := by
  rw [canonical_beq_iff]
  constructor
  · intro same part found
    have here := same part.1
    rwa [last?_laidOut differ found, last?_laidOut differ found] at here
  · intro each key
    by_cases known : key ∈ layout.map Prod.fst
    · obtain ⟨part, found, rfl⟩ := List.mem_map.mp known
      rw [last?_laidOut differ found, last?_laidOut differ found]
      exact each part found
    · rw [last?_laidOut_of_notMem known, last?_laidOut_of_notMem known]
      rfl

end

end Json

/-! ### Numbers and raw options -/

/-- A number that is neither infinite nor undefined. -/
def Binary64.IsFinite (value : Binary64) : Prop :=
  ∃ finite, value = .finite finite

theorem Binary64.toJson_beq {left right : Binary64} (finite : left.IsFinite)
    (finite' : right.IsFinite) : (left.toJson == right.toJson) = (left == right) := by
  obtain ⟨number, rfl⟩ := finite
  obtain ⟨other, rfl⟩ := finite'
  rfl

theorem RawOptions.beq_iff {left right : RawOptions} :
    (left == right) = true ↔ ∀ key, (left.get? key == right.get? key) = true :=
  Json.beq_of_ascending left.canonical.1 right.canonical.1

end QueryAssembly
