import QueryAssembly.Proofs.Request.Wire
import QueryAssembly.Proofs.Shape.Keyed
import QueryAssembly.Spec.Simple

/-!
# Requests straight from written specifications

`Written` turns the JSON form of a specification into the trees of its request without reading it
first: a constraint is looked up member by member, and only the names of sort orders and modes are
changed, to lower case.  Each part agrees with reading, compiling and writing that part.
-/

namespace QueryAssembly

namespace Written

/-- The text that a value is. -/
def text (json : Json) : String :=
  json.text?.getD ""

/-- The clause of a written filter. -/
def filter (constraint : Json) : Json :=
  Wire.exact (text (constraint.member "field")) (constraint.member "value")

/-- The clause of a written match. -/
def matching (constraint : Json) : Json :=
  Wire.matching (text (constraint.member "field")) (constraint.member "value")

/-- The clause of a written nested filter. -/
def nestedFilter (constraint : Json) : Json :=
  Wire.nested (text (constraint.member "path"))
    (Wire.exact (text (constraint.member "key")) (constraint.member "value"))

/-- The clause of a written nested match. -/
def nestedMatching (constraint : Json) : Json :=
  Wire.nested (text (constraint.member "path"))
    (Wire.matching (text (constraint.member "key")) (constraint.member "value"))

/-- The path and the mode of a written marker. -/
def marker (json : Json) : String × String :=
  (text (json.member "path"), lowerCase (text (json.member "mode")))

/-- The sort by a written key. -/
def sortKey (key : Json) : Json :=
  Wire.sortDirective (text (key.member "field")) (lowerCase (text (key.member "order")))
    ((key.member "nested").unlessNull.map marker)

/-- The clauses of a written simple specification. -/
def clauses (spec : Json) : List Json :=
  (spec.member "filters").items.map filter ++ (spec.member "matches").items.map matching ++
    (spec.member "nested_filters").items.map nestedFilter ++
    (spec.member "nested_matches").items.map nestedMatching

/-- The offset and the size of a written page. -/
def page (page : Json) : Json × Json :=
  (page.member "from", page.member "size")

/-- What the request of a written simple specification holds under a root key, raw options
apart. -/
def simple (spec : Json) (key : String) : Option Json :=
  Wire.root (.single "bool" (.single "must" (.array (clauses spec))))
    ((spec.member "pagination").unlessNull.map page)
    ((spec.member "sorts").unlessNull.map fun keys => keys.items.map sortKey) key

end Written

/-! ### Leaves -/

namespace Json

theorem eq_string_of_text? {json : Json} {text : String} (found : json.text? = some text) :
    json = .string text := by
  cases json <;> simp [text?] at found
  rw [found]

theorem eq_number_of_count? {json : Json} {count : UInt64} (found : json.count? = some count) :
    json = .number (.ofUInt64 count) := by
  cases json with
  | number held =>
    cases held with
    | integer value lower upper =>
      by_cases natural : 0 ≤ value
      · simp only [count?, if_pos natural] at found
        split at found
        · cases found
          have same : ((value.toNat : Nat) : Int) = value := Int.toNat_of_nonneg natural
          simp only [Number.ofUInt64, UInt64.toNat_ofNatLT, same]
        · cases found
      · simp only [count?, if_neg natural] at found
        cases found
    | real value => cases found
  | _ => cases found

/-- A value that names a choice is a text, and the name of the choice is that text in lower case. -/
theorem lowerCase_text_of_named? {α : Type} {parse : String → Except NameError α}
    {name : α → String}
    (names : ∀ given choice, parse given = .ok choice → lowerCase given = name choice)
    {json : Json} {choice : α} (found : json.named? parse = some choice) :
    lowerCase (Written.text json) = name choice := by
  obtain ⟨given, held, parsed⟩ := Option.bind_eq_some_iff.mp found
  rw [Written.text, held, Option.getD_some]
  refine names given choice ?_
  cases outcome : parse given with
  | ok other =>
    rw [outcome] at parsed
    exact congrArg Except.ok (Option.some.inj parsed)
  | error unknown =>
    rw [outcome] at parsed
    cases parsed

end Json

theorem SortOrder.lowerCase_of_parse (given : String) (order : SortOrder)
    (parsed : parse given = .ok order) : lowerCase given = order.name := by
  unfold parse at parsed
  split at parsed
  · cases parsed
    assumption
  · split at parsed
    · cases parsed
      assumption
    · cases parsed

theorem SortMode.lowerCase_of_parse (given : String) (mode : SortMode)
    (parsed : parse given = .ok mode) : lowerCase given = mode.name := by
  unfold parse at parsed
  repeat' split at parsed
  all_goals
    cases parsed
    try assumption

/-! ### Records -/

namespace FieldConstraint

variable {json : Json} {constraint : FieldConstraint}

theorem members_of_writes (written : shape.Writes json constraint) :
    json.member "field" = .string constraint.field ∧
      json.member "value" = constraint.operand.toJson := by
  obtain ⟨members, rfl, given⟩ := written.members_of_record
  obtain ⟨field, given⟩ := given.member_of_required
  obtain ⟨operand, -⟩ := given.member_of_required
  exact ⟨Json.eq_string_of_text? field.denoted, (Operand.toJson_of_ofJson? operand.denoted).symm⟩

theorem exactClause_of_writes (written : shape.Writes json constraint) :
    constraint.exactClause.toJson.canonical = Written.filter json := by
  obtain ⟨field, operand⟩ := members_of_writes written
  rw [exactClause, Clause.canonical_toJson_exactly, Written.filter, field, operand]
  rfl

theorem matchClause_of_writes (written : shape.Writes json constraint) :
    constraint.matchClause.toJson.canonical = Written.matching json := by
  obtain ⟨field, operand⟩ := members_of_writes written
  rw [matchClause, Clause.canonical_toJson_matching, Written.matching, field, operand]
  rfl

end FieldConstraint

namespace NestedConstraint

variable {json : Json} {constraint : NestedConstraint}

theorem members_of_writes (written : shape.Writes json constraint) :
    json.member "path" = .string constraint.path ∧ json.member "key" = .string constraint.key ∧
      json.member "value" = constraint.operand.toJson := by
  obtain ⟨members, rfl, given⟩ := written.members_of_record
  obtain ⟨path, given⟩ := given.member_of_required
  obtain ⟨key, given⟩ := given.member_of_required
  obtain ⟨operand, -⟩ := given.member_of_required
  exact ⟨Json.eq_string_of_text? path.denoted, Json.eq_string_of_text? key.denoted,
    (Operand.toJson_of_ofJson? operand.denoted).symm⟩

theorem exactClause_of_writes (written : shape.Writes json constraint) :
    constraint.exactClause.toJson.canonical = Written.nestedFilter json := by
  obtain ⟨path, key, operand⟩ := members_of_writes written
  rw [exactClause, Clause.canonical_toJson_nested, Clause.canonical_toJson_exactly,
    Written.nestedFilter, path, key, operand]
  rfl

theorem matchClause_of_writes (written : shape.Writes json constraint) :
    constraint.matchClause.toJson.canonical = Written.nestedMatching json := by
  obtain ⟨path, key, operand⟩ := members_of_writes written
  rw [matchClause, Clause.canonical_toJson_nested, Clause.canonical_toJson_matching,
    Written.nestedMatching, path, key, operand]
  rfl

end NestedConstraint

theorem NestedMarker.marker_of_writes {json : Json} {nested : NestedMarker}
    (written : shape.Writes json nested) :
    (nested.path, nested.mode.name) = Written.marker json := by
  obtain ⟨members, rfl, given⟩ := written.members_of_record
  obtain ⟨path, given⟩ := given.member_of_required
  obtain ⟨mode, -⟩ := given.member_of_required
  rw [Written.marker, Json.eq_string_of_text? path.denoted,
    Json.lowerCase_text_of_named? SortMode.lowerCase_of_parse mode.denoted]
  rfl

theorem SortKey.sortKey_of_writes {json : Json} {key : SortKey}
    (written : shape.Writes json key) : Wire.sortKey key = Written.sortKey json := by
  obtain ⟨members, rfl, given⟩ := written.members_of_record
  obtain ⟨field, given⟩ := given.member_of_required
  obtain ⟨order, given⟩ := given.member_of_required
  obtain ⟨nested, -⟩ := given.member_of_optional rfl
  have marker := nested.map_nullable fun _ => NestedMarker.marker_of_writes
  rw [Written.sortKey, Json.eq_string_of_text? field.denoted,
    Json.lowerCase_text_of_named? SortOrder.lowerCase_of_parse order.denoted, ← marker]
  rfl

theorem Page.page_of_writes {json : Json} {page : Page} (written : shape.Writes json page) :
    Wire.page page = Written.page json := by
  obtain ⟨members, rfl, given⟩ := written.members_of_record
  obtain ⟨offset, given⟩ := given.member_of_required
  obtain ⟨size, -⟩ := given.member_of_required
  rw [Written.page, Json.eq_number_of_count? offset.denoted,
    Json.eq_number_of_count? size.denoted]
  rfl

end QueryAssembly
