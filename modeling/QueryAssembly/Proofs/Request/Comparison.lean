import QueryAssembly.Proofs.Json.Equality
import QueryAssembly.Proofs.Request.Wire

/-!
# Comparing wire forms

Two wire forms are equal exactly when the parts they are made of are.  The kind of a clause shows in
its single key, so clauses of different kinds are never equal, and neither are a nested filter and a
nested match.  Searched texts and sort directives are records, known part by part.  So equal wire
forms come from equal clauses (`Clause.toJson_beq`) and equal sort directives
(`SortDirective.toJson_beq_iff`).
-/

namespace QueryAssembly

namespace Scalar

theorem toJson_beq (left right : Scalar) : (left.toJson == right.toJson) = (left == right) := by
  cases left <;> cases right <;> rfl

theorem toJson_beq_array (scalar : Scalar) (items : List Json) :
    (scalar.toJson == .array items) = false := by
  cases scalar <;> rfl

theorem array_beq_toJson (scalar : Scalar) (items : List Json) :
    (Json.array items == scalar.toJson) = false := by
  cases scalar <;> rfl

end Scalar

namespace Operand

theorem toJson_beq (left right : Operand) : (left.toJson == right.toJson) = (left == right) := by
  cases left with
  | list scalars =>
    cases right with
    | list others =>
      rw [toJson, toJson, Json.array_beq_array, beq_map_map Scalar.toJson_beq]
      rfl
    | single scalar => exact scalar.array_beq_toJson _
  | single scalar =>
    cases right with
    | list others => exact scalar.toJson_beq_array _
    | single other => exact scalar.toJson_beq other

theorem exact_toJson (field : String) (operand : Operand) :
    Wire.exact field operand.toJson =
      .single (if operand.isList then "terms" else "term") (.single field operand.toJson) := by
  cases operand with
  | list scalars => rfl
  | single scalar => cases scalar <;> rfl

theorem isList_of_beq {left right : Operand} (same : (left == right) = true) :
    left.isList = right.isList := by
  cases left <;> cases right
  case list.list => rfl
  case single.single => rfl
  all_goals cases same

end Operand

/-! ### Clauses -/

namespace Wire

theorem term_beq (field other : String) (left right : Operand) :
    (term field left.toJson == term other right.toJson) = (field == other && left == right) := by
  simp [term, Operand.toJson_beq]

theorem matching_beq (field other : String) (left right : Operand) :
    (matching field left.toJson == matching other right.toJson) =
      (field == other && left == right) := by
  simp [matching, Operand.toJson_beq]

theorem exact_beq (field other : String) (left right : Operand) :
    (exact field left.toJson == exact other right.toJson) = (field == other && left == right) := by
  rw [Operand.exact_toJson, Operand.exact_toJson, Json.single_beq_single, Json.single_beq_single,
    Operand.toJson_beq]
  cases same : left == right with
  | false => simp
  | true => simp [Operand.isList_of_beq same]

theorem nested_beq (path other : String) (left right : Json) :
    (nested path left == nested other right) = (path == other && left == right) := by
  simp [nested]

end Wire

@[simp] theorem MultiMatchKind.name_inj {left right : MultiMatchKind} :
    left.name = right.name ↔ left = right := by
  cases left <;> cases right <;> decide

namespace MultiMatch

/-- Where the parts of a searched text are written. -/
def layout : List (String × (MultiMatch → Option Json)) :=
  [("query", fun body => some (.string body.query)),
    ("type", fun body => some (.string body.kind.name)),
    ("fields", fun body => some (.array (body.fields.map .string))),
    ("boost", fun body => body.boost.map Binary64.toJson),
    ("fuzziness", fun body => body.fuzziness.map .string),
    ("prefix_length", fun body => body.prefixLength.map fun length => .number (.ofUInt32 length))]

theorem toJson_eq_laidOut (body : MultiMatch) :
    body.toJson = .object (Json.laidOut layout body) := by
  obtain ⟨query, kind, fields, boost, fuzziness, prefixLength⟩ := body
  cases boost <;> cases fuzziness <;> cases prefixLength <;> rfl

/-- Searched texts have equal wire forms when they are equal, but for weights that are written
alike. -/
theorem toJson_beq_iff {first second : MultiMatch} :
    (first.toJson.canonical == second.toJson.canonical) = true ↔
      first.query = second.query ∧ first.kind = second.kind ∧ first.fields = second.fields ∧
        (first.boost.map Binary64.toJson == second.boost.map Binary64.toJson) = true ∧
        first.fuzziness = second.fuzziness ∧ first.prefixLength = second.prefixLength := by
  have texts : Json.canonical ∘ Json.string = Json.string := rfl
  have weights : Json.canonical ∘ Binary64.toJson = Binary64.toJson :=
    funext Binary64.canonical_toJson
  have counts : (Json.canonical ∘ fun length => Json.number (.ofUInt32 length)) =
      fun length => Json.number (.ofUInt32 length) := rfl
  have text_beq (left right : Option String) :
      (left.map Json.string == right.map Json.string) = (left == right) :=
    beq_option_map Json.string_beq_string left right
  have count_beq (left right : Option UInt32) :
      (left.map (fun length => Json.number (.ofUInt32 length)) ==
        right.map fun length => Json.number (.ofUInt32 length)) = (left == right) := by
    refine beq_option_map ?_ left right
    exact Json.Number.ofUInt32_beq
  rw [toJson_eq_laidOut, toJson_eq_laidOut, Json.canonical_laidOut_beq_iff (by decide)]
  simp only [layout, List.forall_mem_cons, Option.map_some, Option.map_map, Json.canonical_string,
    Json.canonical_array, List.map_map, texts, weights, counts, Option.some_beq_some,
    Json.string_beq_string, Json.texts_beq_texts, text_beq, count_beq, beq_iff_eq,
    MultiMatchKind.name_inj, List.not_mem_nil, false_imp_iff, implies_true, and_true]

/-- The weight of a searched text, if it has one, is a finite number; others are all written as
null. -/
def BoostFinite (body : MultiMatch) : Prop :=
  ∀ boost, body.boost = some boost → boost.IsFinite

theorem toJson_beq {first second : MultiMatch} (finite : first.BoostFinite)
    (finite' : second.BoostFinite) :
    (first.toJson.canonical == second.toJson.canonical) = (first == second) := by
  have boost : (first.boost.map Binary64.toJson == second.boost.map Binary64.toJson) =
      (first.boost == second.boost) := by
    cases held : first.boost <;> cases other : second.boost
    case some.some => exact Binary64.toJson_beq (finite _ held) (finite' _ other)
    all_goals rfl
  have derived : (first == second) =
      (first.query == second.query && (first.kind == second.kind &&
        (first.fields == second.fields && (first.boost == second.boost &&
          (first.fuzziness == second.fuzziness &&
            first.prefixLength == second.prefixLength))))) := by
    cases first
    cases second
    rfl
  rw [Bool.eq_iff_iff, toJson_beq_iff, boost, derived]
  simp only [Bool.and_eq_true, beq_iff_eq]

end MultiMatch

theorem FieldConstraint.beq_eq (left right : FieldConstraint) :
    (left == right) = (left.field == right.field && left.operand == right.operand) := by
  cases left
  cases right
  rfl

theorem NestedConstraint.beq_eq (left right : NestedConstraint) :
    (left == right) =
      (left.path == right.path && (left.key == right.key && left.operand == right.operand)) := by
  cases left
  cases right
  rfl

namespace Clause

/-- The place of a clause among clauses in the order of their sections, by its kind alone. -/
def rank : Clause → Nat
  | .term _ _ | .terms _ _ => 0
  | .matching _ _ => 1
  | .multiMatch _ => 2
  | .nested _ inner => 3 + inner.rank

/-- The single key of a clause. -/
def kind : Clause → String
  | .term _ _ => "term"
  | .terms _ _ => "terms"
  | .matching _ _ => "match"
  | .multiMatch _ => "multi_match"
  | .nested _ _ => "nested"

theorem exists_single (clause : Clause) :
    ∃ body, clause.toJson.canonical = .single clause.kind body := by
  cases clause <;> exact ⟨_, rfl⟩

theorem kind_of_beq {first second : Clause}
    (same : (first.toJson.canonical == second.toJson.canonical) = true) :
    first.kind = second.kind := by
  obtain ⟨body, written⟩ := first.exists_single
  obtain ⟨other, found⟩ := second.exists_single
  rw [written, found, Json.single_beq_single, Bool.and_eq_true] at same
  exact eq_of_beq same.1

theorem beq_of_kind_ne {first second : Clause} (apart : first.kind ≠ second.kind) :
    (first.toJson.canonical == second.toJson.canonical) = false := by
  rw [← Bool.not_eq_true]
  exact fun same => apart (kind_of_beq same)

theorem multiMatch_beq (first second : MultiMatch) :
    ((multiMatch first).toJson.canonical == (multiMatch second).toJson.canonical) =
      (first.toJson.canonical == second.toJson.canonical) := by
  rw [toJson, toJson, Json.canonical_single, Json.canonical_single, Json.single_beq_single,
    BEq.rfl, Bool.true_and]

/-- Every weight in a clause is a finite number. -/
def BoostsFinite : Clause → Prop
  | .multiMatch body => body.BoostFinite
  | .nested _ inner => inner.BoostsFinite
  | .term _ _ | .terms _ _ | .matching _ _ => True

/-- Clauses have equal wire forms exactly when they are equal, at any depth of nesting. -/
theorem toJson_beq {first second : Clause} (finite : first.BoostsFinite)
    (finite' : second.BoostsFinite) :
    (first.toJson.canonical == second.toJson.canonical) = (first == second) := by
  induction first generalizing second with
  | term field operand =>
    cases second with
    | term other operand' =>
      rw [canonical_toJson_term, canonical_toJson_term, Wire.term_beq]
      rfl
    | _ => exact beq_of_kind_ne (by simp [kind])
  | terms field scalars =>
    cases second with
    | terms other scalars' =>
      have here := canonical_toJson_exactly field (.list scalars)
      have there := canonical_toJson_exactly other (.list scalars')
      rw [exactly] at here there
      rw [here, there, Wire.exact_beq]
      rfl
    | _ => exact beq_of_kind_ne (by simp [kind])
  | matching field operand =>
    cases second with
    | matching other operand' =>
      rw [canonical_toJson_matching, canonical_toJson_matching, Wire.matching_beq]
      rfl
    | _ => exact beq_of_kind_ne (by simp [kind])
  | multiMatch body =>
    cases second with
    | multiMatch body' =>
      rw [multiMatch_beq, MultiMatch.toJson_beq finite finite']
      rfl
    | _ => exact beq_of_kind_ne (by simp [kind])
  | nested path inner ih =>
    cases second with
    | nested other inner' =>
      have deeper := @ih inner' finite finite'
      rw [canonical_toJson_nested, canonical_toJson_nested, Wire.nested_beq, deeper]
      rfl
    | _ => exact beq_of_kind_ne (by simp [kind])

/-- The rank of a clause can be told from its wire form. -/
theorem rank_of_beq {first second : Clause}
    (same : (first.toJson.canonical == second.toJson.canonical) = true) :
    first.rank = second.rank := by
  induction first generalizing second with
  | nested path inner ih =>
    cases second with
    | nested other body =>
      rw [canonical_toJson_nested, canonical_toJson_nested, Wire.nested_beq,
        Bool.and_eq_true] at same
      exact congrArg (3 + ·) (ih same.2)
    | _ => exact absurd (kind_of_beq same) (by simp [kind])
  | _ =>
    cases second
    all_goals first
      | rfl
      | exact absurd (kind_of_beq same) (by simp [kind])

theorem rank_exactly (field : String) (operand : Operand) : (exactly field operand).rank = 0 := by
  cases operand <;> rfl

/-- Clauses of lower rank are told from those that follow them. -/
theorem beq_append {left right left' right' : List Clause} (bound : Nat)
    (low : ∀ clause ∈ left, clause.rank < bound) (high : ∀ clause ∈ right, bound ≤ clause.rank)
    (low' : ∀ clause ∈ left', clause.rank < bound)
    (high' : ∀ clause ∈ right', bound ≤ clause.rank) :
    ((left ++ right).map (fun clause => clause.toJson.canonical) ==
        (left' ++ right').map fun clause => clause.toJson.canonical) =
      (left.map (fun clause => clause.toJson.canonical) ==
          left'.map (fun clause => clause.toJson.canonical) &&
        right.map (fun clause => clause.toJson.canonical) ==
          right'.map fun clause => clause.toJson.canonical) := by
  have apart (first second : Clause) (different : first.rank ≠ second.rank) :
      (first.toJson.canonical == second.toJson.canonical) = false := by
    rw [← Bool.not_eq_true]
    intro same
    exact different (rank_of_beq same)
  rw [List.map_append, List.map_append]
  apply beq_append_append
  · intro _ found _ there
    obtain ⟨first, here, rfl⟩ := List.mem_map.mp found
    obtain ⟨second, further, rfl⟩ := List.mem_map.mp there
    have below := Nat.lt_of_lt_of_le (low first here) (high' second further)
    exact apart first second (Nat.ne_of_lt below)
  · intro _ found _ there
    obtain ⟨first, here, rfl⟩ := List.mem_map.mp found
    obtain ⟨second, further, rfl⟩ := List.mem_map.mp there
    exact apart first second
      (Nat.ne_of_gt (Nat.lt_of_lt_of_le (low' second further) (high first here)))

end Clause

/-! ### Sorts and pages -/

@[simp] theorem SortOrder.name_inj {left right : SortOrder} :
    left.name = right.name ↔ left = right := by
  cases left <;> cases right <;> decide

@[simp] theorem SortMode.name_inj {left right : SortMode} :
    left.name = right.name ↔ left = right := by
  cases left <;> cases right <;> decide

namespace SortDirective

/-- Where the parts of a sort directive are written, its field apart. -/
def layout : List (String × (SortDirective → Option Json)) :=
  [("order", fun directive => some (.string directive.order.name)),
    ("mode", fun directive => directive.mode.map fun mode => .string mode.name),
    ("nested", fun directive =>
      directive.nestedPath.map fun path => .single "path" (.string path))]

theorem toJson_eq_laidOut (directive : SortDirective) :
    directive.toJson = .single directive.field (.object (Json.laidOut layout directive)) := by
  obtain ⟨field, order, mode, nestedPath⟩ := directive
  cases mode <;> cases nestedPath <;> rfl

/-- Sort directives have equal wire forms exactly when they are equal. -/
theorem toJson_beq_iff {first second : SortDirective} :
    (first.toJson.canonical == second.toJson.canonical) = true ↔ first = second := by
  have modes : (Json.canonical ∘ fun mode : SortMode => Json.string mode.name) =
      fun mode => Json.string mode.name := rfl
  have paths : (Json.canonical ∘ fun path => Json.single "path" (.string path)) =
      fun path => Json.single "path" (.string path) := rfl
  have mode_beq (left right : Option SortMode) :
      (left.map (fun mode => Json.string mode.name) ==
        right.map fun mode => Json.string mode.name) = (left == right) := by
    refine beq_option_map (fun mode other => ?_) left right
    rw [Json.string_beq_string, Bool.eq_iff_iff, beq_iff_eq, SortMode.name_inj, beq_iff_eq]
  have path_beq (left right : Option String) :
      (left.map (fun path => Json.single "path" (.string path)) ==
        right.map fun path => Json.single "path" (.string path)) = (left == right) := by
    refine beq_option_map (fun path other => ?_) left right
    rw [Json.single_beq_single, BEq.rfl, Bool.true_and, Json.string_beq_string]
  obtain ⟨field, order, mode, nestedPath⟩ := first
  obtain ⟨other, direction, choice, path⟩ := second
  rw [toJson_eq_laidOut, toJson_eq_laidOut, Json.canonical_single, Json.canonical_single,
    Json.single_beq_single, Bool.and_eq_true, Json.canonical_laidOut_beq_iff (by decide),
    mk.injEq]
  simp only [layout, List.forall_mem_cons, Option.map_some, Option.map_map, Json.canonical_string,
    modes, paths, Option.some_beq_some, Json.string_beq_string, mode_beq, path_beq, beq_iff_eq,
    SortOrder.name_inj, List.not_mem_nil, false_imp_iff, implies_true, and_true]

end SortDirective

theorem SortKey.directive_inj {left right : SortKey} :
    left.directive = right.directive ↔ left = right := by
  obtain ⟨field, order, marker⟩ := left
  obtain ⟨other, direction, further⟩ := right
  rw [directive, directive, SortDirective.mk.injEq, SortKey.mk.injEq]
  cases marker with
  | none => cases further <;> simp
  | some marker =>
    obtain ⟨path, mode⟩ := marker
    cases further with
    | none => simp
    | some nested =>
      obtain ⟨name, choice⟩ := nested
      simp only [Option.map_some, Option.some.injEq, NestedMarker.mk.injEq]
      tauto

theorem Wire.sortKey_beq (left right : SortKey) :
    (sortKey left == sortKey right) = (left == right) := by
  rw [← SortKey.canonical_directive, ← SortKey.canonical_directive, Bool.eq_iff_iff,
    SortDirective.toJson_beq_iff, SortKey.directive_inj, beq_iff_eq]

theorem Page.beq_eq (left right : Page) :
    (left == right) = (left.offset == right.offset && left.size == right.size) := by
  obtain ⟨offset, size⟩ := left
  obtain ⟨other, count⟩ := right
  rw [Bool.eq_iff_iff, beq_iff_eq, Page.mk.injEq]
  simp

/-! ### Roots -/

/-- The root keys that a page of a query controls. -/
def pagedKeys : List String := ["query", "from", "size", "sort"]

namespace Wire

theorem root_of_notMem {query : Json} {page : Option (Json × Json)} {sorts : Option (List Json)}
    {key : String} (other : key ∉ pagedKeys) : root query page sorts key = none := by
  unfold root
  split
  case h_5 => rfl
  all_goals exact absurd (by decide) other

theorem root_beq_iff {left right : Json} {page next : Option Page}
    {sorts others : Option (List SortKey)} :
    (∀ key,
      (root left (page.map Wire.page) (sorts.map fun keys => keys.map sortKey) key ==
        root right (next.map Wire.page) (others.map fun keys => keys.map sortKey) key) = true) ↔
      (left == right) = true ∧ (page == next) = true ∧ (sorts == others) = true := by
  have sections (keys held : List SortKey) :
      (Json.array (keys.map sortKey) == Json.array (held.map sortKey)) = (keys == held) := by
    rw [Json.array_beq_array, beq_map_map sortKey_beq]
  have sort_same : ((sorts.map fun keys => keys.map sortKey).map Json.array ==
      (others.map fun keys => keys.map sortKey).map Json.array) = (sorts == others) := by
    rw [Option.map_map, Option.map_map]
    exact beq_option_map sections sorts others
  constructor
  · intro same
    have queries := same "query"
    have offsets := same "from"
    have sizes := same "size"
    have orders := same "sort"
    refine ⟨queries, ?_, sort_same ▸ orders⟩
    cases page <;> cases next
    case none.none => rfl
    case some.some page next =>
      rw [Option.some_beq_some, Page.beq_eq, Bool.and_eq_true]
      exact ⟨Json.Number.ofUInt64_beq .. ▸ offsets, Json.Number.ofUInt64_beq .. ▸ sizes⟩
    all_goals cases offsets
  · rintro ⟨queries, pages, orders⟩ key
    obtain rfl : page = next := eq_of_beq pages
    unfold root
    split
    case h_1 => exact queries
    case h_2 => exact BEq.rfl
    case h_3 => exact BEq.rfl
    case h_4 => exact sort_same.trans orders
    case h_5 => rfl

end Wire

namespace RequestDocument

/-- Finished trees are compared key by key. -/
theorem toJson_beq_iff (left right : RequestDocument) :
    (left.toJson == right.toJson) = true ↔
      ∀ key, (left.toJson.get? key == right.toJson.get? key) = true := by
  have left_ascending := left.isCanonical_toJson.1
  have right_ascending := right.isCanonical_toJson.1
  have whole := Json.beq_of_ascending left_ascending right_ascending
  refine whole.trans (forall_congr' fun key => ?_)
  rw [toJson, toJson, Json.get?_object, Json.get?_object, Members.last?_eq_lookup left_ascending,
    Members.last?_eq_lookup right_ascending]

/-- Where the raw options leave the root keys of both requests alone, they are compared apart from
the rest. -/
theorem paged_beq_iff {query other : Query} {page next : Option Page}
    {sorts others : Option (List SortKey)} {raw held : RawOptions}
    (apart : ∀ key ∈ pagedKeys, raw.get? key = none)
    (apart' : ∀ key ∈ pagedKeys, held.get? key = none) :
    ((paged query page sorts raw).toJson == (paged other next others held).toJson) = true ↔
      ((query.toJson.canonical == other.toJson.canonical) = true ∧ (page == next) = true ∧
        (sorts == others) = true) ∧ (raw == held) = true := by
  rw [toJson_beq_iff, ← Wire.root_beq_iff, RawOptions.beq_iff, ← forall_and]
  refine forall_congr' fun key => ?_
  rw [get?_toJson_paged, get?_toJson_paged]
  by_cases mine : key ∈ pagedKeys
  · rw [apart key mine, apart' key mine, Option.none_or, Option.none_or]
    exact (and_iff_left rfl).symm
  · rw [Wire.root_of_notMem mine, Wire.root_of_notMem mine, Option.or_none, Option.or_none]
    exact (and_iff_right rfl).symm

end RequestDocument

end QueryAssembly
