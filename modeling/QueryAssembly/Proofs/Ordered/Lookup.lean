import Mathlib.Data.List.Forall2
import QueryAssembly.Ordered.Members

/-!
# What a key holds

Members are compared by what they hold under each key.  `under` lists all values of a key in order
and `last?` is the one that counts when several are given.  In ascending members a key holds one
value at most, so `last?` and the look-up agree there; an overlay holds what the upper members hold
last and otherwise what the base holds.
-/

namespace QueryAssembly.Members

variable {α : Type}

/-- The values under a key, in order. -/
def under (key : String) : List (String × α) → List α
  | [] => []
  | (first, value) :: rest => if first = key then value :: under key rest else under key rest

/-- The last of the values under a key. -/
def last? (key : String) (members : List (String × α)) : Option α :=
  (under key members).getLast?

@[simp] theorem under_nil (key : String) : under key ([] : List (String × α)) = [] := rfl

@[simp] theorem under_cons_self (key : String) (value : α) (rest : List (String × α)) :
    under key ((key, value) :: rest) = value :: under key rest := by
  simp [under]

theorem under_cons_of_ne {key first : String} (different : first ≠ key) (value : α)
    (rest : List (String × α)) : under key ((first, value) :: rest) = under key rest := by
  simp [under, different]

theorem mem_under {key : String} {value : α} {members : List (String × α)} :
    value ∈ under key members ↔ (key, value) ∈ members := by
  induction members with
  | nil => simp
  | cons member rest ih =>
    obtain ⟨first, held⟩ := member
    by_cases same : first = key
    · subst same
      simp [ih]
    · rw [under_cons_of_ne same, ih]
      simp [Ne.symm same]

theorem under_eq_nil_of_notMem {key : String} {members : List (String × α)}
    (missing : key ∉ members.map Prod.fst) : under key members = [] := by
  rw [List.eq_nil_iff_forall_not_mem]
  intro value found
  exact missing (List.mem_map.mpr ⟨(key, value), mem_under.mp found, rfl⟩)

/-- When all keys differ, a key holds the one value that is given for it. -/
theorem under_eq_singleton {key : String} {value : α} {members : List (String × α)}
    (differ : (members.map Prod.fst).Nodup) (found : (key, value) ∈ members) :
    under key members = [value] := by
  induction members with
  | nil => cases found
  | cons member rest ih =>
    obtain ⟨first, held⟩ := member
    rw [List.map_cons, List.nodup_cons] at differ
    rcases List.mem_cons.mp found with same | found
    · cases same
      rw [under_cons_self, under_eq_nil_of_notMem differ.1]
    · have later : key ∈ rest.map Prod.fst := List.mem_map.mpr ⟨(key, value), found, rfl⟩
      have different : first ≠ key := by
        rintro rfl
        exact differ.1 later
      rw [under_cons_of_ne different, ih differ.2 found]

@[simp] theorem last?_nil (key : String) : last? key ([] : List (String × α)) = none := rfl

theorem last?_cons (key first : String) (value : α) (rest : List (String × α)) :
    last? key ((first, value) :: rest) =
      (last? key rest).or (if first = key then some value else none) := by
  by_cases same : first = key
  · subst same
    simp [last?, List.getLast?_cons, Option.or_some]
  · simp [last?, under_cons_of_ne same, same]

theorem last?_append (key : String) (left right : List (String × α)) :
    last? key (left ++ right) = (last? key right).or (last? key left) := by
  induction left with
  | nil => simp
  | cons member rest ih =>
    obtain ⟨first, held⟩ := member
    rw [List.cons_append, last?_cons, ih, last?_cons, Option.or_assoc]

theorem last?_singleton (key first : String) (value : α) :
    last? key [(first, value)] = if first = key then some value else none := by
  rw [last?_cons, last?_nil, Option.none_or]

theorem mem_of_last? {key : String} {value : α} {members : List (String × α)}
    (found : last? key members = some value) : (key, value) ∈ members :=
  mem_under.mp (List.mem_of_getLast? found)

theorem last?_eq_none_iff {key : String} {members : List (String × α)} :
    last? key members = none ↔ under key members = [] :=
  List.getLast?_eq_none_iff

theorem isSome_last?_iff {key : String} {members : List (String × α)} :
    (last? key members).isSome ↔ ∃ value, (key, value) ∈ members := by
  rw [last?, List.getLast?_isSome, Ne, List.eq_nil_iff_forall_not_mem, not_forall_not]
  exact exists_congr fun _ => mem_under

/-- A key that comes before all others is not among them. -/
theorem notMem_of_forall_lt {key : String} {members : List (String × α)}
    (above : ∀ other ∈ members.map Prod.fst, key < other) : key ∉ members.map Prod.fst :=
  fun found => String.lt_irrefl key (above key found)

theorem length_under_le_one {members : List (String × α)} (ascending : Ascending members)
    (key : String) : (under key members).length ≤ 1 := by
  induction members with
  | nil => simp
  | cons member rest ih =>
    obtain ⟨first, held⟩ := member
    obtain ⟨above, further⟩ := ascending_cons.mp ascending
    by_cases same : first = key
    · subst same
      rw [under_cons_self, under_eq_nil_of_notMem (notMem_of_forall_lt above)]
      simp
    · rw [under_cons_of_ne same]
      exact ih further

theorem last?_eq_lookup {members : List (String × α)} (ascending : Ascending members)
    (key : String) : last? key members = members.lookup key := by
  induction members with
  | nil => rfl
  | cons member rest ih =>
    obtain ⟨first, held⟩ := member
    obtain ⟨above, further⟩ := ascending_cons.mp ascending
    rw [last?_cons, lookup_cons_if, ← ih further]
    by_cases same : first = key
    · subst same
      have missing : last? first rest = none :=
        last?_eq_none_iff.mpr (under_eq_nil_of_notMem (notMem_of_forall_lt above))
      simp [missing]
    · simp [same, Ne.symm same]

theorem offer_nil (key : String) (value : α) : offer key value [] = [(key, value)] := rfl

theorem offer_cons_of_lt {key first : String} (before : key < first) (value held : α)
    (rest : List (String × α)) :
    offer key value ((first, held) :: rest) = (key, value) :: (first, held) :: rest :=
  if_pos before

theorem offer_cons_of_gt {key first : String} (after : first < key) (value held : α)
    (rest : List (String × α)) :
    offer key value ((first, held) :: rest) = (first, held) :: offer key value rest := by
  have other : key ≠ first := by
    rintro rfl
    exact String.lt_irrefl key after
  rw [offer, if_neg (String.lt_asymm after), if_neg other]

theorem lookup_offer {key : String} {value : α} {members : List (String × α)}
    (ascending : Ascending members) (other : String) :
    (offer key value members).lookup other =
      (members.lookup other).or (if key = other then some value else none) := by
  induction members with
  | nil => simp [offer, lookup_cons_if, eq_comm]
  | cons member rest ih =>
    obtain ⟨first, held⟩ := member
    obtain ⟨above, further⟩ := ascending_cons.mp ascending
    simp only [offer]
    split
    · rename_i before
      have absent : ((first, held) :: rest).lookup key = none := by
        rw [← last?_eq_lookup ascending, last?_eq_none_iff]
        refine under_eq_nil_of_notMem (notMem_of_forall_lt fun later found => ?_)
        rcases List.mem_cons.mp found with rfl | found
        · exact before
        · exact String.lt_trans before (above later found)
      rw [lookup_cons_if]
      by_cases same : other = key
      · subst same
        simp [absent]
      · simp [same, Ne.symm same]
    · split
      · rename_i same
        subst same
        simp only [lookup_cons_if]
        by_cases same : other = key
        · simp [same]
        · simp [same, Ne.symm same]
      · simp only [lookup_cons_if, ih further]
        by_cases same : other = first
        · simp [same]
        · simp [same]

theorem ascending_overlay {base : List (String × α)} (ascending : Ascending base)
    (upper : List (String × α)) : Ascending (overlay base upper) := by
  induction upper generalizing base with
  | nil => exact ascending
  | cons member rest ih => exact ih (ascending_put ascending)

theorem lookup_overlay (base upper : List (String × α)) (key : String) :
    (overlay base upper).lookup key = (last? key upper).or (base.lookup key) := by
  induction upper generalizing base with
  | nil => simp [overlay]
  | cons member rest ih =>
    obtain ⟨first, held⟩ := member
    have step : overlay base ((first, held) :: rest) = overlay (put first held base) rest := rfl
    rw [step, ih, lookup_put, last?_cons, Option.or_assoc]
    by_cases same : first = key
    · simp [same]
    · simp [same, Ne.symm same]

theorem lookup_eq_none_of_forall_lt {key : String} {members : List (String × α)}
    (above : ∀ other ∈ members.map Prod.fst, key < other) : members.lookup key = none := by
  rw [List.lookup_eq_none_iff]
  rintro ⟨other, held⟩ found
  have before : key < other := above other (List.mem_map.mpr ⟨(other, held), found, rfl⟩)
  have different : key ≠ other := by
    rintro rfl
    exact String.lt_irrefl key before
  simp [different]

/-- A key before all others cannot be looked up where they are. -/
theorem lookup_cons_eq_none_of_lt {key first : String} {value : α} {members : List (String × α)}
    (ascending : Ascending ((first, value) :: members)) (before : key < first) :
    ((first, value) :: members).lookup key = none := by
  refine lookup_eq_none_of_forall_lt fun other found => ?_
  rcases List.mem_cons.mp found with rfl | found
  · exact before
  · exact String.lt_trans before ((ascending_cons.mp ascending).1 other found)

/-- Ascending members are related one by one exactly when they are related key by key. -/
theorem forall₂_iff_lookup {β : Type} (relation : α → β → Prop) {left : List (String × α)}
    {right : List (String × β)} (left_ascending : Ascending left)
    (right_ascending : Ascending right) :
    List.Forall₂ (fun first second => first.1 = second.1 ∧ relation first.2 second.2) left right ↔
      ∀ key, Option.Rel relation (left.lookup key) (right.lookup key) := by
  induction left generalizing right with
  | nil =>
    cases right with
    | nil => exact iff_of_true .nil fun _ => .none
    | cons member rest =>
      refine iff_of_false nofun fun related => ?_
      have here := related member.1
      rw [lookup_cons_if, if_pos rfl] at here
      cases here
  | cons member rest ih =>
    obtain ⟨key, value⟩ := member
    obtain ⟨above, further⟩ := ascending_cons.mp left_ascending
    cases right with
    | nil =>
      refine iff_of_false nofun fun related => ?_
      have here := related key
      rw [lookup_cons_if, if_pos rfl] at here
      cases here
    | cons other others =>
      obtain ⟨name, held⟩ := other
      obtain ⟨name_above, name_further⟩ := ascending_cons.mp right_ascending
      rw [List.forall₂_cons, ih further name_further]
      constructor
      · rintro ⟨⟨rfl, here⟩, later⟩ sought
        rw [lookup_cons_if, lookup_cons_if]
        split
        · exact .some here
        · exact later sought
      · intro related
        have same : key = name := by
          refine Decidable.byContradiction fun different => ?_
          rcases Decidable.em (key < name) with before | not_before
          · have here := related key
            rw [lookup_cons_if, if_pos rfl,
              lookup_cons_eq_none_of_lt right_ascending before] at here
            cases here
          · have here := related name
            rw [lookup_cons_eq_none_of_lt left_ascending
              (lt_of_not_lt_of_ne not_before different), lookup_cons_if, if_pos rfl] at here
            cases here
        subst same
        have here := related key
        rw [lookup_cons_if, lookup_cons_if, if_pos rfl, if_pos rfl] at here
        cases here with
        | some here =>
          refine ⟨⟨rfl, here⟩, fun sought => ?_⟩
          have there := related sought
          rw [lookup_cons_if, lookup_cons_if] at there
          split at there
          · rename_i same
            subst same
            rw [lookup_eq_none_of_forall_lt above, lookup_eq_none_of_forall_lt name_above]
            exact .none
          · exact there

/-- Ascending members that hold the same under every key are the same. -/
theorem eq_of_lookup_eq {left right : List (String × α)} (left_ascending : Ascending left)
    (right_ascending : Ascending right) (same : ∀ key, left.lookup key = right.lookup key) :
    left = right := by
  have each (key : String) : Option.Rel (· = ·) (left.lookup key) (right.lookup key) := by
    rw [same key]
    cases right.lookup key with
    | none => exact .none
    | some value => exact .some rfl
  have related := (forall₂_iff_lookup (· = ·) left_ascending right_ascending).mpr each
  rw [← List.forall₂_eq_eq_eq]
  exact related.imp fun _ _ same => Prod.ext same.1 same.2

end QueryAssembly.Members
