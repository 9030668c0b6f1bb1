import QueryAssembly.Proofs.Json.Depth

/-!
# Members in another order

`Reordered` relates values that differ in the order of members alone, at any depth.  As long as no
key is repeated where members change places, such values have one canonical form, and neither is
nested more deeply than the other.
-/

namespace QueryAssembly

namespace Members

variable {α : Type}

theorem perm_under {members others : List (String × α)} (perm : members.Perm others)
    (key : String) : (under key members).Perm (under key others) := by
  induction perm with
  | nil => exact .nil
  | cons member _ ih =>
    obtain ⟨first, value⟩ := member
    by_cases same : first = key
    · subst same
      rw [under_cons_self, under_cons_self]
      exact ih.cons value
    · rw [under_cons_of_ne same, under_cons_of_ne same]
      exact ih
  | swap member other rest =>
    obtain ⟨first, value⟩ := member
    obtain ⟨second, held⟩ := other
    by_cases same : first = key <;> by_cases equal : second = key <;>
      simp [under, same, equal, List.Perm.swap]
  | trans _ _ first second => exact first.trans second

theorem length_under_le_one_of_nodup {members : List (String × α)}
    (differ : (members.map Prod.fst).Nodup) (key : String) : (under key members).length ≤ 1 := by
  cases held : under key members with
  | nil => exact Nat.zero_le 1
  | cons value rest =>
    have found : (key, value) ∈ members := mem_under.mp (held ▸ List.mem_cons_self)
    rw [← held, under_eq_singleton differ found]
    exact Nat.le_refl 1

/-- Without repeated keys, the order of members does not matter to any of them. -/
theorem last?_of_perm {members others : List (String × α)}
    (differ : (members.map Prod.fst).Nodup) (perm : members.Perm others) (key : String) :
    last? key members = last? key others := by
  have moved := perm_under perm key
  have short := length_under_le_one_of_nodup differ key
  rw [last?, last?]
  rcases Nat.le_one_iff_eq_zero_or_eq_one.mp short with none | one
  · rw [List.eq_nil_of_length_eq_zero none] at moved ⊢
    rw [moved.nil_eq]
  · obtain ⟨value, held⟩ := List.length_eq_one_iff.mp one
    rw [held] at moved ⊢
    rw [List.singleton_perm.mp moved]

end Members

namespace Json

/-- Two values differ in the order of members alone. -/
inductive Reordered : Json → Json → Prop where
  /-- A value and itself. -/
  | refl (json : Json) : Reordered json json
  /-- The other way round. -/
  | symm {left right : Json} (reordered : Reordered left right) : Reordered right left
  /-- One after the other. -/
  | trans {first second third : Json} (reordered : Reordered first second)
    (further : Reordered second third) : Reordered first third
  /-- Inside an item of a list. -/
  | item {left right : Json} (front back : List Json) (reordered : Reordered left right) :
    Reordered (.array (front ++ left :: back)) (.array (front ++ right :: back))
  /-- Inside the value of a member. -/
  | member {left right : Json} (front back : List (String × Json)) (key : String)
    (reordered : Reordered left right) :
    Reordered (.object (front ++ (key, left) :: back)) (.object (front ++ (key, right) :: back))
  /-- The members of an object change places, none of them under the key of another. -/
  | order {members others : List (String × Json)} (differ : (members.map Prod.fst).Nodup)
    (perm : members.Perm others) : Reordered (.object members) (.object others)

theorem canonicalMembers_congr {left right : Json} (same : left.canonical = right.canonical)
    (front back : List (String × Json)) (key : String) :
    canonicalMembers (front ++ (key, left) :: back) =
      canonicalMembers (front ++ (key, right) :: back) := by
  induction front with
  | nil => rw [List.nil_append, List.nil_append, canonicalMembers, canonicalMembers, same]
  | cons member rest ih =>
    rw [List.cons_append, List.cons_append, canonicalMembers, canonicalMembers, ih]

theorem canonicalMembers_of_perm {members others : List (String × Json)}
    (differ : (members.map Prod.fst).Nodup) (perm : members.Perm others) :
    canonicalMembers members = canonicalMembers others := by
  have left := ascending_canonicalMembers members
  have right := ascending_canonicalMembers others
  apply Members.eq_of_lookup_eq left right
  intro key
  rw [← Members.last?_eq_lookup left, ← Members.last?_eq_lookup right, last?_canonicalMembers,
    last?_canonicalMembers, Members.last?_of_perm differ perm]

theorem itemsDepth_congr {left right : Json} (same : left.depth = right.depth)
    (front back : List Json) :
    itemsDepth (front ++ left :: back) = itemsDepth (front ++ right :: back) := by
  induction front with
  | nil => rw [List.nil_append, List.nil_append, itemsDepth, itemsDepth, same]
  | cons item rest ih => rw [List.cons_append, List.cons_append, itemsDepth, itemsDepth, ih]

theorem membersDepth_congr {left right : Json} (same : left.depth = right.depth)
    (front back : List (String × Json)) (key : String) :
    membersDepth (front ++ (key, left) :: back) =
      membersDepth (front ++ (key, right) :: back) := by
  induction front with
  | nil => rw [List.nil_append, List.nil_append, membersDepth, membersDepth, same]
  | cons member rest ih =>
    rw [List.cons_append, List.cons_append, membersDepth, membersDepth, ih]

theorem membersDepth_of_perm {members others : List (String × Json)}
    (perm : members.Perm others) : membersDepth members = membersDepth others := by
  induction perm with
  | nil => rfl
  | cons member _ ih => rw [membersDepth, membersDepth, ih]
  | swap member other rest =>
    simp only [membersDepth]
    omega
  | trans _ _ first second => exact first.trans second

namespace Reordered

theorem canonical_eq {left right : Json} (reordered : Reordered left right) :
    left.canonical = right.canonical := by
  induction reordered with
  | refl json => rfl
  | symm _ ih => exact ih.symm
  | trans _ _ first second => exact first.trans second
  | item front back _ ih =>
    simp only [canonical, canonicalItems_eq_map, List.map_append, List.map_cons, ih]
  | member front back key _ ih =>
    exact congrArg Json.object (canonicalMembers_congr ih front back key)
  | order differ perm => exact congrArg Json.object (canonicalMembers_of_perm differ perm)

theorem depth_eq {left right : Json} (reordered : Reordered left right) :
    left.depth = right.depth := by
  induction reordered with
  | refl json => rfl
  | symm _ ih => exact ih.symm
  | trans _ _ first second => exact first.trans second
  | item front back _ ih => exact congrArg (· + 1) (itemsDepth_congr ih front back)
  | member front back key _ ih => exact congrArg (· + 1) (membersDepth_congr ih front back key)
  | order _ perm => exact congrArg (· + 1) (membersDepth_of_perm perm)

end Reordered

end Json

end QueryAssembly
