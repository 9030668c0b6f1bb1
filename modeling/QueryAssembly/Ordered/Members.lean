/-!
# Members in ascending order

An object of a finished request lists its members by ascending key, compared code point by code
point, with no key twice.  `put` lets the newer value win and `offer` lets the older one stay, so
both last-wins reading and overlaying are insertions that keep the order.
-/

namespace QueryAssembly.Members

variable {α : Type}

/-- Keys ascend strictly, so none is repeated. -/
def Ascending (members : List (String × α)) : Prop :=
  (members.map Prod.fst).Pairwise (· < ·)

theorem ascending_cons {member : String × α} {rest : List (String × α)} :
    Ascending (member :: rest) ↔
      (∀ other ∈ rest.map Prod.fst, member.1 < other) ∧ Ascending rest :=
  List.pairwise_cons

/-- Insert a member, replacing the value its key has already. -/
def put (key : String) (value : α) : List (String × α) → List (String × α)
  | [] => [(key, value)]
  | (first, held) :: rest =>
    if key < first then (key, value) :: (first, held) :: rest
    else if key = first then (key, value) :: rest
    else (first, held) :: put key value rest

/-- Insert a member unless its key has a value already. -/
def offer (key : String) (value : α) : List (String × α) → List (String × α)
  | [] => [(key, value)]
  | (first, held) :: rest =>
    if key < first then (key, value) :: (first, held) :: rest
    else if key = first then (first, held) :: rest
    else (first, held) :: offer key value rest

/-- Put every member of one list into another, in order. -/
def overlay (base upper : List (String × α)) : List (String × α) :=
  upper.foldl (fun members member => put member.1 member.2 members) base

theorem mem_put_keys {key : String} {value : α} {members : List (String × α)} {other : String}
    (found : other ∈ (put key value members).map Prod.fst) :
    other = key ∨ other ∈ members.map Prod.fst := by
  induction members with
  | nil => simpa [put] using found
  | cons member rest ih =>
    obtain ⟨first, held⟩ := member
    simp only [put] at found
    split at found
    · simpa using found
    · split at found
      · simp only [List.map_cons, List.mem_cons] at found ⊢
        rcases found with found | found
        · exact .inl found
        · exact .inr (.inr found)
      · simp only [List.map_cons, List.mem_cons] at found ⊢
        rcases found with found | found
        · exact .inr (.inl found)
        · rcases ih found with found | found
          · exact .inl found
          · exact .inr (.inr found)

theorem mem_offer_keys {key : String} {value : α} {members : List (String × α)} {other : String}
    (found : other ∈ (offer key value members).map Prod.fst) :
    other = key ∨ other ∈ members.map Prod.fst := by
  induction members with
  | nil => simpa [offer] using found
  | cons member rest ih =>
    obtain ⟨first, held⟩ := member
    simp only [offer] at found
    split at found
    · simpa using found
    · split at found
      · exact .inr found
      · simp only [List.map_cons, List.mem_cons] at found ⊢
        rcases found with found | found
        · exact .inr (.inl found)
        · rcases ih found with found | found
          · exact .inl found
          · exact .inr (.inr found)

theorem lt_of_not_lt_of_ne {left right : String} (notBefore : ¬left < right)
    (different : left ≠ right) : right < left := by
  by_cases after : right < left
  · exact after
  · exact absurd (String.le_antisymm after notBefore) different

theorem ascending_put {key : String} {value : α} {members : List (String × α)}
    (ascending : Ascending members) : Ascending (put key value members) := by
  induction members with
  | nil => simp [put, Ascending]
  | cons member rest ih =>
    obtain ⟨first, held⟩ := member
    obtain ⟨above, further⟩ := ascending_cons.mp ascending
    simp only [put]
    split
    · rename_i before
      refine List.Pairwise.cons (fun other found => ?_) ascending
      rcases List.mem_cons.mp found with rfl | found
      · exact before
      · exact String.lt_trans before (above other found)
    · split
      · rename_i same
        subst same
        exact ascending
      · rename_i notBefore different
        refine List.Pairwise.cons (fun other found => ?_) (ih further)
        rcases mem_put_keys found with rfl | found
        · exact lt_of_not_lt_of_ne notBefore different
        · exact above other found

theorem ascending_offer {key : String} {value : α} {members : List (String × α)}
    (ascending : Ascending members) : Ascending (offer key value members) := by
  induction members with
  | nil => simp [offer, Ascending]
  | cons member rest ih =>
    obtain ⟨first, held⟩ := member
    obtain ⟨above, further⟩ := ascending_cons.mp ascending
    simp only [offer]
    split
    · rename_i before
      refine List.Pairwise.cons (fun other found => ?_) ascending
      rcases List.mem_cons.mp found with rfl | found
      · exact before
      · exact String.lt_trans before (above other found)
    · split
      · exact ascending
      · rename_i notBefore different
        refine List.Pairwise.cons (fun other found => ?_) (ih further)
        rcases mem_offer_keys found with rfl | found
        · exact lt_of_not_lt_of_ne notBefore different
        · exact above other found

theorem offer_of_forall_lt {key : String} {value : α} {members : List (String × α)}
    (before : ∀ other ∈ members.map Prod.fst, key < other) :
    offer key value members = (key, value) :: members := by
  cases members with
  | nil => rfl
  | cons member rest => simp [offer, before member.1 (by simp)]

theorem lookup_cons_if (key other : String) (value : α) (members : List (String × α)) :
    ((key, value) :: members).lookup other =
      if other = key then some value else members.lookup other := by
  by_cases same : other = key
  · simp [same]
  · simp [List.lookup_cons, same, beq_eq_false_iff_ne.mpr same]

theorem lookup_put (key other : String) (value : α) (members : List (String × α)) :
    (put key value members).lookup other =
      if other = key then some value else members.lookup other := by
  induction members with
  | nil => simp [put, lookup_cons_if]
  | cons member rest ih =>
    obtain ⟨first, held⟩ := member
    simp only [put]
    split
    · exact lookup_cons_if ..
    · split
      · rename_i same
        subst same
        simp only [lookup_cons_if]
        split <;> rfl
      · rename_i _ different
        simp only [lookup_cons_if, ih]
        by_cases same : other = first
        · subst same
          simp [Ne.symm different]
        · simp [same]

end QueryAssembly.Members
