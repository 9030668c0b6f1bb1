import QueryAssembly.Ordered.Members

/-!
# Tables

A table holds values under names, in ascending order of the names.  Giving a name a value replaces
the one it had, so two tables with the same look-ups are the same table however they were filled.
-/

namespace QueryAssembly

/-- Values under names, in ascending order. -/
structure Table (α : Type) where
  /-- The names and their values. -/
  members : List (String × α)
  /-- The names ascend strictly. -/
  ascending : Members.Ascending members

namespace Table

variable {α : Type}

@[ext] theorem ext {left right : Table α} (same : left.members = right.members) :
    left = right := by
  cases left
  cases right
  cases same
  rfl

instance [BEq α] : BEq (Table α) := ⟨fun left right => left.members == right.members⟩

/-- The table without names. -/
def empty : Table α := ⟨[], .nil⟩

/-- Give a name a value. -/
def set (name : String) (value : α) (table : Table α) : Table α :=
  ⟨Members.put name value table.members, Members.ascending_put table.ascending⟩

/-- The table of one name. -/
def single (name : String) (value : α) : Table α :=
  empty.set name value

/-- The value of a name. -/
def get? (table : Table α) (name : String) : Option α :=
  table.members.lookup name

@[simp] theorem members_single (name : String) (value : α) :
    (single name value).members = [(name, value)] := rfl

@[simp] theorem get?_set (table : Table α) (name other : String) (value : α) :
    (table.set name value).get? other = if other = name then some value else table.get? other :=
  Members.lookup_put ..

end Table

end QueryAssembly
