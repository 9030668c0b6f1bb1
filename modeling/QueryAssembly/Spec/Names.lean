/-!
# Named choices

The choices that a specification makes by name: the direction of a sort, the value that stands for
a nested list when sorting, and the way in which a relevance query compiles its filters.  Sort names
are read without regard to ASCII case; filter modes are read exactly, each under two names.
-/

namespace QueryAssembly

/-- A name that stands for no choice; the name is kept as it was given. -/
inductive NameError where
  /-- No sort order has this name. -/
  | sortOrder (name : String)
  /-- No sort mode has this name. -/
  | sortMode (name : String)
  /-- No filter mode has this name. -/
  | filterMode (name : String)
deriving DecidableEq

namespace NameError

/-- The wording of an unknown name. -/
def message : NameError → String
  | .sortOrder name => "invalid sort order: " ++ name
  | .sortMode name => "invalid sort mode: " ++ name
  | .filterMode name => "unknown relevance filter mode: " ++ name

end NameError

/-- A name with its ASCII letters in lower case. -/
def lowerCase (name : String) : String :=
  String.ofList (name.toList.map Char.toLower)

/-- The direction of a sort. -/
inductive SortOrder where
  /-- Smallest first. -/
  | ascending
  /-- Largest first. -/
  | descending
deriving DecidableEq

namespace SortOrder

/-- The name of a direction. -/
def name : SortOrder → String
  | .ascending => "asc"
  | .descending => "desc"

/-- The direction of a given name. -/
def parse (given : String) : Except NameError SortOrder :=
  if lowerCase given = "asc" then .ok .ascending
  else if lowerCase given = "desc" then .ok .descending
  else .error (.sortOrder given)

@[simp] theorem parse_name (order : SortOrder) : parse order.name = .ok order := by
  cases order <;> rfl

end SortOrder

/-- Which value of a nested list stands for the document when sorting. -/
inductive SortMode where
  /-- The smallest value. -/
  | min
  /-- The largest value. -/
  | max
  /-- The sum of the values. -/
  | sum
  /-- The mean of the values. -/
  | average
  /-- The median of the values. -/
  | median
deriving DecidableEq

namespace SortMode

/-- The name of a mode. -/
def name : SortMode → String
  | .min => "min"
  | .max => "max"
  | .sum => "sum"
  | .average => "avg"
  | .median => "median"

/-- The mode of a given name. -/
def parse (given : String) : Except NameError SortMode :=
  if lowerCase given = "min" then .ok .min
  else if lowerCase given = "max" then .ok .max
  else if lowerCase given = "sum" then .ok .sum
  else if lowerCase given = "avg" then .ok .average
  else if lowerCase given = "median" then .ok .median
  else .error (.sortMode given)

@[simp] theorem parse_name (mode : SortMode) : parse mode.name = .ok mode := by
  cases mode <;> rfl

end SortMode

/-- How a relevance query compiles its filters. -/
inductive FilterMode where
  /-- Every filter becomes a `term` clause, list or not. -/
  | exactTerm
  /-- A filter with a list becomes a `terms` clause. -/
  | listAware
deriving DecidableEq

namespace FilterMode

/-- The name of a filter mode. -/
def name : FilterMode → String
  | .exactTerm => "exact-term"
  | .listAware => "list-aware"

/-- The filter mode of its own name. -/
def ofName? (given : String) : Option FilterMode :=
  if given = "exact-term" then some .exactTerm
  else if given = "list-aware" then some .listAware
  else none

/-- The filter mode of a name that a person gives; the names of the clauses serve as well. -/
def parse (given : String) : Except NameError FilterMode :=
  if given = "term" ∨ given = "exact-term" then .ok .exactTerm
  else if given = "list-aware" ∨ given = "terms" then .ok .listAware
  else .error (.filterMode given)

@[simp] theorem ofName?_name (mode : FilterMode) : ofName? mode.name = some mode := by
  cases mode <;> rfl

@[simp] theorem parse_name (mode : FilterMode) : parse mode.name = .ok mode := by
  cases mode <;> rfl

end FilterMode

end QueryAssembly
