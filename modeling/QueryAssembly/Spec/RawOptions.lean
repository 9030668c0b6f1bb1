import QueryAssembly.Json.Basic

/-!
# Raw options

Raw options are root keys that a caller adds to a finished request as they are.  They are kept in
the order of a finished request, keys ascending at every depth, so `set` is the only way in which
the order of insertion could have mattered, and it does not.
-/

namespace QueryAssembly

/-- Extra root keys of a request with their values. -/
structure RawOptions where
  /-- The keys and values, in ascending order of the keys. -/
  members : List (String × Json)
  /-- Keys ascend strictly at every depth. -/
  canonical : (Json.object members).IsCanonical

namespace RawOptions

@[ext] theorem ext {left right : RawOptions} (same : left.members = right.members) :
    left = right := by
  cases left
  cases right
  cases same
  rfl

instance : BEq RawOptions := ⟨fun left right => Json.equalMembers left.members right.members⟩

/-- No raw options. -/
def empty : RawOptions := ⟨[], .nil, trivial⟩

/-- The raw options with given members; of equal keys the last wins. -/
def ofMembers (members : List (String × Json)) : RawOptions :=
  ⟨Json.canonicalMembers members, Json.isCanonical_canonical (.object members)⟩

/-- Give a key a value, replacing the one it has. -/
def set (key : String) (value : Json) (options : RawOptions) : RawOptions where
  members := Members.put key value.canonical options.members
  canonical := ⟨Members.ascending_put options.canonical.1,
    Json.membersCanonical_put (Json.isCanonical_canonical value) options.canonical.2⟩

/-- The value of a key. -/
def get? (options : RawOptions) (key : String) : Option Json :=
  options.members.lookup key

/-- The JSON object of the options. -/
def toJson (options : RawOptions) : Json :=
  .object options.members

@[simp] theorem ofMembers_members (options : RawOptions) :
    ofMembers options.members = options :=
  RawOptions.ext
    (Json.canonicalMembers_eq_of_canonical options.canonical.1 options.canonical.2)

@[simp] theorem get?_set (options : RawOptions) (key other : String) (value : Json) :
    (options.set key value).get? other =
      if other = key then some value.canonical else options.get? other :=
  Members.lookup_put ..

end RawOptions

end QueryAssembly
