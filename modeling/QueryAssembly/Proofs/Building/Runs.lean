import QueryAssembly.Proofs.Ordered.Lookup
import QueryAssembly.Session

/-!
# What a run of additions leaves behind

A run of additions is taken apart into what it adds to each section (`Addition.filter?` and its
companions).  Every section of the specification at the end depends on its own additions alone:
lists grow at their end, the last page stays, and a raw option has the last value of its key.  So
two runs that agree section by section build the same specification, however the sections take
turns.
-/

namespace QueryAssembly

namespace Addition

/-- The filter that is added. -/
def filter? : Addition → Option FieldConstraint
  | .filter constraint => some constraint
  | _ => none

/-- The match that is added. -/
def matching? : Addition → Option FieldConstraint
  | .matching constraint => some constraint
  | _ => none

/-- The nested filter that is added. -/
def nestedFilter? : Addition → Option NestedConstraint
  | .nestedFilter constraint => some constraint
  | _ => none

/-- The nested match that is added. -/
def nestedMatching? : Addition → Option NestedConstraint
  | .nestedMatching constraint => some constraint
  | _ => none

/-- The sort key that is added. -/
def sort? : Addition → Option SortKey
  | .sort key => some key
  | _ => none

/-- The page that is set. -/
def page? : Addition → Option Page
  | .page value => some value
  | _ => none

/-- The key and the value of the raw option that is set. -/
def raw? : Addition → Option (String × Json)
  | .raw key value => some (key, value)
  | _ => none

/-- Two runs put the same items in the same order into every list, end with the same page and give
every raw option the same last value. -/
structure SameSections (left right : List Addition) : Prop where
  filters : left.filterMap filter? = right.filterMap filter?
  matching : left.filterMap matching? = right.filterMap matching?
  nestedFilters : left.filterMap nestedFilter? = right.filterMap nestedFilter?
  nestedMatching : left.filterMap nestedMatching? = right.filterMap nestedMatching?
  sorts : left.filterMap sort? = right.filterMap sort?
  page : (left.filterMap page?).getLast? = (right.filterMap page?).getLast?
  raw : ∀ key, (Members.last? key (left.filterMap raw?)).map Json.canonical =
    (Members.last? key (right.filterMap raw?)).map Json.canonical

end Addition

/-! ### Sections -/

/-- Put items at the end of a section, one after the other. -/
def appendEach {α : Type} (held : Option (List α)) (items : List α) : Option (List α) :=
  items.foldl (fun held item => appendTo item held) held

/-- Put values in the place of one another. -/
def replaceEach {α : Type} (held : Option α) (values : List α) : Option α :=
  values.foldl (fun _ value => some value) held

theorem replaceEach_eq {α : Type} (held : Option α) (values : List α) :
    replaceEach held values = values.getLast?.or held := by
  induction values generalizing held with
  | nil => rfl
  | cons value rest ih =>
    have step : replaceEach held (value :: rest) = replaceEach (some value) rest := rfl
    rw [step, ih, List.getLast?_cons]
    cases rest.getLast? <;> rfl

namespace RawOptions

/-- Options that give every key the same value are the same. -/
theorem eq_of_get?_eq {left right : RawOptions} (same : ∀ key, left.get? key = right.get? key) :
    left = right :=
  RawOptions.ext (Members.eq_of_lookup_eq left.canonical.1 right.canonical.1 same)

/-- Set raw options, one after the other. -/
def setEach (held : Option RawOptions) (members : List (String × Json)) : Option RawOptions :=
  members.foldl (fun held member => setIn member.1 member.2 held) held

theorem setEach_cons (held : Option RawOptions) (key : String) (value : Json)
    (rest : List (String × Json)) :
    setEach held ((key, value) :: rest) = setEach (setIn key value held) rest := rfl

theorem get?_setEach (held : Option RawOptions) (members : List (String × Json)) (key : String) :
    ((setEach held members).getD .empty).get? key =
      ((Members.last? key members).map Json.canonical).or ((held.getD .empty).get? key) := by
  induction members generalizing held with
  | nil => rfl
  | cons member rest ih =>
    obtain ⟨first, value⟩ := member
    rw [setEach_cons, ih, setIn, Option.getD_some, get?_set, Members.last?_cons]
    by_cases same : first = key
    · cases Members.last? key rest <;> simp [same]
    · cases Members.last? key rest <;> simp [same, Ne.symm same]

theorem exists_setEach_cons (held : Option RawOptions) (member : String × Json)
    (rest : List (String × Json)) : ∃ options, setEach held (member :: rest) = some options := by
  induction rest generalizing held member with
  | nil => exact ⟨_, rfl⟩
  | cons next rest ih => exact ih (setIn member.1 member.2 held) next

theorem eq_nil_of_last?_eq_none {members : List (String × Json)}
    (missing : ∀ key, Members.last? key members = none) : members = [] := by
  cases members with
  | nil => rfl
  | cons member rest =>
    have here := Members.last?_eq_none_iff.mp (missing member.1)
    rw [Members.under_cons_self] at here
    cases here

/-- What is set depends on the last value of every key alone. -/
theorem setEach_eq_of_last?_eq {left right : List (String × Json)}
    (same : ∀ key, (Members.last? key left).map Json.canonical =
      (Members.last? key right).map Json.canonical) (held : Option RawOptions) :
    setEach held left = setEach held right := by
  have lookups (key : String) : ((setEach held left).getD .empty).get? key =
      ((setEach held right).getD .empty).get? key := by
    rw [get?_setEach, get?_setEach, same key]
  cases left with
  | nil =>
    have missing (key : String) : Members.last? key right = none :=
      Option.map_eq_none_iff.mp (same key).symm
    rw [eq_nil_of_last?_eq_none missing]
  | cons member rest =>
    cases right with
    | nil =>
      have missing (key : String) : Members.last? key (member :: rest) = none :=
        Option.map_eq_none_iff.mp (same key)
      cases eq_nil_of_last?_eq_none missing
    | cons other others =>
      obtain ⟨options, left_set⟩ := exists_setEach_cons held member rest
      obtain ⟨further, right_set⟩ := exists_setEach_cons held other others
      rw [left_set, right_set] at lookups ⊢
      exact congrArg some (eq_of_get?_eq lookups)

end RawOptions

/-! ### Runs -/

theorem SimpleSpec.foldl_add (additions : List Addition) (spec : SimpleSpec) :
    additions.foldl add spec =
      { filters := appendEach spec.filters (additions.filterMap Addition.filter?)
        matching := appendEach spec.matching (additions.filterMap Addition.matching?)
        nestedFilters :=
          appendEach spec.nestedFilters (additions.filterMap Addition.nestedFilter?)
        nestedMatching :=
          appendEach spec.nestedMatching (additions.filterMap Addition.nestedMatching?)
        sorts := appendEach spec.sorts (additions.filterMap Addition.sort?)
        page := replaceEach spec.page (additions.filterMap Addition.page?)
        raw := RawOptions.setEach spec.raw (additions.filterMap Addition.raw?) } := by
  induction additions generalizing spec with
  | nil => rfl
  | cons addition rest ih =>
    rw [List.foldl_cons, ih]
    cases addition <;> rfl

theorem RelevanceSpec.foldl_add (additions : List Addition) (spec : RelevanceSpec) :
    additions.foldl add spec =
      { query := spec.query
        fields := spec.fields
        filters := appendEach spec.filters (additions.filterMap Addition.filter?)
        matching := appendEach spec.matching (additions.filterMap Addition.matching?)
        sorts := appendEach spec.sorts (additions.filterMap Addition.sort?)
        page := replaceEach spec.page (additions.filterMap Addition.page?)
        raw := RawOptions.setEach spec.raw (additions.filterMap Addition.raw?) } := by
  induction additions generalizing spec with
  | nil => rfl
  | cons addition rest ih =>
    rw [List.foldl_cons, ih]
    cases addition <;> rfl

theorem AggregateSpec.foldl_add (additions : List Addition) (spec : AggregateSpec) :
    additions.foldl add spec =
      { bucket := spec.bucket
        sample := spec.sample
        filters := appendEach spec.filters (additions.filterMap Addition.filter?)
        matching := appendEach spec.matching (additions.filterMap Addition.matching?) } := by
  induction additions generalizing spec with
  | nil => rfl
  | cons addition rest ih =>
    rw [List.foldl_cons, ih]
    cases addition <;> rfl

namespace Specification

/-- Add to a specification, as far as its kind has the section. -/
def add : Specification → Addition → Specification
  | .simple spec, addition => .simple (spec.add addition)
  | .relevance spec, addition => .relevance (spec.add addition)
  | .aggregate spec, addition => .aggregate (spec.add addition)

/-- Build on a specification; a step that fails changes nothing. -/
def build : Specification → List BuildStep → Specification
  | .simple spec, steps => .simple (spec.build steps)
  | .relevance spec, steps => .relevance (spec.build steps)
  | .aggregate spec, steps => .aggregate (spec.build steps)

end Specification

end QueryAssembly
