import QueryAssembly.Proofs.Building.Runs
import QueryAssembly.Proofs.Request.Serialization

/-!
# Revisions of a request

A request begins with its query alone, and then its page, its sort, its aggregations and its raw
options are set, in any order and as often as one likes.  What it renders to is decided by the last
revision of each of them: `known?` is the part that the known keys hold, and a raw option takes the
place of whatever stands under its key.
-/

namespace QueryAssembly

/-- A change to a request. -/
inductive Revision where
  /-- Ask for a page, or for none. -/
  | paginate (page : Option Page)
  /-- Assign the sort. -/
  | sort (directives : Option (List SortDirective))
  /-- Assign the aggregations. -/
  | aggregations (table : Option (Table BucketAggregation))
  /-- Give a raw option a value. -/
  | raw (key : String) (value : Json)

namespace Revision

/-- Change a request. -/
def apply (document : RequestDocument) : Revision → RequestDocument
  | .paginate page => document.paginate page
  | .sort directives => { document with sort := directives }
  | .aggregations table => { document with aggregations := table }
  | .raw key value => document.setRaw key value

/-- The page that is asked for. -/
def page? : Revision → Option Page
  | .paginate page => page
  | _ => none

/-- The sort that is assigned. -/
def sort? : Revision → Option (Option (List SortDirective))
  | .sort directives => some directives
  | _ => none

/-- The aggregations that are assigned. -/
def aggregations? : Revision → Option (Option (Table BucketAggregation))
  | .aggregations table => some table
  | _ => none

/-- The key and the value of the raw option that is set. -/
def raw? : Revision → Option (String × Json)
  | .raw key value => some (key, value)
  | _ => none

/-- Make a request of a query and change it, one revision after the other. -/
def run (query : Query) (revisions : List Revision) : RequestDocument :=
  revisions.foldl apply (.ofQuery query)

/-- The last page that is asked for. -/
def lastPage? (revisions : List Revision) : Option Page :=
  (revisions.filterMap page?).getLast?

/-- The last sort that is assigned. -/
def lastSort? (revisions : List Revision) : Option (Option (List SortDirective)) :=
  (revisions.filterMap sort?).getLast?

/-- The last aggregations that are assigned. -/
def lastAggregations? (revisions : List Revision) : Option (Option (Table BucketAggregation)) :=
  (revisions.filterMap aggregations?).getLast?

/-- The last value that a raw option is given. -/
def lastRaw? (revisions : List Revision) (key : String) : Option Json :=
  Members.last? key (revisions.filterMap raw?)

theorem getLast?_filterMap_cons {α β : Type} (choose : α → Option β) (first : α) (rest : List α) :
    ((first :: rest).filterMap choose).getLast? =
      (rest.filterMap choose).getLast?.or (choose first) := by
  simp [List.getLast?_filterMap, List.findSome?_append]

theorem foldl_apply (revisions : List Revision) (document : RequestDocument) :
    revisions.foldl apply document =
      { query := document.query
        offset := ((lastPage? revisions).map Page.offset).or document.offset
        size := ((lastPage? revisions).map Page.size).or document.size
        sort := (lastSort? revisions).getD document.sort
        aggregations := (lastAggregations? revisions).getD document.aggregations
        raw :=
          (RawOptions.setEach (some document.raw) (revisions.filterMap raw?)).getD .empty } := by
  induction revisions generalizing document with
  | nil => rfl
  | cons revision rest ih =>
    rw [List.foldl_cons, ih]
    simp only [lastPage?, lastSort?, lastAggregations?, getLast?_filterMap_cons, Option.map_or,
      Option.or_assoc, Option.getD_or]
    rcases revision with (none | page) | directives | table | ⟨key, value⟩ <;> rfl

/-- A request in the end: of everything that is set more than once, the last counts. -/
theorem run_eq (query : Query) (revisions : List Revision) :
    run query revisions =
      { query
        offset := (lastPage? revisions).map Page.offset
        size := (lastPage? revisions).map Page.size
        sort := (lastSort? revisions).join
        aggregations := (lastAggregations? revisions).join
        raw := (RawOptions.setEach (some .empty) (revisions.filterMap raw?)).getD .empty } := by
  rw [run, foldl_apply]
  simp only [RequestDocument.ofQuery, Option.or_none]
  cases lastSort? revisions <;> cases lastAggregations? revisions <;> rfl

theorem get?_raw_run (query : Query) (revisions : List Revision) (key : String) :
    (run query revisions).raw.get? key = (lastRaw? revisions key).map Json.canonical := by
  rw [run_eq, RawOptions.get?_setEach]
  exact Option.or_none ..

/-- What assembly writes under a root key in the end. -/
def known? (query : Query) (revisions : List Revision) (key : String) : Option Json :=
  match key with
  | "query" => some query.toJson
  | "from" => (lastPage? revisions).map fun page => .number (.ofUInt64 page.offset)
  | "size" => (lastPage? revisions).map fun page => .number (.ofUInt64 page.size)
  | "sort" => (lastSort? revisions).join.map SortDirective.listToJson
  | "aggs" => (lastAggregations? revisions).join.map RequestDocument.aggregationsToJson
  | _ => none

theorem known?_run (query : Query) (revisions : List Revision) (key : String) :
    (run query revisions).known? key = known? query revisions key := by
  rw [run_eq]
  fun_cases known? query revisions key <;> simp_all [RequestDocument.known?, Function.comp_def]

theorem get?_toJson_run (query : Query) (revisions : List Revision) (key : String) :
    (run query revisions).toJson.get? key =
      ((lastRaw? revisions key).or (known? query revisions key)).map Json.canonical := by
  rw [RequestDocument.get?_toJson, get?_raw_run, known?_run, Option.map_or]

/-- The keys that a request has in the end. -/
def HasKey (revisions : List Revision) (key : String) : Prop :=
  key = "query" ∨ ((key = "from" ∨ key = "size") ∧ ∃ page, .paginate (some page) ∈ revisions) ∨
    (key = "sort" ∧ (lastSort? revisions).join.isSome) ∨
    (key = "aggs" ∧ (lastAggregations? revisions).join.isSome) ∨
    ∃ value, .raw key value ∈ revisions

theorem page?_eq_some_iff {revision : Revision} {page : Page} :
    revision.page? = some page ↔ revision = .paginate (some page) := by
  cases revision <;> simp [page?]

theorem raw?_eq_some_iff {revision : Revision} {key : String} {value : Json} :
    revision.raw? = some (key, value) ↔ revision = .raw key value := by
  cases revision <;> simp [raw?]

theorem isSome_lastPage?_iff {revisions : List Revision} :
    (lastPage? revisions).isSome ↔ ∃ page, .paginate (some page) ∈ revisions := by
  rw [lastPage?, List.getLast?_isSome, Ne, List.eq_nil_iff_forall_not_mem, not_forall_not]
  simp only [List.mem_filterMap, page?_eq_some_iff, exists_eq_right]

theorem isSome_lastRaw?_iff {revisions : List Revision} {key : String} :
    (lastRaw? revisions key).isSome ↔ ∃ value, .raw key value ∈ revisions := by
  rw [lastRaw?, Members.isSome_last?_iff]
  simp only [List.mem_filterMap, raw?_eq_some_iff, exists_eq_right]

theorem isSome_get?_toJson_run (query : Query) (revisions : List Revision) (key : String) :
    ((run query revisions).toJson.get? key).isSome ↔ HasKey revisions key := by
  rw [get?_toJson_run, Option.isSome_map, Option.isSome_or, Bool.or_eq_true, isSome_lastRaw?_iff,
    HasKey, ← isSome_lastPage?_iff]
  fun_cases known? query revisions key <;> simp_all [or_comm]

/-- Two sequences of revisions end with the same page, sort and aggregations, and every raw option
has the same last value. -/
structure SameOutcome (left right : List Revision) : Prop where
  page : lastPage? left = lastPage? right
  sort : (lastSort? left).join = (lastSort? right).join
  aggregations : (lastAggregations? left).join = (lastAggregations? right).join
  raw : ∀ key, (lastRaw? left key).map Json.canonical = (lastRaw? right key).map Json.canonical

theorem SameOutcome.run_eq {left right : List Revision} (same : SameOutcome left right)
    (query : Query) : run query left = run query right := by
  have raw : (run query left).raw = (run query right).raw :=
    RawOptions.eq_of_get?_eq fun key => by rw [get?_raw_run, get?_raw_run, same.raw]
  rw [Revision.run_eq, Revision.run_eq] at raw ⊢
  rw [same.page, same.sort, same.aggregations]
  exact congrArg (RequestDocument.mk query _ _ _ _) raw

/-- Different raw options may be set in either order. -/
theorem sameOutcome_swap (before after : List Revision) {key other : String}
    (different : key ≠ other) (value further : Json) :
    SameOutcome (before ++ .raw key value :: .raw other further :: after)
      (before ++ .raw other further :: .raw key value :: after) where
  page := by simp only [lastPage?, List.filterMap_append, List.filterMap_cons, page?]
  sort := by simp only [lastSort?, List.filterMap_append, List.filterMap_cons, sort?]
  aggregations := by
    simp only [lastAggregations?, List.filterMap_append, List.filterMap_cons, aggregations?]
  raw sought := by
    simp only [lastRaw?, List.filterMap_append, List.filterMap_cons, raw?, Members.last?_append,
      Members.last?_cons]
    by_cases first : key = sought
    · simp [← first, different.symm]
    · simp [first]

/-- Whatever is set, as often and in whatever order, a request renders to an object, and directly
serializes to the same.  The object has the query, the two keys of a page that was asked for, the
sort and the aggregations if they are set, and the raw keys; under each it holds the last raw value,
and without one what the last revision of the part says.  The order of revisions matters in no other
way, and so the order of different raw keys does not matter at all. -/
theorem render_run (query : Query) (revisions : List Revision) :
    (∃ known, (run query revisions).knownDatum.tree = .ok (.object known)) ∧
    (∃ members, (run query revisions).render = .ok (.object members) ∧
      Members.Ascending members ∧
      (∀ key, key ∈ members.map Prod.fst ↔ HasKey revisions key) ∧
      ∀ key, members.lookup key =
        ((lastRaw? revisions key).or (known? query revisions key)).map Json.canonical) ∧
    (run query revisions).datum.tree = (run query revisions).render ∧
    ∀ others, SameOutcome revisions others →
      (run query others).render = (run query revisions).render := by
  have rendered := (run query revisions).render_eq_ok
  have ascending := (run query revisions).isCanonical_toJson.1
  have lookup (key : String) : (run query revisions).rootMembers.lookup key =
      ((lastRaw? revisions key).or (known? query revisions key)).map Json.canonical := by
    rw [← get?_toJson_run]
    exact (Members.last?_eq_lookup ascending key).symm
  refine ⟨⟨_, (run query revisions).gives_knownDatum⟩,
    ⟨_, rendered, ascending, fun key => ?_, lookup⟩, ?_, fun others same => ?_⟩
  · rw [← isSome_get?_toJson_run query, RequestDocument.toJson, Json.get?_object,
      Members.isSome_last?_iff]
    simp
  · rw [rendered, RequestDocument.tree_datum]
  · rw [same.run_eq]

/-- A sort that is taken back, and raw options in either order, one of them over a known key. -/
theorem render_run_page :
    let before : List Revision := [.paginate (some ⟨20, 10⟩), .sort (some [])]
    let after : List Revision := [.paginate none, .sort none]
    let revisions := before ++ .raw "size" (.bool true) :: .raw "extra" .null :: after
    let others := before ++ .raw "extra" .null :: .raw "size" (.bool true) :: after
    SameOutcome revisions others ∧
      (run (.bool .empty) others).render = (run (.bool .empty) revisions).render ∧
      ∃ members, (run (.bool .empty) revisions).render = .ok (.object members) ∧
        members.lookup "sort" = none ∧ members.lookup "size" = some (.bool true) ∧
        members.lookup "from" = some (.number (.ofUInt64 20)) := by
  intro before after revisions others
  have same : SameOutcome revisions others := sameOutcome_swap before after (by decide) _ _
  obtain ⟨-, ⟨members, rendered, -, -, lookup⟩, -, order⟩ := render_run (.bool .empty) revisions
  exact ⟨same, order others same, members, rendered, lookup "sort", lookup "size", lookup "from"⟩

end Revision

end QueryAssembly
