import QueryAssembly.Proofs.Json.Canonical
import QueryAssembly.Request.Document

/-!
# The root of a finished request

Every root key is answered on its own: a raw option wins as a whole, and otherwise the key holds the
part of the document that is written under it, in canonical order.
-/

namespace QueryAssembly

theorem Json.membersCanonical_overlay {base upper : List (String × Json)}
    (below : MembersCanonical base) (above : MembersCanonical upper) :
    MembersCanonical (Members.overlay base upper) := by
  induction upper generalizing base with
  | nil => exact below
  | cons member rest ih => exact ih (membersCanonical_put above.1 below) above.2

namespace RequestDocument

/-- A finished tree has its keys in ascending order at every depth. -/
theorem isCanonical_toJson (document : RequestDocument) : document.toJson.IsCanonical := by
  have known := Json.membersCanonical_canonicalMembers document.knownMembers
  exact ⟨Members.ascending_overlay known.1 document.raw.members,
    Json.membersCanonical_overlay known.2 document.raw.canonical.2⟩

/-- What assembly writes under a root key, in declared order. -/
def known? (document : RequestDocument) (key : String) : Option Json :=
  match key with
  | "query" => some document.query.toJson
  | "from" => document.offset.map fun offset => .number (.ofUInt64 offset)
  | "size" => document.size.map fun size => .number (.ofUInt64 size)
  | "sort" => document.sort.map SortDirective.listToJson
  | "aggs" => document.aggregations.map aggregationsToJson
  | _ => none

theorem last?_knownMembers (document : RequestDocument) (key : String) :
    Members.last? key document.knownMembers = document.known? key := by
  simp only [knownMembers, Members.last?_append, Json.last?_optional, Members.last?_singleton]
  fun_cases document.known? key <;> simp_all [eq_comm]

theorem get?_toJson (document : RequestDocument) (key : String) :
    document.toJson.get? key =
      (document.raw.get? key).or ((document.known? key).map Json.canonical) := by
  have sorted := Json.ascending_canonicalMembers document.knownMembers
  have whole : Members.Ascending document.rootMembers := Members.ascending_overlay sorted _
  rw [toJson, Json.get?_object, Members.last?_eq_lookup whole, rootMembers,
    Members.lookup_overlay, Members.last?_eq_lookup document.raw.canonical.1,
    ← Members.last?_eq_lookup sorted, Json.last?_canonicalMembers, last?_knownMembers]
  rfl

end RequestDocument

end QueryAssembly
