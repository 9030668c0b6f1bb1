import QueryAssembly.Assembly.Event
import QueryAssembly.Request.Document

/-!
# Assembly

An assembly is a document together with the events that its making reported.  The three kinds of
specifications share the order of their clauses: filters first, then matches, each in the order
given.
-/

namespace QueryAssembly

/-- A finished document and what was reported on the way. -/
structure Assembly where
  /-- The document. -/
  document : RequestDocument
  /-- The events in order. -/
  events : List Event

namespace Assembly

/-- The clauses of a section; an absent section has none. -/
def clausesOf {α : Type} (compile : α → Clause) (items : Option (List α)) : List Clause :=
  (items.getD []).map compile

/-- The clauses of filters and then of matches. -/
def filterClauses (compile : FieldConstraint → Clause)
    (filters matching : Option (List FieldConstraint)) : List Clause :=
  clausesOf compile filters ++ clausesOf FieldConstraint.matchClause matching

@[simp] theorem clausesOf_some {α : Type} (compile : α → Clause) (items : List α) :
    clausesOf compile (some items) = items.map compile := rfl

end Assembly

end QueryAssembly
