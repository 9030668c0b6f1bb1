import QueryAssembly.Request.Description

/-!
# Events of an assembly

While it assembles a document, the library reports what it does: every clause of a relevance query,
and for each kind of query one summary with its counts.  An event has a level, the part of the
library it comes from, and named texts.
-/

namespace QueryAssembly

/-- How much an event matters. -/
inductive Event.Level where
  /-- A single step. -/
  | trace
  /-- A summary. -/
  | debug
deriving DecidableEq

/-- Something that happened during an assembly. -/
inductive Event where
  /-- A simple query with this many clauses is complete. -/
  | simpleAssembled (clauses : Nat)
  /-- A clause that must hold joined a relevance query. -/
  | clauseRequired (clause : Clause)
  /-- A relevance query with these numbers of fields and clauses is complete. -/
  | relevanceAssembled (phraseFields fuzzyFields must : Nat)
  /-- An aggregation of a field, with this largest number of groups and this number of clauses, is
  complete. -/
  | aggregateAssembled (field : String) (buckets : UInt64) (must : Nat)

namespace Event

/-- The level of an event. -/
def level : Event → Level
  | .clauseRequired _ => .trace
  | _ => .debug

/-- The part of the library that an event comes from. -/
def part : Event → String
  | .simpleAssembled _ => "simple"
  | .clauseRequired _ | .relevanceAssembled _ _ _ => "relevance"
  | .aggregateAssembled _ _ _ => "aggregation"

/-- What happened, in words. -/
def message : Event → String
  | .simpleAssembled _ => "assembled simple query"
  | .clauseRequired _ => "relevance must clause"
  | .relevanceAssembled _ _ _ => "assembled relevance query"
  | .aggregateAssembled _ _ _ => "assembled aggregation query"

/-- The named texts of an event, besides its message. -/
def details : Event → List (String × String)
  | .simpleAssembled clauses => [("clauses", toString clauses)]
  | .clauseRequired clause => [("clause", clause.describe)]
  | .relevanceAssembled phraseFields fuzzyFields must =>
    [("phrase_fields", toString phraseFields), ("fuzzy_fields", toString fuzzyFields),
      ("must", toString must)]
  | .aggregateAssembled field buckets must =>
    [("field", field), ("buckets", toString buckets.toNat), ("must", toString must)]

end Event

end QueryAssembly
