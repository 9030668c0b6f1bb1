import QueryAssembly.Proofs.Json.Scripts
import QueryAssembly.Proofs.Request.Comparison
import QueryAssembly.Proofs.Request.Serialization
import QueryAssembly.Proofs.Specification.Depth

/-!
# Wire forms are unambiguous

A clause or a sort directive is written in two ways: serialized to a tree, with ascending keys, and
printed as a text, with its keys in declared order.  The text is read back as the tree, and the tree
tells what was written: fields and paths chosen by a user stand beside the names of kinds, but never
in their place.
-/

namespace QueryAssembly

namespace Datum

/-- Two values are serialized, and to equal trees. -/
def SameTree (left right : Datum) : Prop :=
  ∃ first second, left.tree = .ok first ∧ right.tree = .ok second ∧ (first == second) = true

theorem Gives.sameTree_iff {left right : Datum} {first second : Json} (gives : left.Gives first)
    (gives' : right.Gives second) :
    left.SameTree right ↔ (first.canonical == second.canonical) = true := by
  constructor
  · rintro ⟨tree, other, here, there, same⟩
    cases gives.symm.trans here
    cases gives'.symm.trans there
    exact same
  · intro same
    exact ⟨_, _, gives, gives', same⟩

/-- A printed value is read back as what it serializes to, unless it is nested too deeply. -/
theorem Gives.exists_tree {datum : Datum} {json : Json} (gives : datum.Gives json) :
    ∃ tree, datum.tree = .ok tree ∧ ∀ style,
      Json.readValue (json.text style) = .ok tree ↔ json.depth ≤ Origin.textLevels := by
  refine ⟨json.canonical, gives, fun style => ?_⟩
  rw [Json.readValue_text_ok_iff]
  exact and_iff_right rfl

end Datum

/-- Clauses with finite weights, and sort directives, serialize to equal trees exactly when they are
equal.  The text of either, printed in declared order and in any style, is read back as the tree
that it serializes to, as long as a clause is not nested too deeply for the reader. -/
theorem wireForms_unambiguous :
    (∀ first second : Clause, first.BoostsFinite → second.BoostsFinite →
      (first.datum.SameTree second.datum ↔ (first == second) = true)) ∧
    (∀ first second : SortDirective,
      first.datum.SameTree second.datum ↔ first = second) ∧
    (∀ clause : Clause, ∃ tree, clause.datum.tree = .ok tree ∧ ∀ style,
      Json.readValue (clause.toJson.text style) = .ok tree ↔
        clause.toJson.depth ≤ Origin.textLevels) ∧
    ∀ directive : SortDirective, ∃ tree, directive.datum.tree = .ok tree ∧ ∀ style,
      Json.readValue (directive.toJson.text style) = .ok tree := by
  refine ⟨?clauses, ?directives, fun clause => clause.gives_datum.exists_tree, ?shallow⟩
  case clauses =>
    intro first second finite finite'
    rw [first.gives_datum.sameTree_iff second.gives_datum, Clause.toJson_beq finite finite']
  case directives =>
    intro first second
    rw [first.gives_datum.sameTree_iff second.gives_datum, SortDirective.toJson_beq_iff]
  case shallow =>
    intro directive
    obtain ⟨tree, serialized, back⟩ := directive.gives_datum.exists_tree
    have shallow : directive.toJson.depth ≤ Origin.textLevels :=
      Nat.le_trans directive.depth_toJson_le (by decide)
    exact ⟨tree, serialized, fun style => (back style).mpr shallow⟩

/-- A list that is one value is told from a list of several, also under the names of other kinds, and
weights that are zeros of different signs are not told apart. -/
theorem wireForms_unambiguous_zero :
    let zero (negative : Bool) : Clause :=
      .nested "" (.multiMatch
        ⟨"", .phrase, ["term"], some (.finite ⟨negative, .zero⟩), some "AUTO", none⟩)
    let one : Clause := .nested "nested" (.term "terms" (.list [.text "nested"]))
    let several : Clause := .nested "nested" (.terms "terms" [.text "nested"])
    ((zero true).BoostsFinite ∧ (zero false).BoostsFinite ∧
      (zero true).datum.SameTree (zero false).datum) ∧
    (one.BoostsFinite ∧ several.BoostsFinite ∧ ¬one.datum.SameTree several.datum) ∧
    ((zero true).toJson.depth ≤ Origin.textLevels ∧
      ∃ tree, (zero true).datum.tree = .ok tree ∧
        Json.readValue ((zero true).toJson.text .compact) = .ok tree) := by
  intro zero one several
  have finite (negative : Bool) : (zero negative).BoostsFinite := by
    rintro boost held
    cases held
    exact ⟨_, rfl⟩
  obtain ⟨clauses, -, back, -⟩ := wireForms_unambiguous
  have shallow : (zero true).toJson.depth ≤ Origin.textLevels := by decide
  obtain ⟨tree, serialized, read⟩ := back (zero true)
  refine ⟨⟨finite true, finite false, ?_⟩, ⟨trivial, trivial, ?_⟩,
    shallow, tree, serialized, (read .compact).mpr shallow⟩
  · rw [clauses _ _ (finite true) (finite false)]
    decide
  · rw [clauses one several trivial trivial]
    decide

end QueryAssembly
