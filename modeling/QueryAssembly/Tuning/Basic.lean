import QueryAssembly.Binary64.Rounding
import QueryAssembly.Shape.Basic

/-!
# Tuning

The constants of relevance scoring.  Every one of them has a default, so a tuning may be given in
part, down to the empty object.
-/

namespace QueryAssembly

/-- The constants of relevance scoring. -/
structure Tuning where
  /-- The weight of a phrase against single words. -/
  phraseBoost : Binary64
  /-- The number of leading characters of a word that tolerance leaves alone. -/
  prefixLength : UInt32
  /-- The score below which documents are dropped. -/
  minScore : Binary64
  /-- The tolerance for misspelling. -/
  fuzziness : String
  /-- How filters are compiled. -/
  filterMode : FilterMode
deriving BEq

namespace Tuning

/-- The tuning when nothing is asked for. -/
def standard : Tuning where
  phraseBoost := .ofDecimal false ⟨10, 0⟩
  prefixLength := 1
  minScore := .ofDecimal false ⟨1, -1⟩
  fuzziness := "AUTO"
  filterMode := .exactTerm

/-- How a tuning is written. -/
def shape : Shape Tuning :=
  .record "Tuning"
    (.cons "phrase_boost" (.always standard.phraseBoost) .real <|
      .cons "prefix_length" (.always standard.prefixLength) .smallCount <|
      .cons "min_score" (.always standard.minScore) .real <|
      .cons "fuzziness" (.always standard.fuzziness) .text <|
      .cons "relevance_filters" (.always standard.filterMode) .filterMode .nil)
    ⟨fun (phraseBoost, prefixLength, minScore, fuzziness, filterMode, ()) =>
        ⟨phraseBoost, prefixLength, minScore, fuzziness, filterMode⟩,
      fun tuning => (tuning.phraseBoost, tuning.prefixLength, tuning.minScore, tuning.fuzziness,
        tuning.filterMode, ()),
      fun _ => rfl, fun _ => rfl⟩

end Tuning

end QueryAssembly
