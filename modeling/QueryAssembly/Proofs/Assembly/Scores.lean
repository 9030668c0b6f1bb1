import QueryAssembly.Proofs.Assembly.Comparison
import QueryAssembly.Proofs.Json.Paths
import QueryAssembly.Tuning.Environment

/-!
# Scores from the environment

The least score and the weight of the phrase are where the wire form has them, whatever the
environment says.  They are numbers as long as the environment names finite ones.  A literal may
also be a word for infinity or for no number, or denote more than the largest number; such a value
is taken over from the environment and written as null, although the wire form asks for a number.
-/

namespace QueryAssembly

/-! ### Literals of other than finite numbers -/

namespace Binary64

theorem exists_toJson_eq_number_iff {value : Binary64} :
    (∃ number, value.toJson = .number number) ↔ value.IsFinite := by
  cases value <;> simp [toJson, IsFinite]

/-- The characters behind a sign, which there need not be. -/
def unsigned : List Char → List Char
  | '-' :: rest => rest
  | '+' :: rest => rest
  | rest => rest

/-- Characters that denote no finite number: a word, or digits beyond the largest number. -/
def Unbounded (characters : List Char) : Prop :=
  String.ofList (characters.map Char.toLower) ∈ ["inf", "infinity", "nan"] ∨
    ∃ numeral, Numeral.ofLiteral? characters = some numeral ∧ numeral.decimal.nearest? = none

/-- A literal of other than a finite number. -/
def IsUnbounded (text : String) : Prop :=
  Unbounded (unsigned text.toList)

theorem isFinite_ofDecimal_iff {negative : Bool} {decimal : Decimal} :
    (ofDecimal negative decimal).IsFinite ↔ decimal.nearest? ≠ none := by
  unfold ofDecimal
  cases decimal.nearest? <;> simp [IsFinite]

theorem exists_ofUnsignedLiteral?_iff {negative : Bool} {characters : List Char} :
    (∃ value, ofUnsignedLiteral? negative characters = some value ∧ ¬ value.IsFinite) ↔
      Unbounded characters := by
  simp only [ofUnsignedLiteral?, Unbounded, List.mem_cons, List.not_mem_nil, or_false]
  generalize String.ofList (characters.map Char.toLower) = word
  split_ifs with infinite undefined
  · have infinity : ¬ (Binary64.infinity negative).IsFinite := nofun
    exact iff_of_true ⟨_, rfl, infinity⟩ (by tauto)
  · have nan : ¬ Binary64.nan.IsFinite := nofun
    exact iff_of_true ⟨_, rfl, nan⟩ (by tauto)
  · constructor
    · rintro ⟨value, denoted, unbounded⟩
      obtain ⟨numeral, written, rfl⟩ := Option.map_eq_some_iff.mp denoted
      rw [isFinite_ofDecimal_iff, not_not] at unbounded
      exact Or.inr ⟨numeral, written, unbounded⟩
    · rintro (word | ⟨numeral, written, beyond⟩)
      · tauto
      · refine ⟨_, Option.map_eq_some_iff.mpr ⟨numeral, written, rfl⟩, ?_⟩
        rw [isFinite_ofDecimal_iff, not_not]
        exact beyond

theorem exists_ofLiteral?_iff {text : String} :
    (∃ value, ofLiteral? text = some value ∧ ¬ value.IsFinite) ↔ IsUnbounded text := by
  unfold ofLiteral? IsUnbounded
  split
  next rest opens =>
    rw [opens]
    exact exists_ofUnsignedLiteral?_iff
  next rest opens =>
    rw [opens]
    exact exists_ofUnsignedLiteral?_iff
  next no_minus no_plus =>
    rw [unsigned.eq_3 _ no_minus no_plus]
    exact exists_ofUnsignedLiteral?_iff

/-- A literal from the environment stands for a finite number, or the default does. -/
theorem isFinite_getD_iff {given : Option String} {default : Binary64}
    (finite : default.IsFinite) :
    ((given.bind ofLiteral?).getD default).IsFinite ↔
      ∀ text, given = some text → ¬ IsUnbounded text := by
  cases given with
  | none => exact iff_of_true finite nofun
  | some text =>
    simp only [Option.bind_some, Option.some.injEq, forall_eq', ← exists_ofLiteral?_iff]
    cases ofLiteral? text with
    | none => exact iff_of_true finite nofun
    | some value => simp

end Binary64

namespace RelevanceSpec

/-- Where the least score stands in a request. -/
def minScorePath : List Json.Step :=
  [.key "query", .key "function_score", .key "min_score"]

/-- Where the weight of the phrase stands in a request. -/
def boostPath : List Json.Step :=
  [.key "query", .key "function_score", .key "query", .key "bool", .key "should", .item 0,
    .key "multi_match", .key "boost"]

variable {spec : RelevanceSpec}

theorem get?_query_of_apart (apart : (spec.raw.getD .empty).get? "query" = none)
    (tuning : Tuning) :
    (spec.document tuning).toJson.get? "query" = some (spec.scored tuning).toJson.canonical := by
  rw [document_eq_paged, RequestDocument.get?_toJson_paged, apart]
  rfl

theorem at?_minScorePath (apart : (spec.raw.getD .empty).get? "query" = none) (tuning : Tuning) :
    (spec.document tuning).toJson.at? minScorePath = some tuning.minScore.toJson := by
  rw [minScorePath, Json.at?, get?_query_of_apart apart, canonical_scored]
  rfl

theorem at?_boostPath (apart : (spec.raw.getD .empty).get? "query" = none) (tuning : Tuning) :
    (spec.document tuning).toJson.at? boostPath = some tuning.phraseBoost.toJson := by
  rw [boostPath, Json.at?, get?_query_of_apart apart, canonical_scored,
    canonical_phraseClause_boost]
  rfl

/-- The least score and the weight of the phrase are always there, as the environment and the
standard tuning have them; they are numbers exactly when the environment names no unbounded one. -/
theorem at?_toJson_document (apart : (spec.raw.getD .empty).get? "query" = none)
    (environment : Environment) :
    let tuning := Tuning.ofEnvironment environment
    let request := (spec.document tuning).toJson
    request.at? minScorePath = some tuning.minScore.toJson ∧
      request.at? boostPath = some tuning.phraseBoost.toJson ∧
      ((∃ number, request.at? minScorePath = some (.number number)) ↔
        ∀ text, environment "ESDSL_MIN_SCORE" = some text → ¬ Binary64.IsUnbounded text) ∧
      ((∃ number, request.at? boostPath = some (.number number)) ↔
        ∀ text, environment "ESDSL_PHRASE_BOOST" = some text → ¬ Binary64.IsUnbounded text) := by
  intro tuning request
  have score : request.at? minScorePath = some tuning.minScore.toJson :=
    at?_minScorePath apart tuning
  have boost : request.at? boostPath = some tuning.phraseBoost.toJson :=
    at?_boostPath apart tuning
  have score_finite : Tuning.standard.minScore.IsFinite := ⟨_, Tuning.minScore_standard⟩
  have boost_finite : Tuning.standard.phraseBoost.IsFinite := ⟨_, Tuning.phraseBoost_standard⟩
  refine ⟨score, boost, ?_, ?_⟩
  · rw [score]
    simp only [Option.some.injEq, Binary64.exists_toJson_eq_number_iff]
    exact Binary64.isFinite_getD_iff score_finite
  · rw [boost]
    simp only [Option.some.injEq, Binary64.exists_toJson_eq_number_iff]
    exact Binary64.isFinite_getD_iff boost_finite

/-- A weight that is no number is null, and the least score is not touched by it. -/
theorem at?_toJson_document_nan :
    let environment : Environment := .ofList [("ESDSL_PHRASE_BOOST", "-NaN")]
    let request := (empty.document (Tuning.ofEnvironment environment)).toJson
    (empty.raw.getD .empty).get? "query" = none ∧
      request.at? boostPath = some .null ∧
      ∃ number, request.at? minScorePath = some (.number number) := by
  intro environment request
  have apart : (empty.raw.getD .empty).get? "query" = none := rfl
  obtain ⟨-, boost, score, -⟩ := at?_toJson_document apart environment
  refine ⟨apart, boost, score.mpr ?_⟩
  intro text given
  cases given

/-- Not every environment leaves numbers where the wire form asks for them. -/
theorem not_forall_at?_eq_number :
    ¬ ∀ (environment : Environment) (spec : RelevanceSpec),
      (spec.raw.getD .empty).get? "query" = none →
      (∃ number, (spec.document (Tuning.ofEnvironment environment)).toJson.at? minScorePath =
        some (.number number)) ∧
      ∃ number, (spec.document (Tuning.ofEnvironment environment)).toJson.at? boostPath =
        some (.number number) := by
  intro numbers
  obtain ⟨⟨number, found⟩, -⟩ := numbers (.ofList [("ESDSL_MIN_SCORE", "inf")]) empty rfl
  have null : Json.null = .number number :=
    Option.some.inj ((at?_minScorePath rfl _).symm.trans found)
  cases null

end RelevanceSpec

end QueryAssembly
