import QueryAssembly.Proofs.Binary64.Literal
import QueryAssembly.Tuning.Environment

/-!
# What an environment overrides

One variable decides one constant: a text that denotes a value of the constant's kind overrides the
default, and any other text counts as unset.  `Tuning.OverlaidBy` says so without a reader.  What is
denoted differs from kind to kind: only a count may have leading zeros and only it is bounded, a
mode is one of four words, and a tolerance keeps the white space around it.
-/

namespace QueryAssembly

/-- What a variable makes of a constant with a default. -/
inductive Overlaid {α : Type} (Denotes : String → α → Prop) (standard : α) :
    Option String → α → Prop where
  /-- A text overrides the default with what it denotes. -/
  | given {text : String} {value : α} (denotes : Denotes text value) :
    Overlaid Denotes standard (some text) value
  /-- A text that denotes nothing leaves the default. -/
  | meaningless {text : String} (nothing : ∀ value, ¬Denotes text value) :
    Overlaid Denotes standard (some text) standard
  /-- A variable that is unset leaves the default. -/
  | unset : Overlaid Denotes standard none standard

theorem getD_bind_eq_iff_overlaid {α : Type} {Denotes : String → α → Prop}
    {read : String → Option α} (reads : ∀ text value, read text = some value ↔ Denotes text value)
    {standard value : α} {given : Option String} :
    (given.bind read).getD standard = value ↔ Overlaid Denotes standard given value := by
  constructor
  · rintro rfl
    cases given with
    | none => exact .unset
    | some text =>
      cases found : read text with
      | some value => simpa [found] using Overlaid.given ((reads text value).mp found)
      | none =>
        have nothing (value : α) : ¬Denotes text value := fun denotes => by
          simp [(reads text value).mpr denotes] at found
        simpa [found] using Overlaid.meaningless nothing
  · intro overlaid
    cases overlaid with
    | given denotes => simp [(reads _ _).mpr denotes]
    | @meaningless text nothing =>
      have missing : read text = none :=
        Option.eq_none_iff_forall_ne_some.mpr fun value found =>
          nothing value ((reads text value).mp found)
      simp [missing]
    | unset => rfl

/-! ### What the texts denote -/

/-- Digits after one plus sign at most denote a natural number of 32 bits. -/
def DenotesCount (text : String) (count : UInt32) : Prop :=
  ∃ digits, (text.toList = digits ∨ text.toList = '+' :: digits) ∧ digits ≠ [] ∧
    (∀ character ∈ digits, character.isDigit = true) ∧
      Nat.ofDigitChars 10 digits 0 = count.toNat

theorem smallCount?_eq_some_iff {text : String} {count : UInt32} :
    smallCount? text = some count ↔ DenotesCount text count := by
  unfold smallCount?
  extract_lets digits
  have read : natural? digits = some count.toNat ↔ DenotesCount text count := by
    refine natural?_eq_some_iff.trans ⟨fun denotes => ?_, ?_⟩
    · unfold digits at denotes
      split at denotes
      · rename_i rest opens
        exact ⟨rest, .inr opens, denotes⟩
      · exact ⟨_, .inl rfl, denotes⟩
    · rintro ⟨spelled, opens | opens, some_digit, all, value⟩
      · have same : digits = spelled := by
          unfold digits
          split
          · rename_i rest plus
            exact absurd (all '+' (by simp [← opens, plus])) (by decide)
          · exact opens
        rw [same]
        exact ⟨some_digit, all, value⟩
      · have same : digits = spelled := by simp only [digits, opens]
        rw [same]
        exact ⟨some_digit, all, value⟩
  rw [← read]
  have bounded := count.toNat_lt
  cases natural? digits with
  | none => simp
  | some value =>
    by_cases bound : value < 0x100000000
    · simp [bound, ← UInt32.toNat_inj]
    · simp only [bound, ↓reduceDIte, reduceCtorEq, Option.some.injEq, false_iff]
      omega

/-- A text that is not blank denotes itself. -/
def DenotesItself (text value : String) : Prop :=
  value = text ∧ ∃ character ∈ text.toList, Text.isWhiteSpace character = false

theorem unlessBlank_eq_some_iff {text value : String} :
    unlessBlank text = some value ↔ DenotesItself text value := by
  have visible : Text.isBlank text = false ↔
      ∃ character ∈ text.toList, Text.isWhiteSpace character = false := by
    simp [Text.isBlank]
  unfold unlessBlank DenotesItself
  rw [← visible]
  cases Text.isBlank text with
  | true => simp
  | false => simp [eq_comm]

/-- The words that denote a filter mode. -/
def DenotesMode (text : String) (mode : FilterMode) : Prop :=
  (text, mode) ∈ [("term", FilterMode.exactTerm), ("exact-term", .exactTerm),
    ("terms", .listAware), ("list-aware", .listAware)]

theorem filterMode?_eq_some_iff {text : String} {mode : FilterMode} :
    Tuning.filterMode? text = some mode ↔ DenotesMode text mode := by
  simp only [Tuning.filterMode?, FilterMode.parse, DenotesMode, List.mem_cons, List.not_mem_nil,
    Prod.mk.injEq, or_false]
  split
  · rename_i exact_term
    rcases exact_term with rfl | rfl <;> simp [Except.toOption, eq_comm]
  · split
    · rename_i list_aware
      rcases list_aware with rfl | rfl <;> simp [Except.toOption, eq_comm]
    · simp_all [Except.toOption]

/-! ### Tunings -/

/-- One variable of an environment among any others. -/
def Environment.keep (environment : Environment) (name : String) (others : Environment) :
    Environment :=
  fun other => if other = name then environment name else others other

@[simp] theorem Environment.keep_self (environment : Environment) (name : String)
    (others : Environment) : environment.keep name others name = environment name :=
  if_pos rfl

namespace Tuning

/-- A tuning in which every constant is decided by its own variable. -/
structure OverlaidBy (environment : Environment) (tuning : Tuning) : Prop where
  phraseBoost : Overlaid Binary64.Denotes (.ofDecimal false ⟨10, 0⟩)
    (environment "ESDSL_PHRASE_BOOST") tuning.phraseBoost
  prefixLength : Overlaid DenotesCount 1 (environment "ESDSL_PREFIX_LENGTH") tuning.prefixLength
  minScore : Overlaid Binary64.Denotes (.ofDecimal false ⟨1, -1⟩)
    (environment "ESDSL_MIN_SCORE") tuning.minScore
  fuzziness : Overlaid DenotesItself "AUTO" (environment "ESDSL_FUZZINESS") tuning.fuzziness
  filterMode : Overlaid DenotesMode .exactTerm (environment "ESDSL_RELEVANCE_FILTERS")
    tuning.filterMode

/-- Every environment gives the one tuning that it overlays, and no constant changes when all
variables but its own do. -/
theorem ofEnvironment_eq_iff_overlaidBy (environment : Environment) :
    (∀ tuning, ofEnvironment environment = tuning ↔ OverlaidBy environment tuning) ∧
      ∀ others,
        (ofEnvironment (environment.keep "ESDSL_PHRASE_BOOST" others)).phraseBoost =
            (ofEnvironment environment).phraseBoost ∧
          (ofEnvironment (environment.keep "ESDSL_PREFIX_LENGTH" others)).prefixLength =
            (ofEnvironment environment).prefixLength ∧
          (ofEnvironment (environment.keep "ESDSL_MIN_SCORE" others)).minScore =
            (ofEnvironment environment).minScore ∧
          (ofEnvironment (environment.keep "ESDSL_FUZZINESS" others)).fuzziness =
            (ofEnvironment environment).fuzziness ∧
          (ofEnvironment (environment.keep "ESDSL_RELEVANCE_FILTERS" others)).filterMode =
            (ofEnvironment environment).filterMode := by
  refine ⟨fun tuning => ?_, fun others => ?_⟩
  · obtain ⟨phraseBoost, prefixLength, minScore, fuzziness, filterMode⟩ := tuning
    simp only [ofEnvironment, standard, mk.injEq,
      getD_bind_eq_iff_overlaid fun _ _ => Binary64.ofLiteral?_eq_some_iff,
      getD_bind_eq_iff_overlaid fun _ _ => smallCount?_eq_some_iff,
      getD_bind_eq_iff_overlaid fun _ _ => unlessBlank_eq_some_iff,
      getD_bind_eq_iff_overlaid fun _ _ => filterMode?_eq_some_iff]
    constructor
    · rintro ⟨boost, count, score, tolerance, mode⟩
      exact ⟨boost, count, score, tolerance, mode⟩
    · rintro ⟨boost, count, score, tolerance, mode⟩
      exact ⟨boost, count, score, tolerance, mode⟩
  · simp [ofEnvironment]

end Tuning

end QueryAssembly
