import QueryAssembly.Proofs.CommandLine.Grammar
import QueryAssembly.Proofs.Json.Scripts
import QueryAssembly.Proofs.Outcome

/-!
# Runs of the program

A run has three stages that can fail: the input is read as a text, the text as a specification, and
the specification is validated unless the arguments say not to.  `Invocation.Accepts` says that all
of them succeed, `Invocation.Fails` which one fails first and how.  The program prints the whole
document in the first case and nothing at all in the second.
-/

namespace QueryAssembly

theorem fromUTF8?_eq_some_iff {bytes : ByteArray} {text : String} :
    String.fromUTF8? bytes = some text ↔ bytes = text.toUTF8 := by
  unfold String.fromUTF8?
  constructor
  · intro decoded
    split at decoded
    next => cases decoded; rfl
    next => cases decoded
  · rintro rfl
    exact dif_pos text.isValidUTF8

namespace Invocation

/-- An input that can be read holds the bytes of a text, which is a specification of the kind asked
for, and a valid one unless it is taken on trust. -/
structure Accepts (invocation : Invocation) (contents : Except InputError ByteArray)
    (spec : Specification) : Prop where
  read : ∃ text : String, contents = .ok text.toUTF8 ∧
    Specification.readText invocation.kind text = .ok spec
  valid : invocation.validates = true → spec.validate = .ok ()

/-- The bytes are not those of any text. -/
def NoText (bytes : ByteArray) : Prop :=
  ∀ text : String, bytes ≠ text.toUTF8

/-- The first stage that fails, and its error. -/
inductive Fails (invocation : Invocation) (contents : Except InputError ByteArray) :
    RunError → Prop where
  /-- A file cannot be read. -/
  | unreadableFile (name : String) (error : InputError) (input : invocation.input = .file name)
    (unreadable : contents = .error error) : Fails invocation contents (.unreadableFile name error)
  /-- Standard input cannot be read. -/
  | unreadableStandardInput (error : InputError) (input : invocation.input = .standard)
    (unreadable : contents = .error error) :
    Fails invocation contents (.unreadableStandardInput error)
  /-- A file holds no text. -/
  | fileNotText (name : String) (bytes : ByteArray) (input : invocation.input = .file name)
    (readable : contents = .ok bytes) (noText : NoText bytes) :
    Fails invocation contents (.fileNotText name)
  /-- Standard input holds no text. -/
  | standardInputNotText (bytes : ByteArray) (input : invocation.input = .standard)
    (readable : contents = .ok bytes) (noText : NoText bytes) :
    Fails invocation contents .standardInputNotText
  /-- A text is no specification. -/
  | notSpecification (text : String) (error : ReadError) (readable : contents = .ok text.toUTF8)
    (unread : Specification.readText invocation.kind text = .error error) :
    Fails invocation contents (.notSpecification invocation.input.name error)
  /-- A specification is not valid. -/
  | invalid (text : String) (spec : Specification) (error : SpecError)
    (readable : contents = .ok text.toUTF8)
    (read : Specification.readText invocation.kind text = .ok spec)
    (checked : invocation.validates = true) (invalid : spec.validate = .error error) :
    Fails invocation contents (.invalid error)

/-! ### The stages -/

section Stages

variable {invocation : Invocation} {contents : Except InputError ByteArray}

/-- The outcome of the stages after the input is read as a text. -/
theorem run_of_text {text : String} (readable : contents = .ok text.toUTF8)
    (environment : Environment) :
    invocation.run environment contents =
      match Specification.readText invocation.kind text with
      | .error error => .error (.notSpecification invocation.input.name error)
      | .ok spec =>
        if invocation.validates then
          match spec.validate with
          | .error error => .error (.invalid error)
          | .ok () => .ok (spec.document (invocation.tuning environment)).toJson
        else .ok (spec.document (invocation.tuning environment)).toJson := by
  have decoded : decode invocation.input contents = .ok text := by
    rw [readable]
    cases invocation.input <;> simp only [decode, fromUTF8?_eq_some_iff.mpr rfl]
  simp only [run, decoded, bind, Except.bind]
  cases Specification.readText invocation.kind text with
  | error error => rfl
  | ok spec =>
    cases invocation.validates with
    | false => rfl
    | true =>
      dsimp only
      cases spec.validate <;> rfl

/-- The input is accepted, or a first stage fails. -/
theorem accepts_or_fails (invocation : Invocation) (contents : Except InputError ByteArray) :
    (∃ spec, invocation.Accepts contents spec) ∨ ∃ error, invocation.Fails contents error := by
  cases contents with
  | error error =>
    right
    cases input : invocation.input with
    | standard => exact ⟨_, .unreadableStandardInput error input rfl⟩
    | file name => exact ⟨_, .unreadableFile name error input rfl⟩
  | ok bytes =>
    by_cases noText : NoText bytes
    · right
      cases input : invocation.input with
      | standard => exact ⟨_, .standardInputNotText bytes input rfl noText⟩
      | file name => exact ⟨_, .fileNotText name bytes input rfl noText⟩
    · obtain ⟨text, rfl⟩ : ∃ text : String, bytes = text.toUTF8 := by
        simpa only [NoText, not_forall, not_not] using noText
      cases read : Specification.readText invocation.kind text with
      | error error => exact Or.inr ⟨_, .notSpecification text error rfl read⟩
      | ok spec =>
        by_cases checked : invocation.validates = true
        · cases valid : spec.validate with
          | error error => exact Or.inr ⟨_, .invalid text spec error rfl read checked valid⟩
          | ok passed => exact Or.inl ⟨spec, ⟨text, rfl, read⟩, fun _ => valid⟩
        · exact Or.inl ⟨spec, ⟨text, rfl, read⟩, fun asked => absurd asked checked⟩

/-- An accepted specification is assembled. -/
theorem run_of_accepts {spec : Specification} (accepted : invocation.Accepts contents spec)
    (environment : Environment) :
    invocation.run environment contents =
      .ok (spec.document (invocation.tuning environment)).toJson := by
  obtain ⟨⟨text, readable, read⟩, valid⟩ := accepted
  rw [run_of_text readable, read]
  cases checked : invocation.validates with
  | false => rfl
  | true => simp only [valid checked, if_true]

/-- A stage that fails ends the run with its error. -/
theorem run_of_fails {error : RunError} (fails : invocation.Fails contents error)
    (environment : Environment) : invocation.run environment contents = .error error := by
  have undecodable {bytes : ByteArray} (noText : NoText bytes) : String.fromUTF8? bytes = none := by
    rw [Option.eq_none_iff_forall_not_mem]
    exact fun text decoded => noText text (fromUTF8?_eq_some_iff.mp decoded)
  cases fails with
  | unreadableFile name error input unreadable =>
    rw [run, input, unreadable]
    rfl
  | unreadableStandardInput error input unreadable =>
    rw [run, input, unreadable]
    rfl
  | fileNotText name bytes input readable noText =>
    rw [run, input, readable, decode, undecodable noText]
    rfl
  | standardInputNotText bytes input readable noText =>
    rw [run, input, readable, decode, undecodable noText]
    rfl
  | notSpecification text error readable unread => rw [run_of_text readable, unread]
  | invalid text spec error readable read checked invalid =>
    rw [run_of_text readable, read]
    simp only [checked, invalid, if_true]

end Stages

/-- The tuning of a run is that of the environment, of which the arguments replace the filter
mode. -/
theorem tuning_eq (invocation : Invocation) (environment : Environment) :
    invocation.tuning environment =
      { Tuning.ofEnvironment environment with
        filterMode :=
          invocation.filterMode.getD (Tuning.ofEnvironment environment).filterMode } := by
  unfold tuning
  cases invocation.filterMode <;> rfl

/-- Whoever validates may do without, in front of the other arguments. -/
theorem GivenBy.trusting {invocation : Invocation} {arguments : List String}
    (given : invocation.GivenBy arguments) (checked : invocation.validates = true) :
    { invocation with validates := false }.GivenBy ("--no-validate" :: arguments) := by
  obtain ⟨layout, ⟨rest, spelled, rfl⟩, formed, means⟩ := given
  have unflagged : ¬ layout.Flagged .noValidate := by
    rw [← means.validates, checked]
    exact Bool.noConfusion
  have flagged (flag : Flag) :
      Layout.Flagged { layout with front := .noValidate :: layout.front } flag ↔
        flag = .noValidate ∨ layout.Flagged flag := by
    simp only [Layout.Flagged, List.mem_cons, or_assoc]
  refine ⟨{ layout with front := .noValidate :: layout.front }, ⟨rest, spelled, rfl⟩,
    ⟨?_, formed.back_once, formed.fits⟩, ⟨means.kind, means.input, ?_, ?_, means.mode⟩⟩
  · exact List.nodup_cons.mpr ⟨fun inside => unflagged (Or.inl inside), formed.front_once⟩
  · rw [flagged, means.compact]
    simp
  · rw [flagged]
    simp

end Invocation

/-- A specification without scoring is assembled without looking at the tuning. -/
theorem Specification.document_eq_of_readText {kind : SpecKind} {text : String}
    {spec : Specification} (read : Specification.readText kind text = .ok spec)
    (unscored : kind ≠ .relevance) (left right : Tuning) :
    spec.document left = spec.document right := by
  cases kind with
  | relevance => exact absurd rfl unscored
  | simple =>
    obtain ⟨simple, -, rfl⟩ := map_ok_iff.mp read
    rfl
  | aggregate =>
    obtain ⟨aggregate, -, rfl⟩ := map_ok_iff.mp read
    rfl

section Program

variable {arguments : List String} {invocation : Invocation}

theorem runProgram_eq (given : invocation.GivenBy arguments) (environment : Environment)
    (contents : Input → Except InputError ByteArray) :
    runProgram arguments environment contents =
      Outcome.ofRun invocation.style (invocation.run environment (contents invocation.input)) := by
  rw [runProgram, Invocation.parse_eq_some_iff.mpr given]

/-- What the program prints for an accepted specification. -/
theorem runProgram_of_accepts (given : invocation.GivenBy arguments) (environment : Environment)
    {contents : Input → Except InputError ByteArray} {spec : Specification}
    (accepted : invocation.Accepts (contents invocation.input) spec) :
    runProgram arguments environment contents =
      ⟨(spec.document (invocation.tuning environment)).toJson.text invocation.style ++ "\n",
        none⟩ := by
  rw [runProgram_eq given, Invocation.run_of_accepts accepted]
  rfl

/-- The program prints nothing when a stage fails. -/
theorem runProgram_of_fails (given : invocation.GivenBy arguments) (environment : Environment)
    {contents : Input → Except InputError ByteArray} {error : RunError}
    (fails : invocation.Fails (contents invocation.input) error) :
    runProgram arguments environment contents = ⟨"", some error⟩ := by
  rw [runProgram_eq given, Invocation.run_of_fails fails]
  rfl

theorem runProgram_eq_some_output_iff (given : invocation.GivenBy arguments)
    {environment : Environment} {contents : Input → Except InputError ByteArray}
    {output : String} :
    runProgram arguments environment contents = ⟨output, none⟩ ↔
      ∃ spec, invocation.Accepts (contents invocation.input) spec ∧
        output = (spec.document (invocation.tuning environment)).toJson.text invocation.style ++
          "\n" := by
  constructor
  · intro printed
    rcases invocation.accepts_or_fails (contents invocation.input) with
      ⟨spec, accepted⟩ | ⟨error, fails⟩
    · rw [runProgram_of_accepts given environment accepted] at printed
      cases printed
      exact ⟨spec, accepted, rfl⟩
    · rw [runProgram_of_fails given environment fails] at printed
      cases printed
  · rintro ⟨spec, accepted, rfl⟩
    exact runProgram_of_accepts given environment accepted

theorem runProgram_eq_failure_iff (given : invocation.GivenBy arguments)
    {environment : Environment} {contents : Input → Except InputError ByteArray}
    {output : String} {error : RunError} :
    runProgram arguments environment contents = ⟨output, some error⟩ ↔
      output = "" ∧ invocation.Fails (contents invocation.input) error := by
  constructor
  · intro printed
    rcases invocation.accepts_or_fails (contents invocation.input) with
      ⟨spec, accepted⟩ | ⟨error', fails⟩
    · rw [runProgram_of_accepts given environment accepted] at printed
      cases printed
    · rw [runProgram_of_fails given environment fails] at printed
      cases printed
      exact ⟨rfl, fails⟩
  · rintro ⟨rfl, fails⟩
    exact runProgram_of_fails given environment fails

theorem Outcome.exitCode_eq_zero_iff (outcome : Outcome) :
    outcome.exitCode = 0 ↔ outcome.failure = none := by
  obtain ⟨output, failure⟩ := outcome
  cases failure with
  | none => simp [exitCode]
  | some error => cases error <;> simp [exitCode, RunError.exitCode]

/-- The exit code tells whether the input was accepted. -/
theorem exitCode_runProgram (given : invocation.GivenBy arguments) (environment : Environment)
    (contents : Input → Except InputError ByteArray) :
    (runProgram arguments environment contents).exitCode = 0 ↔
      ∃ spec, invocation.Accepts (contents invocation.input) spec := by
  rw [Outcome.exitCode_eq_zero_iff]
  constructor
  · intro succeeds
    obtain ⟨spec, accepted, -⟩ := (runProgram_eq_some_output_iff given).mp
      (congrArg (Outcome.mk (runProgram arguments environment contents).output) succeeds)
    exact ⟨spec, accepted⟩
  · rintro ⟨spec, accepted⟩
    rw [runProgram_of_accepts given environment accepted]

/-- A run that succeeds does so without validation as well, and prints the same. -/
theorem runProgram_trusting {trusting : List String} (given : invocation.GivenBy arguments)
    (given' : { invocation with validates := false }.GivenBy trusting)
    {environment : Environment} {contents : Input → Except InputError ByteArray}
    (succeeds : (runProgram arguments environment contents).failure = none) :
    runProgram trusting environment contents = runProgram arguments environment contents := by
  rcases invocation.accepts_or_fails (contents invocation.input) with
    ⟨spec, accepted⟩ | ⟨error, fails⟩
  · have trusted : Invocation.Accepts { invocation with validates := false }
        (contents invocation.input) spec := ⟨accepted.read, Bool.noConfusion⟩
    rw [runProgram_of_accepts given environment accepted,
      runProgram_of_accepts given' environment trusted]
    rfl
  · rw [runProgram_of_fails given environment fails] at succeeds
    cases succeeds

/-- Only the scores of a relevance query depend on the environment. -/
theorem runProgram_unscored (given : invocation.GivenBy arguments)
    (unscored : invocation.kind ≠ .relevance) (contents : Input → Except InputError ByteArray)
    (left right : Environment) :
    runProgram arguments left contents = runProgram arguments right contents := by
  rcases invocation.accepts_or_fails (contents invocation.input) with
    ⟨spec, accepted⟩ | ⟨error, fails⟩
  · obtain ⟨text, -, read⟩ := accepted.read
    rw [runProgram_of_accepts given left accepted, runProgram_of_accepts given right accepted,
      Specification.document_eq_of_readText read unscored]
  · rw [runProgram_of_fails given left fails, runProgram_of_fails given right fails]

/-- The program prints the document of the library, and a line break, exactly when the input is
accepted; otherwise it prints nothing and the first stage that fails has the say.  Doing without
validation changes no run that succeeds, and the environment none without scores. -/
theorem runProgram_outcome (given : invocation.GivenBy arguments) (environment : Environment)
    (contents : Input → Except InputError ByteArray) :
    (∀ output, runProgram arguments environment contents = ⟨output, none⟩ ↔
      ∃ spec, invocation.Accepts (contents invocation.input) spec ∧
        output = (spec.document { Tuning.ofEnvironment environment with
          filterMode := invocation.filterMode.getD
            (Tuning.ofEnvironment environment).filterMode }).toJson.text invocation.style ++
          "\n") ∧
    (∀ output error, runProgram arguments environment contents = ⟨output, some error⟩ ↔
      output = "" ∧ invocation.Fails (contents invocation.input) error) ∧
    ((runProgram arguments environment contents).exitCode = 0 ↔
      ∃ spec, invocation.Accepts (contents invocation.input) spec) ∧
    (∀ trusting, { invocation with validates := false }.GivenBy trusting →
      (runProgram arguments environment contents).failure = none →
      runProgram trusting environment contents = runProgram arguments environment contents) ∧
    (invocation.kind ≠ .relevance → ∀ other,
      runProgram arguments other contents = runProgram arguments environment contents) := by
  rw [← invocation.tuning_eq]
  refine ⟨?prints, ?fails, ?exits, ?trusting, ?unscored⟩
  case prints => exact fun output => runProgram_eq_some_output_iff given
  case fails => exact fun output error => runProgram_eq_failure_iff given
  case exits => exact exitCode_runProgram given environment contents
  case trusting => exact fun trusting given' => runProgram_trusting given given'
  case unscored =>
    exact fun unscored other => runProgram_unscored given unscored contents other environment

/-- A file with one filter, in two environments and with or without validation. -/
theorem runProgram_outcome_filter :
    let contents : Input → Except InputError ByteArray := fun _ =>
      .ok "\x7b\"filters\":[\x7b\"field\":\"a\",\"value\":1\x7d]\x7d".toUTF8
    let outcome : Outcome :=
      ⟨"\x7b\"query\":\x7b\"bool\":\x7b\"must\":[\x7b\"term\":\x7b\"a\":1\x7d\x7d]\x7d\x7d\x7d\n",
        none⟩
    Invocation.GivenBy ⟨.simple, .file "q", .compact, true, none⟩ ["simple", "q", "--compact"] ∧
      runProgram ["simple", "q", "--compact"] (fun _ => none) contents = outcome ∧
      runProgram ["simple", "q", "--compact"] (fun _ => some "inf") contents = outcome ∧
      runProgram ["--no-validate", "simple", "q", "--compact"] (fun _ => none) contents =
        outcome := by
  intro contents outcome
  let written : Json := .object
    [("filters", .array [.object [("field", .string "a"), ("value", .number (.ofUInt64 1))]])]
  let spec : Specification := .simple
    { SimpleSpec.empty with filters := some [⟨"a", .single (.number (.ofUInt64 1))⟩] }
  have given : Invocation.GivenBy ⟨.simple, .file "q", .compact, true, none⟩
      ["simple", "q", "--compact"] := Invocation.parse_eq_some_iff.mp (by decide)
  have read : Specification.readText .simple
      "\x7b\"filters\":[\x7b\"field\":\"a\",\"value\":1\x7d]\x7d" = .ok spec := by
    have spelled : written.script.WrittenAs
        "\x7b\"filters\":[\x7b\"field\":\"a\",\"value\":1\x7d]\x7d" :=
      written.writtenAs_text .compact
    simp only [Specification.readText, Specification.readWith, Shape.readText, spelled.ofText_eq]
    rfl
  have accepted : Invocation.Accepts ⟨.simple, .file "q", .compact, true, none⟩
      (contents (.file "q")) spec := ⟨⟨_, rfl, read⟩, fun _ => rfl⟩
  have run := runProgram_outcome given (fun _ => none) contents
  have printed : runProgram ["simple", "q", "--compact"] (fun _ => none) contents = outcome :=
    (run.1 _).mpr ⟨spec, accepted, rfl⟩
  refine ⟨given, printed, ?_, ?_⟩
  · rw [run.2.2.2.2 SpecKind.noConfusion, printed]
  · rw [run.2.2.2.1 _ (given.trusting rfl) (congrArg Outcome.failure printed), printed]

end Program

end QueryAssembly
