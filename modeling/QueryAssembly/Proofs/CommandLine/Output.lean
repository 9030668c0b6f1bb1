import QueryAssembly.Proofs.CommandLine.Run
import QueryAssembly.Proofs.Json.Gaps
import QueryAssembly.Proofs.Json.Scripts
import QueryAssembly.Proofs.Specification.Depth

/-!
# What the program prints can be read back

The output is a printed document and a line break.  A document of an accepted specification is
never too deep for a text, so a reader of JSON finds the tree that was printed, in either style,
and the two styles differ in white space outside string literals alone.
-/

namespace QueryAssembly

/-- The two outputs for an accepted specification are texts of its document, and the pretty one
without its white space is the compact one. -/
theorem readValue_runProgram {pretty compact : List String} {invocation : Invocation}
    (givenPretty : { invocation with style := .pretty }.GivenBy pretty)
    (givenCompact : { invocation with style := .compact }.GivenBy compact)
    (environment : Environment) {contents : Input → Except InputError ByteArray}
    {spec : Specification} (accepted : invocation.Accepts (contents invocation.input) spec) :
    ∃ prettyOutput compactOutput,
      runProgram pretty environment contents = ⟨prettyOutput, none⟩ ∧
      runProgram compact environment contents = ⟨compactOutput, none⟩ ∧
      Json.readValue prettyOutput =
        .ok (spec.document (invocation.tuning environment)).toJson ∧
      Json.readValue compactOutput =
        .ok (spec.document (invocation.tuning environment)).toJson ∧
      Json.withoutGaps prettyOutput ++ "\n" = compactOutput := by
  obtain ⟨text, -, read⟩ := accepted.read
  have shallow := Specification.depth_toJson_document_le read (invocation.tuning environment)
  have ordered := (spec.document (invocation.tuning environment)).isCanonical_toJson
  have acceptedPretty : { invocation with style := .pretty }.Accepts
      (contents invocation.input) spec := ⟨accepted.read, accepted.valid⟩
  have acceptedCompact : { invocation with style := .compact }.Accepts
      (contents invocation.input) spec := ⟨accepted.read, accepted.valid⟩
  refine ⟨_, _, runProgram_of_accepts givenPretty environment acceptedPretty,
    runProgram_of_accepts givenCompact environment acceptedCompact, ?_, ?_, ?_⟩
  · exact Json.readValue_line .pretty ordered shallow
  · exact Json.readValue_line .compact ordered shallow
  · exact congrArg (· ++ "\n") (Json.withoutGaps_line .pretty _)

/-- Quotation marks, line breaks and empty containers in the raw options of an input. -/
theorem readValue_runProgram_quoted :
    let contents : Input → Except InputError ByteArray := fun _ =>
      .ok "\x7b\"raw_options\":\x7b\"a b\":[\"\\\" \\n\",\x7b\x7d,[]]\x7d\x7d".toUTF8
    let tree : Json := .object
      [("a b", .array [.string "\" \n", .object [], .array []]),
        ("query", .single "bool" (.single "must" (.array [])))]
    Invocation.GivenBy ⟨.simple, .standard, .pretty, true, none⟩ ["simple", "-"] ∧
      Invocation.GivenBy ⟨.simple, .standard, .compact, true, none⟩ ["--compact", "simple", "-"] ∧
      ∃ prettyOutput compactOutput,
        runProgram ["simple", "-"] (fun _ => none) contents = ⟨prettyOutput, none⟩ ∧
        runProgram ["--compact", "simple", "-"] (fun _ => none) contents =
          ⟨compactOutput, none⟩ ∧
        Json.readValue prettyOutput = .ok tree ∧ Json.readValue compactOutput = .ok tree ∧
        Json.withoutGaps prettyOutput ++ "\n" = compactOutput := by
  have assembled (tuning : Tuning) : ((Specification.simple { SimpleSpec.empty with
      raw := some (.ofMembers [("a b", .array [.string "\" \n", .object [], .array []])])
        }).document tuning).toJson = .object
      [("a b", .array [.string "\" \n", .object [], .array []]),
        ("query", .single "bool" (.single "must" (.array [])))] := by
    rfl
  intro contents tree
  let options : Json := .array [.string "\" \n", .object [], .array []]
  let written : Json := .object [("raw_options", .object [("a b", options)])]
  let spec : Specification :=
    .simple { SimpleSpec.empty with raw := some (.ofMembers [("a b", options)]) }
  have givenPretty : Invocation.GivenBy ⟨.simple, .standard, .pretty, true, none⟩
      ["simple", "-"] := Invocation.parse_eq_some_iff.mp (by decide)
  have givenCompact : Invocation.GivenBy ⟨.simple, .standard, .compact, true, none⟩
      ["--compact", "simple", "-"] := Invocation.parse_eq_some_iff.mp (by decide)
  have spelled : written.script.WrittenAs
      "\x7b\"raw_options\":\x7b\"a b\":[\"\\\" \\n\",\x7b\x7d,[]]\x7d\x7d" :=
    written.writtenAs_text .compact
  have read : Specification.readText .simple
      "\x7b\"raw_options\":\x7b\"a b\":[\"\\\" \\n\",\x7b\x7d,[]]\x7d\x7d" = .ok spec := by
    simp only [Specification.readText, Specification.readWith, Shape.readText, spelled.ofText_eq]
    rfl
  have accepted : Invocation.Accepts ⟨.simple, .standard, .pretty, true, none⟩
      (contents .standard) spec := ⟨⟨_, rfl, read⟩, fun _ => rfl⟩
  have outputs := readValue_runProgram givenPretty givenCompact (fun _ => none) accepted
  rw [assembled] at outputs
  exact ⟨givenPretty, givenCompact, outputs⟩

end QueryAssembly
