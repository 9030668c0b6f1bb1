import QueryAssembly.Json.Printer
import QueryAssembly.Specification
import QueryAssembly.Tuning.Environment

/-!
# The command line

The program reads one specification, validates it unless told not to, and prints the document of
it.  `Invocation.parse` understands the arguments and `Invocation.run` is the run itself, from what
the input holds to what is printed; it prints a whole document or, when a stage fails, only that
stage's error.
-/

namespace QueryAssembly

/-- Where a specification comes from. -/
inductive Input where
  /-- Standard input. -/
  | standard
  /-- The file of a given name. -/
  | file (name : String)
deriving DecidableEq

/-- Why a file cannot be read. -/
inductive InputError where
  /-- There is no such file. -/
  | notFound
  /-- A part of the name that should be a directory is none. -/
  | notDirectory
  /-- The name is the name of a directory. -/
  | isDirectory
  /-- The name is too long. -/
  | nameTooLong
  /-- Another reason, in words. -/
  | other (reason : String)
deriving DecidableEq

namespace InputError

/-- The wording of an error. -/
def message : InputError → String
  | .notFound => "No such file or directory (os error 2)"
  | .notDirectory => "Not a directory (os error 20)"
  | .isDirectory => "Is a directory (os error 21)"
  | .nameTooLong => "File name too long (os error 36)"
  | .other reason => reason

end InputError

namespace Input

/-- The input that an argument names; a hyphen names standard input. -/
def ofArgument (argument : String) : Input :=
  if argument = "-" then .standard else .file argument

/-- The name by which errors refer to an input. -/
def name : Input → String
  | .standard => "-"
  | .file name => name

end Input

/-- What the arguments ask for. -/
structure Invocation where
  /-- The kind of the specification. -/
  kind : SpecKind
  /-- Where it comes from. -/
  input : Input
  /-- The form of the output. -/
  style : Json.Style
  /-- Whether the specification is validated. -/
  validates : Bool
  /-- The filter mode that wins over the environment. -/
  filterMode : Option FilterMode
deriving DecidableEq

namespace Invocation

/-- The flags seen so far on one side of the subcommand. -/
structure Flags where
  /-- Print without gaps. -/
  compact : Bool
  /-- Do not validate. -/
  noValidate : Bool
deriving DecidableEq

namespace Flags

/-- No flag seen. -/
def none : Flags := ⟨false, false⟩

/-- Note a flag; a flag may stand only once. -/
def note? (flags : Flags) (argument : String) : Option Flags :=
  if argument = "--compact" ∧ flags.compact = false then some { flags with compact := true }
  else if argument = "--no-validate" ∧ flags.noValidate = false then
    some { flags with noValidate := true }
  else Option.none

/-- The flags on both sides together. -/
def merge (left right : Flags) : Flags :=
  ⟨left.compact || right.compact, left.noValidate || right.noValidate⟩

end Flags

/-- The arguments of a subcommand understood so far. -/
structure Seen where
  /-- The flags seen. -/
  flags : Flags
  /-- The specification seen. -/
  spec : Option String
  /-- The filter mode seen. -/
  filterMode : Option FilterMode
deriving DecidableEq

namespace Seen

/-- Nothing understood yet. -/
def start : Seen := ⟨.none, none, none⟩

/-- Note the specification; there is only one. -/
def noteSpec? (seen : Seen) (argument : String) : Option Seen :=
  match seen.spec with
  | none => some { seen with spec := some argument }
  | some _ => none

/-- Note the filter mode, which only a relevance query has, and once. -/
def noteMode? (seen : Seen) (kind : SpecKind) (name : String) : Option Seen :=
  match kind, seen.filterMode, (FilterMode.parse name).toOption with
  | .relevance, none, some mode => some { seen with filterMode := some mode }
  | _, _, _ => none

end Seen

/-- The characters of the option that gives a filter mode in the same argument. -/
def modeOption : List Char := "--filter-mode=".toList

/-- Understand the arguments after the end of the options. -/
def parsePlain (seen : Seen) : List String → Option Seen
  | [] => some seen
  | argument :: rest => do
    let seen ← seen.noteSpec? argument
    parsePlain seen rest

/-- Understand the arguments after a subcommand. -/
def parseRest (kind : SpecKind) (seen : Seen) : List String → Option Seen
  | [] => some seen
  | "--" :: rest => parsePlain seen rest
  | ["--filter-mode"] => none
  | "--filter-mode" :: name :: rest => do
    let seen ← seen.noteMode? kind name
    parseRest kind seen rest
  | argument :: rest => do
    let seen ←
      if modeOption.isPrefixOf argument.toList then
        seen.noteMode? kind (String.ofList (argument.toList.drop modeOption.length))
      else
        match seen.flags.note? argument with
        | some flags => some { seen with flags := flags }
        | none =>
          if argument ≠ "-" ∧ ['-'].isPrefixOf argument.toList then none
          else seen.noteSpec? argument
    parseRest kind seen rest

/-- Understand the arguments of which some flags are seen already. -/
def parseFrom (flags : Flags) : List String → Option Invocation
  | [] => none
  | argument :: rest =>
    match flags.note? argument with
    | some flags => parseFrom flags rest
    | none => do
      let kind ← SpecKind.ofName? argument
      let seen ← parseRest kind .start rest
      let spec ← seen.spec
      let flags := flags.merge seen.flags
      return {
        kind
        input := .ofArgument spec
        style := if flags.compact then .compact else .pretty
        validates := !flags.noValidate
        filterMode := seen.filterMode }

/-- Understand the arguments; none when they are misused. -/
def parse (arguments : List String) : Option Invocation :=
  parseFrom .none arguments

end Invocation

/-- Why a run fails. -/
inductive RunError where
  /-- The arguments are misused. -/
  | usage
  /-- A file cannot be read. -/
  | unreadableFile (name : String) (error : InputError)
  /-- The bytes of a file are no text. -/
  | fileNotText (name : String)
  /-- Standard input cannot be read. -/
  | unreadableStandardInput (error : InputError)
  /-- The bytes of standard input are no text. -/
  | standardInputNotText
  /-- The text is no specification of the kind asked for. -/
  | notSpecification (name : String) (error : ReadError)
  /-- The specification does not pass its checks. -/
  | invalid (error : SpecError)

namespace RunError

/-- A cause, with the lines after its first indented. -/
def cause (message : String) : String :=
  "\n\nCaused by:\n    " ++
    String.ofList (message.toList.flatMap fun character =>
      if character = '\n' then "\n    ".toList else [character])

/-- The wording for bytes that are no text. -/
def notText : String := "stream did not contain valid UTF-8"

/-- How the program is called. -/
def usageMessage : String :=
  "Usage: esdsl [--compact] [--no-validate] " ++
    "(simple SPEC | relevance SPEC [--filter-mode MODE] | aggregate SPEC)"

/-- What is printed about an error. -/
def message : RunError → String
  | .usage => usageMessage
  | .unreadableFile name error => "Error: reading " ++ name ++ cause error.message
  | .fileNotText name => "Error: reading " ++ name ++ cause notText
  | .unreadableStandardInput error => "Error: " ++ error.message
  | .standardInputNotText => "Error: " ++ notText
  | .notSpecification name error =>
    "Error: parsing specification " ++ name ++ cause error.message
  | .invalid error => "Error: " ++ error.message

/-- The exit code of an error. -/
def exitCode : RunError → Nat
  | .usage => 2
  | _ => 1

end RunError

namespace Invocation

/-- The text of an input of which the bytes are there. -/
def decode (input : Input) (contents : Except InputError ByteArray) : Except RunError String :=
  match input, contents with
  | .file name, .error error => .error (.unreadableFile name error)
  | .standard, .error error => .error (.unreadableStandardInput error)
  | .file name, .ok bytes =>
    match String.fromUTF8? bytes with
    | some text => .ok text
    | none => .error (.fileNotText name)
  | .standard, .ok bytes =>
    match String.fromUTF8? bytes with
    | some text => .ok text
    | none => .error .standardInputNotText

/-- The tuning of a run: the environment, with the filter mode of the arguments on top. -/
def tuning (invocation : Invocation) (environment : Environment) : Tuning :=
  let tuning := Tuning.ofEnvironment environment
  match invocation.filterMode with
  | none => tuning
  | some mode => { tuning with filterMode := mode }

/-- A run: the document that is printed, or why there is none. -/
def run (invocation : Invocation) (environment : Environment)
    (contents : Except InputError ByteArray) : Except RunError Json := do
  let text ← decode invocation.input contents
  let spec ←
    match Specification.readText invocation.kind text with
    | .ok spec => .ok spec
    | .error error => .error (.notSpecification invocation.input.name error)
  if invocation.validates then
    match spec.validate with
    | .ok () => .ok ()
    | .error error => .error (.invalid error)
  return (spec.document (invocation.tuning environment)).toJson

end Invocation

/-- What a run leaves behind. -/
structure Outcome where
  /-- What is printed on standard output. -/
  output : String
  /-- Why the run failed, when it did. -/
  failure : Option RunError

namespace Outcome

/-- The outcome of a run in a given form. -/
def ofRun (style : Json.Style) : Except RunError Json → Outcome
  | .ok document => ⟨document.text style ++ "\n", none⟩
  | .error error => ⟨"", some error⟩

/-- The exit code. -/
def exitCode (outcome : Outcome) : Nat :=
  match outcome.failure with
  | none => 0
  | some error => error.exitCode

/-- What is printed on standard error, without the final line break. -/
def errors (outcome : Outcome) : String :=
  match outcome.failure with
  | none => ""
  | some error => error.message

end Outcome

/-- Run the program on arguments, environment and inputs. -/
def runProgram (arguments : List String) (environment : Environment)
    (contents : Input → Except InputError ByteArray) : Outcome :=
  match Invocation.parse arguments with
  | none => Outcome.ofRun .pretty (.error .usage)
  | some invocation =>
    Outcome.ofRun invocation.style (invocation.run environment (contents invocation.input))

end QueryAssembly
