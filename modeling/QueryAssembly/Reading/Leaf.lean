import QueryAssembly.Reading.Error
import QueryAssembly.Reading.Origin
import QueryAssembly.Spec.Operand
import QueryAssembly.Spec.RawOptions

/-!
# Reading values without fields

The readers of texts, numbers, names, operands and raw options.  Each says what it asked for when
it meets something else.  Only a filter mode, which may be written as a name or as an object with
one key, is read differently from a text than from a tree.
-/

namespace QueryAssembly.Reading

open Json (Script Found ListEnd ObjectEnd Damage)

/-- The error of a value that is not what was expected. -/
def mismatch {α : Type} (script : Script) (expected : Expected) : Except ReadError α :=
  match script.found with
  | .ok found => .error (.invalidType found expected)
  | .error fault => .error (.malformed fault)

/-- Read a text. -/
def readText : Script → Except ReadError String
  | .string value => ReadError.ofFault value
  | other => mismatch other .text

/-- Read a natural number of 64 bits. -/
def readCount : Script → Except ReadError UInt64
  | .number (.ok (.integer value lower upper)) =>
    if bound : 0 ≤ value ∧ value.toNat < 0x10000000000000000 then .ok (.ofNatLT value.toNat bound.2)
    else .error (.invalidValue (.number (.integer value lower upper)) .count)
  | other => mismatch other .count

/-- Read a natural number of 32 bits. -/
def readSmallCount : Script → Except ReadError UInt32
  | .number (.ok (.integer value lower upper)) =>
    if bound : 0 ≤ value ∧ value.toNat < 0x100000000 then .ok (.ofNatLT value.toNat bound.2)
    else .error (.invalidValue (.number (.integer value lower upper)) .smallCount)
  | other => mismatch other .smallCount

/-- Read a floating point number; an integer is rounded to the nearest one. -/
def readReal : Script → Except ReadError Binary64
  | .number (.ok value) => .ok value.toBinary64
  | other => mismatch other .real

/-- Read a whole value and see whether it is one of the alternatives of a type. -/
def readAlternative {α : Type} (type : String) (alternative? : Json → Option α) (origin : Origin)
    (script : Script) : Except ReadError α := do
  let json ← ReadError.ofFault (script.toJson origin)
  match alternative? json with
  | some value => .ok value
  | none => .error (.noAlternative type)

/-- Read a scalar. -/
def readScalar : Origin → Script → Except ReadError Scalar :=
  readAlternative "Scalar" Scalar.ofJson?

/-- Read an operand. -/
def readOperand : Origin → Script → Except ReadError Operand :=
  readAlternative "Value" Operand.ofJson?

/-- Read a text that names a choice. -/
def readNamed {α : Type} (parse : String → Except NameError α) (script : Script) :
    Except ReadError α := do
  let name ← readText script
  match parse name with
  | .ok value => .ok value
  | .error unknown => .error (.badName unknown)

/-- Read raw options. -/
def readRawOptions (origin : Origin) (script : Script) : Except ReadError RawOptions :=
  match script with
  | .object members stop => do
    let inside ← ReadError.ofFault origin.enter
    let values ← ReadError.ofFault (Script.membersToJson inside members stop)
    return .ofMembers values
  | other => mismatch other .object

/-- The filter mode of a given name. -/
def chosenMode (name : String) : Except ReadError FilterMode :=
  match FilterMode.ofName? name with
  | some mode => .ok mode
  | none => .error (.unknownChoice name)

/-- Read the null value that may stand beside a choice. -/
def readUnit : Script → Except ReadError Unit
  | .null => .ok ()
  | other => mismatch other .unit

/-- The end of an object in a text after the only member it may have. -/
def endAfterChoice : List (Except Json.Fault String × Script) → ObjectEnd → Except ReadError Unit
  | [], .closed => .ok ()
  | [], .endOfText => .error (.malformed .endInObject)
  | _, _ => .error (.malformed .expectedValue)

/-- The fault of an object in a text that has no member to choose by. -/
def noChoice (stop : ObjectEnd) : Json.Fault :=
  stop.readFault.getD .expectedValue

/-- Read a filter mode from a text. -/
def readModeFromText (levels : Nat) : Script → Except ReadError FilterMode
  | .string name => do
    let name ← ReadError.ofFault name
    chosenMode name
  | .object members stop => do
    let _ ← ReadError.ofFault (Origin.enter (.text levels))
    match members with
    | [] => .error (.malformed (noChoice stop))
    | (name, payload) :: further => do
      let name ← ReadError.ofFault name
      let mode ← chosenMode name
      readUnit payload
      endAfterChoice further stop
      return mode
  | .damaged (.string read _) => .error (.malformed read)
  | .damaged (.absent fault) => .error (.malformed fault)
  | _ => .error (.malformed .expectedValue)

/-- Read a filter mode from a tree. -/
def readModeFromTree : Script → Except ReadError FilterMode
  | .string name => do
    let name ← ReadError.ofFault name
    chosenMode name
  | .object [(name, payload)] _ => do
    let name ← ReadError.ofFault name
    let mode ← chosenMode name
    readUnit payload
    return mode
  | .object _ _ => .error (.invalidValue .object .singleKey)
  | other => mismatch other .choice

/-- Read a filter mode. -/
def readMode : Origin → Script → Except ReadError FilterMode
  | .text levels => readModeFromText levels
  | .tree => readModeFromTree

end QueryAssembly.Reading
