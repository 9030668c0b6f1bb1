import QueryAssembly.Json.Script
import QueryAssembly.Spec.Names
import QueryAssembly.Text.Position
import QueryAssembly.Text.Quoted

/-!
# Why a value cannot be read

A value cannot be read when its text is no JSON text, or when the JSON value is not of the shape
that is asked for.  `ReadError.message` words each cause.
-/

namespace QueryAssembly

/-- What was asked for where something else was found. -/
inductive Expected where
  /-- A text. -/
  | text
  /-- A natural number of 64 bits. -/
  | count
  /-- A natural number of 32 bits. -/
  | smallCount
  /-- A floating point number. -/
  | real
  /-- A list. -/
  | list
  /-- An object with any keys. -/
  | object
  /-- A record of the given name. -/
  | record (name : String)
  /-- A choice. -/
  | choice
  /-- An object with one key. -/
  | singleKey
  /-- The null value that may stand beside a choice. -/
  | unit
deriving DecidableEq

namespace Expected

/-- The wording of what was asked for. -/
def message : Expected → String
  | .text => "a string"
  | .count => "u64"
  | .smallCount => "u32"
  | .real => "f64"
  | .list => "a sequence"
  | .object => "a map"
  | .record name => "struct " ++ name
  | .choice => "string or map"
  | .singleKey => "map with a single key"
  | .unit => "unit"

end Expected

namespace Json.Found

/-- The wording of what was found. -/
def message : Found → String
  | .null => "null"
  | .bool true => "boolean `true`"
  | .bool false => "boolean `false`"
  | .number (.integer value lower upper) =>
    "integer `" ++ String.ofList (Number.integer value lower upper).characters ++ "`"
  | .number (.real value) => "floating point `" ++ String.ofList value.characters ++ "`"
  | .string value => "string " ++ Text.quoted value
  | .list => "sequence"
  | .object => "map"

end Json.Found

/-- Why a value cannot be read. -/
inductive ReadError where
  /-- The text is no JSON text. -/
  | malformed (fault : Json.Fault)
  /-- A value is of another kind. -/
  | invalidType (found : Json.Found) (expected : Expected)
  /-- A value is of the right kind and out of range. -/
  | invalidValue (found : Json.Found) (expected : Expected)
  /-- An object lacks a field. -/
  | missingField (name : String)
  /-- An object has a field twice. -/
  | duplicateField (name : String)
  /-- A list of fields ends too early for a record of the given name and size. -/
  | tooFewFields (given : Nat) (record : String) (size : Nat)
  /-- A list of fields goes on after the last field. -/
  | tooManyFields (given : Nat)
  /-- A value is none of the alternatives of a type. -/
  | noAlternative (type : String)
  /-- A choice has an unknown name. -/
  | unknownChoice (name : String)
  /-- A text is no name of the kind asked for. -/
  | badName (error : NameError)

namespace ReadError

/-- The wording of an unknown name; a position at the end of the name says where and is no part
of the wording. -/
def nameMessage (error : NameError) : String :=
  match Text.position? error.message with
  | some _ => Text.withoutPosition error.message
  | none => error.message

/-- The wording of an error. -/
def message : ReadError → String
  | .malformed fault => fault.message
  | .invalidType found expected =>
    "invalid type: " ++ found.message ++ ", expected " ++ expected.message
  | .invalidValue found expected =>
    "invalid value: " ++ found.message ++ ", expected " ++ expected.message
  | .missingField name => "missing field `" ++ name ++ "`"
  | .duplicateField name => "duplicate field `" ++ name ++ "`"
  | .tooFewFields given record size =>
    "invalid length " ++ toString given ++ ", expected struct " ++ record ++ " with " ++
      toString size ++ " elements"
  | .tooManyFields given =>
    "invalid length " ++ toString given ++ ", expected fewer elements in array"
  | .noAlternative type => "data did not match any variant of untagged enum " ++ type
  | .unknownChoice name =>
    "unknown variant `" ++ name ++ "`, expected `" ++ FilterMode.exactTerm.name ++ "` or `" ++
      FilterMode.listAware.name ++ "`"
  | .badName error => nameMessage error

/-- A fault of the text is an error of reading. -/
def ofFault {α : Type} : Except Json.Fault α → Except ReadError α
  | .ok value => .ok value
  | .error fault => .error (.malformed fault)

end ReadError

end QueryAssembly
