import QueryAssembly.Json.Token
import QueryAssembly.Json.Basic

/-!
# JSON as it is written

A script is a JSON text before anyone has asked anything of it: members in written order with
repeated keys kept, and faults left in the place where they stand.  Whether a fault matters depends
on what is read there, so reading a script never looks at the text again.  `Script.skipFault` is
the check of a value that nobody asked for, and `Json.script` the faultless script of a value.
-/

namespace QueryAssembly.Json

/-- What a value is found to be when another kind was expected. -/
inductive Found where
  /-- The null value. -/
  | null
  /-- A truth value. -/
  | bool (value : Bool)
  /-- A number. -/
  | number (value : Number)
  /-- A text. -/
  | string (value : String)
  /-- A list. -/
  | list
  /-- An object. -/
  | object

/-- How a written list comes to an end. -/
inductive ListEnd where
  /-- At its bracket. -/
  | closed
  /-- At the end of the text. -/
  | endOfText
  /-- At something that is neither a comma nor its bracket. -/
  | missingComma
  /-- At its bracket, right after a comma. -/
  | trailingComma
  /-- At the end of the text, right after a comma. -/
  | endAfterComma
deriving DecidableEq

namespace ListEnd

/-- The fault of a list that is read. -/
def readFault : ListEnd → Option Fault
  | .closed => none
  | .endOfText => some .endInList
  | .missingComma => some .expectedItemEnd
  | .trailingComma => some .trailingComma
  | .endAfterComma => some .endInValue

/-- The fault of a list that is skipped. -/
def skipFault : ListEnd → Option Fault
  | .trailingComma => some .expectedValue
  | other => other.readFault

/-- The fault when the items read so far should have been all. -/
def surplusFault : ListEnd → Option Fault
  | .closed => none
  | .endOfText => some .endInList
  | .trailingComma => some .trailingComma
  | .missingComma | .endAfterComma => some .trailingCharacters

end ListEnd

/-- How a written object comes to an end. -/
inductive ObjectEnd where
  /-- At its bracket. -/
  | closed
  /-- At the end of the text. -/
  | endOfText
  /-- At something that is neither a comma nor its bracket. -/
  | missingComma
  /-- At its bracket, right after a comma. -/
  | trailingComma
  /-- At the end of the text, right after a comma. -/
  | endAfterComma
  /-- At something that is no string where a key is due. -/
  | notString
  /-- At a key that is a broken string: the fault when it is read, and when it is skipped. -/
  | brokenKey (read skipped : Fault)
deriving DecidableEq

namespace ObjectEnd

/-- The fault of an object that is read. -/
def readFault : ObjectEnd → Option Fault
  | .closed => none
  | .endOfText => some .endInObject
  | .missingComma => some .expectedMemberEnd
  | .trailingComma => some .trailingComma
  | .endAfterComma => some .endInValue
  | .notString => some .expectedKey
  | .brokenKey read _ => some read

/-- The fault of an object that is skipped. -/
def skipFault : ObjectEnd → Option Fault
  | .trailingComma => some .expectedKey
  | .endAfterComma => some .endInObject
  | .brokenKey _ skipped => some skipped
  | other => other.readFault

end ObjectEnd

/-- What stands where a value is due and is none. -/
inductive Damage where
  /-- A string broken in form: the fault when it is read, and when it is skipped. -/
  | string (read skipped : Fault)
  /-- A word, number or character broken in form: the fault when read, and when skipped. -/
  | other (read skipped : Fault)
  /-- Nothing that could begin a value. -/
  | absent (fault : Fault)
deriving DecidableEq

namespace Damage

/-- The fault when a value is read here. -/
def readFault : Damage → Fault
  | .string read _ => read
  | .other read _ => read
  | .absent fault => fault

/-- The fault when a value is skipped here. -/
def skipFault : Damage → Fault
  | .string _ skipped => skipped
  | .other _ skipped => skipped
  | .absent fault => fault

end Damage

/-- A JSON value as it is written. -/
inductive Script where
  /-- The null value. -/
  | null
  /-- A truth value. -/
  | bool (value : Bool)
  /-- A number, or the fault of its value. -/
  | number (value : Except Fault Number)
  /-- A text, or the fault of its value. -/
  | string (value : Except Fault String)
  /-- A list of values. -/
  | list (items : List Script) (stop : ListEnd)
  /-- Values under keys, in written order. -/
  | object (members : List (Except Fault String × Script)) (stop : ObjectEnd)
  /-- No value. -/
  | damaged (damage : Damage)

namespace Script

/-- What a value is, when another kind was expected. -/
def found : Script → Except Fault Found
  | .null => .ok .null
  | .bool value => .ok (.bool value)
  | .number value => value.map .number
  | .string value => value.map .string
  | .list _ _ => .ok .list
  | .object _ _ => .ok .object
  | .damaged damage => .error damage.readFault

mutual

/-- The first fault in the form of a value that is skipped. -/
def skipFault : Script → Option Fault
  | .null | .bool _ | .number _ | .string _ => none
  | .list items stop => (skipItemsFault items).or stop.skipFault
  | .object members stop => (skipMembersFault members).or stop.skipFault
  | .damaged damage => some damage.skipFault

/-- The first fault in the form of skipped items. -/
def skipItemsFault : List Script → Option Fault
  | [] => none
  | item :: rest => item.skipFault.or (skipItemsFault rest)

/-- The first fault in the form of skipped members. -/
def skipMembersFault : List (Except Fault String × Script) → Option Fault
  | [] => none
  | (_, value) :: rest => value.skipFault.or (skipMembersFault rest)

end

end Script

mutual

/-- The script of a value. -/
def script : Json → Script
  | .null => .null
  | .bool value => .bool value
  | .number value => .number (.ok value)
  | .string value => .string (.ok value)
  | .array items => .list (scriptItems items) .closed
  | .object members => .object (scriptMembers members) .closed

/-- The scripts of items. -/
def scriptItems : List Json → List Script
  | [] => []
  | item :: rest => item.script :: scriptItems rest

/-- The scripts of members. -/
def scriptMembers : List (String × Json) → List (Except Fault String × Script)
  | [] => []
  | (key, value) :: rest => (.ok key, value.script) :: scriptMembers rest

end

mutual

@[simp] theorem skipFault_script : (value : Json) → value.script.skipFault = none
  | .null | .bool _ | .number _ | .string _ => rfl
  | .array items => by simp [script, Script.skipFault, ListEnd.skipFault, ListEnd.readFault,
      skipItemsFault_scriptItems items]
  | .object members => by simp [script, Script.skipFault, ObjectEnd.skipFault,
      ObjectEnd.readFault, skipMembersFault_scriptMembers members]

@[simp] theorem skipItemsFault_scriptItems :
    (items : List Json) → Script.skipItemsFault (scriptItems items) = none
  | [] => rfl
  | item :: rest => by simp [scriptItems, Script.skipItemsFault, skipFault_script item,
      skipItemsFault_scriptItems rest]

@[simp] theorem skipMembersFault_scriptMembers :
    (members : List (String × Json)) → Script.skipMembersFault (scriptMembers members) = none
  | [] => rfl
  | (_, value) :: rest => by simp [scriptMembers, Script.skipMembersFault, skipFault_script value,
      skipMembersFault_scriptMembers rest]

end

end QueryAssembly.Json
