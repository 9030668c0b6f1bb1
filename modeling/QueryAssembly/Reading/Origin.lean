import QueryAssembly.Json.Script

/-!
# Where a value is read from

A value is read either from a text, where containers may be nested only so deep, or from a tree
that is there already, where they may be nested at will.  `Script.toJson` reads any value, whatever
its shape, and finds the first fault on the way.
-/

namespace QueryAssembly

/-- Where a value is read from. -/
inductive Origin where
  /-- A text, in which this many further levels of containers may be entered. -/
  | text (levels : Nat)
  /-- A tree. -/
  | tree
deriving DecidableEq

namespace Origin

/-- The number of levels that a whole text may have. -/
def textLevels : Nat := 127

/-- The origin inside a container. -/
def enter : Origin → Except Json.Fault Origin
  | .text 0 => .error .tooDeep
  | .text (levels + 1) => .ok (.text levels)
  | .tree => .ok .tree

end Origin

namespace Json.Script

mutual

/-- The value that a script denotes, members in written order, or its first fault. -/
def toJson (origin : Origin) : Script → Except Fault Json
  | .null => .ok .null
  | .bool value => .ok (.bool value)
  | .number value => value.map .number
  | .string value => value.map .string
  | .list items stop => do
    let inside ← origin.enter
    let values ← itemsToJson inside items stop
    return .array values
  | .object members stop => do
    let inside ← origin.enter
    let values ← membersToJson inside members stop
    return .object values
  | .damaged damage => .error damage.readFault

/-- The values of written items, or the first fault. -/
def itemsToJson (origin : Origin) : List Script → ListEnd → Except Fault (List Json)
  | [], stop =>
    match stop.readFault with
    | none => .ok []
    | some fault => .error fault
  | item :: rest, stop => do
    let value ← item.toJson origin
    let values ← itemsToJson origin rest stop
    return value :: values

/-- The values of written members, or the first fault. -/
def membersToJson (origin : Origin) : List (Except Fault String × Script) → ObjectEnd →
    Except Fault (List (String × Json))
  | [], stop =>
    match stop.readFault with
    | none => .ok []
    | some fault => .error fault
  | (key, value) :: rest, stop => do
    let key ← key
    let value ← value.toJson origin
    let values ← membersToJson origin rest stop
    return (key, value) :: values

end

end Json.Script

end QueryAssembly
