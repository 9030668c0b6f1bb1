import QueryAssembly.Json.Script

/-!
# From tokens to scripts

The builder walks along the tokens once.  It keeps the containers that are still open and, for the
innermost one, the place where it stands between two tokens.  When a value is complete it takes its
place in the container around it (`resume`); when a token does not fit, every open container ends
there (`abandon`), because nothing after the first fault is ever read.
-/

namespace QueryAssembly.Json

namespace Script

/-- Members in the order opposite to the written one. -/
abbrev Backward := List (Except Fault String × Script)

/-- A container with a value of it still missing; what came before stands latest first. -/
inductive Frame where
  /-- A list that waits for an item. -/
  | item (before : List Script)
  /-- An object that waits for the value of a key. -/
  | member (before : Backward) (key : Except Fault String)

/-- Where the builder stands between two tokens. -/
inductive Place where
  /-- A value is due. -/
  | value
  /-- At the beginning of a list. -/
  | firstItem
  /-- After an item. -/
  | afterItem (items : List Script)
  /-- After the comma between two items. -/
  | nextItem (items : List Script)
  /-- At the beginning of an object. -/
  | firstKey
  /-- After a key. -/
  | afterKey (members : Backward) (key : Except Fault String)
  /-- After a member. -/
  | afterMember (members : Backward)
  /-- After the comma between two members. -/
  | nextKey (members : Backward)

/-- What a token leads to. -/
inductive Progress where
  /-- Another place, with the containers open around it, innermost first. -/
  | going (place : Place) (frames : List Frame)
  /-- The whole script. -/
  | finished (script : Script)

/-- Let a complete value take its place. -/
def resume (value : Script) : List Frame → Progress
  | [] => .finished value
  | .item before :: outer => .going (.afterItem (value :: before)) outer
  | .member before key :: outer => .going (.afterMember ((key, value) :: before)) outer

/-- End every open container at the value where the text goes wrong. -/
def abandon (value : Script) : List Frame → Script
  | [] => value
  | .item before :: outer => abandon (.list (value :: before).reverse .endOfText) outer
  | .member before key :: outer =>
    abandon (.object ((key, value) :: before).reverse .endOfText) outer

/-- The token where a value is due. -/
def stepValue (frames : List Frame) : Token → Progress
  | .openList => .going .firstItem frames
  | .openObject => .going .firstKey frames
  | .null => resume .null frames
  | .bool value => resume (.bool value) frames
  | .number value => resume (.number value) frames
  | .string value => resume (.string value) frames
  | .brokenString read skipped => .finished (abandon (.damaged (.string read skipped)) frames)
  | .broken read skipped => .finished (abandon (.damaged (.other read skipped)) frames)
  | .closeList | .closeObject | .comma | .colon =>
    .finished (abandon (.damaged (.absent .expectedValue)) frames)

/-- The token where a key is due. -/
def stepKey (members : Backward) (frames : List Frame) : Token → Progress
  | .string key => .going (.afterKey members key) frames
  | .brokenString read skipped =>
    .finished (abandon (.object members.reverse (.brokenKey read skipped)) frames)
  | _ => .finished (abandon (.object members.reverse .notString) frames)

/-- What a token leads to from a place. -/
def step (place : Place) (frames : List Frame) (token : Token) : Progress :=
  match place, token with
  | .value, token => stepValue frames token
  | .firstItem, .closeList => resume (.list [] .closed) frames
  | .firstItem, token => stepValue (.item [] :: frames) token
  | .afterItem items, .comma => .going (.nextItem items) frames
  | .afterItem items, .closeList => resume (.list items.reverse .closed) frames
  | .afterItem items, _ => .finished (abandon (.list items.reverse .missingComma) frames)
  | .nextItem items, .closeList =>
    .finished (abandon (.list items.reverse .trailingComma) frames)
  | .nextItem items, token => stepValue (.item items :: frames) token
  | .firstKey, .closeObject => resume (.object [] .closed) frames
  | .firstKey, token => stepKey [] frames token
  | .afterKey members key, .colon => .going .value (.member members key :: frames)
  | .afterKey members key, _ =>
    .finished (abandon (.damaged (.absent .expectedColon)) (.member members key :: frames))
  | .afterMember members, .comma => .going (.nextKey members) frames
  | .afterMember members, .closeObject => resume (.object members.reverse .closed) frames
  | .afterMember members, _ =>
    .finished (abandon (.object members.reverse .missingComma) frames)
  | .nextKey members, .closeObject =>
    .finished (abandon (.object members.reverse .trailingComma) frames)
  | .nextKey members, token => stepKey members frames token

/-- The script of a text that ends at a place. -/
def atEnd (frames : List Frame) : Place → Script
  | .value => abandon (.damaged (.absent .endInValue)) frames
  | .firstItem => abandon (.list [] .endOfText) frames
  | .afterItem items => abandon (.list items.reverse .endOfText) frames
  | .nextItem items => abandon (.list items.reverse .endAfterComma) frames
  | .firstKey => abandon (.object [] .endOfText) frames
  | .afterKey members key =>
    abandon (.damaged (.absent .endInObject)) (.member members key :: frames)
  | .afterMember members => abandon (.object members.reverse .endOfText) frames
  | .nextKey members => abandon (.object members.reverse .endAfterComma) frames

/-- The script that tokens make from a place, and the tokens after it. -/
def build (place : Place) (frames : List Frame) : List Token → Script × List Token
  | [] => (atEnd frames place, [])
  | token :: rest =>
    match step place frames token with
    | .going next outer => build next outer rest
    | .finished script => (script, rest)

/-- The script at the beginning of a text, and the tokens after it. -/
def ofText (text : String) : Script × List Token :=
  build .value [] (tokens text)

end Script

end QueryAssembly.Json
