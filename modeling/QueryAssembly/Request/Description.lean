import QueryAssembly.Request.Clause
import QueryAssembly.Text.Quoted

/-!
# Descriptions of clauses

The text by which an event names a clause: the kind of every part, with texts in quotation marks,
so that a number, a truth value and a text of the same characters look different.
-/

namespace QueryAssembly

namespace Description

/-- Parts between commas. -/
def separated (parts : List String) : String :=
  String.intercalate ", " parts

/-- A list of parts. -/
def items (parts : List String) : String :=
  "[" ++ separated parts ++ "]"

/-- A part under the name of its kind. -/
def tagged (kind part : String) : String :=
  kind ++ "(" ++ part ++ ")"

/-- Named parts under the name of their kind. -/
def record (kind : String) (parts : List (String × String)) : String :=
  kind ++ " \x7b " ++ separated (parts.map fun part => part.1 ++ ": " ++ part.2) ++ " \x7d"

/-- A part that may be missing. -/
def optional {α : Type} (describe : α → String) : Option α → String
  | none => "None"
  | some value => tagged "Some" (describe value)

end Description

open Description

/-- The description of a scalar. -/
def Scalar.describe : Scalar → String
  | .bool value => tagged "Bool" (toString value)
  | .number value => tagged "Number" (tagged "Number" (String.ofList value.characters))
  | .text value => tagged "String" (Text.quoted value)

/-- The description of an operand. -/
def Operand.describe : Operand → String
  | .list scalars => tagged "List" (items (scalars.map Scalar.describe))
  | .single scalar => tagged "Scalar" scalar.describe

/-- The description of a floating point number. -/
def Binary64.describe : Binary64 → String
  | .finite value => String.ofList value.description
  | .infinity false => "inf"
  | .infinity true => "-inf"
  | .nan => "NaN"

/-- The description of a combination of words. -/
def MultiMatchKind.describe : MultiMatchKind → String
  | .phrase => "Phrase"
  | .mostFields => "MostFields"

/-- The description of a searched text. -/
def MultiMatch.describe (body : MultiMatch) : String :=
  record "MultiMatch"
    [("query", Text.quoted body.query), ("kind", body.kind.describe),
      ("fields", items (body.fields.map Text.quoted)),
      ("boost", optional Binary64.describe body.boost),
      ("fuzziness", optional Text.quoted body.fuzziness),
      ("prefix_length", optional (fun length => toString length.toNat) body.prefixLength)]

/-- The description of a clause. -/
def Clause.describe : Clause → String
  | .term field operand =>
    record "Term" [("field", Text.quoted field), ("value", operand.describe)]
  | .terms field scalars =>
    record "Terms" [("field", Text.quoted field), ("values", items (scalars.map Scalar.describe))]
  | .matching field operand =>
    record "Match" [("field", Text.quoted field), ("value", operand.describe)]
  | .multiMatch body => tagged "MultiMatch" body.describe
  | .nested path inner =>
    record "Nested" [("path", Text.quoted path), ("query", inner.describe)]

end QueryAssembly
