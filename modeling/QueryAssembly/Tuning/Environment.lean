import QueryAssembly.Binary64.Literal
import QueryAssembly.Text.Blank
import QueryAssembly.Tuning.Basic

/-!
# Tuning from the environment

Five environment variables override the standard tuning, one each.  A variable whose text does not
denote a value of its kind counts as unset, so the environment can be wrong but never an error.
-/

namespace QueryAssembly

/-- The texts of environment variables; none for a variable that is unset. -/
abbrev Environment := String → Option String

/-- The environment with the given variables; of equal names the first counts. -/
def Environment.ofList (entries : List (String × String)) : Environment :=
  fun name => entries.lookup name

/-- The natural number of 32 bits that digits denote, after an optional plus sign. -/
def smallCount? (text : String) : Option UInt32 :=
  let digits :=
    match text.toList with
    | '+' :: rest => rest
    | all => all
  match natural? digits with
  | some value => if bound : value < 0x100000000 then some (.ofNatLT value bound) else none
  | none => none

/-- The text itself, unless it is blank. -/
def unlessBlank (text : String) : Option String :=
  if Text.isBlank text then none else some text

namespace Tuning

/-- The filter mode of a text, if it names one. -/
def filterMode? (text : String) : Option FilterMode :=
  (FilterMode.parse text).toOption

/-- The variables that matter. -/
def variableNames : List String :=
  ["ESDSL_PHRASE_BOOST", "ESDSL_PREFIX_LENGTH", "ESDSL_MIN_SCORE", "ESDSL_FUZZINESS",
    "ESDSL_RELEVANCE_FILTERS"]

/-- The standard tuning with what the environment overrides. -/
def ofEnvironment (environment : Environment) : Tuning where
  phraseBoost :=
    ((environment "ESDSL_PHRASE_BOOST").bind Binary64.ofLiteral?).getD standard.phraseBoost
  prefixLength :=
    ((environment "ESDSL_PREFIX_LENGTH").bind smallCount?).getD standard.prefixLength
  minScore :=
    ((environment "ESDSL_MIN_SCORE").bind Binary64.ofLiteral?).getD standard.minScore
  fuzziness :=
    ((environment "ESDSL_FUZZINESS").bind unlessBlank).getD standard.fuzziness
  filterMode :=
    ((environment "ESDSL_RELEVANCE_FILTERS").bind filterMode?).getD standard.filterMode

end Tuning

end QueryAssembly
