import QueryAssembly.Spec.Aggregate
import QueryAssembly.Spec.Relevance
import QueryAssembly.Spec.Simple

/-!
# Building specifications step by step

A specification may be built piece by piece instead of being read.  An addition concerns exactly
one section, so additions to different sections commute; a section that is absent comes into being
with its first item.  A sort that is asked for by name may fail, and then nothing is added.
-/

namespace QueryAssembly

/-- Put an item at the end of a section. -/
def appendTo {α : Type} (item : α) (items : Option (List α)) : Option (List α) :=
  some (items.getD [] ++ [item])

/-- Something added to a specification. -/
inductive Addition where
  /-- A filter. -/
  | filter (constraint : FieldConstraint)
  /-- A match. -/
  | matching (constraint : FieldConstraint)
  /-- A nested filter. -/
  | nestedFilter (constraint : NestedConstraint)
  /-- A nested match. -/
  | nestedMatching (constraint : NestedConstraint)
  /-- A sort key. -/
  | sort (key : SortKey)
  /-- A page, in place of the one before. -/
  | page (page : Page)
  /-- A raw option, in place of the value its key had before. -/
  | raw (key : String) (value : Json)

namespace RawOptions

/-- Set a raw option in a section that may be absent. -/
def setIn (key : String) (value : Json) (options : Option RawOptions) : Option RawOptions :=
  some ((options.getD .empty).set key value)

end RawOptions

/-- Add to a simple specification. -/
def SimpleSpec.add (spec : SimpleSpec) : Addition → SimpleSpec
  | .filter constraint => { spec with filters := appendTo constraint spec.filters }
  | .matching constraint => { spec with matching := appendTo constraint spec.matching }
  | .nestedFilter constraint =>
    { spec with nestedFilters := appendTo constraint spec.nestedFilters }
  | .nestedMatching constraint =>
    { spec with nestedMatching := appendTo constraint spec.nestedMatching }
  | .sort key => { spec with sorts := appendTo key spec.sorts }
  | .page page => { spec with page := some page }
  | .raw key value => { spec with raw := RawOptions.setIn key value spec.raw }

/-- Add to a relevance specification, which has no nested sections. -/
def RelevanceSpec.add (spec : RelevanceSpec) : Addition → RelevanceSpec
  | .filter constraint => { spec with filters := appendTo constraint spec.filters }
  | .matching constraint => { spec with matching := appendTo constraint spec.matching }
  | .nestedFilter _ | .nestedMatching _ => spec
  | .sort key => { spec with sorts := appendTo key spec.sorts }
  | .page page => { spec with page := some page }
  | .raw key value => { spec with raw := RawOptions.setIn key value spec.raw }

/-- Add to an aggregate specification, which has constraints alone. -/
def AggregateSpec.add (spec : AggregateSpec) : Addition → AggregateSpec
  | .filter constraint => { spec with filters := appendTo constraint spec.filters }
  | .matching constraint => { spec with matching := appendTo constraint spec.matching }
  | .nestedFilter _ | .nestedMatching _ | .sort _ | .page _ | .raw _ _ => spec

namespace SortKey

/-- Mark a key by the names of modes; of several markers the last stays. -/
def markNamed (key : SortKey) : List (String × String) → Except NameError SortKey
  | [] => .ok key
  | (path, mode) :: rest => do
    let mode ← SortMode.parse mode
    (key.mark path mode).markNamed rest

/-- The sort key of a field, with direction and markers given by name. -/
def ofNames (field order : String) (markers : List (String × String)) :
    Except NameError SortKey := do
  let order ← SortOrder.parse order
  (SortKey.plain field order).markNamed markers

end SortKey

/-- A step of building a specification. -/
inductive BuildStep where
  /-- Add something. -/
  | add (addition : Addition)
  /-- Add a sort key by names. -/
  | sort (field order : String) (markers : List (String × String))

namespace BuildStep

/-- What a step adds, unless a name in it stands for nothing. -/
def addition : BuildStep → Except NameError Addition
  | .add addition => .ok addition
  | .sort field order markers => (SortKey.ofNames field order markers).map .sort

/-- What the steps of a run add, without the steps that fail. -/
def additions (steps : List BuildStep) : List Addition :=
  steps.filterMap fun step => step.addition.toOption

end BuildStep

/-- Build on a simple specification; a step that fails changes nothing. -/
def SimpleSpec.build (spec : SimpleSpec) (steps : List BuildStep) : SimpleSpec :=
  (BuildStep.additions steps).foldl SimpleSpec.add spec

/-- Build on a relevance specification; a step that fails changes nothing. -/
def RelevanceSpec.build (spec : RelevanceSpec) (steps : List BuildStep) : RelevanceSpec :=
  (BuildStep.additions steps).foldl RelevanceSpec.add spec

/-- Build on an aggregate specification; a step that fails changes nothing. -/
def AggregateSpec.build (spec : AggregateSpec) (steps : List BuildStep) : AggregateSpec :=
  (BuildStep.additions steps).foldl AggregateSpec.add spec

end QueryAssembly
