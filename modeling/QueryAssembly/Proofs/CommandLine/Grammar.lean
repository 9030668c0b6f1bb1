import QueryAssembly.CommandLine
import Mathlib.Data.List.Induction
import Mathlib.Data.List.Nodup

/-!
# The grammar of the command line

A command line is flags, the name of a kind of specification, and what belongs to that kind: more
flags, the name of the specification and, for a relevance query, a filter mode, in any order, each
of them at most once on its side.  `Layout` holds these parts, `Layout.Spells` says which arguments
spell them and `Layout.Means` what they ask for.  The parser is shown to understand exactly the
command lines of this grammar, as what they mean.

The parser notes the parts one by one.  `Seen.Of` is what it knows after some of them; one step
keeps it, and the parts still to come cannot fail unless they break the grammar.
-/

namespace QueryAssembly

namespace Invocation

/-- A flag, which may stand on either side of the kind. -/
inductive Flag where
  /-- Print without gaps. -/
  | compact
  /-- Do not validate. -/
  | noValidate
deriving DecidableEq

namespace Flag

/-- The argument that gives a flag. -/
def text : Flag → String
  | .compact => "--compact"
  | .noValidate => "--no-validate"

end Flag

/-- A part of the command line after the kind. -/
inductive Part where
  /-- A flag. -/
  | flag (flag : Flag)
  /-- The specification, by name. -/
  | spec (name : String)
  /-- A filter mode. -/
  | mode (mode : FilterMode)
deriving DecidableEq

/-- The parts of which there is one at most. -/
inductive Slot where
  /-- A flag. -/
  | flag (flag : Flag)
  /-- The specification. -/
  | spec
  /-- The filter mode. -/
  | mode
deriving DecidableEq

namespace Part

/-- A filter mode belongs to a relevance query. -/
def Fits (kind : SpecKind) (part : Part) : Prop :=
  ∀ mode, part = .mode mode → kind = .relevance

/-- The place that a part takes. -/
def slot : Part → Slot
  | .flag given => .flag given
  | .spec _ => .spec
  | .mode _ => .mode

/-- Arguments spell a part.  A hyphen opens no name of a specification unless it is the whole name;
a filter mode goes by any of its names. -/
inductive Spells : Part → List String → Prop where
  /-- A flag is one argument. -/
  | flag (given : Flag) : Spells (.flag given) [given.text]
  /-- A specification is given by its name. -/
  | spec (name : String) (plain : name = "-" ∨ ¬ ['-'] <+: name.toList) :
    Spells (.spec name) [name]
  /-- A filter mode in an argument of its own. -/
  | modeApart (name : String) (mode : FilterMode) (named : FilterMode.parse name = .ok mode) :
    Spells (.mode mode) ["--filter-mode", name]
  /-- A filter mode in the same argument. -/
  | modeJoined (name : String) (mode : FilterMode) (named : FilterMode.parse name = .ok mode) :
    Spells (.mode mode) ["--filter-mode=" ++ name]

/-- Arguments spell parts one after another; after two hyphens alone there are only names. -/
inductive SpellsAll : List Part → List String → Prop where
  /-- Nothing is spelled by nothing. -/
  | nil : SpellsAll [] []
  /-- A part, and the others after it. -/
  | cons {part : Part} {texts : List String} {parts : List Part} {rest : List String}
    (spelled : part.Spells texts) (others : SpellsAll parts rest) :
    SpellsAll (part :: parts) (texts ++ rest)
  /-- The end of the options. -/
  | stop (names : List String) : SpellsAll (names.map .spec) ("--" :: names)

end Part

/-- A command line, taken apart. -/
structure Layout where
  /-- The flags before the kind. -/
  front : List Flag
  /-- The kind. -/
  kind : SpecKind
  /-- The parts after the kind. -/
  back : List Part

namespace Layout

/-- Arguments spell a command line. -/
def Spells (layout : Layout) (arguments : List String) : Prop :=
  ∃ rest, Part.SpellsAll layout.back rest ∧
    arguments = layout.front.map Flag.text ++ layout.kind.name :: rest

/-- Nothing stands twice on its side, and the parts belong to the kind. -/
structure WellFormed (layout : Layout) : Prop where
  front_once : layout.front.Nodup
  back_once : (layout.back.map Part.slot).Nodup
  fits : ∀ part ∈ layout.back, part.Fits layout.kind

/-- A flag stands on one side or the other. -/
def Flagged (layout : Layout) (flag : Flag) : Prop :=
  flag ∈ layout.front ∨ .flag flag ∈ layout.back

/-- What a command line asks for. -/
structure Means (layout : Layout) (invocation : Invocation) : Prop where
  kind : invocation.kind = layout.kind
  input : ∃ name, .spec name ∈ layout.back ∧ invocation.input = .ofArgument name
  compact : invocation.style = .compact ↔ layout.Flagged .compact
  validates : invocation.validates = false ↔ layout.Flagged .noValidate
  mode : ∀ mode, invocation.filterMode = some mode ↔ .mode mode ∈ layout.back

end Layout

/-- The arguments are a command line of the grammar, and ask for a run. -/
def GivenBy (invocation : Invocation) (arguments : List String) : Prop :=
  ∃ layout : Layout, layout.Spells arguments ∧ layout.WellFormed ∧ layout.Means invocation

/-! ### Flags -/

namespace Flags

/-- Whether a flag is seen. -/
def has (flags : Flags) : Flag → Bool
  | .compact => flags.compact
  | .noValidate => flags.noValidate

/-- The flags with one more. -/
def set (flags : Flags) : Flag → Flags
  | .compact => { flags with compact := true }
  | .noValidate => { flags with noValidate := true }

theorem ext_has {left right : Flags} (same : ∀ flag, left.has flag = right.has flag) :
    left = right := by
  obtain ⟨compact, noValidate⟩ := left
  obtain ⟨compact', noValidate'⟩ := right
  have sameCompact : compact = compact' := same .compact
  have sameNoValidate : noValidate = noValidate' := same .noValidate
  rw [sameCompact, sameNoValidate]

@[simp] theorem has_none (flag : Flag) : Flags.none.has flag = false := by
  cases flag <;> rfl

@[simp] theorem has_merge (left right : Flags) (flag : Flag) :
    (left.merge right).has flag = (left.has flag || right.has flag) := by
  cases flag <;> rfl

theorem has_set (flags : Flags) (flag other : Flag) :
    (flags.set flag).has other = true ↔ flags.has other = true ∨ other = flag := by
  cases flag <;> cases other <;> simp [set, has]

theorem note?_eq_some_iff {flags noted : Flags} {argument : String} :
    flags.note? argument = some noted ↔
      ∃ flag : Flag, argument = flag.text ∧ flags.has flag = false ∧ noted = flags.set flag := by
  constructor
  · intro step
    unfold note? at step
    split at step
    next is =>
      exact ⟨.compact, is.1, is.2, (Option.some.inj step).symm⟩
    next =>
      split at step
      next is => exact ⟨.noValidate, is.1, is.2, (Option.some.inj step).symm⟩
      next => cases step
  · rintro ⟨flag, rfl, fresh, rfl⟩
    cases flag <;> simp_all [note?, Flag.text, has, set]

/-- A flag is noted unless it is seen already. -/
theorem note?_text (flags : Flags) (flag : Flag) :
    flags.note? flag.text = if flags.has flag then Option.none else some (flags.set flag) := by
  cases flag <;> cases seen : flags.compact <;> cases seen' : flags.noValidate <;>
    simp [note?, Flag.text, has, set, seen, seen']

/-- What is seen after some flags. -/
structure Of (flags : Flags) (front : List Flag) : Prop where
  once : front.Nodup
  has_iff : ∀ flag, flags.has flag = true ↔ flag ∈ front

theorem of_none : Flags.none.Of [] :=
  ⟨List.nodup_nil, by simp⟩

theorem Of.set {flags : Flags} {front : List Flag} (known : flags.Of front) {flag : Flag}
    (fresh : flags.has flag = false) : (flags.set flag).Of (front ++ [flag]) := by
  have apart : flag ∉ front := by
    rw [← known.has_iff, fresh]
    exact Bool.false_ne_true
  constructor
  · rw [← List.concat_eq_append]
    exact known.once.concat apart
  · intro other
    rw [has_set, known.has_iff, List.mem_append, List.mem_singleton]

end Flags

/-! ### The parts after the kind -/

namespace Seen

/-- Whether a place is taken. -/
def taken (seen : Seen) : Slot → Bool
  | .flag flag => seen.flags.has flag
  | .spec => seen.spec.isSome
  | .mode => seen.filterMode.isSome

/-- What is seen with a part more. -/
def fill (seen : Seen) : Part → Seen
  | .flag flag => { seen with flags := seen.flags.set flag }
  | .spec name => { seen with spec := some name }
  | .mode mode => { seen with filterMode := some mode }

/-- Note a part. -/
def note? (kind : SpecKind) (seen : Seen) : Part → Option Seen
  | .flag flag => (seen.flags.note? flag.text).map fun flags => { seen with flags := flags }
  | .spec name => seen.noteSpec? name
  | .mode mode => seen.noteMode? kind mode.name

theorem noteMode?_of_parse {kind : SpecKind} {seen : Seen} {name : String} {mode : FilterMode}
    (named : FilterMode.parse name = .ok mode) :
    seen.noteMode? kind name = seen.note? kind (.mode mode) := by
  simp only [note?, noteMode?, named, FilterMode.parse_name]

/-- A filter mode that is noted has a name. -/
theorem exists_parse_of_noteMode? {kind : SpecKind} {seen noted : Seen} {name : String}
    (step : seen.noteMode? kind name = some noted) :
    ∃ mode, FilterMode.parse name = .ok mode := by
  cases parsed : FilterMode.parse name with
  | ok mode => exact ⟨mode, rfl⟩
  | error error => simp [noteMode?, parsed, Except.toOption] at step

/-- A part is noted exactly when it belongs to the kind and its place is free. -/
theorem note?_eq_some_iff {kind : SpecKind} {seen noted : Seen} {part : Part} :
    seen.note? kind part = some noted ↔
      (part.Fits kind ∧ seen.taken part.slot = false) ∧ noted = seen.fill part := by
  cases part with
  | flag flag =>
    simp only [note?, Flags.note?_text, Part.Fits, Part.slot, taken, fill]
    cases seen.flags.has flag <;> simp [eq_comm]
  | spec name =>
    simp only [note?, noteSpec?, Part.Fits, Part.slot, taken, fill]
    cases seen.spec <;> simp [eq_comm]
  | mode mode =>
    simp only [note?, noteMode?, FilterMode.parse_name, Except.toOption, Part.Fits, Part.slot,
      taken, fill]
    cases kind <;> cases seen.filterMode <;> simp [eq_comm]

/-- What is seen after some parts. -/
structure Of (kind : SpecKind) (seen : Seen) (parts : List Part) : Prop where
  once : (parts.map Part.slot).Nodup
  fits : ∀ part ∈ parts, part.Fits kind
  flag : ∀ flag, seen.flags.has flag = true ↔ .flag flag ∈ parts
  spec : ∀ name, seen.spec = some name ↔ .spec name ∈ parts
  mode : ∀ mode, seen.filterMode = some mode ↔ .mode mode ∈ parts

variable {kind : SpecKind} {seen noted : Seen} {parts : List Part} {part : Part}

theorem of_start : Seen.start.Of kind [] := by
  constructor <;> simp [start]

/-- The parts determine what is seen. -/
theorem Of.unique {other : Seen} (known : seen.Of kind parts) (known' : other.Of kind parts) :
    seen = other := by
  have flags : seen.flags = other.flags := by
    apply Flags.ext_has
    intro flag
    rw [Bool.eq_iff_iff, known.flag, known'.flag]
  have spec : seen.spec = other.spec := by
    apply Option.ext
    intro name
    rw [known.spec, known'.spec]
  have mode : seen.filterMode = other.filterMode := by
    apply Option.ext
    intro mode
    rw [known.mode, known'.mode]
  obtain ⟨_, _, _⟩ := seen
  obtain ⟨_, _, _⟩ := other
  cases flags
  cases spec
  cases mode
  rfl

/-- The places that are taken are those of the parts. -/
theorem Of.taken_iff (known : seen.Of kind parts) (slot : Slot) :
    seen.taken slot = true ↔ slot ∈ parts.map Part.slot := by
  rw [List.mem_map]
  cases slot with
  | flag flag =>
    rw [taken, known.flag]
    constructor
    · exact fun inside => ⟨_, inside, rfl⟩
    · rintro ⟨part, inside, same⟩
      cases part <;> cases same
      exact inside
  | spec =>
    rw [taken, Option.isSome_iff_exists]
    constructor
    · rintro ⟨name, given⟩
      exact ⟨_, (known.spec name).mp given, rfl⟩
    · rintro ⟨part, inside, same⟩
      cases part <;> cases same
      exact ⟨_, (known.spec _).mpr inside⟩
  | mode =>
    rw [taken, Option.isSome_iff_exists]
    constructor
    · rintro ⟨mode, given⟩
      exact ⟨_, (known.mode mode).mp given, rfl⟩
    · rintro ⟨part, inside, same⟩
      cases part <;> cases same
      exact ⟨_, (known.mode _).mpr inside⟩

/-- A part that is noted joins the others. -/
theorem Of.note (known : seen.Of kind parts) (step : seen.note? kind part = some noted) :
    noted.Of kind (parts ++ [part]) := by
  obtain ⟨⟨fits, free⟩, rfl⟩ := note?_eq_some_iff.mp step
  have apart : part.slot ∉ parts.map Part.slot := by
    rw [← known.taken_iff, free]
    exact Bool.false_ne_true
  have once : ((parts ++ [part]).map Part.slot).Nodup := by
    rw [List.map_append, List.map_singleton, ← List.concat_eq_append]
    exact known.once.concat apart
  have fitsAll : ∀ other ∈ parts ++ [part], other.Fits kind := by
    intro other inside
    rcases List.mem_append.mp inside with inside | inside
    · exact known.fits other inside
    · rwa [List.mem_singleton.mp inside]
  cases part with
  | flag flag =>
    refine ⟨once, fitsAll, ?_, ?_, ?_⟩
    · simp [fill, Flags.has_set, known.flag]
    · simpa [fill] using known.spec
    · simpa [fill] using known.mode
  | spec name =>
    have without : ∀ other, .spec other ∉ parts :=
      fun other inside => apart (List.mem_map.mpr ⟨.spec other, inside, rfl⟩)
    refine ⟨once, fitsAll, ?_, ?_, ?_⟩
    · simpa [fill] using known.flag
    · simp [fill, without, eq_comm]
    · simpa [fill] using known.mode
  | mode mode =>
    have without : ∀ other, .mode other ∉ parts :=
      fun other inside => apart (List.mem_map.mpr ⟨.mode other, inside, rfl⟩)
    refine ⟨once, fitsAll, ?_, ?_, ?_⟩
    · simpa [fill] using known.flag
    · simpa [fill] using known.spec
    · simp [fill, without, eq_comm]

/-- A part that is in order together with those before it can be noted. -/
theorem Of.note_fill (known : seen.Of kind parts) (fits : part.Fits kind)
    (once : ((parts ++ [part]).map Part.slot).Nodup) :
    seen.note? kind part = some (seen.fill part) := by
  rw [List.map_append, List.map_singleton, ← List.concat_eq_append, List.nodup_concat] at once
  have free : seen.taken part.slot = false := by
    rw [← Bool.not_eq_true, known.taken_iff]
    exact once.1
  exact note?_eq_some_iff.mpr ⟨⟨fits, free⟩, rfl⟩

/-- Parts in order amount to something. -/
theorem exists_of (once : (parts.map Part.slot).Nodup) (fits : ∀ part ∈ parts, part.Fits kind) :
    ∃ seen : Seen, seen.Of kind parts := by
  induction parts using List.reverseRecOn with
  | nil => exact ⟨.start, of_start⟩
  | append_singleton parts part ih =>
    have onceBefore : (parts.map Part.slot).Nodup := by
      rw [List.map_append] at once
      exact once.of_append_left
    obtain ⟨seen, known⟩ :=
      ih onceBefore fun other inside => fits other (List.mem_append_left _ inside)
    exact ⟨_, known.note (known.note_fill (fits part (by simp)) once)⟩

/-- Noting parts one after another succeeds exactly when all of them together are in order. -/
theorem Of.foldlM_iff {before : List Part} (known : seen.Of kind before) :
    parts.foldlM (note? kind) seen = some noted ↔ noted.Of kind (before ++ parts) := by
  induction parts generalizing seen before with
  | nil =>
    rw [List.foldlM_nil, List.append_nil]
    constructor
    · intro same
      cases same
      exact known
    · exact fun known' => congrArg some (known.unique known')
  | cons part parts ih =>
    have together : before ++ part :: parts = (before ++ [part]) ++ parts := by simp
    rw [List.foldlM_cons]
    constructor
    · intro steps
      obtain ⟨middle, step, rest⟩ := Option.bind_eq_some_iff.mp steps
      rw [together]
      exact (ih (known.note step)).mp rest
    · intro known'
      have once : ((before ++ [part]).map Part.slot).Nodup := by
        have once := known'.once
        rw [together, List.map_append] at once
        exact once.of_append_left
      have step := known.note_fill (known'.fits part (by simp)) once
      apply Option.bind_eq_some_iff.mpr
      refine ⟨_, step, (ih (known.note step)).mpr ?_⟩
      rwa [← together]

end Seen

/-! ### The parser -/

theorem toList_option (name : String) :
    ("--filter-mode=" ++ name).toList = modeOption ++ name.toList :=
  String.toList_append

theorem isPrefixOf_modeOption (name : String) :
    modeOption.isPrefixOf ("--filter-mode=" ++ name).toList = true := by
  rw [List.isPrefixOf_iff_prefix, toList_option]
  exact List.prefix_append _ _

theorem drop_modeOption (name : String) :
    String.ofList (("--filter-mode=" ++ name).toList.drop modeOption.length) = name := by
  rw [toList_option, List.drop_left, String.ofList_toList]

theorem eq_append_of_isPrefixOf {argument : String}
    (opens : modeOption.isPrefixOf argument.toList = true) :
    argument = "--filter-mode=" ++ String.ofList (argument.toList.drop modeOption.length) := by
  obtain ⟨rest, split⟩ := List.isPrefixOf_iff_prefix.mp opens
  apply String.toList_injective
  rw [toList_option, String.toList_ofList, ← split, List.drop_left]

/-- The names after the end of the options are noted one by one. -/
theorem parsePlain_eq (kind : SpecKind) (seen : Seen) (names : List String) :
    parsePlain seen names = (names.map Part.spec).foldlM (Seen.note? kind) seen := by
  induction names generalizing seen with
  | nil => rfl
  | cons name names ih =>
    rw [List.map_cons, List.foldlM_cons, parsePlain]
    exact congrArg _ (funext ih)

/-- An argument that starts with a hyphen, and is more than that, is an option. -/
def IsOption (argument : String) : Prop :=
  argument ≠ "-" ∧ ['-'] <+: argument.toList

theorem isOption_iff {argument : String} :
    IsOption argument ↔ argument ≠ "-" ∧ ['-'].isPrefixOf argument.toList = true := by
  rw [List.isPrefixOf_iff_prefix, IsOption]

theorem isOption_text (flag : Flag) : IsOption flag.text := by
  cases flag <;> exact ⟨by decide, by decide⟩

theorem isOption_of_isPrefixOf {argument : String}
    (opens : modeOption.isPrefixOf argument.toList = true) : IsOption argument := by
  obtain ⟨rest, split⟩ := List.isPrefixOf_iff_prefix.mp opens
  have hyphen : ['-'] <+: modeOption := by decide
  constructor
  · rintro rfl
    have short : (modeOption ++ rest).length = 1 := congrArg List.length split
    have long : modeOption.length = 14 := by decide
    rw [List.length_append] at short
    omega
  · exact hyphen.trans ⟨rest, split⟩

theorem not_isOption_iff {name : String} :
    ¬ IsOption name ↔ name = "-" ∨ ¬ ['-'] <+: name.toList := by
  unfold IsOption
  tauto

/-- Note the part that a single argument spells, if it spells one. -/
def noteArgument? (kind : SpecKind) (seen : Seen) (argument : String) : Option Seen :=
  if modeOption.isPrefixOf argument.toList then
    seen.noteMode? kind (String.ofList (argument.toList.drop modeOption.length))
  else
    match seen.flags.note? argument with
    | some flags => some { seen with flags := flags }
    | none =>
      if argument ≠ "-" ∧ ['-'].isPrefixOf argument.toList then none
      else seen.noteSpec? argument

theorem parseRest_cons {kind : SpecKind} {seen : Seen} {argument : String} {rest : List String}
    (goesOn : argument ≠ "--") (alone : argument ≠ "--filter-mode") :
    parseRest kind seen (argument :: rest) =
      (noteArgument? kind seen argument).bind fun noted => parseRest kind noted rest := by
  rw [parseRest.eq_5 kind seen argument rest goesOn (fun same _ => alone same)
    (fun _ _ same _ => alone same), noteArgument?]
  by_cases opens : modeOption.isPrefixOf argument.toList = true
  · rw [if_pos opens, if_pos opens]
    rfl
  · rw [if_neg opens, if_neg opens]
    cases seen.flags.note? argument with
    | some flags => rfl
    | none =>
      dsimp only
      split <;> rfl

/-- What is noted for a single argument is a part that it spells. -/
theorem exists_spells_of_noteArgument? {kind : SpecKind} {seen noted : Seen} {argument : String}
    (step : noteArgument? kind seen argument = some noted) :
    ∃ part : Part, part.Spells [argument] ∧ seen.note? kind part = some noted := by
  unfold noteArgument? at step
  split at step
  next opens =>
    obtain ⟨mode, named⟩ := Seen.exists_parse_of_noteMode? step
    rw [eq_append_of_isPrefixOf opens]
    refine ⟨.mode mode, .modeJoined _ mode named, ?_⟩
    rw [← Seen.noteMode?_of_parse named, step]
  next =>
    split at step
    next flags noting =>
      obtain ⟨flag, rfl, -, -⟩ := Flags.note?_eq_some_iff.mp noting
      refine ⟨.flag flag, .flag flag, ?_⟩
      rw [Seen.note?, noting, ← step]
      rfl
    next =>
      split at step
      next => cases step
      next plain =>
        rw [← isOption_iff, not_isOption_iff] at plain
        exact ⟨.spec argument, .spec argument plain, step⟩

/-- A single argument is noted as the part that it spells. -/
theorem noteArgument?_of_spells {kind : SpecKind} {argument : String} {part : Part}
    (spelled : part.Spells [argument]) (seen : Seen) :
    noteArgument? kind seen argument = seen.note? kind part := by
  unfold noteArgument?
  cases spelled with
  | modeJoined name mode named =>
    rw [if_pos (isPrefixOf_modeOption name), drop_modeOption, Seen.noteMode?_of_parse named]
  | flag flag =>
    have apart : ¬ modeOption.isPrefixOf flag.text.toList = true := by cases flag <;> decide
    rw [if_neg apart, if_pos (isOption_iff.mp (isOption_text flag)), Seen.note?]
    cases seen.flags.note? flag.text <;> rfl
  | spec name plain =>
    have plain := not_isOption_iff.mpr plain
    have apart : ¬ modeOption.isPrefixOf argument.toList = true :=
      fun opens => plain (isOption_of_isPrefixOf opens)
    have noFlag : seen.flags.note? argument = none := by
      rw [← Option.not_isSome_iff_eq_none, Option.isSome_iff_exists]
      rintro ⟨flags, noting⟩
      obtain ⟨flag, rfl, -, -⟩ := Flags.note?_eq_some_iff.mp noting
      exact plain (isOption_text flag)
    rw [if_neg apart, noFlag]
    exact if_neg (isOption_iff.not.mp plain)

/-- A part is spelled by one argument, or a filter mode by two. -/
theorem Part.Spells.cases_length {part : Part} {texts : List String} (spelled : part.Spells texts) :
    (∃ argument, texts = [argument] ∧ argument ≠ "--" ∧ argument ≠ "--filter-mode") ∨
      ∃ name mode, texts = ["--filter-mode", name] ∧ part = .mode mode ∧
        FilterMode.parse name = .ok mode := by
  cases spelled with
  | flag flag =>
    left
    refine ⟨_, rfl, ?_⟩
    cases flag <;> decide
  | spec name plain =>
    left
    refine ⟨_, rfl, ?_⟩
    constructor <;> rintro rfl <;> revert plain <;> decide
  | modeApart name mode named => exact Or.inr ⟨name, mode, rfl, rfl, named⟩
  | modeJoined name mode named =>
    left
    have longer : 14 ≤ ("--filter-mode=" ++ name).toList.length := by
      rw [toList_option, List.length_append]
      exact Nat.le_add_right 14 _
    refine ⟨_, rfl, ?_⟩
    constructor <;> intro same <;> rw [same] at longer <;> revert longer <;> decide

/-- What the parser understands after a kind is spelled by parts. -/
theorem exists_spellsAll_of_parseRest {kind : SpecKind} {result : Seen} (arguments : List String)
    (seen : Seen) (parsed : parseRest kind seen arguments = some result) :
    ∃ parts, Part.SpellsAll parts arguments ∧
      parts.foldlM (Seen.note? kind) seen = some result := by
  match arguments with
  | [] => exact ⟨[], .nil, parsed⟩
  | argument :: rest =>
    by_cases stop : argument = "--"
    · subst stop
      rw [parseRest.eq_2, parsePlain_eq kind] at parsed
      exact ⟨_, .stop rest, parsed⟩
    by_cases alone : argument = "--filter-mode"
    · subst alone
      match rest with
      | [] =>
        rw [parseRest.eq_3] at parsed
        cases parsed
      | name :: rest =>
        rw [parseRest.eq_4] at parsed
        obtain ⟨middle, step, parsed⟩ := Option.bind_eq_some_iff.mp parsed
        obtain ⟨mode, named⟩ := Seen.exists_parse_of_noteMode? step
        rw [Seen.noteMode?_of_parse named] at step
        obtain ⟨parts, spelled, folded⟩ := exists_spellsAll_of_parseRest rest middle parsed
        refine ⟨.mode mode :: parts, .cons (.modeApart name mode named) spelled, ?_⟩
        rw [List.foldlM_cons, step]
        exact folded
    · rw [parseRest_cons stop alone] at parsed
      obtain ⟨middle, step, parsed⟩ := Option.bind_eq_some_iff.mp parsed
      obtain ⟨part, spells, step⟩ := exists_spells_of_noteArgument? step
      obtain ⟨parts, spelled, folded⟩ := exists_spellsAll_of_parseRest rest middle parsed
      refine ⟨part :: parts, .cons spells spelled, ?_⟩
      rw [List.foldlM_cons, step]
      exact folded

/-- Arguments that spell parts are understood as these, if they can be noted one after another. -/
theorem parseRest_of_spellsAll {kind : SpecKind} {seen result : Seen} {parts : List Part}
    {arguments : List String} (spelled : Part.SpellsAll parts arguments)
    (folded : parts.foldlM (Seen.note? kind) seen = some result) :
    parseRest kind seen arguments = some result := by
  induction spelled generalizing seen with
  | nil => exact folded
  | stop names => rwa [parseRest.eq_2, parsePlain_eq kind]
  | cons spelled others ih =>
    rw [List.foldlM_cons] at folded
    obtain ⟨middle, step, steps⟩ := Option.bind_eq_some_iff.mp folded
    have rest := ih steps
    rcases spelled.cases_length with
      ⟨argument, rfl, goesOn, alone⟩ | ⟨name, mode, rfl, rfl, named⟩
    · rw [List.singleton_append, parseRest_cons goesOn alone, noteArgument?_of_spells spelled,
        step]
      exact rest
    · rw [← Seen.noteMode?_of_parse named] at step
      rw [List.cons_append, List.singleton_append, parseRest.eq_4, step]
      exact rest

/-- What the parser sees after a kind is what the parts there amount to. -/
theorem parseRest_eq_some_iff {kind : SpecKind} {result : Seen} {arguments : List String} :
    parseRest kind .start arguments = some result ↔
      ∃ parts, Part.SpellsAll parts arguments ∧ result.Of kind parts := by
  constructor
  · intro parsed
    obtain ⟨parts, spelled, folded⟩ := exists_spellsAll_of_parseRest arguments .start parsed
    exact ⟨parts, spelled, Seen.of_start.foldlM_iff.mp folded⟩
  · rintro ⟨parts, spelled, known⟩
    exact parseRest_of_spellsAll spelled (Seen.of_start.foldlM_iff.mpr known)

/-- The invocation of which the flags before the kind and what comes after it are seen. -/
def assemble (flags : Flags) (kind : SpecKind) (seen : Seen) (spec : String) : Invocation where
  kind := kind
  input := .ofArgument spec
  style := if (flags.merge seen.flags).compact then .compact else .pretty
  validates := !(flags.merge seen.flags).noValidate
  filterMode := seen.filterMode

theorem ofName?_eq_some_iff {given : String} {kind : SpecKind} :
    SpecKind.ofName? given = some kind ↔ given = kind.name := by
  constructor
  · intro known
    unfold SpecKind.ofName? at known
    split_ifs at known with simple relevance aggregate <;> cases known <;> assumption
  · rintro rfl
    exact SpecKind.ofName?_name kind

theorem note?_name (flags : Flags) (kind : SpecKind) : flags.note? kind.name = none := by
  rw [← Option.not_isSome_iff_eq_none, Option.isSome_iff_exists]
  rintro ⟨noted, noting⟩
  obtain ⟨flag, same, -, -⟩ := Flags.note?_eq_some_iff.mp noting
  revert same
  cases flag <;> cases kind <;> decide

theorem parseFrom_text {flags : Flags} {flag : Flag} (fresh : flags.has flag = false)
    (rest : List String) :
    parseFrom flags (flag.text :: rest) = parseFrom (flags.set flag) rest := by
  rw [parseFrom, Flags.note?_text, fresh]
  rfl

theorem parseFrom_name {flags : Flags} {kind : SpecKind} {rest : List String}
    {invocation : Invocation} :
    parseFrom flags (kind.name :: rest) = some invocation ↔
      ∃ seen, parseRest kind .start rest = some seen ∧
        ∃ spec, seen.spec = some spec ∧ invocation = assemble flags kind seen spec := by
  rw [parseFrom, note?_name, SpecKind.ofName?_name]
  simp only [Option.bind_eq_bind, Option.bind_some, Option.bind_eq_some_iff, Option.pure_def,
    Option.some.injEq]
  simp only [assemble, eq_comm]

/-- The parser notes the flags up to the kind, and then what comes after it. -/
theorem exists_front_of_parseFrom {flags : Flags} {before : List Flag} (known : flags.Of before)
    {arguments : List String} {invocation : Invocation}
    (parsed : parseFrom flags arguments = some invocation) :
    ∃ (front : List Flag) (kind : SpecKind) (rest : List String) (all : Flags),
      arguments = front.map Flag.text ++ kind.name :: rest ∧
      all.Of (before ++ front) ∧ parseFrom all (kind.name :: rest) = some invocation := by
  induction arguments generalizing flags before with
  | nil => cases parsed
  | cons argument rest ih =>
    cases noting : flags.note? argument with
    | some noted =>
      obtain ⟨flag, rfl, fresh, rfl⟩ := Flags.note?_eq_some_iff.mp noting
      rw [parseFrom_text fresh] at parsed
      obtain ⟨front, kind, rest, all, rfl, known', parsed⟩ := ih (known.set fresh) parsed
      refine ⟨flag :: front, kind, rest, all, rfl, ?_, parsed⟩
      rwa [List.append_assoc] at known'
    | none =>
      have parsed' := parsed
      rw [parseFrom, noting] at parsed'
      obtain ⟨kind, named, -⟩ := Option.bind_eq_some_iff.mp parsed'
      rw [ofName?_eq_some_iff] at named
      subst named
      refine ⟨[], kind, rest, flags, rfl, ?_, parsed⟩
      rwa [List.append_nil]

/-- The flags before the kind are noted when none of them stands twice. -/
theorem parseFrom_front {flags : Flags} {before front : List Flag} (known : flags.Of before)
    (once : (before ++ front).Nodup) (rest : List String) :
    ∃ all, Flags.Of all (before ++ front) ∧
      parseFrom flags (front.map Flag.text ++ rest) = parseFrom all rest := by
  induction front generalizing flags before with
  | nil =>
    refine ⟨flags, ?_, rfl⟩
    rwa [List.append_nil]
  | cons flag front ih =>
    have fresh : flags.has flag = false := by
      rw [← Bool.not_eq_true, known.has_iff]
      exact fun inside => (List.nodup_append.mp once).2.2 _ inside _ List.mem_cons_self rfl
    have together : before ++ flag :: front = (before ++ [flag]) ++ front := by simp
    rw [together] at once ⊢
    obtain ⟨all, known', parsed⟩ := ih (known.set fresh) once
    refine ⟨all, known', ?_⟩
    rw [List.map_cons, List.cons_append, parseFrom_text fresh, parsed]

/-- A flag that is seen on either side is one that the command line has. -/
theorem flagged_iff {flags : Flags} {front : List Flag} {kind : SpecKind} {seen : Seen}
    {back : List Part} (knownFront : flags.Of front) (knownBack : seen.Of kind back)
    (flag : Flag) :
    (flags.merge seen.flags).has flag = true ↔ Layout.Flagged ⟨front, kind, back⟩ flag := by
  rw [Flags.has_merge, Bool.or_eq_true, knownFront.has_iff, knownBack.flag]
  rfl

/-- What the parser assembles is what the command line asks for, and nothing else is. -/
theorem means_iff {flags : Flags} {front : List Flag} {kind : SpecKind} {seen : Seen}
    {back : List Part} (knownFront : flags.Of front) (knownBack : seen.Of kind back)
    {invocation : Invocation} :
    Layout.Means ⟨front, kind, back⟩ invocation ↔
      ∃ spec, seen.spec = some spec ∧ invocation = assemble flags kind seen spec := by
  have compact : (flags.merge seen.flags).compact = true ↔
      Layout.Flagged ⟨front, kind, back⟩ .compact :=
    flagged_iff knownFront knownBack .compact
  have noValidate : (flags.merge seen.flags).noValidate = true ↔
      Layout.Flagged ⟨front, kind, back⟩ .noValidate :=
    flagged_iff knownFront knownBack .noValidate
  constructor
  · intro means
    obtain ⟨spec, inside, input⟩ := means.input
    refine ⟨spec, (knownBack.spec spec).mpr inside, ?_⟩
    have style : invocation.style =
        if (flags.merge seen.flags).compact then .compact else .pretty := by
      have same := means.compact.trans compact.symm
      cases printed : invocation.style <;> simp_all
    have validates : invocation.validates = !(flags.merge seen.flags).noValidate := by
      have same := means.validates.trans noValidate.symm
      cases printed : invocation.validates <;> simp_all
    have filterMode : invocation.filterMode = seen.filterMode := by
      apply Option.ext
      intro mode
      rw [means.mode, knownBack.mode]
    obtain ⟨_, _, _, _, _⟩ := invocation
    cases means.kind
    cases input
    cases style
    cases validates
    cases filterMode
    rfl
  · rintro ⟨spec, given, rfl⟩
    refine ⟨rfl, ⟨spec, (knownBack.spec spec).mp given, rfl⟩, ?_, ?_, knownBack.mode⟩
    · rw [← compact, assemble]
      cases (flags.merge seen.flags).compact <;> simp
    · rw [← noValidate, assemble]
      cases (flags.merge seen.flags).noValidate <;> simp

/-- The parser understands exactly the command lines of the grammar, as what they mean. -/
theorem parse_eq_some_iff {arguments : List String} {invocation : Invocation} :
    parse arguments = some invocation ↔ invocation.GivenBy arguments := by
  constructor
  · intro parsed
    obtain ⟨front, kind, rest, flags, rfl, knownFront, parsed⟩ :=
      exists_front_of_parseFrom Flags.of_none parsed
    obtain ⟨seen, parsed, assembled⟩ := parseFrom_name.mp parsed
    obtain ⟨back, spelled, knownBack⟩ := parseRest_eq_some_iff.mp parsed
    refine ⟨⟨front, kind, back⟩, ⟨rest, spelled, rfl⟩, ?_, ?_⟩
    · exact ⟨knownFront.once, knownBack.once, knownBack.fits⟩
    · exact (means_iff knownFront knownBack).mpr assembled
  · rintro ⟨⟨front, kind, back⟩, ⟨rest, spelled, rfl⟩, formed, means⟩
    obtain ⟨flags, knownFront, parsed⟩ :=
      parseFrom_front Flags.of_none formed.front_once (kind.name :: rest)
    obtain ⟨seen, knownBack⟩ := Seen.exists_of formed.back_once formed.fits
    rw [parse, parsed, parseFrom_name]
    exact ⟨seen, parseRest_eq_some_iff.mpr ⟨back, spelled, knownBack⟩,
      (means_iff knownFront knownBack).mp means⟩

end Invocation

end QueryAssembly
