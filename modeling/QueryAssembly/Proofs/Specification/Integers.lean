import QueryAssembly.Proofs.Json.Integers
import QueryAssembly.Proofs.Shape.Embedding
import QueryAssembly.Proofs.Specification.Places

/-!
# Integers pass through a specification

In the place of a count an integer literal is accepted exactly when it has no minus sign and fits
the count, and in the place of a scalar it is accepted wherever another scalar is.  A literal that a
number holds is printed in the request with its own characters, in the place that
`SpecKind.CountPlace` or `Clause.operandPath` names (`Specification.integers_pass_through`).
-/

namespace QueryAssembly

open Json (Script ListEnd IntegerLiteral)

open Reading

/-! ### Readers -/

namespace Reading

theorem readCount_number_ok_iff {number : Except Json.Fault Json.Number} {count : UInt64} :
    readCount (.number number) = .ok count ↔ number = .ok (.ofUInt64 count) := by
  rcases number with fault | ⟨value, lower, upper⟩ | real
  · simp [readCount]
  · have bounded := count.toNat_lt
    by_cases fits : 0 ≤ value ∧ value.toNat < 0x10000000000000000
    · simp only [readCount, fits, and_self, ↓reduceDIte, Except.ok.injEq, Json.Number.ofUInt64,
        Json.Number.integer.injEq, ← UInt64.toNat_inj, UInt64.toNat_ofNatLT]
      omega
    · simp only [readCount, fits, ↓reduceDIte, reduceCtorEq, Except.ok.injEq, Json.Number.ofUInt64,
        Json.Number.integer.injEq, false_iff]
      omega
  · simp [readCount, Json.Number.ofUInt64]

theorem readSmallCount_number_ok_iff {number : Except Json.Fault Json.Number} {count : UInt32} :
    readSmallCount (.number number) = .ok count ↔ number = .ok (.ofUInt32 count) := by
  rcases number with fault | ⟨value, lower, upper⟩ | real
  · simp [readSmallCount]
  · have bounded := count.toNat_lt
    by_cases fits : 0 ≤ value ∧ value.toNat < 0x100000000
    · simp only [readSmallCount, fits, and_self, ↓reduceDIte, Except.ok.injEq,
        Json.Number.ofUInt32, Json.Number.integer.injEq, ← UInt32.toNat_inj, UInt32.toNat_ofNatLT]
      omega
    · simp only [readSmallCount, fits, ↓reduceDIte, reduceCtorEq, Except.ok.injEq,
        Json.Number.ofUInt32, Json.Number.integer.injEq, false_iff]
      omega
  · simp [readSmallCount, Json.Number.ofUInt32]

end Reading

namespace Json.IntegerLiteral

variable (literal : IntegerLiteral)

theorem exists_readCount_iff :
    (∃ count, readCount literal.script = .ok count) ↔
      literal.negative = false ∧ literal.magnitude < 0x10000000000000000 := by
  simp only [script, readCount_number_ok_iff, Number.ofUInt64, number_eq_natural_iff]
  constructor
  · rintro ⟨count, positive, same⟩
    exact ⟨positive, same ▸ count.toNat_lt⟩
  · rintro ⟨positive, bound⟩
    exact ⟨.ofNatLT literal.magnitude bound, positive, (UInt64.toNat_ofNatLT ..).symm⟩

theorem exists_readSmallCount_iff :
    (∃ count, readSmallCount literal.script = .ok count) ↔
      literal.negative = false ∧ literal.magnitude < 0x100000000 := by
  simp only [script, readSmallCount_number_ok_iff, Number.ofUInt32, number_eq_natural_iff]
  constructor
  · rintro ⟨count, positive, same⟩
    exact ⟨positive, same ▸ count.toNat_lt⟩
  · rintro ⟨positive, bound⟩
    exact ⟨.ofNatLT literal.magnitude bound, positive, (UInt32.toNat_ofNatLT ..).symm⟩

/-- The part at a path is printed with the characters of a literal, in whatever style and place. -/
def PrintedAt (json : Json) (path : List Step) : Prop :=
  ∃ part, json.at? path = some part ∧ ∀ style depth, part.print style depth = literal.characters

theorem printedAt_of_integer {json : Json} {path : List Step} {value : Int}
    {lower : -0x8000000000000000 ≤ value} {upper : value < 0x10000000000000000}
    (held : literal.number = .ok (.integer value lower upper))
    (found : json.at? path = some (.number (.integer value lower upper))) :
    literal.PrintedAt json path :=
  ⟨_, found, fun _ _ => literal.characters_of_integer held⟩

end Json.IntegerLiteral

/-! ### Texts of a specification -/

namespace Specification

variable {α : Type} {part : Shape α} {kind : SpecKind} {frame : Frame part kind.type.shape}
  {script : Script} {text : String}

theorem exists_readText_iff (written : (frame.fill script).WrittenAs text) :
    (∃ spec, readText kind text = .ok spec) ↔ frame.Accepts script := by
  simp only [readText_ok_iff, Shape.readText_of_writtenAs _ written, Frame.Accepts]
  constructor
  · rintro ⟨spec, value, read, -⟩
    exact ⟨value, read⟩
  · rintro ⟨value, read⟩
    exact ⟨ofValue kind value, value, read, rfl⟩

/-- What a specification reads in a place is written in that place. -/
theorem exists_at?_toJson (written : (frame.fill script).WrittenAs text)
    (present : script ≠ .null) {spec : Specification} (read : readText kind text = .ok spec) :
    spec.kind = kind ∧ ∃ inside held, part.read inside script = .ok held ∧
      spec.toJson.at? frame.path = some (part.write held) := by
  obtain ⟨value, accepted, rfl⟩ := readText_ok_iff.mp read
  rw [Shape.readText_of_writtenAs _ written] at accepted
  rw [kind_ofValue, toJson_ofValue]
  exact ⟨rfl, frame.exists_at?_write kind.namesDiffer_shape present accepted⟩

end Specification

/-! ### Scalars in an operand -/

/-- A place for a scalar in an operand. -/
inductive ScalarPlace where
  /-- The scalar is the operand. -/
  | alone
  /-- The scalar stands in a list. -/
  | among (front back : List Script) (stop : ListEnd)

namespace ScalarPlace

/-- Put a script into a place. -/
def fill (script : Script) : ScalarPlace → Script
  | .alone => script
  | .among front back stop => .list (front ++ script :: back) stop

/-- The path to the scalar in an operand. -/
def path : ScalarPlace → List Json.Step
  | .alone => []
  | .among front _ _ => [.item front.length]

theorem fill_ne_null {script : Script} (present : script ≠ .null) (place : ScalarPlace) :
    place.fill script ≠ .null := by
  cases place with
  | alone => exact present
  | among => nofun

/-- A list of scalars is read as such. -/
theorem readOperand_list_ok_iff {origin : Origin} {items : List Script} {stop : ListEnd}
    {operand : Operand} :
    readOperand origin (.list items stop) = .ok operand ↔
      ∃ scalars : List Scalar, scalars.map (fun scalar => scalar.toJson.script) = items ∧
        stop = .closed ∧ origin.Admits 1 ∧ .list scalars = operand := by
  have scripts (scalars : List Scalar) : (Operand.list scalars).toJson.script =
      .list (scalars.map fun scalar => scalar.toJson.script) .closed := by
    refine congrArg (Script.list · .closed) ?_
    induction scalars with
    | nil => rfl
    | cons scalar rest ih => exact congrArg (scalar.toJson.script :: ·) ih
  have depth (scalars : List Scalar) : (Operand.list scalars).toJson.depth = 1 := by
    refine congrArg (· + 1) ?_
    induction scalars with
    | nil => rfl
    | cons scalar rest ih =>
      have flat : scalar.toJson.depth = 0 := by cases scalar <;> rfl
      rw [List.map_cons, Json.itemsDepth, ih, flat]
      rfl
  rw [readOperand, readAlternative_ok_iff]
  constructor
  · rintro ⟨json, same, admits, chosen⟩
    cases Operand.toJson_of_ofJson? chosen
    cases operand with
    | list scalars =>
      rw [scripts] at same
      cases same
      exact ⟨scalars, rfl, rfl, depth scalars ▸ admits, rfl⟩
    | single scalar => cases scalar <;> cases same
  · rintro ⟨scalars, rfl, rfl, admits, rfl⟩
    exact ⟨_, (scripts scalars).symm, (depth scalars).symm ▸ admits, Operand.ofJson?_toJson _⟩

theorem readOperand_number (origin : Origin) (number : Json.Number) :
    readOperand origin (.number (.ok number)) = .ok (.single (.number number)) :=
  rfl

/-- Where any scalar is read, a number is read as well. -/
theorem exists_readOperand (place : ScalarPlace) {origin : Origin} {other : Script}
    {operand : Operand} (read : readOperand origin (place.fill other) = .ok operand)
    (number : Json.Number) :
    ∃ held, readOperand origin (place.fill (.number (.ok number))) = .ok held := by
  cases place with
  | alone => exact ⟨_, readOperand_number origin number⟩
  | among front back stop =>
    obtain ⟨scalars, items, closed, admits, -⟩ := readOperand_list_ok_iff.mp read
    obtain ⟨before, rest, rfl, earlier, later⟩ := List.map_eq_append_iff.mp items
    obtain ⟨scalar, after, rfl, -, later⟩ := List.map_eq_cons_iff.mp later
    refine ⟨_, readOperand_list_ok_iff.mpr
      ⟨before ++ .number number :: after, ?_, closed, admits, rfl⟩⟩
    rw [List.map_append, List.map_cons, earlier, later]
    rfl

/-- A number is written where it is read. -/
theorem at?_toJson_of_readOperand (place : ScalarPlace) {origin : Origin} {number : Json.Number}
    {operand : Operand}
    (read : readOperand origin (place.fill (.number (.ok number))) = .ok operand) :
    operand.toJson.at? place.path = some (.number number) := by
  cases place with
  | alone =>
    cases read
    rfl
  | among front back stop =>
    obtain ⟨scalars, items, -, -, rfl⟩ := readOperand_list_ok_iff.mp read
    have found : scalars[front.length]? = some (.number number) := by
      have here := congrArg (·[front.length]?) items
      simp only [List.getElem?_map, List.getElem?_append_right (Nat.le_refl _), Nat.sub_self,
        List.getElem?_cons_zero] at here
      obtain ⟨scalar, held, same⟩ := Option.map_eq_some_iff.mp here
      rw [held]
      cases scalar <;> cases same
      rfl
    simp [path, Json.at?_item, Operand.toJson, found, Scalar.toJson]

end ScalarPlace

namespace Specification

/-- Wherever a text has an integer literal, as a count or as a scalar of an operand, the literal is
printed in the request with the same characters, or the text is rejected: a count takes no minus
sign and nothing beyond its bits, and a scalar takes every literal that 64 bits hold. -/
theorem integers_pass_through (literal : IntegerLiteral) :
    literal.script.WrittenAs (String.ofList literal.characters) ∧
    (∀ {kind : SpecKind} {input inside : List Json.Step} {root : String},
      kind.CountPlace input root inside → ∀ (frame : Frame .count kind.type.shape) (text : String),
      frame.path = input → (frame.fill literal.script).WrittenAs text →
      ((∃ spec, readText kind text = .ok spec) ↔
        (literal.negative = false ∧ literal.magnitude < 0x10000000000000000) ∧
          ∃ other ≠ .null, frame.Accepts other) ∧
      ∀ spec, readText kind text = .ok spec → ∀ tuning,
        (spec.document tuning).raw.get? root = none →
          literal.PrintedAt (spec.document tuning).toJson (.key root :: inside)) ∧
    (∀ (frame : Frame .smallCount Tuning.shape) (text : String),
      frame.path = [.key "prefix_length"] → (frame.fill literal.script).WrittenAs text →
      ((∃ tuning, Tuning.shape.readText text = .ok tuning) ↔
        (literal.negative = false ∧ literal.magnitude < 0x100000000) ∧
          ∃ other ≠ .null, frame.Accepts other) ∧
      ∀ tuning, Tuning.shape.readText text = .ok tuning → ∀ spec : RelevanceSpec,
        (spec.document tuning).raw.get? "query" = none →
          literal.PrintedAt (spec.document tuning).toJson RelevanceSpec.prefixLengthPath) ∧
    (-0x8000000000000000 ≤ literal.value → literal.value < 0x10000000000000000 →
      literal.characters ≠ ['-', '0'] → ∀ {kind : SpecKind} {group index : Nat} {name : String},
      kind.sections[group]? = some name → ∀ (place : ScalarPlace)
        (frame : Frame .operand kind.type.shape) (text : String),
      frame.path = [.key name, .item index, .key "value"] →
      (frame.fill (place.fill literal.script)).WrittenAs text →
      ((∃ spec, readText kind text = .ok spec) ↔
        ∃ other ≠ .null, frame.Accepts (place.fill other)) ∧
      ∀ spec, readText kind text = .ok spec → ∀ tuning,
        (spec.document tuning).raw.get? "query" = none →
          ∃ clause, (spec.document tuning).must[(spec.groupSizes.take group).sum + index]? =
              some clause ∧
            literal.PrintedAt (spec.document tuning).toJson (kind.mustPath ++
              .item ((spec.groupSizes.take group).sum + index) ::
                (clause.operandPath ++ place.path))) := by
  refine ⟨literal.writtenAs, ?counts, ?prefixLength, ?operands⟩
  case counts =>
    intro kind input inside root place frame text here written
    refine ⟨?_, fun spec read tuning apart => ?_⟩
    · rw [exists_readText_iff written]
      exact frame.accepts_iff kind.namesDiffer_shape literal.script_ne_null fun _ =>
        literal.exists_readCount_iff
    · obtain ⟨rfl, _, count, held, given⟩ :=
        exists_at?_toJson written literal.script_ne_null read
      rw [here] at given
      exact literal.printedAt_of_integer (readCount_number_ok_iff.mp held)
        (place.at?_toJson apart given)
  case prefixLength =>
    intro frame text here written
    have differ := Tuning.lossless_shape.namesDiffer
    rw [Shape.readText_of_writtenAs _ written]
    refine ⟨frame.accepts_iff differ literal.script_ne_null fun _ =>
      literal.exists_readSmallCount_iff, fun tuning read spec apart => ?_⟩
    obtain ⟨_, count, held, given⟩ := frame.exists_at?_write differ literal.script_ne_null read
    rw [here] at given
    have same : Json.Number.ofUInt32 tuning.prefixLength = .ofUInt32 count :=
      Json.number.inj (Option.some.inj given)
    refine literal.printedAt_of_integer (readSmallCount_number_ok_iff.mp held) ?_
    exact (RelevanceSpec.at?_prefixLengthPath apart).trans (congrArg (some ∘ Json.number) same)
  case operands =>
    intro lower upper no_zero kind group index name named place frame text here written
    have number : literal.number = .ok (.integer literal.value lower upper) :=
      literal.number_eq_integer_iff.mpr ⟨rfl, no_zero⟩
    have script : literal.script = .number (.ok (.integer literal.value lower upper)) :=
      congrArg Script.number number
    have present := place.fill_ne_null literal.script_ne_null
    refine ⟨?_, fun spec read tuning apart => ?_⟩
    · rw [exists_readText_iff written]
      refine ⟨fun accepted => ⟨literal.script, literal.script_ne_null, accepted⟩, ?_⟩
      rintro ⟨other, given, accepted⟩
      refine accepted.of_readable kind.namesDiffer_shape (place.fill_ne_null given) present
        fun inside operand read => ?_
      rw [script]
      exact place.exists_readOperand read _
    · obtain ⟨rfl, _, operand, held, given⟩ := exists_at?_toJson written present read
      rw [here] at given
      obtain ⟨clause, placed, found⟩ := exists_at?_operandPath apart named given
      refine ⟨clause, placed, literal.printedAt_of_integer number ?_⟩
      rw [script] at held
      rw [← List.cons_append, ← List.append_assoc, Json.at?_append, found]
      exact place.at?_toJson_of_readOperand held

/-! ### The largest integer of 32 bits -/

/-- The largest integer of 32 bits as it is written. -/
def largest : IntegerLiteral :=
  ⟨false, ['4', '2', '9', '4', '9', '6', '7', '2', '9', '5'], List.all_eq_true.mp rfl, nofun,
    nofun⟩

/-- The size of a page that is written as a list. -/
def pageSizeFrame : Frame .count SimpleSpec.shape :=
  .member "pagination" [] [] .closed
    (.there _ _ (by decide) <| .there _ _ (by decide) <| .there _ _ (by decide) <|
      .there _ _ (by decide) <| .there _ _ (by decide) (.here ..))
    (.nullable (.place [(Json.number (.ofUInt64 0)).script] [] .closed
      (.there _ _ (by decide) (.here ..)) .here))

/-- The number of characters that tolerance leaves alone. -/
def prefixLengthFrame : Frame .smallCount Tuning.shape :=
  .member "prefix_length" [] [] .closed (.there _ _ (by decide) (.here ..)) .here

/-- The operand of the only filter, which is written as a list. -/
def filterFrame : Frame .operand SimpleSpec.shape :=
  .member "filters" [] [] .closed (.here ..) (.nullable (.item [] [] .closed
    (.place [(Json.string "n").script] [] .closed (.there _ _ (by decide) (.here ..)) .here)))

/-- The second item of a list. -/
def secondItem : ScalarPlace := .among [(Json.bool true).script] [] .closed

theorem writtenAs_page :
    (pageSizeFrame.fill largest.script).WrittenAs "\x7b\"pagination\":[0,4294967295]\x7d" :=
  @Json.writtenAs_of_text_eq _
    (.object [("pagination",
      .array [.number (.ofUInt64 0), .number (.ofUInt64 4294967295)])]) .compact _ rfl rfl

theorem writtenAs_prefixLength :
    (prefixLengthFrame.fill largest.script).WrittenAs "\x7b\"prefix_length\":4294967295\x7d" :=
  @Json.writtenAs_of_text_eq _ (.object [("prefix_length", .number (.ofUInt64 4294967295))])
    .compact _ rfl rfl

theorem writtenAs_filter :
    (filterFrame.fill (secondItem.fill largest.script)).WrittenAs
      "\x7b\"filters\":[[\"n\",[true,4294967295]]]\x7d" :=
  @Json.writtenAs_of_text_eq _
    (.object [("filters", .array [.array [.string "n",
      .array [.bool true, .number (.ofUInt64 4294967295)]]])]) .compact _ rfl rfl

/-- The largest integer of 32 bits passes as the size of a page, as the number of characters that
tolerance leaves alone and as an item of a filter. -/
theorem integers_pass_through_largest :
    let paged : SimpleSpec := { SimpleSpec.empty with page := some ⟨0, 4294967295⟩ }
    let tuning : Tuning := { Tuning.standard with prefixLength := 4294967295 }
    let filtered : SimpleSpec :=
      { SimpleSpec.empty with
        filters := some [⟨"n", .list [.bool true, .number (.ofUInt64 4294967295)]⟩] }
    (readText .simple "\x7b\"pagination\":[0,4294967295]\x7d" = .ok (.simple paged) ∧
      largest.PrintedAt paged.document.toJson [.key "size"]) ∧
    (Tuning.shape.readText "\x7b\"prefix_length\":4294967295\x7d" = .ok tuning ∧
      largest.PrintedAt (RelevanceSpec.empty.document tuning).toJson
        RelevanceSpec.prefixLengthPath) ∧
    (readText .simple "\x7b\"filters\":[[\"n\",[true,4294967295]]]\x7d" =
        .ok (.simple filtered) ∧
      largest.PrintedAt filtered.document.toJson
        [.key "query", .key "bool", .key "must", .item 0, .key "terms", .key "n", .item 1]) := by
  intro paged tuning filtered
  obtain ⟨-, counts, prefixLength, operands⟩ := integers_pass_through largest
  refine ⟨?paged, ?tuned, ?filtered⟩
  case paged =>
    have read : readText .simple "\x7b\"pagination\":[0,4294967295]\x7d" =
        .ok (.simple paged) := by
      simp only [readText, readWith, Shape.readText_of_writtenAs _ writtenAs_page]
      rfl
    have passed := counts (@SpecKind.CountPlace.size .simple (by decide)) pageSizeFrame _ rfl
      writtenAs_page
    exact ⟨read, passed.2 _ read .standard rfl⟩
  case tuned =>
    have read : Tuning.shape.readText "\x7b\"prefix_length\":4294967295\x7d" = .ok tuning := by
      rw [Shape.readText_of_writtenAs _ writtenAs_prefixLength]
      rfl
    have passed := prefixLength prefixLengthFrame _ rfl writtenAs_prefixLength
    exact ⟨read, passed.2 _ read RelevanceSpec.empty rfl⟩
  case filtered =>
    have read : readText .simple "\x7b\"filters\":[[\"n\",[true,4294967295]]]\x7d" =
        .ok (.simple filtered) := by
      simp only [readText, readWith, Shape.readText_of_writtenAs _ writtenAs_filter]
      rfl
    have passed := @operands (by decide) (by decide) (by decide) .simple 0 0 "filters" rfl
      secondItem filterFrame _ rfl writtenAs_filter
    obtain ⟨clause, placed, printed⟩ := passed.2 _ read .standard rfl
    cases placed
    exact ⟨read, printed⟩

end Specification

end QueryAssembly
