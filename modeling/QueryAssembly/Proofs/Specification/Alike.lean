import QueryAssembly.Proofs.Json.ByteOrder
import QueryAssembly.Proofs.Json.Recognition
import QueryAssembly.Proofs.Request.Root
import QueryAssembly.Proofs.Shape.Alike
import QueryAssembly.Proofs.Shape.Sound
import QueryAssembly.Specification

/-!
# Texts that make the same request

Reading a specification is blind to white space, to the order of members, to members that no field
asks for and to null in the place of an optional section, so texts that differ in nothing else make
the same specification and print the same request.  What is printed has its keys in byte order.
-/

namespace QueryAssembly

open Json (Script Style)

theorem Shape.readText_of_writtenAs {α : Type} (shape : Shape α) {script : Script} {text : String}
    (written : script.WrittenAs text) :
    shape.readText text = shape.read (.text Origin.textLevels) script := by
  simp only [readText, written.ofText_eq]
  cases shape.read (.text Origin.textLevels) script <;> rfl

/-- Whatever is accepted is one of the ways to write a script. -/
theorem Shape.exists_writtenAs_of_readText {α : Type} {shape : Shape α} {text : String}
    {value : α} (read : shape.readText text = .ok value) :
    ∃ script : Script, script.WrittenAs text := by
  cases found : Script.ofText text with
  | mk script rest =>
    simp only [readText, found] at read
    obtain ⟨held, script_read, ended⟩ := bind_ok_iff.mp read
    cases rest with
    | cons token further => cases ended
    | nil => exact ⟨script, Script.writtenAs_iff.mpr ⟨found, shape.skipFault_of_read script_read⟩⟩

namespace SpecKind

/-- Two scripts of a specification differ in ways to which reading is blind. -/
def Alike : SpecKind → Script → Script → Prop
  | .simple => SimpleSpec.shape.Alike
  | .relevance => RelevanceSpec.shape.Alike
  | .aggregate => AggregateSpec.shape.Alike

/-- Two texts are written from scripts that differ in ways to which reading is blind. -/
def TextsAlike (kind : SpecKind) (left right : String) : Prop :=
  ∃ first second : Script,
    first.WrittenAs left ∧ second.WrittenAs right ∧ kind.Alike first second

end SpecKind

namespace Specification

/-- Every text of a specification is alike to itself, so none is left out. -/
theorem textsAlike_self_of_readText {kind : SpecKind} {text : String} {spec : Specification}
    (read : readText kind text = .ok spec) : kind.TextsAlike text text := by
  cases kind with
  | simple | relevance | aggregate =>
    obtain ⟨value, accepted, -⟩ := map_ok_iff.mp read
    obtain ⟨script, written⟩ := Shape.exists_writtenAs_of_readText accepted
    exact ⟨script, script, written, written, .refl _ script⟩

/-- The printed request of the specification in a text. -/
def render (tuning : Tuning) (style : Style) (kind : SpecKind) (text : String) :
    Except ReadError String :=
  (readText kind text).map fun spec => (spec.document tuning).toJson.text style

theorem readText_ok_iff_of_textsAlike {kind : SpecKind} {left right : String}
    (alike : kind.TextsAlike left right) (spec : Specification) :
    readText kind left = .ok spec ↔ readText kind right = .ok spec := by
  obtain ⟨first, second, first_written, second_written, alike⟩ := alike
  cases kind with
  | simple | relevance | aggregate =>
    have same := Shape.Alike.read_ok_iff alike (.text Origin.textLevels)
    simp only [readText, readWith, Shape.readText_of_writtenAs _ first_written,
      Shape.readText_of_writtenAs _ second_written, map_ok_iff, same]

/-- Alike texts make equal specifications and print the same request under every tuning, and every
request has the keys of all its objects in byte order. -/
theorem render_ok_iff_of_textsAlike {kind : SpecKind} {left right : String}
    (alike : kind.TextsAlike left right) :
    (∀ spec, readText kind left = .ok spec ↔ readText kind right = .ok spec) ∧
      (∀ tuning style printed,
        render tuning style kind left = .ok printed ↔
          render tuning style kind right = .ok printed) ∧
      ∀ document : RequestDocument, document.toJson.KeysInByteOrder := by
  have same := readText_ok_iff_of_textsAlike alike
  refine ⟨same, fun tuning style printed => ?_, fun document => ?_⟩
  · simp only [render, map_ok_iff, same]
  · exact Json.keysInByteOrder_of_isCanonical document.isCanonical_toJson

/-- Half a surrogate pair and a number out of range may stand under a key that nobody asks for. -/
theorem render_ok_iff_of_textsAlike_skipped :
    SpecKind.simple.TextsAlike
      "\x7b\"filters\":null,\"raw_options\":\x7b\"b\":1,\"a\":2\x7d\x7d"
      "\x7b\"raw_options\": \x7b\"a\":2,\"b\":1\x7d,\"z\": [\"\\ud800\",1e999]\x7d" ∧
    readText .simple "\x7b\"raw_options\": \x7b\"a\":2,\"b\":1\x7d,\"z\": [\"\\ud800\",1e999]\x7d" =
      .ok (.simple { SimpleSpec.empty with raw := some (.ofMembers
        [("b", .number (.ofUInt64 1)), ("a", .number (.ofUInt64 2))]) }) := by
  have half : Json.Piece.SpellsAll [.unit 0xd800] "\\ud800".toList := .cons (.unit rfl) .nil
  have power : Json.Token.SpellsPower (some 999) "e999".toList :=
    .plain (.inl rfl)
      (List.all_eq_true.mp (by decide : ['9', '9', '9'].all Char.isDigit = true)) (by decide)
  have beyond : Json.Token.SpellsNumeral ⟨['1'], none, some 999⟩ "1e999".toList :=
    .proper rfl power
  let items : List Script :=
    [.string (.error .unfinishedSurrogate), .number (.error .numberOutOfRange)]
  have items_spelled : Json.SpelledAll ["\"\\ud800\"".toList, "1e999".toList]
      (Script.itemTokens items) :=
    ⟨.single (.string half), .single (.number false beyond), trivial⟩
  let one : String × Json := ("a", .number (.ofUInt64 2))
  let two : String × Json := ("b", .number (.ofUInt64 1))
  let left : Json := .object [("filters", .null), ("raw_options", .object [two, one])]
  let raw (members : List (String × Json)) : Except Json.Fault String × Script :=
    (.ok "raw_options", (Json.object members).script)
  let unknown : Except Json.Fault String × Script := (.ok "z", .list items .closed)
  have known_spelled := (Json.Spelled.string "raw_options").member .pretty
    (Json.spelled_print .compact 1 (.object [one, two]))
  have unknown_spelled := (Json.Spelled.string "z").member .pretty
    (.enclosed .openList id Json.Breaks.closeList .compact 1 items_spelled)
  have members_spelled : Json.SpelledAll [_, _] [_, _] :=
    ⟨known_spelled, unknown_spelled, trivial⟩
  have left_written : left.script.WrittenAs
      "\x7b\"filters\":null,\"raw_options\":\x7b\"b\":1,\"a\":2\x7d\x7d" :=
    left.writtenAs_text .compact
  have right_written : (Script.object [raw [one, two], unknown] .closed).WrittenAs
      "\x7b\"raw_options\": \x7b\"a\":2,\"b\":1\x7d,\"z\": [\"\\ud800\",1e999]\x7d" :=
    ⟨rfl, Json.Spelled.enclosed .openObject id Json.Breaks.closeObject .compact 0 members_spelled
      trivial .nil⟩
  have alike : SpecKind.simple.Alike left.script (.object [raw [one, two], unknown] .closed) := by
    have moved : SimpleSpec.shape.Alike left.script
        (.object [raw [two, one], (.ok "filters", .null)] .closed) :=
      .order .closed (.swap _ _ [])
    have omitted : SimpleSpec.shape.Alike (.object [raw [two, one]] .closed)
        (.object [raw [two, one], (.ok "filters", .null)] .closed) :=
      .null [raw [two, one]] (.here ..) rfl (by simp [raw])
    have reordered : (Json.object [two, one]).Reordered (.object [one, two]) :=
      .order (by decide) (.swap _ _ [])
    have inside : SimpleSpec.shape.Alike (.object [raw [two, one]] .closed)
        (.object [raw [one, two]] .closed) :=
      .member [] [] .closed
        (.there _ _ (by decide) <| .there _ _ (by decide) <| .there _ _ (by decide) <|
          .there _ _ (by decide) <| .there _ _ (by decide) <| .there _ _ (by decide) (.here ..))
        (.nullable (.raw reordered))
    have inserted : SimpleSpec.shape.Alike (.object [raw [one, two]] .closed)
        (.object [unknown, raw [one, two]] .closed) :=
      .unknown [raw [one, two]] (by decide) rfl
    have last : SimpleSpec.shape.Alike (.object [unknown, raw [one, two]] .closed)
        (.object [raw [one, two], unknown] .closed) :=
      .order .closed (.swap _ _ [])
    exact moved.trans (omitted.symm.trans (inside.trans (inserted.trans last)))
  have texts : SpecKind.simple.TextsAlike
      "\x7b\"filters\":null,\"raw_options\":\x7b\"b\":1,\"a\":2\x7d\x7d"
      "\x7b\"raw_options\": \x7b\"a\":2,\"b\":1\x7d,\"z\": [\"\\ud800\",1e999]\x7d" :=
    ⟨_, _, left_written, right_written, alike⟩
  refine ⟨texts, ((render_ok_iff_of_textsAlike texts).1 _).mp ?_⟩
  simp only [readText, readWith, Shape.readText_of_writtenAs _ left_written]
  rfl

end Specification

end QueryAssembly
