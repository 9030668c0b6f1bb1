import QueryAssembly.Json.Builder
import QueryAssembly.Proofs.Json.Depth
import QueryAssembly.Proofs.Json.Tokens

/-!
# Scripts and the texts they are written as

The builder, given the tokens of a script where a value is due, comes to that script with all other
tokens left over.  So every text that spells the tokens of a script, with white space anywhere
between them, is read as that script (`Script.WrittenAs.ofText_eq`), and a printed text denotes the
value that was printed, as long as it is not nested too deeply (`Json.parse_text`).  A reader of
values puts what it finds in canonical order (`Json.readValue`).
-/

namespace QueryAssembly.Json

namespace Script

/-- Go on with the tokens that are left. -/
def proceed : Progress → List Token → Script × List Token
  | .going place frames, rest => build place frames rest
  | .finished script, rest => (script, rest)

theorem build_cons (place : Place) (frames : List Frame) (token : Token) (rest : List Token) :
    build place frames (token :: rest) = proceed (step place frames token) rest := by
  rw [build]
  cases step place frames token <;> rfl

/-- A value does not begin with the end of a list. -/
theorem tokenList_eq_cons {script : Script} (sound : script.skipFault = none) :
    ∃ token further, script.tokenList = token :: further ∧ token ≠ .closeList := by
  cases script with
  | list items => cases items <;> exact ⟨_, _, rfl, by simp⟩
  | object members => cases members <;> exact ⟨_, _, rfl, by simp⟩
  | damaged damage => cases sound
  | _ => exact ⟨_, _, rfl, by simp⟩

/-- Where an item is due, an item begins as any value does. -/
theorem build_item {script : Script} (sound : script.skipFault = none) {place : Place}
    {before : List Script} {frames : List Frame}
    (same : ∀ token, token ≠ .closeList →
      step place frames token = step .value (.item before :: frames) token)
    (rest : List Token) :
    build place frames (script.tokenList ++ rest) =
      build .value (.item before :: frames) (script.tokenList ++ rest) := by
  obtain ⟨token, further, tokens, no_end⟩ := tokenList_eq_cons sound
  rw [tokens, List.cons_append, build_cons, build_cons, same token no_end]

theorem step_firstItem (frames : List Frame) (token : Token) (no_end : token ≠ .closeList) :
    step .firstItem frames token = step .value (.item [] :: frames) token := by
  cases token with
  | closeList => exact absurd rfl no_end
  | _ => rfl

theorem step_nextItem (before : List Script) (frames : List Frame) (token : Token)
    (no_end : token ≠ .closeList) :
    step (.nextItem before) frames token = step .value (.item before :: frames) token := by
  cases token with
  | closeList => exact absurd rfl no_end
  | _ => rfl

theorem skipFault_list_eq_none_iff {items : List Script} {stop : ListEnd} :
    (Script.list items stop).skipFault = none ↔ skipItemsFault items = none ∧ stop = .closed := by
  rw [skipFault, Option.or_eq_none_iff]
  cases stop <;> simp [ListEnd.skipFault, ListEnd.readFault]

theorem skipFault_object_eq_none_iff {members : List (Except Fault String × Script)}
    {stop : ObjectEnd} :
    (Script.object members stop).skipFault = none ↔
      skipMembersFault members = none ∧ stop = .closed := by
  rw [skipFault, Option.or_eq_none_iff]
  cases stop <;> simp [ObjectEnd.skipFault, ObjectEnd.readFault]

theorem skipItemsFault_cons_eq_none_iff {item : Script} {rest : List Script} :
    skipItemsFault (item :: rest) = none ↔ item.skipFault = none ∧ skipItemsFault rest = none :=
  Option.or_eq_none_iff

theorem skipMembersFault_cons_eq_none_iff {key : Except Fault String} {value : Script}
    {rest : List (Except Fault String × Script)} :
    skipMembersFault ((key, value) :: rest) = none ↔
      value.skipFault = none ∧ skipMembersFault rest = none :=
  Option.or_eq_none_iff

mutual

/-- The tokens of a script that is sound in form make that script, and nothing behind them is
taken. -/
theorem build_tokenList : (script : Script) → script.skipFault = none → (frames : List Frame) →
    (rest : List Token) →
      build .value frames (script.tokenList ++ rest) = proceed (resume script frames) rest
  | .null, _, frames, rest => build_cons .value frames .null rest
  | .bool value, _, frames, rest => build_cons .value frames (.bool value) rest
  | .number value, _, frames, rest => build_cons .value frames (.number value) rest
  | .string value, _, frames, rest => build_cons .value frames (.string value) rest
  | .list items stop, sound, frames, rest => by
    obtain ⟨all, rfl⟩ := skipFault_list_eq_none_iff.mp sound
    match items with
    | [] =>
      show build .value frames (.openList :: .closeList :: rest) = _
      rw [build_cons]
      exact build_cons .firstItem frames .closeList rest
    | item :: further =>
      obtain ⟨first_sound, others_sound⟩ := skipItemsFault_cons_eq_none_iff.mp all
      have first := build_tokenList item first_sound (.item [] :: frames)
      have others := build_following_items further others_sound [item] frames rest
      simp only [tokenList, itemTokens, Token.enclosed, List.cons_append, List.append_assoc,
        List.nil_append, build_cons]
      show build .firstItem frames _ = _
      rw [build_item first_sound (step_firstItem frames), first]
      exact others
  | .object members stop, sound, frames, rest => by
    obtain ⟨all, rfl⟩ := skipFault_object_eq_none_iff.mp sound
    match members with
    | [] =>
      show build .value frames (.openObject :: .closeObject :: rest) = _
      rw [build_cons]
      exact build_cons .firstKey frames .closeObject rest
    | (key, value) :: further =>
      obtain ⟨first_sound, others_sound⟩ := skipMembersFault_cons_eq_none_iff.mp all
      have first := build_tokenList value first_sound (.member [] key :: frames)
      have others := build_following_members further others_sound [(key, value)] frames rest
      simp only [tokenList, memberTokens, Token.enclosed, List.cons_append, List.append_assoc,
        List.nil_append, build_cons]
      show build .firstKey frames _ = _
      rw [build_cons]
      show build (.afterKey [] key) frames _ = _
      rw [build_cons]
      show build .value (.member [] key :: frames) _ = _
      rw [first]
      exact others

/-- After an item, the tokens of further items complete the list. -/
theorem build_following_items : (items : List Script) → skipItemsFault items = none →
    (before : List Script) → (frames : List Frame) → (rest : List Token) →
      build (.afterItem before) frames
          (Token.following (itemTokens items) ++ (.closeList :: rest)) =
        proceed (resume (.list (before.reverse ++ items) .closed) frames) rest
  | [], _, before, frames, rest => by
    rw [List.append_nil]
    exact build_cons (.afterItem before) frames .closeList rest
  | item :: further, sound, before, frames, rest => by
    obtain ⟨first_sound, others_sound⟩ := skipItemsFault_cons_eq_none_iff.mp sound
    have first := build_tokenList item first_sound (.item before :: frames)
    have others := build_following_items further others_sound (item :: before) frames rest
    simp only [List.reverse_cons, List.append_assoc, List.cons_append, List.nil_append] at others
    simp only [itemTokens, Token.following, List.cons_append, List.append_assoc, build_cons]
    show build (.nextItem before) frames _ = _
    rw [build_item first_sound (step_nextItem before frames), first]
    exact others

/-- After a member, the tokens of further members complete the object. -/
theorem build_following_members : (members : List (Except Fault String × Script)) →
    skipMembersFault members = none → (before : Backward) → (frames : List Frame) →
      (rest : List Token) →
        build (.afterMember before) frames
            (Token.following (memberTokens members) ++ (.closeObject :: rest)) =
          proceed (resume (.object (before.reverse ++ members) .closed) frames) rest
  | [], _, before, frames, rest => by
    rw [List.append_nil]
    exact build_cons (.afterMember before) frames .closeObject rest
  | (key, value) :: further, sound, before, frames, rest => by
    obtain ⟨first_sound, others_sound⟩ := skipMembersFault_cons_eq_none_iff.mp sound
    have first := build_tokenList value first_sound (.member before key :: frames)
    have others :=
      build_following_members further others_sound ((key, value) :: before) frames rest
    simp only [List.reverse_cons, List.append_assoc, List.cons_append, List.nil_append] at others
    simp only [memberTokens, Token.following, List.cons_append, List.append_assoc, build_cons]
    show build (.nextKey before) frames _ = _
    rw [build_cons]
    show build (.afterKey before key) frames _ = _
    rw [build_cons]
    show build .value (.member before key :: frames) _ = _
    rw [first]
    exact others

end

/-- A text is one of the ways to write a script: it spells the tokens of the script, with white
space anywhere between them. -/
structure WrittenAs (script : Script) (text : String) : Prop where
  /-- The script is sound in form. -/
  sound : script.skipFault = none
  /-- The text spells its tokens. -/
  spaced : Token.Spaced script.tokenList text.toList

/-- A text is read as the script that is written in it, with nothing left behind. -/
theorem WrittenAs.ofText_eq {script : Script} {text : String} (written : script.WrittenAs text) :
    ofText text = (script, []) := by
  have whole := build_tokenList script written.sound [] []
  rw [List.append_nil] at whole
  rw [ofText, tokens, written.spaced.tokensAfter_eq, whole]
  rfl

end Script

/-- To print a value is one of the ways to write its script. -/
theorem writtenAs_text (style : Style) (json : Json) :
    json.script.WrittenAs (json.text style) := by
  refine ⟨skipFault_script json, ?_⟩
  have whole : Token.Spaced (json.script.tokenList ++ []) (json.print style 0 ++ []) :=
    spelled_print style 0 json trivial .nil
  rw [List.append_nil, List.append_nil] at whole
  rw [text, String.toList_ofList]
  exact whole

theorem writtenAs_of_text_eq {script : Script} {json : Json} {style : Style} {text : String}
    (same : script = json.script) (printed : json.text style = text) : script.WrittenAs text :=
  same ▸ printed ▸ json.writtenAs_text style

/-- A printed text denotes the value that was printed. -/
theorem parse_text (style : Style) {json : Json} (shallow : json.depth ≤ Origin.textLevels) :
    parse (json.text style) = .ok json :=
  parse_ok_iff.mpr ⟨(json.writtenAs_text style).ofText_eq, shallow⟩

/-- The tree of a text, as a reader of JSON values gives it: of equal keys the last wins. -/
def readValue (text : String) : Except Fault Json :=
  (parse text).map canonical

/-- A printed value is read back as its tree in canonical order, unless it is nested too deeply. -/
theorem readValue_text_ok_iff {style : Style} {json tree : Json} :
    readValue (json.text style) = .ok tree ↔
      json.canonical = tree ∧ json.depth ≤ Origin.textLevels := by
  rw [readValue, map_ok_iff]
  constructor
  · rintro ⟨value, parsed, rfl⟩
    obtain ⟨written, shallow⟩ := parse_ok_iff.mp parsed
    rw [(json.writtenAs_text style).ofText_eq, Prod.mk.injEq, script_inj] at written
    obtain ⟨rfl, -⟩ := written
    exact ⟨rfl, shallow⟩
  · rintro ⟨rfl, shallow⟩
    exact ⟨json, parse_text style shallow, rfl⟩

/-- A line with a printed value is one of the ways to write its script. -/
theorem writtenAs_line (style : Style) (json : Json) :
    json.script.WrittenAs (json.text style ++ "\n") := by
  refine ⟨skipFault_script json, ?_⟩
  have ends : Token.EndsNumeral ['\n'] := ⟨rfl, by decide, by decide, by decide⟩
  have whole := spelled_print style 0 json ends (.gap rfl .nil)
  rw [List.append_nil] at whole
  rw [String.toList_append, text, String.toList_ofList]
  exact whole

/-- A tree with ascending keys is read back from the line that it is printed on. -/
theorem readValue_line (style : Style) {json : Json} (canonical : json.IsCanonical)
    (shallow : json.depth ≤ Origin.textLevels) :
    readValue (json.text style ++ "\n") = .ok json := by
  have parsed : parse (json.text style ++ "\n") = .ok json :=
    parse_ok_iff.mpr ⟨(json.writtenAs_line style).ofText_eq, shallow⟩
  rw [readValue, parsed]
  exact congrArg Except.ok (canonical_eq_of_isCanonical canonical)

end QueryAssembly.Json
