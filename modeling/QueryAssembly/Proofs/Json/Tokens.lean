import QueryAssembly.Json.Script
import QueryAssembly.Proofs.Binary64.Shortest
import QueryAssembly.Proofs.Json.Spelling

/-!
# The tokens of a printed value

Every part of a printed value spells the tokens of its script, in either style.  A number asks that
nothing stands behind it which goes on with it, and in a printed value nothing does.
-/

namespace QueryAssembly.Json

open Token (EndsNumeral Spaced)

/-! ### The tokens of a script -/

namespace Token

/-- Groups of tokens after the first, each behind a comma. -/
def following : List (List Token) → List Token
  | [] => []
  | group :: rest => .comma :: group ++ following rest

/-- Groups of tokens between brackets. -/
def enclosed (opening closing : Token) : List (List Token) → List Token
  | [] => [opening, closing]
  | group :: rest => opening :: group ++ following rest ++ [closing]

end Token

namespace Script

mutual

/-- The tokens of a script that is sound in form. -/
def tokenList : Script → List Token
  | .null => [.null]
  | .bool value => [.bool value]
  | .number value => [.number value]
  | .string value => [.string value]
  | .list items _ => Token.enclosed .openList .closeList (itemTokens items)
  | .object members _ => Token.enclosed .openObject .closeObject (memberTokens members)
  | .damaged _ => []

/-- The tokens of each item. -/
def itemTokens : List Script → List (List Token)
  | [] => []
  | item :: rest => item.tokenList :: itemTokens rest

/-- The tokens of each member. -/
def memberTokens : List (Except Fault String × Script) → List (List Token)
  | [] => []
  | (key, value) :: rest => (.string key :: .colon :: value.tokenList) :: memberTokens rest

end

end Script

/-! ### Parts of a printed value -/

/-- Characters spell tokens before anything that does not go on with a number. -/
def Spelled (characters : List Char) (tokens : List Token) : Prop :=
  ∀ ⦃further : List Token⦄ ⦃rest : List Char⦄, EndsNumeral rest → Spaced further rest →
    Spaced (tokens ++ further) (characters ++ rest)

namespace Spelled

theorem single {token : Token} {written : List Char} (spells : token.Spells written) :
    Spelled written [token] :=
  fun _ _ ends spaced => .token spells (fun _ => ends) spaced

theorem string (text : String) : Spelled (stringCharacters text) [.string (.ok text)] := by
  obtain ⟨pieces, joined, spells⟩ := exists_spellsAll_printed text.toList
  have spelled := single (.string spells)
  rw [joined] at spelled
  have denoted : (Except.ok text.toList).map String.ofList = (.ok text : Except Fault String) :=
    congrArg Except.ok String.ofList_toList
  rw [denoted] at spelled
  exact spelled

end Spelled

namespace Number

/-- A number is written as the numeral that it is read from. -/
theorem exists_numeral (number : Number) :
    ∃ negative numeral, numeral.isProper = true ∧ ofNumeral? negative numeral = some number ∧
      number.characters = (if negative then ['-'] else []) ++ numeral.characters := by
  cases number with
  | integer value lower upper =>
    refine ⟨decide (value < 0), .ofNat value.natAbs, Numeral.isProper_of_toDigits _ _, ?_, ?_⟩
    · have whole : Nat.ofDigitChars 10 (Numeral.ofNat value.natAbs).whole 0 = value.natAbs :=
        Nat.ofDigitChars_toDigits (by decide) (by decide)
      have integral : (Numeral.ofNat value.natAbs).isInteger = true := rfl
      have held :
          integer? (decide (value < 0)) value.natAbs = some (.integer value lower upper) := by
        unfold integer?
        by_cases negative : value < 0
        · have same : -(value.natAbs : Int) = value := by omega
          have bound : 0 < value.natAbs ∧ value.natAbs ≤ 0x8000000000000000 := by omega
          simp only [negative, decide_true, if_true, dif_pos bound, same]
        · have same : (value.natAbs : Int) = value := by omega
          have bound : value.natAbs < 0x10000000000000000 := by omega
          simp only [negative, decide_false, Bool.false_eq_true, if_false, dif_pos bound, same]
      simp [ofNumeral?, integral, whole, held]
    · simp [characters]
  | real value =>
    obtain ⟨proper, no_integer, nearest⟩ :=
      Binary64.Magnitude.reads_iff.mp (value.magnitude.reads_shortest Numeral.leastWritten)
    refine ⟨value.negative, value.magnitude.shortest Numeral.leastWritten, proper, ?_, rfl⟩
    simp [ofNumeral?, no_integer, nearest]

theorem spells (number : Number) : Token.Spells (.number (.ok number)) number.characters := by
  obtain ⟨negative, numeral, proper, denoted, written⟩ := number.exists_numeral
  have spelled := Token.Spells.number negative (.characters proper)
  rwa [ofNumeral_of_some denoted, ← written] at spelled

/-- A number ends where its characters do, and no other number has them. -/
theorem characters_append_inj {left right : Number} {before after : List Char}
    (ends : EndsNumeral before) (stops : EndsNumeral after)
    (same : left.characters ++ before = right.characters ++ after) :
    left = right ∧ before = after := by
  have tokens := left.spells.tokensAfter_append fun _ => ends
  rw [same, right.spells.tokensAfter_append fun _ => stops] at tokens
  obtain rfl : right = left := by simpa using (List.cons.inj tokens).1
  exact ⟨rfl, List.append_cancel_left same⟩

end Number

theorem Spelled.number (number : Number) :
    Spelled number.characters [.number (.ok number)] :=
  single number.spells

/-- Characters end any number before them and spell tokens whatever stands behind them. -/
structure Breaks (characters : List Char) (tokens : List Token) : Prop where
  ends : ∀ rest, EndsNumeral (characters ++ rest)
  spaced : ∀ ⦃further : List Token⦄ ⦃rest : List Char⦄, Spaced further rest →
    Spaced (tokens ++ further) (characters ++ rest)

/-- Parts spell groups of tokens, each of them one. -/
def SpelledAll : List (List Char) → List (List Token) → Prop
  | [], [] => True
  | part :: parts, group :: groups => Spelled part group ∧ SpelledAll parts groups
  | _, _ => False

theorem spaced_gap (style : Style) (depth : Nat) {tokens : List Token} {rest : List Char}
    (spaced : Spaced tokens rest) : Spaced tokens (style.gap depth ++ rest) := by
  have spaces (count : Nat) : Spaced tokens (List.replicate count ' ' ++ rest) := by
    induction count with
    | zero => exact spaced
    | succ count ih => exact .gap rfl ih
  cases style with
  | compact => exact spaced
  | pretty => exact .gap rfl (spaces (2 * depth))

theorem endsNumeral_gap (style : Style) (depth : Nat) {rest : List Char}
    (ends : EndsNumeral rest) : EndsNumeral (style.gap depth ++ rest) := by
  cases style with
  | compact => exact ends
  | pretty => exact ⟨rfl, by decide, by decide, by decide⟩

namespace Breaks

variable {characters : List Char} {tokens : List Token}

theorem after_gap (breaks : Breaks characters tokens) (style : Style) (depth : Nat) :
    Breaks (style.gap depth ++ characters) tokens where
  ends rest := by
    rw [List.append_assoc]
    exact endsNumeral_gap style depth (breaks.ends rest)
  spaced _ _ further := by
    rw [List.append_assoc]
    exact spaced_gap style depth (breaks.spaced further)

theorem closeList : Breaks [']'] [.closeList] :=
  ⟨fun _ => ⟨rfl, by decide, by decide, by decide⟩, fun _ _ => .token .closeList False.elim⟩

theorem closeObject : Breaks ['\x7d'] [.closeObject] :=
  ⟨fun _ => ⟨rfl, by decide, by decide, by decide⟩, fun _ _ => .token .closeObject False.elim⟩

theorem colon (style : Style) : Breaks style.colon [.colon] := by
  have bare : Breaks [':'] [.colon] :=
    ⟨fun _ => ⟨rfl, by decide, by decide, by decide⟩, fun _ _ => .token .colon False.elim⟩
  cases style with
  | compact => exact bare
  | pretty =>
    exact ⟨fun rest => bare.ends (' ' :: rest), fun _ _ spaced => bare.spaced (.gap rfl spaced)⟩

/-- Parts behind commas may stand before whatever ends a number. -/
theorem following (breaks : Breaks characters tokens) (style : Style) (depth : Nat)
    {parts : List (List Char)} {groups : List (List Token)} (all : SpelledAll parts groups) :
    Breaks (followingParts (style.gap depth) parts ++ characters)
      (Token.following groups ++ tokens) := by
  induction parts generalizing groups with
  | nil =>
    cases groups with
    | nil => exact breaks
    | cons group further => exact all.elim
  | cons part rest ih =>
    cases groups with
    | nil => exact all.elim
    | cons group further =>
      obtain ⟨first, others⟩ := all
      have remaining := ih others
      refine ⟨fun _ => ⟨rfl, by decide, by decide, by decide⟩, fun later after spaced => ?_⟩
      have here := first (remaining.ends after) (remaining.spaced spaced)
      have comma := Spaced.token .comma False.elim (spaced_gap style depth here)
      simp only [List.append_assoc] at comma
      simp only [followingParts, Token.following, List.append_assoc, List.cons_append]
      exact comma

end Breaks

namespace Spelled

theorem append_breaks {left right : List Char} {leftTokens rightTokens : List Token}
    (spelled : Spelled left leftTokens) (breaks : Breaks right rightTokens)
    {further : List Token} {rest : List Char} (spaced : Spaced further rest) :
    Spaced (leftTokens ++ (rightTokens ++ further)) (left ++ (right ++ rest)) :=
  spelled (breaks.ends rest) (breaks.spaced spaced)

theorem member {name value : List Char} {key : Token} {tokens : List Token}
    (name_spelled : Spelled name [key]) (style : Style) (value_spelled : Spelled value tokens) :
    Spelled (name ++ style.colon ++ value) (key :: .colon :: tokens) := by
  intro further rest ends spaced
  rw [List.append_assoc, List.append_assoc]
  exact name_spelled.append_breaks (Breaks.colon style) (value_spelled ends spaced)

/-- A container spells its brackets and what its parts spell. -/
theorem enclosed {opening closing : Char} {first last : Token} (opens : first.Spells [opening])
    (no_number : ¬first.IsNumber) (closes : Breaks [closing] [last]) (style : Style)
    (depth : Nat) {parts : List (List Char)} {groups : List (List Token)}
    (all : SpelledAll parts groups) :
    Spelled (Json.enclosed style depth opening closing parts)
      (Token.enclosed first last groups) := by
  intro further rest _ spaced
  have opened {tokens : List Token} {characters : List Char} (inside : Spaced tokens characters) :
      Spaced (first :: tokens) (opening :: characters) :=
    .token opens (fun number => absurd number no_number) inside
  match parts, groups with
  | [], [] => exact opened (closes.spaced spaced)
  | part :: parts, group :: groups =>
    obtain ⟨spelled, others⟩ := all
    have remaining := (closes.after_gap style depth).following style (depth + 1) others
    have whole := opened (spaced_gap style (depth + 1) (spelled.append_breaks remaining spaced))
    simp only [List.append_assoc] at whole
    simp only [Json.enclosed, Token.enclosed, List.append_assoc, List.cons_append]
    exact whole

end Spelled

mutual

/-- A printed value spells the tokens of its script, in either style and at any depth. -/
theorem spelled_print (style : Style) : (depth : Nat) → (json : Json) →
    Spelled (print style depth json) json.script.tokenList
  | _, .null => .single .null
  | _, .bool true => .single .yes
  | _, .bool false => .single .no
  | _, .number value => .number value
  | _, .string value => .string value
  | depth, .array items =>
    .enclosed .openList id Breaks.closeList style depth
      (spelledAll_printItems style (depth + 1) items)
  | depth, .object members =>
    .enclosed .openObject id Breaks.closeObject style depth
      (spelledAll_printMembers style (depth + 1) members)

theorem spelledAll_printItems (style : Style) : (depth : Nat) → (items : List Json) →
    SpelledAll (printItems style depth items) (Script.itemTokens (scriptItems items))
  | _, [] => trivial
  | depth, item :: rest =>
    ⟨spelled_print style depth item, spelledAll_printItems style depth rest⟩

theorem spelledAll_printMembers (style : Style) : (depth : Nat) →
    (members : List (String × Json)) →
      SpelledAll (printMembers style depth members)
        (Script.memberTokens (scriptMembers members))
  | _, [] => trivial
  | depth, (key, value) :: rest =>
    ⟨(Spelled.string key).member style (spelled_print style depth value),
      spelledAll_printMembers style depth rest⟩

end

end QueryAssembly.Json
