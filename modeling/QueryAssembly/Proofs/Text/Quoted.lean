import Mathlib.Data.List.Basic
import Mathlib.Data.List.Forall2
import QueryAssembly.Proofs.Json.Strings
import QueryAssembly.Text.Quoted

/-!
# Quoted texts read one way

`Quotes` says character by character how a text stands between quotation marks, and `quoted` writes
just that.  Where a quoted text ends and which text it quotes can be told from the characters alone,
whatever follows (`quoted_append_inj`).
-/

namespace QueryAssembly

/-- Parts that are determined one by one are the images of what they belong to. -/
theorem forall₂_iff_map_eq {α β : Type} {Belongs : α → β → Prop} {part : α → β}
    (determined : ∀ value other, Belongs value other ↔ part value = other) {values : List α}
    {parts : List β} : List.Forall₂ Belongs values parts ↔ values.map part = parts := by
  have same : Belongs = fun value other => part value = other :=
    funext₂ fun value other => propext (determined value other)
  rw [same, ← List.forall₂_map_left_iff, List.forall₂_eq_eq_eq]

namespace Text

/-- Where a mark that stands in neither of two parts comes behind both, the parts end alike. -/
theorem append_cons_inj {α : Type} {mark : α} {left right before after : List α}
    (absent : mark ∉ left) (missing : mark ∉ right)
    (same : left ++ mark :: before = right ++ mark :: after) : left = right ∧ before = after := by
  induction left generalizing right with
  | nil =>
    cases right with
    | nil => exact ⟨rfl, (List.cons.inj same).2⟩
    | cons first rest => exact absurd ((List.cons.inj same).1 ▸ List.mem_cons_self) missing
  | cons first rest ih =>
    cases right with
    | nil => exact absurd ((List.cons.inj same).1 ▸ List.mem_cons_self) absent
    | cons other further =>
      obtain ⟨rfl, later⟩ := List.cons.inj same
      obtain ⟨rfl, rfl⟩ := ih (List.not_mem_of_not_mem_cons absent)
        (List.not_mem_of_not_mem_cons missing) later
      exact ⟨rfl, rfl⟩

/-! ### Hexadecimal digits -/

/-- The number that hexadecimal digits denote. -/
def hexValue (digits : List Char) : Nat :=
  digits.foldl (fun sofar digit => 16 * sofar + (Json.Body.hexDigit? digit).getD 0) 0

theorem hexValue_toDigits (value : Nat) : hexValue (Nat.toDigits 16 value) = value := by
  induction value using Nat.strongRecOn with
  | ind value ih =>
    rw [Nat.toDigits_eq_if (by decide)]
    split
    · rename_i small
      simp [hexValue, Json.Body.hexDigit?_digitChar small]
    · have leading := ih (value / 16) (by omega)
      have last := Json.Body.hexDigit?_digitChar (Nat.mod_lt value (by decide : 0 < 16))
      rw [hexValue, List.foldl_append, ← hexValue, leading, List.foldl_cons, last]
      exact Nat.div_add_mod value 16

theorem brace_notMem_toDigits (value : Nat) : '\x7d' ∉ Nat.toDigits 16 value := by
  have no_brace (digit : Nat) : '\x7d' ≠ digit.digitChar :=
    (Nat.digitChar_ne '\x7d' (by decide)).symm
  induction value using Nat.strongRecOn with
  | ind value ih =>
    rw [Nat.toDigits_eq_if (by decide)]
    split
    · simp [no_brace]
    · have leading := ih (value / 16) (by omega)
      simp [leading, no_brace]

/-! ### Characters -/

/-- The characters that a letter stands for behind a backslash, with their letters. -/
def letterEscapes : List (Char × Char) :=
  [('\x00', '0'), ('\t', 't'), ('\n', 'n'), ('\r', 'r'), ('"', '"'), ('\\', '\\')]

/-- How a character stands between quotation marks. -/
inductive Escaped : Char → List Char → Prop where
  /-- By a letter. -/
  | letter {character letter : Char} (known : (character, letter) ∈ letterEscapes) :
    Escaped character ['\\', letter]
  /-- By its code point, because it would not show. -/
  | number {character : Char} (unlettered : character ∉ letterEscapes.map Prod.fst)
    (hidden : isUnprintable character = true) :
    Escaped character (['\\', 'u', '\x7b'] ++ Nat.toDigits 16 character.toNat ++ ['\x7d'])
  /-- As itself. -/
  | plain {character : Char} (unlettered : character ∉ letterEscapes.map Prod.fst)
    (shows : isUnprintable character = false) : Escaped character [character]

variable {character other letter : Char}

theorem quotedCharacter_of_letter (known : (character, letter) ∈ letterEscapes) :
    quotedCharacter character = ['\\', letter] := by
  simp only [letterEscapes, List.mem_cons, Prod.mk.injEq, List.not_mem_nil, or_false] at known
  rcases known with ⟨rfl, rfl⟩ | ⟨rfl, rfl⟩ | ⟨rfl, rfl⟩ | ⟨rfl, rfl⟩ | ⟨rfl, rfl⟩ | ⟨rfl, rfl⟩
  all_goals rfl

theorem quotedCharacter_of_unlettered (unlettered : character ∉ letterEscapes.map Prod.fst) :
    quotedCharacter character =
      if isUnprintable character then
        ['\\', 'u', '\x7b'] ++ Nat.toDigits 16 character.toNat ++ ['\x7d']
      else [character] := by
  simp only [letterEscapes, List.map_cons, List.map_nil, List.mem_cons, List.not_mem_nil, or_false,
    not_or] at unlettered
  simp only [quotedCharacter, unlettered, if_false]

theorem escaped_iff (character : Char) (written : List Char) :
    Escaped character written ↔ quotedCharacter character = written := by
  constructor
  · intro escaped
    cases escaped with
    | letter known => exact quotedCharacter_of_letter known
    | number unlettered hidden => rw [quotedCharacter_of_unlettered unlettered, if_pos hidden]
    | plain unlettered shows => simp [quotedCharacter_of_unlettered unlettered, shows]
  · rintro rfl
    by_cases lettered : character ∈ letterEscapes.map Prod.fst
    · obtain ⟨⟨_, letter⟩, known, rfl⟩ := List.mem_map.mp lettered
      rw [quotedCharacter_of_letter known]
      exact .letter known
    · rw [quotedCharacter_of_unlettered lettered]
      split
      · rename_i hidden
        exact .number lettered hidden
      · rename_i shows
        exact .plain lettered (Bool.not_eq_true _ ▸ shows)

/-- The letters tell the characters apart, and none of them announces a code point. -/
theorem letterEscapes_apart :
    (∀ first ∈ letterEscapes, ∀ second ∈ letterEscapes, first.2 = second.2 → first.1 = second.1) ∧
      ∀ escape ∈ letterEscapes, escape.2 ≠ 'u' := by
  decide

theorem backslash_mem_letterEscapes : '\\' ∈ letterEscapes.map Prod.fst := by
  decide

theorem Escaped.append_inj {written spelled before after : List Char}
    (left : Escaped character written) (right : Escaped other spelled)
    (same : written ++ before = spelled ++ after) : character = other ∧ before = after := by
  cases left with
  | letter known =>
    cases right with
    | letter found =>
      obtain ⟨rfl, rfl⟩ := by simpa using same
      exact ⟨letterEscapes_apart.1 _ known _ found rfl, rfl⟩
    | number =>
      obtain ⟨rfl, -⟩ := by simpa using same
      exact absurd rfl (letterEscapes_apart.2 _ known)
    | plain unlettered =>
      obtain ⟨rfl, -⟩ := by simpa using same
      exact absurd backslash_mem_letterEscapes unlettered
  | number unlettered =>
    cases right with
    | letter found =>
      obtain ⟨rfl, -⟩ := by simpa using same
      exact absurd rfl (letterEscapes_apart.2 _ found)
    | number =>
      have digits : Nat.toDigits 16 character.toNat ++ '\x7d' :: before =
          Nat.toDigits 16 other.toNat ++ '\x7d' :: after := by simpa using same
      obtain ⟨same_digits, rfl⟩ :=
        append_cons_inj (brace_notMem_toDigits _) (brace_notMem_toDigits _) digits
      have points := congrArg hexValue same_digits
      rw [hexValue_toDigits, hexValue_toDigits] at points
      exact ⟨Char.toNat_inj.mp points, rfl⟩
    | plain unlettered =>
      obtain ⟨rfl, -⟩ := by simpa using same
      exact absurd backslash_mem_letterEscapes unlettered
  | plain unlettered =>
    cases right with
    | letter | number =>
      obtain ⟨rfl, -⟩ := by simpa using same
      exact absurd backslash_mem_letterEscapes unlettered
    | plain => simpa using same

/-! ### Texts -/

/-- How a text stands between quotation marks. -/
def Quotes (text written : String) : Prop :=
  ∃ parts, List.Forall₂ Escaped text.toList parts ∧
    written = "\"" ++ String.ofList parts.flatten ++ "\""

theorem quotes_iff (text written : String) : Quotes text written ↔ quoted text = written := by
  have escaped {parts : List (List Char)} :
      List.Forall₂ Escaped text.toList parts ↔ text.toList.map quotedCharacter = parts :=
    forall₂_iff_map_eq escaped_iff
  have joined :
      quoted text = "\"" ++ String.ofList (text.toList.map quotedCharacter).flatten ++ "\"" := by
    rw [quoted, ← List.flatMap_def, ← List.singleton_append, String.ofList_append,
      String.ofList_append]
  constructor
  · rintro ⟨parts, shown, rfl⟩
    rw [joined, escaped.mp shown]
  · rintro rfl
    exact ⟨_, escaped.mpr rfl, joined⟩

example : Quotes "a\tb" "\"a\\tb\"" := (quotes_iff _ _).mpr (by decide +kernel)
example : Quotes "it's \"é\"" "\"it's \\\"é\\\"\"" := (quotes_iff _ _).mpr (by decide +kernel)

theorem ne_quotationMark_of_escaped {character : Char} {spelled before after : List Char}
    (escaped : Escaped character spelled) : spelled ++ before ≠ '"' :: after := by
  intro same
  cases escaped with
  | letter | number => cases same
  | plain unlettered =>
    obtain ⟨rfl, -⟩ := List.cons.inj same
    exact absurd (by decide) unlettered

/-- A quotation mark ends the characters of a text, whatever follows. -/
theorem flatMap_quotedCharacter_append_inj {left right before after : List Char}
    (same : left.flatMap quotedCharacter ++ '"' :: before =
      right.flatMap quotedCharacter ++ '"' :: after) : left = right ∧ before = after := by
  induction left generalizing right with
  | nil =>
    cases right with
    | nil => exact ⟨rfl, (List.cons.inj same).2⟩
    | cons other further =>
      rw [List.flatMap_cons, List.append_assoc] at same
      exact absurd same.symm (ne_quotationMark_of_escaped ((escaped_iff _ _).mpr rfl))
  | cons character rest ih =>
    rw [List.flatMap_cons, List.append_assoc] at same
    cases right with
    | nil => exact absurd same (ne_quotationMark_of_escaped ((escaped_iff _ _).mpr rfl))
    | cons other further =>
      rw [List.flatMap_cons, List.append_assoc] at same
      obtain ⟨rfl, later⟩ := ((escaped_iff _ _).mpr rfl).append_inj ((escaped_iff _ _).mpr rfl) same
      obtain ⟨rfl, rfl⟩ := ih later
      exact ⟨rfl, rfl⟩

/-- A quoted text ends at its quotation mark, whatever follows, and tells which text it is. -/
theorem quoted_append_inj {left right : String} {before after : List Char}
    (same : (quoted left).toList ++ before = (quoted right).toList ++ after) :
    left = right ∧ before = after := by
  have inside : left.toList.flatMap quotedCharacter ++ '"' :: before =
      right.toList.flatMap quotedCharacter ++ '"' :: after := by
    simpa [quoted] using same
  obtain ⟨characters, rest⟩ := flatMap_quotedCharacter_append_inj inside
  exact ⟨String.toList_inj.mp characters, rest⟩

end Text

end QueryAssembly
