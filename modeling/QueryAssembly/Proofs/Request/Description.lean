import QueryAssembly.Proofs.Binary64.Description
import QueryAssembly.Proofs.Json.Tokens
import QueryAssembly.Proofs.Text.Quoted

/-!
# Clauses by their descriptions

`Clause.Shown` spells out the text of a clause, shape by shape, and `Clause.describe` gives just that
text (`Clause.shown_iff`).  A quoted text ends at its quotation mark, a number at the parenthesis
behind it and a list at its bracket, so every part of a description ends where it ends and no two
clauses share one (`Clause.describe_injective`).
-/

namespace QueryAssembly

open Description

/-! ### The text of each shape -/

namespace Description

variable {α : Type}

/-- A list of values between brackets. -/
def Listed (Shown : α → String → Prop) (values : List α) (text : String) : Prop :=
  ∃ parts, List.Forall₂ Shown values parts ∧ text = "[" ++ ", ".intercalate parts ++ "]"

/-- A value that may be missing. -/
inductive Optionally (Shown : α → String → Prop) : Option α → String → Prop where
  /-- A missing value. -/
  | none : Optionally Shown none "None"
  /-- A value. -/
  | some {value : α} {text : String} (shown : Shown value text) :
    Optionally Shown (some value) ("Some(" ++ text ++ ")")

end Description

/-- The text of a scalar. -/
inductive Scalar.Shown : Scalar → String → Prop where
  /-- The true value. -/
  | yes : Shown (.bool true) "Bool(true)"
  /-- The false value. -/
  | no : Shown (.bool false) "Bool(false)"
  /-- A number, as it stands in a JSON text. -/
  | number (value : Json.Number) :
    Shown (.number value) ("Number(Number(" ++ (Json.number value).compact ++ "))")
  /-- A text between quotation marks. -/
  | text {value written : String} (quotes : Text.Quotes value written) :
    Shown (.text value) ("String(" ++ written ++ ")")

/-- The text of an operand. -/
inductive Operand.Shown : Operand → String → Prop where
  /-- A list of scalars. -/
  | list {scalars : List Scalar} {written : String} (listed : Listed Scalar.Shown scalars written) :
    Shown (.list scalars) ("List(" ++ written ++ ")")
  /-- One scalar. -/
  | single {scalar : Scalar} {written : String} (shown : scalar.Shown written) :
    Shown (.single scalar) ("Scalar(" ++ written ++ ")")

/-- The text of a combination of words. -/
inductive MultiMatchKind.Shown : MultiMatchKind → String → Prop where
  /-- A phrase. -/
  | phrase : Shown .phrase "Phrase"
  /-- The fields together. -/
  | mostFields : Shown .mostFields "MostFields"

/-- The text of a clause. -/
inductive Clause.Shown : Clause → String → Prop where
  /-- A field with an exact value. -/
  | term {field name value : String} {operand : Operand} (quotes : Text.Quotes field name)
    (shown : operand.Shown value) :
    Shown (.term field operand) ("Term \x7b field: " ++ name ++ ", value: " ++ value ++ " \x7d")
  /-- A field with one of several exact values. -/
  | terms {field name values : String} {scalars : List Scalar} (quotes : Text.Quotes field name)
    (listed : Listed Scalar.Shown scalars values) :
    Shown (.terms field scalars)
      ("Terms \x7b field: " ++ name ++ ", values: " ++ values ++ " \x7d")
  /-- A field whose text matches a value. -/
  | matching {field name value : String} {operand : Operand} (quotes : Text.Quotes field name)
    (shown : operand.Shown value) :
    Shown (.matching field operand)
      ("Match \x7b field: " ++ name ++ ", value: " ++ value ++ " \x7d")
  /-- A text searched in several fields. -/
  | multiMatch {body : MultiMatch} {query kind fields boost fuzziness prefixLength : String}
    (quotes : Text.Quotes body.query query) (combined : body.kind.Shown kind)
    (searched : Listed Text.Quotes body.fields fields)
    (weighted : Optionally (fun value text => value.describe = text) body.boost boost)
    (tolerant : Optionally Text.Quotes body.fuzziness fuzziness)
    (exact : Optionally (fun length text => toString length.toNat = text) body.prefixLength
      prefixLength) :
    Shown (.multiMatch body)
      ("MultiMatch(MultiMatch \x7b query: " ++ query ++ ", kind: " ++ kind ++ ", fields: " ++
        fields ++ ", boost: " ++ boost ++ ", fuzziness: " ++ fuzziness ++ ", prefix_length: " ++
        prefixLength ++ " \x7d)")
  /-- A clause about nested objects. -/
  | nested {path name value : String} {inner : Clause} (quotes : Text.Quotes path name)
    (shown : inner.Shown value) :
    Shown (.nested path inner) ("Nested \x7b path: " ++ name ++ ", query: " ++ value ++ " \x7d")

namespace Scalar

theorem describe_number (value : Json.Number) :
    (number value).describe = "Number(Number(" ++ (Json.number value).compact ++ "))" := by
  apply String.toList_inj.mp
  simp [describe, tagged, Json.compact, Json.text, Json.print]

theorem describe_text (value : String) :
    (text value).describe = "String(" ++ Text.quoted value ++ ")" := by
  apply String.toList_inj.mp
  simp [describe, tagged]

theorem shown_iff (scalar : Scalar) (text : String) :
    scalar.Shown text ↔ scalar.describe = text := by
  constructor
  · intro shown
    cases shown with
    | yes | no => rfl
    | number value => exact describe_number value
    | text quotes => rw [describe_text, (Text.quotes_iff _ _).mp quotes]
  · rintro rfl
    match scalar with
    | .bool true => exact .yes
    | .bool false => exact .no
    | .number value =>
      rw [describe_number]
      exact .number value
    | .text value =>
      rw [describe_text]
      exact .text ((Text.quotes_iff _ _).mpr rfl)

end Scalar

namespace Description

variable {α : Type} {Shown : α → String → Prop} {describe : α → String}

theorem listed_iff (determined : ∀ value text, Shown value text ↔ describe value = text)
    {values : List α} {text : String} :
    Listed Shown values text ↔ items (values.map describe) = text := by
  simp only [Listed, forall₂_iff_map_eq determined, exists_eq_left', items, separated]
  exact eq_comm

theorem optional_some (value : α) :
    optional describe (some value) = "Some(" ++ describe value ++ ")" := by
  apply String.toList_inj.mp
  simp [optional, tagged]

theorem optionally_iff (determined : ∀ value text, Shown value text ↔ describe value = text)
    {value : Option α} {text : String} :
    Optionally Shown value text ↔ optional describe value = text := by
  constructor
  · intro shown
    cases shown with
    | none => rfl
    | some shown => rw [optional_some, (determined _ _).mp shown]
  · rintro rfl
    cases value with
    | none => exact .none
    | some value =>
      rw [optional_some]
      exact .some ((determined _ _).mpr rfl)

end Description

namespace Operand

theorem describe_list (scalars : List Scalar) :
    (list scalars).describe = "List(" ++ items (scalars.map Scalar.describe) ++ ")" := by
  apply String.toList_inj.mp
  simp [describe, tagged]

theorem describe_single (scalar : Scalar) :
    (single scalar).describe = "Scalar(" ++ scalar.describe ++ ")" := by
  apply String.toList_inj.mp
  simp [describe, tagged]

theorem shown_iff (operand : Operand) (text : String) :
    operand.Shown text ↔ operand.describe = text := by
  constructor
  · intro shown
    cases shown with
    | list shown => rw [describe_list, (listed_iff Scalar.shown_iff).mp shown]
    | single shown => rw [describe_single, (Scalar.shown_iff _ _).mp shown]
  · rintro rfl
    cases operand with
    | list scalars =>
      rw [describe_list]
      exact .list ((listed_iff Scalar.shown_iff).mpr rfl)
    | single scalar =>
      rw [describe_single]
      exact .single ((Scalar.shown_iff _ _).mpr rfl)

end Operand

theorem MultiMatchKind.shown_iff (kind : MultiMatchKind) (text : String) :
    kind.Shown text ↔ kind.describe = text := by
  constructor
  · intro shown
    cases shown <;> rfl
  · rintro rfl
    cases kind with
    | phrase => exact .phrase
    | mostFields => exact .mostFields

namespace Clause

theorem describe_term (field : String) (operand : Operand) :
    (term field operand).describe =
      "Term \x7b field: " ++ Text.quoted field ++ ", value: " ++ operand.describe ++ " \x7d" := by
  apply String.toList_inj.mp
  simp [describe, record, separated]

theorem describe_terms (field : String) (scalars : List Scalar) :
    (terms field scalars).describe =
      "Terms \x7b field: " ++ Text.quoted field ++ ", values: " ++
        items (scalars.map Scalar.describe) ++ " \x7d" := by
  apply String.toList_inj.mp
  simp [describe, record, separated]

theorem describe_matching (field : String) (operand : Operand) :
    (matching field operand).describe =
      "Match \x7b field: " ++ Text.quoted field ++ ", value: " ++ operand.describe ++ " \x7d" := by
  apply String.toList_inj.mp
  simp [describe, record, separated]

theorem describe_multiMatch (body : MultiMatch) :
    (multiMatch body).describe =
      "MultiMatch(MultiMatch \x7b query: " ++ Text.quoted body.query ++ ", kind: " ++
        body.kind.describe ++ ", fields: " ++ items (body.fields.map Text.quoted) ++ ", boost: " ++
        optional Binary64.describe body.boost ++ ", fuzziness: " ++
        optional Text.quoted body.fuzziness ++ ", prefix_length: " ++
        optional (fun length => toString length.toNat) body.prefixLength ++ " \x7d)" := by
  apply String.toList_inj.mp
  simp [describe, MultiMatch.describe, tagged, record, separated]

theorem describe_nested (path : String) (inner : Clause) :
    (nested path inner).describe =
      "Nested \x7b path: " ++ Text.quoted path ++ ", query: " ++ inner.describe ++ " \x7d" := by
  apply String.toList_inj.mp
  simp [describe, record, separated]

/-- The description of a clause is the text that its shape gives. -/
theorem shown_iff (clause : Clause) (text : String) :
    clause.Shown text ↔ clause.describe = text := by
  constructor
  · intro shown
    induction shown with
    | term quotes shown =>
      rw [describe_term, (Text.quotes_iff _ _).mp quotes, (Operand.shown_iff _ _).mp shown]
    | terms quotes listed =>
      rw [describe_terms, (Text.quotes_iff _ _).mp quotes,
        (listed_iff Scalar.shown_iff).mp listed]
    | matching quotes shown =>
      rw [describe_matching, (Text.quotes_iff _ _).mp quotes, (Operand.shown_iff _ _).mp shown]
    | multiMatch quotes combined searched weighted tolerant exact =>
      rw [describe_multiMatch, (Text.quotes_iff _ _).mp quotes,
        (MultiMatchKind.shown_iff _ _).mp combined, (listed_iff Text.quotes_iff).mp searched,
        (optionally_iff fun _ _ => Iff.rfl).mp weighted,
        (optionally_iff Text.quotes_iff).mp tolerant,
        (optionally_iff fun _ _ => Iff.rfl).mp exact]
    | nested quotes _ ih => rw [describe_nested, (Text.quotes_iff _ _).mp quotes, ih]
  · rintro rfl
    induction clause with
    | term field operand =>
      rw [describe_term]
      exact .term ((Text.quotes_iff _ _).mpr rfl) ((Operand.shown_iff _ _).mpr rfl)
    | terms field scalars =>
      rw [describe_terms]
      exact .terms ((Text.quotes_iff _ _).mpr rfl) ((listed_iff Scalar.shown_iff).mpr rfl)
    | matching field operand =>
      rw [describe_matching]
      exact .matching ((Text.quotes_iff _ _).mpr rfl) ((Operand.shown_iff _ _).mpr rfl)
    | multiMatch body =>
      rw [describe_multiMatch]
      exact .multiMatch ((Text.quotes_iff _ _).mpr rfl) ((MultiMatchKind.shown_iff _ _).mpr rfl)
        ((listed_iff Text.quotes_iff).mpr rfl)
        ((optionally_iff fun _ _ => Iff.rfl).mpr rfl)
        ((optionally_iff Text.quotes_iff).mpr rfl)
        ((optionally_iff fun _ _ => Iff.rfl).mpr rfl)
    | nested path inner ih =>
      rw [describe_nested]
      exact .nested ((Text.quotes_iff _ _).mpr rfl) ih

end Clause

/-! ### Descriptions that end by themselves -/

namespace Description

variable {α : Type} {describe : α → String}

/-- A description ends by itself, whatever follows, and no other value has it. -/
def SelfDelimiting (describe : α → String) : Prop :=
  ∀ ⦃left right : α⦄ ⦃before after : List Char⦄,
    (describe left).toList ++ before = (describe right).toList ++ after →
      left = right ∧ before = after

/-- A description ends at a parenthesis behind it, and no other value has it. -/
def Parenthesized (describe : α → String) : Prop :=
  ∀ ⦃left right : α⦄ ⦃before after : List Char⦄,
    (describe left).toList ++ ')' :: before = (describe right).toList ++ ')' :: after →
      left = right ∧ before = after

theorem SelfDelimiting.parenthesized (delimits : SelfDelimiting describe) :
    Parenthesized describe := by
  intro left right before after same
  obtain ⟨rfl, rest⟩ := delimits same
  exact ⟨rfl, (List.cons.inj rest).2⟩

theorem SelfDelimiting.behind (delimits : SelfDelimiting describe) {beginning : List Char}
    {left right : α} {before after : List Char}
    (same : beginning ++ ((describe left).toList ++ before) =
      beginning ++ ((describe right).toList ++ after)) : left = right ∧ before = after :=
  delimits (List.append_cancel_left same)

theorem parenthesized_of_injective (injective : Function.Injective describe)
    (absent : ∀ value, ')' ∉ (describe value).toList) : Parenthesized describe := by
  intro left right before after same
  obtain ⟨texts, rfl⟩ := Text.append_cons_inj (absent left) (absent right) same
  exact ⟨injective (String.toList_inj.mp texts), rfl⟩

theorem selfDelimiting_quoted : SelfDelimiting Text.quoted :=
  fun _ _ _ _ => Text.quoted_append_inj

/-- A description behind a quoted name ends by itself too. -/
theorem SelfDelimiting.named (delimits : SelfDelimiting describe)
    {beginning middle ending before after : List Char} {field name : String} {left right : α}
    (same : beginning ++ ((Text.quoted field).toList ++
        (middle ++ ((describe left).toList ++ (ending ++ before)))) =
      beginning ++ ((Text.quoted name).toList ++
        (middle ++ ((describe right).toList ++ (ending ++ after))))) :
    field = name ∧ left = right ∧ before = after := by
  obtain ⟨rfl, value⟩ := selfDelimiting_quoted.behind same
  obtain ⟨rfl, rest⟩ := delimits.behind value
  exact ⟨rfl, rfl, List.append_cancel_left rest⟩

theorem Parenthesized.tagged (closed : Parenthesized describe) (kind : String) :
    SelfDelimiting fun value => tagged kind (describe value) := by
  intro left right before after same
  refine closed ?_
  simpa [Description.tagged] using same

theorem Parenthesized.optional (closed : Parenthesized describe) :
    SelfDelimiting (optional describe) := by
  intro left right before after same
  cases left with
  | none =>
    cases right with
    | none => simpa using same
    | some value => simp [Description.optional, Description.tagged] at same
  | some value =>
    cases right with
    | none => simp [Description.optional, Description.tagged] at same
    | some other =>
      obtain ⟨rfl, rfl⟩ := closed.tagged "Some" same
      exact ⟨rfl, rfl⟩

theorem toList_separated_cons (part : String) (parts : List String) :
    (separated (part :: parts)).toList =
      part.toList ++ parts.flatMap fun part => ',' :: ' ' :: part.toList := by
  induction parts generalizing part with
  | nil => simp [separated]
  | cons next rest ih =>
    rw [separated, String.intercalate_cons_of_ne_nil (List.cons_ne_nil next rest), ← separated]
    simp [ih]

theorem SelfDelimiting.following (delimits : SelfDelimiting describe) {left right : List α}
    {before after : List Char}
    (same : (left.flatMap fun value => ',' :: ' ' :: (describe value).toList) ++ ']' :: before =
      (right.flatMap fun value => ',' :: ' ' :: (describe value).toList) ++ ']' :: after) :
    left = right ∧ before = after := by
  induction left generalizing right with
  | nil =>
    cases right with
    | nil => simpa using same
    | cons other further => simp at same
  | cons value rest ih =>
    cases right with
    | nil => simp at same
    | cons other further =>
      obtain ⟨rfl, later⟩ := delimits (by simpa using same)
      obtain ⟨rfl, rfl⟩ := ih later
      exact ⟨rfl, rfl⟩

theorem SelfDelimiting.items (delimits : SelfDelimiting describe)
    (opens : ∀ value, ∃ first ≠ ']', (describe value).toList.head? = some first) :
    SelfDelimiting fun values : List α => items (values.map describe) := by
  intro left right before after same
  cases left with
  | nil =>
    cases right with
    | nil => simpa [Description.items, separated] using same
    | cons other further =>
      obtain ⟨first, no_bracket, found⟩ := opens other
      obtain ⟨rest, opening⟩ := List.head?_eq_some_iff.mp found
      simp [Description.items, separated, opening, no_bracket.symm] at same
  | cons value rest =>
    cases right with
    | nil =>
      obtain ⟨first, no_bracket, found⟩ := opens value
      obtain ⟨rest, opening⟩ := List.head?_eq_some_iff.mp found
      simp [Description.items, separated, opening, no_bracket] at same
    | cons other further =>
      simp only [Description.items, String.toList_append, List.map_cons, toList_separated_cons,
        List.append_assoc, List.flatMap_map] at same
      obtain ⟨rfl, later⟩ := delimits (List.append_cancel_left same)
      obtain ⟨rfl, rfl⟩ := delimits.following later
      exact ⟨rfl, rfl⟩

end Description

/-! ### Clauses apart -/

theorem Json.Number.parenthesized :
    Parenthesized fun value : Number => String.ofList value.characters := by
  intro left right before after same
  have ends (rest : List Char) : Token.EndsNumeral (')' :: rest) := by
    refine ⟨?_, ?_, ?_, ?_⟩ <;> decide
  simp only [String.toList_ofList] at same
  obtain ⟨rfl, rest⟩ := characters_append_inj (ends before) (ends after) same
  exact ⟨rfl, (List.cons.inj rest).2⟩

theorem parenthesized_bool : Parenthesized fun value : Bool => toString value := by
  refine parenthesized_of_injective ?_ (by decide)
  intro left right same
  revert left right
  decide

theorem parenthesized_smallCount : Parenthesized fun value : UInt32 => toString value.toNat := by
  refine parenthesized_of_injective ?_ ?_
  · intro left right same
    have digits := congrArg String.toList same
    simp only [Nat.toString_eq_repr, Nat.toList_repr] at digits
    have values := congrArg (Nat.ofDigitChars 10 · 0) digits
    simp only [Nat.ofDigitChars_ten_toDigits] at values
    exact UInt32.toNat_inj.mp values
  · intro value
    simp only [Nat.toString_eq_repr, Nat.toList_repr]
    exact parenthesis_notMem_of_isDigit fun _ found =>
      Nat.isDigit_of_mem_toDigits (by decide) (by decide) found

namespace Scalar

theorem selfDelimiting_describe : SelfDelimiting describe := by
  intro left right before after same
  cases left with
  | bool value =>
    cases right with
    | bool other =>
      obtain ⟨rfl, rfl⟩ := parenthesized_bool.tagged "Bool" same
      exact ⟨rfl, rfl⟩
    | number | text => simp [describe, tagged] at same
  | number value =>
    cases right with
    | number other =>
      obtain ⟨rfl, rfl⟩ :=
        (Json.Number.parenthesized.tagged "Number").parenthesized.tagged "Number" same
      exact ⟨rfl, rfl⟩
    | bool | text => simp [describe, tagged] at same
  | text value =>
    cases right with
    | text other =>
      obtain ⟨rfl, rfl⟩ := selfDelimiting_quoted.parenthesized.tagged "String" same
      exact ⟨rfl, rfl⟩
    | bool | number => simp [describe, tagged] at same

theorem selfDelimiting_items :
    SelfDelimiting fun scalars : List Scalar => items (scalars.map describe) := by
  refine selfDelimiting_describe.items fun scalar => ?_
  cases scalar with
  | bool | number | text => simp [describe, tagged]

end Scalar

namespace Operand

theorem selfDelimiting_describe : SelfDelimiting describe := by
  intro left right before after same
  cases left with
  | list scalars =>
    cases right with
    | list others =>
      obtain ⟨rfl, rfl⟩ := Scalar.selfDelimiting_items.parenthesized.tagged "List" same
      exact ⟨rfl, rfl⟩
    | single => simp [describe, tagged] at same
  | single scalar =>
    cases right with
    | list => simp [describe, tagged] at same
    | single other =>
      obtain ⟨rfl, rfl⟩ := Scalar.selfDelimiting_describe.parenthesized.tagged "Scalar" same
      exact ⟨rfl, rfl⟩

end Operand

theorem MultiMatchKind.selfDelimiting_describe : SelfDelimiting MultiMatchKind.describe := by
  intro left right before after same
  cases left <;> cases right <;> simp_all [describe]

theorem selfDelimiting_names :
    SelfDelimiting fun names : List String => items (names.map Text.quoted) :=
  selfDelimiting_quoted.items fun name => by simp [Text.quoted]

theorem Binary64.parenthesized : Parenthesized Binary64.describe :=
  parenthesized_of_injective describe_injective parenthesis_notMem_describe

namespace Clause

theorem selfDelimiting_describe : SelfDelimiting describe := by
  intro left
  induction left with
  | term field operand =>
    intro right before after same
    cases right with
    | term name value =>
      simp only [describe_term, String.toList_append, List.append_assoc] at same
      obtain ⟨rfl, rfl, rfl⟩ := Operand.selfDelimiting_describe.named same
      exact ⟨rfl, rfl⟩
    | terms | matching | multiMatch | nested => simp [describe, record, tagged] at same
  | terms field scalars =>
    intro right before after same
    cases right with
    | terms name values =>
      simp only [describe_terms, String.toList_append, List.append_assoc] at same
      obtain ⟨rfl, rfl, rfl⟩ := Scalar.selfDelimiting_items.named same
      exact ⟨rfl, rfl⟩
    | term | matching | multiMatch | nested => simp [describe, record, tagged] at same
  | matching field operand =>
    intro right before after same
    cases right with
    | matching name value =>
      simp only [describe_matching, String.toList_append, List.append_assoc] at same
      obtain ⟨rfl, rfl, rfl⟩ := Operand.selfDelimiting_describe.named same
      exact ⟨rfl, rfl⟩
    | term | terms | multiMatch | nested => simp [describe, record, tagged] at same
  | multiMatch body =>
    intro right before after same
    cases right with
    | multiMatch other =>
      obtain ⟨_, _, _, _, _, _⟩ := body
      obtain ⟨_, _, _, _, _, _⟩ := other
      simp only [describe_multiMatch, String.toList_append, List.append_assoc] at same
      obtain ⟨rfl, kind⟩ := selfDelimiting_quoted.behind same
      obtain ⟨rfl, fields⟩ := MultiMatchKind.selfDelimiting_describe.behind kind
      obtain ⟨rfl, boost⟩ := selfDelimiting_names.behind fields
      obtain ⟨rfl, fuzziness⟩ := Binary64.parenthesized.optional.behind boost
      obtain ⟨rfl, prefixLength⟩ := selfDelimiting_quoted.parenthesized.optional.behind fuzziness
      obtain ⟨rfl, rest⟩ := parenthesized_smallCount.optional.behind prefixLength
      exact ⟨rfl, List.append_cancel_left rest⟩
    | term | terms | matching | nested => simp [describe, record, tagged] at same
  | nested path inner ih =>
    intro right before after same
    cases right with
    | nested name clause =>
      simp only [describe_nested, String.toList_append, List.append_assoc] at same
      obtain ⟨rfl, value⟩ := selfDelimiting_quoted.behind same
      obtain ⟨rfl, rest⟩ := ih (List.append_cancel_left value)
      exact ⟨rfl, List.append_cancel_left rest⟩
    | term | terms | matching | multiMatch => simp [describe, record, tagged] at same

/-- The description of a clause tells which clause it is. -/
theorem describe_injective : Function.Injective describe := by
  intro left right same
  have behind : left.describe.toList ++ [] = right.describe.toList ++ [] := by rw [same]
  exact (selfDelimiting_describe behind).1

end Clause

end QueryAssembly
