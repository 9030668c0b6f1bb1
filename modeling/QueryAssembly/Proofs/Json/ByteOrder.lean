import Mathlib.Tactic.SplitIfs
import QueryAssembly.Proofs.Json.Canonical

/-!
# Keys in byte order

Texts are compared code point by code point, and UTF-8 keeps that order: the bytes of the smaller
text come first.  So the keys of a canonical value ascend by their bytes, in every object at every
depth (`Json.keysInByteOrder_of_isCanonical`).
-/

namespace QueryAssembly

namespace ByteOrder

/-- The bytes of a text. -/
def bytes (text : String) : List UInt8 := text.toUTF8.data.toList

theorem bytes_eq_flatMap (text : String) :
    bytes text = text.toList.flatMap String.utf8EncodeChar := by
  rw [bytes, String.toUTF8, ← String.utf8Encode_toList, List.utf8Encode, List.data_toByteArray]

/-! ### One character -/

/-- The numbers below a bound have codes in their order, whatever stands behind the codes. -/
def Ordered (bound : Nat) (code : Nat → List UInt8) : Prop :=
  ∀ low high, low < high → high < bound → ∀ left right, code low ++ left < code high ++ right

theorem cons_lt_cons {low high : Nat} (less : low < high) (small : high < 256)
    (left right : List UInt8) : UInt8.ofNat low :: left < UInt8.ofNat high :: right := by
  have bytes : UInt8.ofNat low < UInt8.ofNat high :=
    (UInt8.ofNat_lt_iff_lt (Nat.lt_trans less small) small).mpr less
  exact List.cons_lt_cons_iff.mpr (.inl bytes)

theorem ordered_lead {bound mark : Nat} (fits : bound + mark ≤ 256) :
    Ordered bound fun value => [UInt8.ofNat (value % bound + mark)] := by
  intro low high less small left right
  refine cons_lt_cons ?_ ?_ left right
  · rw [Nat.mod_eq_of_lt (Nat.lt_trans less small), Nat.mod_eq_of_lt small]
    omega
  · rw [Nat.mod_eq_of_lt small]
    omega

/-- Six more bits in a byte of their own keep the order. -/
theorem Ordered.tail {bound : Nat} {code : Nat → List UInt8} (ordered : Ordered bound code) :
    Ordered (bound * 64) fun value => code (value / 64) ++ [UInt8.ofNat (value % 64 + 128)] := by
  intro low high less small left right
  rw [List.append_assoc, List.append_assoc]
  rcases Nat.lt_or_eq_of_le (Nat.div_le_div_right (Nat.le_of_lt less)) with further | same
  · exact ordered _ _ further (by omega) _ _
  · rw [same]
    exact List.append_left_lt (cons_lt_cons (by omega) (by omega) left right)

theorem ordered_one : Ordered 0x80 fun value => [UInt8.ofNat value] := by
  intro low high less small left right
  exact cons_lt_cons less (by omega) left right

theorem ordered_two : Ordered 0x800 fun value =>
    [UInt8.ofNat (value / 64 % 32 + 192), UInt8.ofNat (value % 64 + 128)] := by
  have lead : Ordered 32 fun value => [UInt8.ofNat (value % 32 + 192)] := ordered_lead (by decide)
  exact lead.tail

theorem ordered_three : Ordered 0x10000 fun value =>
    [UInt8.ofNat (value / 4096 % 16 + 224), UInt8.ofNat (value / 64 % 64 + 128),
      UInt8.ofNat (value % 64 + 128)] := by
  have lead : Ordered 16 fun value => [UInt8.ofNat (value % 16 + 224)] := ordered_lead (by decide)
  have whole := lead.tail.tail
  simp only [Nat.div_div_eq_div_mul] at whole
  exact whole

theorem ordered_four : Ordered 0x200000 fun value =>
    [UInt8.ofNat (value / 262144 % 8 + 240), UInt8.ofNat (value / 4096 % 64 + 128),
      UInt8.ofNat (value / 64 % 64 + 128), UInt8.ofNat (value % 64 + 128)] := by
  have lead : Ordered 8 fun value => [UInt8.ofNat (value % 8 + 240)] := ordered_lead (by decide)
  have whole := lead.tail.tail.tail
  simp only [Nat.div_div_eq_div_mul] at whole
  exact whole

theorem toNat_lt (character : Char) : character.val.toNat < 0x200000 := by
  have valid := character.valid
  simp only [UInt32.isValidChar, Nat.isValidChar] at valid
  omega

/-- UTF-8 keeps the order of characters, whatever stands behind them. -/
theorem utf8EncodeChar_lt {first second : Char} (before : first < second)
    (left right : List UInt8) :
    String.utf8EncodeChar first ++ left < String.utf8EncodeChar second ++ right := by
  have less : first.val.toNat < second.val.toNat := before
  have small := toNat_lt second
  unfold String.utf8EncodeChar
  generalize first.val.toNat = low at less ⊢
  generalize second.val.toNat = high at less small ⊢
  by_cases one : high ≤ 0x7f
  · simp only [if_pos one, if_pos (show low ≤ 0x7f by omega)]
    exact ordered_one low high less (by omega) left right
  by_cases two : high ≤ 0x7ff
  · simp only [if_neg one, if_pos two, if_pos (show low ≤ 0x7ff by omega)]
    by_cases narrow : low ≤ 0x7f
    · rw [if_pos narrow]
      exact cons_lt_cons (by omega) (by omega) _ _
    · rw [if_neg narrow]
      exact ordered_two low high less (by omega) left right
  by_cases three : high ≤ 0xffff
  · simp only [if_neg one, if_neg two, if_pos three, if_pos (show low ≤ 0xffff by omega)]
    split_ifs
    · exact cons_lt_cons (by omega) (by omega) _ _
    · exact cons_lt_cons (by omega) (by omega) _ _
    · exact ordered_three low high less (by omega) left right
  · simp only [if_neg one, if_neg two, if_neg three]
    split_ifs
    · exact cons_lt_cons (by omega) (by omega) _ _
    · exact cons_lt_cons (by omega) (by omega) _ _
    · exact cons_lt_cons (by omega) (by omega) _ _
    · exact ordered_four low high less small left right

/-! ### Texts -/

theorem flatMap_lt_flatMap {first second : List Char} (before : first < second) :
    first.flatMap String.utf8EncodeChar < second.flatMap String.utf8EncodeChar := by
  induction first generalizing second with
  | nil =>
    cases second with
    | nil => exact absurd before (List.lt_irrefl [])
    | cons character rest =>
      have some_byte : String.utf8EncodeChar character ≠ [] := by
        rw [← List.length_pos_iff, String.length_utf8EncodeChar]
        exact character.utf8Size_pos
      obtain ⟨byte, further, code⟩ := List.exists_cons_of_ne_nil some_byte
      rw [List.flatMap_nil, List.flatMap_cons, code]
      exact List.nil_lt_cons byte _
  | cons character rest ih =>
    cases second with
    | nil => exact absurd before (List.not_lt_nil _)
    | cons other further =>
      rw [List.flatMap_cons, List.flatMap_cons]
      rcases List.cons_lt_cons_iff.mp before with less | ⟨rfl, later⟩
      · exact utf8EncodeChar_lt less _ _
      · exact List.append_left_lt (ih later)

theorem bytes_lt_bytes {first second : String} (before : first < second) :
    bytes first < bytes second := by
  rw [bytes_eq_flatMap, bytes_eq_flatMap]
  exact flatMap_lt_flatMap (String.lt_iff.mp before)

end ByteOrder

/-! ### Values -/

namespace Json

mutual

/-- In every object of a value, the keys ascend strictly by their bytes. -/
def KeysInByteOrder : Json → Prop
  | .null | .bool _ | .number _ | .string _ => True
  | .array items => ItemsInByteOrder items
  | .object members =>
    (members.map fun member => ByteOrder.bytes member.1).Pairwise (· < ·) ∧
      MembersInByteOrder members

/-- So it is in every item. -/
def ItemsInByteOrder : List Json → Prop
  | [] => True
  | item :: rest => item.KeysInByteOrder ∧ ItemsInByteOrder rest

/-- So it is in the value of every member. -/
def MembersInByteOrder : List (String × Json) → Prop
  | [] => True
  | (_, value) :: rest => value.KeysInByteOrder ∧ MembersInByteOrder rest

end

theorem bytes_pairwise_of_ascending {members : List (String × Json)}
    (ascending : Members.Ascending members) :
    (members.map fun member => ByteOrder.bytes member.1).Pairwise (· < ·) := by
  rw [Members.Ascending, List.pairwise_map] at ascending
  rw [List.pairwise_map]
  exact ascending.imp ByteOrder.bytes_lt_bytes

mutual

theorem keysInByteOrder_of_isCanonical : {value : Json} → value.IsCanonical →
    value.KeysInByteOrder
  | .null, _ | .bool _, _ | .number _, _ | .string _, _ => trivial
  | .array _, held => itemsInByteOrder_of_itemsCanonical held
  | .object _, held =>
    ⟨bytes_pairwise_of_ascending held.1, membersInByteOrder_of_membersCanonical held.2⟩

theorem itemsInByteOrder_of_itemsCanonical : {items : List Json} → ItemsCanonical items →
    ItemsInByteOrder items
  | [], _ => trivial
  | _ :: _, held =>
    ⟨keysInByteOrder_of_isCanonical held.1, itemsInByteOrder_of_itemsCanonical held.2⟩

theorem membersInByteOrder_of_membersCanonical : {members : List (String × Json)} →
    MembersCanonical members → MembersInByteOrder members
  | [], _ => trivial
  | (_, _) :: _, held =>
    ⟨keysInByteOrder_of_isCanonical held.1, membersInByteOrder_of_membersCanonical held.2⟩

end

end Json

end QueryAssembly
