import ObjectCalculus.Value.Text
import Mathlib.Data.List.Basic

/-!
# Numerals

An integer is written with digits and a sign only, and a floating value never is: in its text
stands a point, the mark of an exponent or a letter of what is no number or infinite. Neither
has a comma, so that the text of an array of numbers can be taken apart again, and tells for
each item which of the two it is.
-/

set_option autoImplicit false

namespace ObjectCalculus

namespace Decimal

variable {sign digits : List Char} {leading : Int} {mark : String} {character : Char}

def AreDigits (digits : List Char) : Prop :=
  ∀ digit ∈ digits, digit.isDigit = true

theorem digits_of_number (number : Nat) : AreDigits (digitsOf number) := fun _ member =>
  Nat.isDigit_of_mem_toDigits (by decide) (by decide) member

theorem digit_of_zeros {count : Nat} (member : character ∈ List.replicate count '0') :
    character.isDigit = true := by
  rw [List.eq_of_mem_replicate member]
  decide

def OfInteger (character : Char) : Prop :=
  character.isDigit = true ∨ character = '-'

instance : DecidablePred OfInteger := fun character =>
  inferInstanceAs (Decidable (character.isDigit = true ∨ character = '-'))

def IsSign (sign : List Char) : Prop :=
  sign = [] ∨ sign = ['-']

theorem sign_characters (signs : IsSign sign) (member : character ∈ sign) :
    OfInteger character := by
  rcases signs with rfl | rfl
  · cases member
  · exact .inr (List.mem_singleton.mp member)

theorem integer_text (number : Int) :
    ∃ sign, IsSign sign ∧
      (toString number).toList = sign ++ digitsOf number.natAbs := by
  rw [Int.toString_eq_repr, Int.repr_eq_if]
  split
  next positive =>
    have same : number.toNat = number.natAbs := by omega
    exact ⟨[], .inl rfl, by rw [same, Nat.repr_eq_ofList_toDigits, String.toList_ofList]; rfl⟩
  next negative =>
    have same : (-number).toNat = number.natAbs := by omega
    refine ⟨['-'], .inr rfl, ?_⟩
    rw [same, Nat.repr_eq_ofList_toDigits, String.toList_append]
    exact congrArg (['-'] ++ ·) String.toList_ofList

theorem integer_characters {number : Int} (member : character ∈ (toString number).toList) :
    OfInteger character := by
  obtain ⟨sign, signs, written⟩ := integer_text number
  rw [written, List.mem_append] at member
  rcases member with inSign | inDigits
  · exact sign_characters signs inSign
  · exact .inl (digits_of_number _ _ inDigits)

theorem positional_characters (decimal : AreDigits digits)
    (member : character ∈ positional digits leading) :
    character.isDigit = true ∨ character = '.' := by
  unfold positional at member
  split at member
  · simp only [List.mem_append, List.mem_cons, List.not_mem_nil, or_false] at member
    rcases member with ((rfl | rfl) | zeros) | rest
    · exact .inl (by decide)
    · exact .inr rfl
    · exact .inl (digit_of_zeros zeros)
    · exact .inl (decimal _ rest)
  · simp only [List.mem_append, List.mem_cons] at member
    rcases member with (whole | zeros) | rfl | rest
    · exact .inl (decimal _ (List.mem_of_mem_take whole))
    · exact .inl (digit_of_zeros zeros)
    · exact .inr rfl
    · split at rest
      · exact .inl (by rw [List.mem_singleton.mp rest]; decide)
      · exact .inl (decimal _ (List.mem_of_mem_drop rest))

theorem exponential_characters (decimal : AreDigits digits)
    (member : character ∈ exponential mark digits leading) :
    OfInteger character ∨ character = '.' ∨ character ∈ mark.toList := by
  unfold exponential at member
  simp only [List.mem_append] at member
  rcases member with ((first | rest) | marked) | power
  · exact .inl (.inl (decimal _ (List.mem_of_mem_take first)))
  · split at rest
    · cases rest
    · rcases List.mem_cons.mp rest with rfl | others
      · exact .inr (.inl rfl)
      · exact .inl (.inl (decimal _ (List.mem_of_mem_drop others)))
  · exact .inr (.inr marked)
  · exact .inl (integer_characters power)

theorem point_in_positional : '.' ∈ positional digits leading := by
  unfold positional
  split <;> simp

theorem mark_in_exponential (member : character ∈ mark.toList) :
    character ∈ exponential mark digits leading := by
  simp [exponential, member]

namespace Layout

variable {layout : Layout}

/-- What may follow the sign. -/
inductive Body (layout : Layout) : List Char → Prop
  | infinite : Body layout layout.infinity.toList
  | positional {digits : List Char} (decimal : AreDigits digits) (leading : Int) :
      Body layout (Decimal.positional digits leading)
  | exponential {digits : List Char} (decimal : AreDigits digits) (leading : Int) :
      Body layout (Decimal.exponential layout.mark digits leading)

theorem magnitude_body (number : Scientific) : layout.Body (layout.magnitude number) := by
  unfold magnitude
  dsimp only
  split
  · exact .positional (digits_of_number _) _
  · exact .exponential (digits_of_number _) _

theorem write_cases (layout : Layout) (number : Binary64) :
    layout.write number = layout.notANumber ∨
      ∃ sign body, IsSign sign ∧ layout.Body body ∧
        (layout.write number).toList = sign ++ body := by
  unfold write
  split
  · exact .inl rfl
  · refine .inr ⟨_, _, ?_, ?_, String.toList_ofList⟩
    · split
      · exact .inr rfl
      · exact .inl rfl
    · split
      · exact .infinite
      · split
        · exact .positional (by simp [AreDigits]) 0
        · exact magnitude_body _

/-- Beside digits, signs and points there are only the texts that the layout itself tells. -/
theorem write_characters {number : Binary64} (member : character ∈ (layout.write number).toList) :
    OfInteger character ∨ character = '.' ∨ character ∈ layout.mark.toList ∨
      character ∈ layout.infinity.toList ∨ character ∈ layout.notANumber.toList := by
  rcases layout.write_cases number with none | ⟨sign, body, signs, form, written⟩
  · rw [none] at member
    exact .inr (.inr (.inr (.inr member)))
  · rw [written, List.mem_append] at member
    rcases member with inSign | inBody
    · exact .inl (sign_characters signs inSign)
    · cases form with
      | infinite => exact .inr (.inr (.inr (.inl inBody)))
      | positional decimal leading =>
          rcases positional_characters decimal inBody with digit | point
          · exact .inl (.inl digit)
          · exact .inr (.inl point)
      | exponential decimal leading =>
          rcases exponential_characters decimal inBody with plain | point | marked
          · exact .inl plain
          · exact .inr (.inl point)
          · exact .inr (.inr (.inl marked))

end Layout

end Decimal

section Separated

variable {first second : Char} {piece : List Char} {pieces others rest : List (List Char)}

/-- Two characters between the pieces are one between pieces that begin with the other. -/
theorem intercalate_pair (first second : Char) (piece : List Char) (rest : List (List Char)) :
    [first, second].intercalate (piece :: rest) =
      [first].intercalate (piece :: rest.map (second :: ·)) := by
  induction rest generalizing piece with
  | nil => simp
  | cons next others ih =>
      rw [List.intercalate_cons_cons, ih, List.map_cons, List.intercalate_cons_cons,
        List.intercalate_cons_cons_left, List.append_assoc, List.append_assoc]
      rfl

/-- No piece is empty or has the character in it. -/
def Separable (character : Char) (pieces : List (List Char)) : Prop :=
  ∀ piece ∈ pieces, piece ≠ [] ∧ character ∉ piece

theorem intercalate_pair_split (distinct : second ≠ first)
    (separable : Separable first (piece :: rest)) :
    ([first, second].intercalate (piece :: rest)).splitOn first =
      piece :: rest.map (second :: ·) := by
  obtain ⟨here, later⟩ := List.forall_mem_cons.mp separable
  rw [intercalate_pair]
  apply List.splitOn_intercalate
  · rw [List.forall_mem_cons, List.forall_mem_map]
    refine ⟨here.2, fun other member => ?_⟩
    rw [List.mem_cons, not_or]
    exact ⟨distinct.symm, (later other member).2⟩
  · exact List.cons_ne_nil _ _

theorem intercalate_present {separator : List Char}
    (separable : Separable first (piece :: rest)) : separator.intercalate (piece :: rest) ≠ [] := by
  obtain ⟨present, _⟩ := separable piece List.mem_cons_self
  obtain ⟨character, others, rfl⟩ := List.exists_cons_of_ne_nil present
  rw [List.intercalate_cons_cons_left]
  exact List.cons_ne_nil _ _

theorem intercalate_pair_injective (distinct : second ≠ first)
    (left : Separable first pieces) (right : Separable first others)
    (same : [first, second].intercalate pieces = [first, second].intercalate others) :
    pieces = others := by
  cases pieces with
  | nil =>
      cases others with
      | nil => rfl
      | cons other later => exact absurd same.symm (intercalate_present right)
  | cons piece rest =>
      cases others with
      | nil => exact absurd same (intercalate_present left)
      | cons other later =>
          have split := congrArg (List.splitOn first) same
          rw [intercalate_pair_split distinct left, intercalate_pair_split distinct right,
            List.cons.injEq, List.map_inj_right fun _ _ => List.tail_eq_of_cons_eq] at split
          rw [split.1, split.2]

end Separated

namespace Value

open Decimal

inductive IsNumber : Value → Prop
  | int (integer : Int64) : IsNumber (.int integer)
  | float (number : Binary64) : IsNumber (.float number)

variable {value left right : Value} {values lefts rights : List Value} {character : Char}

theorem float_text_marked (number : Binary64) :
    ∃ character ∈ number.text.toList, ¬OfInteger character := by
  unfold Binary64.text
  rcases floatLayout.write_cases number with none | ⟨sign, body, _, form, written⟩
  · rw [none]
    exact ⟨'N', by decide, by decide⟩
  · rw [written]
    suffices marked : ∃ character ∈ body, ¬OfInteger character by
      obtain ⟨character, member, plain⟩ := marked
      exact ⟨character, List.mem_append_right sign member, plain⟩
    cases form with
    | infinite => exact ⟨'i', by decide, by decide⟩
    | positional => exact ⟨'.', point_in_positional, by decide⟩
    | exponential =>
        exact ⟨'e', mark_in_exponential (by decide), by decide⟩

theorem int_text_not_float_text (integer : Int64) (number : Binary64) :
    (Value.int integer).text ≠ (Value.float number).text := by
  intro same
  simp only [text] at same
  obtain ⟨character, member, marked⟩ := float_text_marked number
  rw [← same] at member
  exact marked (integer_characters member)

theorem number_kind (leftNumber : left.IsNumber) (rightNumber : right.IsNumber)
    (same : left.text = right.text) : left.kind = right.kind := by
  cases leftNumber with
  | int integer =>
      cases rightNumber with
      | int => rfl
      | float number => exact absurd same (int_text_not_float_text integer number)
  | float number =>
      cases rightNumber with
      | int integer => exact absurd same.symm (int_text_not_float_text integer number)
      | float => rfl

theorem comma_not_in_number (number : value.IsNumber) : ',' ∉ value.text.toList := by
  intro member
  cases number with
  | int integer =>
      simp only [text] at member
      exact absurd (integer_characters member) (by decide)
  | float word =>
      simp only [text] at member
      exact absurd (Layout.write_characters member) (by decide)

theorem number_text_present (number : value.IsNumber) : value.text.toList ≠ [] := by
  cases number with
  | int integer =>
      obtain ⟨sign, _, written⟩ := integer_text integer.toInt
      simp only [text]
      rw [written]
      exact List.append_ne_nil_of_right_ne_nil sign Nat.toDigits_ne_nil
  | float word =>
      obtain ⟨character, member, _⟩ := float_text_marked word
      simp only [text]
      exact List.ne_nil_of_mem member

theorem texts_map (values : List Value) : texts values = values.map text := by
  induction values with
  | nil => rfl
  | cons value rest ih => rw [texts, ih, List.map_cons]

theorem array_characters (values : List Value) :
    (Value.array values).text.toList =
      '[' :: ([',', ' '].intercalate (values.map fun value => value.text.toList) ++ [']']) := by
  simp only [text, texts_map, String.toList_append, String.toList_intercalate, List.map_map]
  rfl

theorem numbers_separable (numbers : ∀ value ∈ values, value.IsNumber) :
    Separable ',' (values.map fun value => value.text.toList) := by
  intro piece member
  obtain ⟨value, present, rfl⟩ := List.mem_map.mp member
  exact ⟨number_text_present (numbers value present), comma_not_in_number (numbers value present)⟩

/-- The text of an array of numbers tells the texts of its items. -/
theorem array_text_iff (leftNumbers : ∀ item ∈ lefts, item.IsNumber)
    (rightNumbers : ∀ item ∈ rights, item.IsNumber) :
    (Value.array lefts).text = (Value.array rights).text ↔ lefts.map text = rights.map text := by
  rw [← String.toList_inj, array_characters, array_characters, List.cons_inj_right,
    List.append_left_inj]
  constructor
  · intro same
    have pieces := intercalate_pair_injective (by decide) (numbers_separable leftNumbers)
      (numbers_separable rightNumbers) same
    have texts := congrArg (List.map String.ofList) pieces
    simpa only [List.map_map, Function.comp_def, String.ofList_toList] using texts
  · intro same
    have pieces := congrArg (List.map String.toList) same
    rw [List.map_map, List.map_map] at pieces
    exact congrArg _ pieces

end Value

/-- An integer and a floating value never have the same text, whichever they are. Nor have two
arrays of numbers if at some place one has an integer and the other a floating value: the text of
an array of numbers tells the text of each item. -/
theorem integers_and_floats_differ :
    (∀ (integer : Int64) (number : Binary64),
      (Value.int integer).text ≠ (Value.float number).text) ∧
    ∀ lefts rights : List Value, (∀ item ∈ lefts, item.IsNumber) →
      (∀ item ∈ rights, item.IsNumber) →
      ((Value.array lefts).text = (Value.array rights).text ↔
        lefts.map Value.text = rights.map Value.text) ∧
      ∀ (index : Nat) (left right : Value), lefts[index]? = some left →
        rights[index]? = some right → left.kind ≠ right.kind →
        (Value.array lefts).text ≠ (Value.array rights).text := by
  refine ⟨Value.int_text_not_float_text, fun lefts rights leftNumbers rightNumbers => ?_⟩
  have told := Value.array_text_iff leftNumbers rightNumbers
  refine ⟨told, fun index left right leftItem rightItem kinds same => kinds ?_⟩
  have texts : (lefts.map Value.text)[index]? = (rights.map Value.text)[index]? := by
    rw [told.mp same]
  rw [List.getElem?_map, List.getElem?_map, leftItem, rightItem] at texts
  exact Value.number_kind (leftNumbers left (List.mem_of_getElem? leftItem))
    (rightNumbers right (List.mem_of_getElem? rightItem)) (Option.some.inj texts)

theorem quadrillions_differ :
    let lefts : List Value := [.int 1, .int 10000000000000000]
    let rights : List Value := [.int 1, .float ⟨0x4341c37937e08000⟩]
    (∀ item ∈ lefts, item.IsNumber) ∧ (∀ item ∈ rights, item.IsNumber) ∧
      (Value.int 10000000000000000).text ≠ (Value.float ⟨0x4341c37937e08000⟩).text ∧
      (Value.array lefts).text ≠ (Value.array rights).text := by
  intro lefts rights
  have leftNumbers : ∀ item ∈ lefts, item.IsNumber := by
    simp [lefts, Value.IsNumber.int]
  have rightNumbers : ∀ item ∈ rights, item.IsNumber := by
    simp [rights, Value.IsNumber.int, Value.IsNumber.float]
  obtain ⟨apart, arrays⟩ := integers_and_floats_differ
  obtain ⟨_, differ⟩ := arrays lefts rights leftNumbers rightNumbers
  exact ⟨leftNumbers, rightNumbers, apart _ _, differ 1 _ _ rfl rfl (by decide)⟩

/-- From here on there is no point in the text. -/
example : (Value.float ⟨0x4341c37937e08000⟩).text = "1e16" := by
  decide +kernel

end ObjectCalculus
