import ObjectCalculus.Value.Text
import Mathlib.Data.List.Forall2

/-!
# Octets

The text of octets has two upper-case hexadecimal digits for each of them and single hyphens
between. It is the only text that is read as these octets, so that different octets never have
the same text.
-/

set_option autoImplicit false

namespace ObjectCalculus

namespace Octets

def digitValue? (digit : Char) : Option Nat :=
  if '0' ≤ digit ∧ digit ≤ '9' then some (digit.toNat - '0'.toNat)
  else if 'A' ≤ digit ∧ digit ≤ 'F' then some (digit.toNat - 'A'.toNat + 10)
  else none

/-- The octet that two digits stand for, the high half first. -/
def octet? : List Char → Option UInt8
  | [high, low] => do
      let sixteens ← digitValue? high
      let ones ← digitValue? low
      some (UInt8.ofNat (sixteens * 16 + ones))
  | _ => none

/-- Every piece between two hyphens is an octet; nothing is no octet at all. -/
def read? (text : String) : Option (List UInt8) :=
  if text = "" then some [] else (text.toList.splitOn '-').mapM octet?

variable {octets : List UInt8} {pieces : List (List Char)} {piece : List Char} {digit : Char}
  {octet : UInt8} {value : Nat}

theorem digit_value_hex_digit (small : value < 16) : digitValue? (hexDigit value) = some value := by
  revert value
  decide

theorem digit_value_cases (known : digitValue? digit = some value) :
    value < 10 ∧ digit.toNat = '0'.toNat + value ∨
      10 ≤ value ∧ value < 16 ∧ digit.toNat = 'A'.toNat + (value - 10) := by
  unfold digitValue? at known
  split at known
  next decimal =>
    have above : '0'.toNat ≤ digit.toNat := decimal.1
    have below : digit.toNat ≤ '9'.toNat := decimal.2
    cases known
    simp only [Char.reduceToNat] at above below ⊢
    omega
  next =>
    split at known
    next letter =>
      have above : 'A'.toNat ≤ digit.toNat := letter.1
      have below : digit.toNat ≤ 'F'.toNat := letter.2
      cases known
      simp only [Char.reduceToNat] at above below ⊢
      omega
    next => cases known

theorem hex_digit_value (known : digitValue? digit = some value) :
    value < 16 ∧ hexDigit value = digit := by
  unfold hexDigit
  rcases digit_value_cases known with ⟨decimal, code⟩ | ⟨letter, small, code⟩
  · rw [if_pos decimal, ← code, Char.ofNat_toNat]
    exact ⟨Nat.lt_trans decimal (by decide), rfl⟩
  · rw [if_neg (Nat.not_lt.mpr letter), ← code, Char.ofNat_toNat]
    exact ⟨small, rfl⟩

theorem octet_pair (octet : UInt8) : octet? (pair octet) = some octet := by
  have bound := octet.toNat_lt
  have high : octet.toNat / 16 < 16 := by omega
  have low : octet.toNat % 16 < 16 := by omega
  have halves : octet.toNat / 16 * 16 + octet.toNat % 16 = octet.toNat := by omega
  simp only [octet?, pair, digit_value_hex_digit high, digit_value_hex_digit low,
    Option.bind_eq_bind, Option.bind_some, halves, UInt8.ofNat_toNat]

/-- An octet is written in one way only. -/
theorem pair_of_octet (known : octet? piece = some octet) : piece = pair octet := by
  match piece, known with
  | [high, low], known =>
      simp only [octet?, Option.bind_eq_bind, Option.bind_eq_some_iff] at known
      obtain ⟨sixteens, highValue, ones, lowValue, made⟩ := known
      obtain ⟨highSmall, highDigit⟩ := hex_digit_value highValue
      obtain ⟨lowSmall, lowDigit⟩ := hex_digit_value lowValue
      have number : octet.toNat = sixteens * 16 + ones := by
        rw [← Option.some.inj made, UInt8.toNat_ofNat']
        omega
      have quotient : octet.toNat / 16 = sixteens := by omega
      have remainder : octet.toNat % 16 = ones := by omega
      rw [pair, quotient, remainder, highDigit, lowDigit]

theorem octet_iff : octet? piece = some octet ↔ piece = pair octet :=
  ⟨pair_of_octet, fun same => same ▸ octet_pair octet⟩

/-- Two upper-case hexadecimal digits that are read as the octet. -/
structure Spells (piece : List Char) (octet : UInt8) : Prop where
  length : piece.length = 2
  digits : ∀ digit ∈ piece, (digitValue? digit).isSome = true
  value : octet? piece = some octet

theorem hyphen_not_digit : digitValue? '-' = none := by
  decide

theorem pair_spells (octet : UInt8) : Spells (pair octet) octet where
  length := rfl
  value := octet_pair octet
  digits := by
    have bound := octet.toNat_lt
    simp only [pair, List.forall_mem_cons]
    rw [digit_value_hex_digit (by omega), digit_value_hex_digit (by omega)]
    simp

theorem hyphen_not_in_pair (octet : UInt8) : '-' ∉ pair octet := by
  intro member
  have digit := (pair_spells octet).digits '-' member
  rw [hyphen_not_digit] at digit
  cases digit

theorem chars_intercalate (octets : List UInt8) :
    chars octets = ['-'].intercalate (octets.map pair) := by
  induction octets with
  | nil => rfl
  | cons octet rest ih =>
      cases rest with
      | nil => simp [chars]
      | cons next others =>
          rw [chars, ih]
          · simp only [List.map_cons, List.intercalate_cons_cons, List.append_assoc,
              List.singleton_append]
          · exact List.cons_ne_nil next others

theorem chars_length (octets : List UInt8) : (chars octets).length = 3 * octets.length - 1 := by
  induction octets with
  | nil => rfl
  | cons octet rest ih =>
      cases rest with
      | nil => rfl
      | cons next others =>
          rw [chars, List.length_append, List.length_cons, ih]
          · simp only [pair, List.length_cons, List.length_nil]
            omega
          · exact List.cons_ne_nil next others

theorem chars_split (present : octets ≠ []) : (chars octets).splitOn '-' = octets.map pair := by
  rw [chars_intercalate]
  apply List.splitOn_intercalate
  · intro piece member
    obtain ⟨octet, _, rfl⟩ := List.mem_map.mp member
    exact hyphen_not_in_pair octet
  · exact fun none => present (List.map_eq_nil_iff.mp none)

theorem octets_iff : pieces.mapM octet? = some octets ↔ pieces = octets.map pair := by
  induction pieces generalizing octets with
  | nil => cases octets <;> simp
  | cons piece rest ih =>
      rw [List.mapM_cons]
      simp only [Option.bind_eq_bind, Option.bind_eq_some_iff, octet_iff, ih]
      cases octets with
      | nil => simp
      | cons octet others => simp [and_comm]

theorem text_empty_iff : text octets = "" ↔ octets = [] := by
  rw [← String.toList_inj, text, String.toList_ofList, String.toList_empty,
    ← List.length_eq_zero_iff, ← List.length_eq_zero_iff, chars_length]
  omega

theorem read_text (octets : List UInt8) : read? (text octets) = some octets := by
  unfold read?
  split
  next empty => rw [text_empty_iff.mp empty]
  next written =>
    rw [octets_iff, text, String.toList_ofList]
    exact chars_split fun none => written (text_empty_iff.mpr none)

theorem text_injective {others : List UInt8} (same : text others = text octets) :
    others = octets := by
  apply Option.some.inj
  calc
    some others = read? (text others) := (read_text others).symm
    _ = read? (text octets) := congrArg read? same
    _ = some octets := read_text octets

theorem text_of_read {content : String} (known : read? content = some octets) :
    content = text octets := by
  unfold read? at known
  split at known
  next empty =>
    cases known
    exact empty
  next =>
    rw [octets_iff] at known
    rw [text, chars_intercalate, ← known, List.intercalate_splitOn, String.ofList_toList]

end Octets

/-- The text of octets consists of two upper-case hexadecimal digits for each octet, in order,
with single hyphens between: nothing for no octets, and otherwise one character less than three
for each. Of all texts it is the one that is read back as the octets, so different octets have
different texts. -/
theorem octets_render_faithfully (octets : List UInt8) :
    let text := (Value.bytes octets).text
    (∃ pieces, text.toList = ['-'].intercalate pieces ∧
      List.Forall₂ Octets.Spells pieces octets) ∧
    (text = "" ↔ octets = []) ∧
    (octets ≠ [] → text.length + 1 = 3 * octets.length) ∧
    (∀ content, Octets.read? content = some octets ↔ content = text) ∧
    ∀ others, (Value.bytes others).text = text ↔ others = octets := by
  intro text
  have written (octets : List UInt8) : (Value.bytes octets).text = Octets.text octets := by
    simp only [Value.text]
  have own : text = Octets.text octets := written octets
  have characters : text.toList = Octets.chars octets := by
    rw [own, Octets.text, String.toList_ofList]
  refine ⟨⟨octets.map Octets.pair, ?_, ?_⟩, ?_, ?_, ?_, ?_⟩
  · rw [characters, Octets.chars_intercalate]
  · rw [List.forall₂_map_left_iff, List.forall₂_same]
    exact fun octet _ => Octets.pair_spells octet
  · rw [own]
    exact Octets.text_empty_iff
  · intro present
    have length := List.length_pos_iff.mpr present
    rw [← String.length_toList, characters, Octets.chars_length]
    omega
  · intro content
    rw [own]
    exact ⟨Octets.text_of_read, fun same => same ▸ Octets.read_text octets⟩
  · intro others
    rw [own, written others]
    exact ⟨Octets.text_injective, fun same => congrArg Octets.text same⟩

theorem small_octet_padded :
    let octets : List UInt8 := [0x0A, 0xAB, 0xFF]
    octets ≠ [] ∧ (Value.bytes octets).text = "0A-AB-FF" ∧ "0A-AB-FF".length + 1 = 3 * 3 ∧
      Octets.read? "0A-AB-FF" = some octets := by
  intro octets
  have present : octets ≠ [] := List.cons_ne_nil _ _
  have written : (Value.bytes octets).text = "0A-AB-FF" := by
    simp only [Value.text]
    decide
  obtain ⟨_, _, length, read, _⟩ := octets_render_faithfully octets
  rw [written] at length read
  exact ⟨present, written, length present, (read _).mpr rfl⟩

end ObjectCalculus
