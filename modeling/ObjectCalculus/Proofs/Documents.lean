import ObjectCalculus.Toml.Document
import ObjectCalculus.Proofs.Numerals
import Mathlib.Data.Int.ModEq
import Mathlib.Data.List.Nodup

/-!
# Documents

A document of plain lines, each with a key of its own and one scalar, is read as the table of
these keys. Natural numbers in decimal digits are such scalars.
-/

set_option autoImplicit false

namespace ObjectCalculus.Toml

open Decimal

theorem ne_of_kind {kind : Char → Bool} {character other : Char} (inside : kind character = true)
    (outside : kind other = false) : character ≠ other := by
  rintro rfl
  rw [inside] at outside
  cases outside

section Digits

variable {digits : List Char} {number : Nat}

theorem digits_grouped (present : digits ≠ []) (decimal : AreDigits digits) :
    isGrouped Char.isDigit digits = true := by
  induction digits with
  | nil => exact absurd rfl present
  | cons first rest ih =>
      obtain ⟨here, later⟩ := List.forall_mem_cons.mp decimal
      cases rest with
      | nil => exact here
      | cons next others =>
          have digit : next ≠ '_' := ne_of_kind (later next List.mem_cons_self) (by decide)
          rw [isGrouped, here, Bool.true_and]
          · exact ih (List.cons_ne_nil next others) later
          · exact List.cons_ne_nil next others
          · exact fun _ same => digit (List.cons.inj same).1

theorem leading_digit (positive : 0 < number) : (digitsOf number).head? ≠ some '0' := by
  unfold digitsOf
  induction number using Nat.strongRecOn with
  | ind number ih =>
      rw [Nat.toDigits_eq_if (by decide)]
      split
      next small =>
        have nonzero : ∀ digit < 10, 0 < digit → [digit.digitChar].head? ≠ some '0' := by decide
        exact nonzero number small positive
      next large =>
        have shorter := ih (number / 10) (by omega) (by omega)
        rwa [List.head?_append_of_ne_nil _ Nat.toDigits_ne_nil]

theorem digits_decimal (number : Nat) : isDecimal (digitsOf number) = true := by
  have grouped : isGrouped Char.isDigit (digitsOf number) = true :=
    digits_grouped Nat.toDigits_ne_nil (digits_of_number number)
  rw [isDecimal, grouped, Bool.true_and]
  rcases Nat.eq_zero_or_pos number with rfl | positive
  · rfl
  · rw [bne_iff_ne.mpr (leading_digit positive), Bool.true_or]

theorem digits_value (decimal : AreDigits digits) :
    groupedValue 10 digits = Nat.ofDigitChars 10 digits 0 := by
  have plain : digits.filter (· != '_') = digits := by
    rw [List.filter_eq_self]
    exact fun digit member => bne_iff_ne.mpr (ne_of_kind (decimal digit member) (by decide))
  rw [groupedValue, plain, Nat.ofDigitChars_eq_foldl]
  apply List.foldl_ext
  intro total digit member
  rw [digitValue, if_pos (decimal digit member), Nat.mul_comm]

theorem digits_integer (decimal : AreDigits digits) : integer? digits = decimal? digits := by
  have unmarked (mark : Char) (outside : mark.isDigit = false) (rest : List Char) :
      digits ≠ '0' :: mark :: rest := by
    rintro rfl
    exact ne_of_kind (decimal mark (by simp)) outside rfl
  unfold integer?
  split
  · exact absurd rfl (unmarked 'x' (by decide) _)
  · exact absurd rfl (unmarked 'o' (by decide) _)
  · exact absurd rfl (unmarked 'b' (by decide) _)
  · rfl

theorem digits_unsigned (decimal : AreDigits digits) : splitSign digits = (false, digits) := by
  unfold splitSign
  split
  · exact absurd (decimal '+' List.mem_cons_self) (by decide)
  · exact absurd (decimal '-' List.mem_cons_self) (by decide)
  · rfl

theorem fits_word_iff {number : Int} : FitsWord number ↔ -2 ^ 63 ≤ number ∧ number < 2 ^ 63 := by
  rw [FitsWord, Int64.toInt_minValue, Int64.toInt_maxValue, Int.le_sub_one_iff]

theorem in_range_iff {value found : Int} :
    inRange value = some found ↔ FitsWord value ∧ found = value := by
  have bound : Int.pow 2 63 = 2 ^ 63 := rfl
  rw [inRange, bound, Option.ite_none_right_eq_some, Option.some_inj, fits_word_iff,
    eq_comm (a := value)]

/-- A natural number in decimal digits is a scalar, if it fits a signed word. -/
theorem number_scalar (fits : number < 2 ^ 63) :
    scalar? (digitsOf number) = some (.integer number) := by
  have decimal := digits_of_number number
  have value : groupedValue 10 (digitsOf number) = number := by
    rw [digits_value decimal]
    exact Nat.ofDigitChars_ten_toDigits
  have read : integer? (digitsOf number) = some (number : Int) := by
    rw [digits_integer decimal, decimal?, digits_unsigned decimal]
    simp only [digits_decimal, value, if_true, Bool.false_eq_true, if_false]
    exact in_range_iff.mpr ⟨fits_word_iff.mpr ⟨by omega, by exact_mod_cast fits⟩, rfl⟩
  have word (letter : Char) (outside : letter.isDigit = false) (rest : List Char) :
      digitsOf number ≠ letter :: rest := fun same =>
    ne_of_kind (decimal letter (same ▸ List.mem_cons_self)) outside rfl
  rw [scalar?, if_neg (word 't' (by decide) _), if_neg (word 'f' (by decide) _), read]

end Digits

section Scanning

variable {first character : Char} {text key spelling rest : List Char} {node : Node}

theorem skip_no_blank (solid : isBlank first = false) :
    skipBlanks (first :: rest) = first :: rest := by
  rw [skipBlanks, List.dropWhile_cons, solid]
  rfl

theorem not_blank {kind : Char → Bool} (inside : kind character = true)
    (noSpace : kind ' ' = false) (noTab : kind '\t' = false) : isBlank character = false := by
  rw [isBlank, beq_false_of_ne (ne_of_kind inside noSpace),
    beq_false_of_ne (ne_of_kind inside noTab)]
  rfl

/-- What is of a kind is taken up to the first character that is not. -/
theorem take_run {kind : Char → Bool} (run : ∀ character ∈ text, kind character = true)
    (stop : kind first = false) : (text ++ first :: rest).takeWhile kind = text := by
  rw [List.takeWhile_append_of_pos run, List.takeWhile_cons, stop]
  exact List.append_nil text

theorem drop_run {kind : Char → Bool} (run : ∀ character ∈ text, kind character = true)
    (stop : kind first = false) : (text ++ first :: rest).dropWhile kind = first :: rest := by
  rw [List.dropWhile_append_of_pos run, List.dropWhile_cons, stop]
  rfl

theorem read_key_part_bare (present : key ≠ [])
    (bare : ∀ character ∈ key, isKeyChar character = true) :
    readKeyPart (key ++ ' ' :: rest) = some (String.ofList key, ' ' :: rest) := by
  have taken : (key ++ ' ' :: rest).takeWhile isKeyChar = key := take_run bare (by decide)
  have left : (key ++ ' ' :: rest).dropWhile isKeyChar = ' ' :: rest := drop_run bare (by decide)
  obtain ⟨first, others, rfl⟩ := List.exists_cons_of_ne_nil present
  have head := bare first List.mem_cons_self
  rw [readKeyPart]
  · rw [taken, left]
    rfl
  · exact fun _ same => ne_of_kind head (by decide) (List.cons.inj same).1
  · exact fun _ same => ne_of_kind head (by decide) (List.cons.inj same).1

theorem read_key_bare (parts : Nat) (present : key ≠ [])
    (bare : ∀ character ∈ key, isKeyChar character = true) :
    readKey (parts + 1) (key ++ ' ' :: '=' :: rest) =
      some ([], String.ofList key, '=' :: rest) := by
  have part : readKeyPart (key ++ ' ' :: '=' :: rest) = _ := read_key_part_bare present bare
  obtain ⟨first, others, rfl⟩ := List.exists_cons_of_ne_nil present
  have solid : isBlank first = false :=
    not_blank (bare first List.mem_cons_self) (by decide) (by decide)
  rw [readKey, List.cons_append, skip_no_blank solid, ← List.cons_append, part]
  rfl

theorem read_scalar_line (plain : ∀ character ∈ spelling, isScalarChar character = true)
    (scalar : scalar? spelling = some node) :
    readScalar (spelling ++ '\n' :: rest) = some (node, '\n' :: rest) := by
  have taken : (spelling ++ '\n' :: rest).takeWhile isScalarChar = spelling :=
    take_run plain (by decide)
  have left : (spelling ++ '\n' :: rest).dropWhile isScalarChar = '\n' :: rest :=
    drop_run plain (by decide)
  rw [readScalar, taken, left, scalar]
  rfl

theorem read_value_scalar (levels : Nat) (rest : List Char) (present : spelling ≠ [])
    (plain : ∀ character ∈ spelling, isScalarChar character = true)
    (scalar : scalar? spelling = some node) :
    readValue levels (spelling ++ '\n' :: rest) = some (node, '\n' :: rest) := by
  rw [← read_scalar_line plain scalar]
  obtain ⟨first, others, rfl⟩ := List.exists_cons_of_ne_nil present
  have opens (mark : Char) (outside : isScalarChar mark = false) (tail : List Char) :
      first :: others ++ '\n' :: rest ≠ mark :: tail := fun same =>
    ne_of_kind (plain first List.mem_cons_self) outside (List.cons.inj same).1
  rw [readValue]
  · exact fun _ => opens '"' (by decide) _
  · exact fun _ => opens '"' (by decide) _
  · exact fun _ => opens '\'' (by decide) _
  · exact fun _ => opens '\'' (by decide) _
  · exact fun _ _ same _ => opens '[' (by decide) _ same
  · exact fun _ _ same _ => opens '\x7b' (by decide) _ same

end Scanning

/-- A key that stands without quotes, and the spelling of a scalar. -/
structure Line where
  key : List Char
  spelling : List Char
  node : Node
  keyPresent : key ≠ []
  bare : ∀ character ∈ key, isKeyChar character = true
  spellingPresent : spelling ≠ []
  plain : ∀ character ∈ spelling, isScalarChar character = true
  scalar : scalar? spelling = some node

namespace Line

def entry (line : Line) : String × Node :=
  (String.ofList line.key, line.node)

def before (line : Line) (rest : List Char) : List Char :=
  line.key ++ ' ' :: '=' :: ' ' :: (line.spelling ++ '\n' :: rest)

variable {rest : List Char} {progress : Progress}

theorem before_starts (line : Line) (rest : List Char) :
    ∃ first others, isKeyChar first = true ∧ line.before rest = first :: others := by
  obtain ⟨first, others, key⟩ := List.exists_cons_of_ne_nil line.keyPresent
  have starts : isKeyChar first = true := line.bare first (key ▸ List.mem_cons_self)
  have shape : line.before rest = first :: (others ++ ' ' :: '=' :: ' ' ::
      (line.spelling ++ '\n' :: rest)) := by
    rw [before, key]
    rfl
  exact ⟨first, _, starts, shape⟩

theorem read_pair (line : Line) (levels : Nat) (rest : List Char) :
    readPair (readValue levels) (line.before rest) =
      some (([], line.entry), '\n' :: rest) := by
  have value := read_value_scalar levels rest line.spellingPresent line.plain line.scalar
  obtain ⟨first, others, spelling⟩ := List.exists_cons_of_ne_nil line.spellingPresent
  have solid : isBlank first = false :=
    not_blank (line.plain first (spelling ▸ List.mem_cons_self)) (by decide) (by decide)
  have skipped : skipBlanks (' ' :: (line.spelling ++ '\n' :: rest)) =
      line.spelling ++ '\n' :: rest := by
    rw [spelling]
    exact skip_no_blank solid
  have key : readKey nestingLimit (line.before rest) = _ :=
    read_key_bare (nestingLimit - 1) line.keyPresent line.bare
  rw [readPair, key]
  simp only [Option.bind_eq_bind, Option.bind_some, skipped, value]
  rfl

theorem read_statement (line : Line) (progress : Progress) (rest : List Char) :
    readStatement progress (line.before rest) =
      (Table.insertUnder progress.current [] line.entry.1 line.node progress.table).map
        fun table => (⟨table, progress.current⟩, rest) := by
  obtain ⟨first, others, starts, shape⟩ := line.before_starts rest
  have pair := line.read_pair nestingLimit rest
  rw [shape] at pair ⊢
  have opens (mark : Char) (outside : isKeyChar mark = false) (tail : List Char) :
      first :: others ≠ mark :: tail := fun same =>
    ne_of_kind starts outside (List.cons.inj same).1
  rw [readStatement, pair]
  · have ended : lineEnd ('\n' :: rest) = some rest := rfl
    simp only [Option.bind_eq_bind, Option.bind_some, ended, Option.map_eq_bind]
    rfl
  · exact fun _ => opens '[' (by decide) _
  · exact fun _ => opens '[' (by decide) _
  · exact fun _ => opens '#' (by decide) _
  · exact fun _ => opens '\n' (by decide) _
  · exact fun _ => opens '\r' (by decide) _

end Line

theorem update_new {key : String} {table : Table} (change : Option Node → Option Node)
    (fresh : key ∉ table.map Prod.fst) :
    Table.update key change table =
      (change none).map fun node => table ++ [(key, node)] := by
  induction table with
  | nil => rfl
  | cons first rest ih =>
      obtain ⟨other, found⟩ := first
      rw [List.map_cons, List.mem_cons, not_or] at fresh
      rw [Table.update, if_neg (Ne.symm fresh.1), ih fresh.2]
      cases change none <;> rfl

/-- A key of one part goes to the end of the table, if no table has been opened. -/
theorem insert_new {key : String} {table : Table} (node : Node)
    (fresh : key ∉ table.map Prod.fst) :
    Table.insertUnder [] [] key node table = some (table ++ [(key, node)]) := by
  have inserted : Table.insertNew key node table = some (table ++ [(key, node)]) :=
    update_new _ fresh
  simp [Table.insertUnder, Table.insertPair, Table.descend, inserted]

def writeLines (lines : List Line) : List Char :=
  lines.foldr Line.before []

theorem read_lines {lines : List Line} {table : Table} {fuel : Nat} (enough : lines.length ≤ fuel)
    (distinct : (table.map Prod.fst ++ lines.map fun line => line.entry.1).Nodup) :
    readStatements fuel ⟨table, []⟩ (writeLines lines) = some (table ++ lines.map Line.entry) := by
  induction lines generalizing table fuel with
  | nil => cases fuel <;> simp [writeLines, readStatements, skipBlanks]
  | cons line rest ih =>
      obtain ⟨fuel, rfl⟩ := Nat.exists_eq_succ_of_ne_zero (Nat.ne_zero_of_lt enough)
      obtain ⟨first, others, starts, shape⟩ := line.before_starts (writeLines rest)
      have solid : isBlank first = false := not_blank starts (by decide) (by decide)
      have statement := line.read_statement ⟨table, []⟩ (writeLines rest)
      rw [List.map_cons] at distinct
      have fresh : line.entry.1 ∉ table.map Prod.fst := fun member =>
        (List.nodup_cons.mp (List.nodup_middle.mp distinct)).1 (List.mem_append_left _ member)
      rw [insert_new line.node fresh, shape] at statement
      have written : writeLines (line :: rest) = first :: others := shape
      have later : readStatements fuel ⟨table ++ [line.entry], []⟩ (writeLines rest) =
          some (table ++ [line.entry] ++ rest.map Line.entry) := by
        apply ih (Nat.le_of_succ_le_succ enough)
        rwa [List.map_append, List.map_singleton, ← List.append_cons]
      rw [written, readStatements, skip_no_blank solid]
      simp only [Option.bind_eq_bind, statement, Option.map_some, Option.bind_some]
      rw [List.map_cons, List.append_cons table line.entry]
      exact later

theorem lines_fit (lines : List Line) : lines.length ≤ (writeLines lines).length := by
  induction lines with
  | nil => exact Nat.zero_le _
  | cons line rest ih =>
      simp only [writeLines, List.foldr_cons, Line.before, List.length_append, List.length_cons]
        at ih ⊢
      omega

/-- A document of lines with different keys tells what the lines tell, in their order. -/
theorem document_of_lines {lines : List Line}
    (distinct : (lines.map fun line => line.entry.1).Nodup) :
    document? (String.ofList (writeLines lines)) = some (lines.map Line.entry) := by
  have unmarked : skipMark (writeLines lines) = writeLines lines := by
    cases lines with
    | nil => rfl
    | cons line rest =>
        obtain ⟨first, others, starts, shape⟩ := line.before_starts (writeLines rest)
        have written : writeLines (line :: rest) = first :: others := shape
        rw [written, skipMark]
        exact fun _ same => ne_of_kind starts (by decide) (List.cons.inj same).1
  rw [document?, String.toList_ofList, unmarked]
  exact read_lines (lines_fit lines) distinct

end ObjectCalculus.Toml
