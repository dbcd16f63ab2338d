import ObjectCalculus.Config.File
import ObjectCalculus.Toml.Document
import ObjectCalculus.Proofs.Integers

/-!
# Printing

A plain record is printed as a document with a line for each of its fields. So the reader of
documents and this printer are a lawful codec, which reads the default text as it should.
-/

set_option autoImplicit false

namespace ObjectCalculus.Toml

theorem unsigned_fits_iff {number : UInt64} :
    (Field.unsigned number).Fits ↔ number.toNat < 2 ^ 63 := by
  rw [Field.Fits, fits_word_iff]
  omega

theorem unsigned_spelling (number : UInt64) :
    (Field.unsigned number).spelling.toList = Decimal.digitsOf number.toNat := by
  rw [Field.spelling, Nat.toString_eq_ofList_toDigits, String.toList_ofList, Decimal.digitsOf]

variable {name : String} {field : Field} {record : Record} {node : Node} {table : Table}
  {text : String}

theorem spelling_present (field : Field) : field.spelling.toList ≠ [] := by
  cases field with
  | unsigned number =>
      rw [unsigned_spelling]
      exact Nat.toDigits_ne_nil
  | boolean truth => cases truth <;> decide

theorem spelling_plain (field : Field) :
    ∀ character ∈ field.spelling.toList, isScalarChar character = true := by
  cases field with
  | unsigned number =>
      intro character member
      rw [unsigned_spelling] at member
      have digit := Decimal.digits_of_number number.toNat character member
      simp [isScalarChar, Char.isAlphanum, digit]
  | boolean truth => exact List.all_eq_true.mp (by cases truth <;> decide)

theorem spelling_scalar (fits : field.Fits) :
    scalar? field.spelling.toList = some field.node := by
  cases field with
  | unsigned number =>
      rw [unsigned_spelling]
      exact number_scalar (unsigned_fits_iff.mp fits)
  | boolean truth => cases truth <;> rfl

def Field.line (name : String) (field : Field) (present : name ≠ "")
    (bare : ∀ character ∈ name.toList, isKeyChar character = true) (fits : field.Fits) : Line where
  key := name.toList
  spelling := field.spelling.toList
  node := field.node
  keyPresent := String.toList_eq_nil_iff.not.mpr present
  bare := bare
  spellingPresent := spelling_present field
  plain := spelling_plain field
  scalar := spelling_scalar fits

/-- The text of a record is a line for each of its fields. -/
theorem text_of_lines (plain : record.Plain) (fits : record.Fits) :
    ∃ lines : List Line, record.text.toList = writeLines lines ∧
      lines.map Line.entry = record.table := by
  have present := plain.present
  have bare := plain.bare
  clear plain
  induction record with
  | nil => exact ⟨[], rfl, rfl⟩
  | cons first rest ih =>
      obtain ⟨name, field⟩ := first
      obtain ⟨presentHere, presentLater⟩ := List.forall_mem_cons.mp present
      obtain ⟨bareHere, bareLater⟩ := List.forall_mem_cons.mp bare
      obtain ⟨fitsHere, fitsLater⟩ := List.forall_mem_cons.mp fits
      obtain ⟨lines, written, entries⟩ := ih fitsLater presentLater bareLater
      refine ⟨field.line name presentHere bareHere fitsHere :: lines, ?_, ?_⟩
      · have equals : " = ".toList = [' ', '=', ' '] := by decide
        have lineBreak : "\n".toList = ['\n'] := by decide
        rw [Record.text, String.toList_join] at written ⊢
        simp only [List.map_cons, List.flatMap_cons, written, String.toList_append, equals,
          lineBreak, writeLines, List.foldr_cons, Line.before, Field.line, List.append_assoc,
          List.cons_append, List.nil_append]
      · rw [List.map_cons, entries, Line.entry, Field.line, String.ofList_toList]
        rfl

theorem plain_prints (fits : record.Fits) : Codec.plain.print record = .ok record.text :=
  if_pos fits

theorem plain_refuses (large : ¬record.Fits) :
    Codec.plain.print record = .error "a number does not fit a signed 64-bit word" :=
  if_neg large

theorem plain_reads : Codec.plain.read text = .ok table ↔ document? text = some table := by
  change (document? text).elim (.error "not a document") .ok = Except.ok table ↔ _
  cases document? text <;> simp

theorem plain_reads_printed (plain : record.Plain) (fits : record.Fits) :
    Codec.plain.read record.text = .ok record.table := by
  obtain ⟨lines, written, entries⟩ := text_of_lines plain fits
  have names : lines.map (fun line => line.entry.1) = record.map Prod.fst := by
    have same := congrArg (List.map Prod.fst) entries
    rwa [Record.table, List.map_map, List.map_map] at same
  have distinct : (lines.map fun line => line.entry.1).Nodup := names ▸ plain.distinct
  rw [plain_reads, ← String.ofList_toList (s := record.text), written, document_of_lines distinct,
    entries]

theorem lookup_fits (fits : table.Fits) (told : table.lookup name = some node) :
    node.Fits := by
  obtain ⟨earlier, later, rfl, _⟩ := List.lookup_eq_some_iff.mp told
  exact fits (name, node) (by simp)

theorem plain_lawful : Codec.plain.Lawful where
  reads_words read told := lookup_fits (document_fits (plain_reads.mp read)) told
  prints_fitting _ fits := ⟨_, plain_prints fits⟩
  refuses_others large := ⟨_, plain_refuses large⟩
  reads_printed {record text} plain printed := by
    by_cases fits : record.Fits
    · rw [plain_prints fits] at printed
      cases printed
      exact ⟨_, plain_reads_printed plain fits, fun _ => rfl⟩
    · rw [plain_refuses fits] at printed
      cases printed

def Node.integer? : Node → Option Int
  | .integer number => some number
  | _ => none

def Node.boolean? : Node → Option Bool
  | .boolean truth => some truth
  | _ => none

theorem integer_of_number {number : Int} (told : node.integer? = some number) :
    node = .integer number := by
  cases node with
  | integer found => rw [Option.some.inj told]
  | _ => cases told

theorem boolean_of_truth {truth : Bool} (told : node.boolean? = some truth) :
    node = .boolean truth := by
  cases node with
  | boolean found => rw [Option.some.inj told]
  | _ => cases told

end ObjectCalculus.Toml

namespace ObjectCalculus.Config

open Toml

theorem plain_reads_default : ReadsDefault .plain := by
  -- Nodes have no decidable equality, so it is their contents that are compared.
  have told : (document? defaultText).map (fun table =>
      ((table.lookup depthKey).bind Node.integer?, (table.lookup traceKey).bind Node.boolean?)) =
      some (some 128, some false) := by
    rw [document?, defaultText, String.toList_join, List.flatMap_map]
    simp only [String.toList_append, defaultLines, List.flatMap_cons, List.flatMap_nil,
      String.reduceToList]
    decide +kernel
  obtain ⟨table, document, entries⟩ := Option.map_eq_some_iff.mp told
  obtain ⟨depth, traced⟩ := Prod.mk.inj entries
  obtain ⟨_, depth, number⟩ := Option.bind_eq_some_iff.mp depth
  obtain ⟨_, traced, truth⟩ := Option.bind_eq_some_iff.mp traced
  refine ⟨table, plain_reads.mpr document, ?_, ?_⟩
  · rw [depth, integer_of_number number]
  · rw [traced, boolean_of_truth truth]

end ObjectCalculus.Config
