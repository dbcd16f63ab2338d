import ObjectCalculus.Toml.Table

/-!
# Codecs

A codec reads documents into tables and prints records as documents. Which one is used is left
open: whatever is done with stored text takes the codec as a parameter, and what it relies on is
said by `Codec.Lawful`.
-/

set_option autoImplicit false

namespace ObjectCalculus.Toml

def FitsWord (number : Int) : Prop :=
  Int64.minValue.toInt ≤ number ∧ number ≤ Int64.maxValue.toInt

instance : DecidablePred FitsWord := fun _ => inferInstanceAs (Decidable (_ ∧ _))

/-- A value as it is handed over to be printed. -/
inductive Field where
  | unsigned (number : UInt64)
  | boolean (truth : Bool)

def Field.node : Field → Node
  | .unsigned number => .integer number.toNat
  | .boolean truth => .boolean truth

def Field.Fits : Field → Prop
  | .unsigned number => FitsWord number.toNat
  | .boolean _ => True

instance : DecidablePred Field.Fits
  | .unsigned number => inferInstanceAs (Decidable (FitsWord number.toNat))
  | .boolean _ => isTrue trivial

/-- Named values in the order in which they are printed. -/
abbrev Record := List (String × Field)

def isKeyChar (character : Char) : Bool :=
  character.isAlphanum || character == '_' || character == '-'

namespace Record

def Fits (record : Record) : Prop :=
  ∀ field ∈ record, field.2.Fits

instance : DecidablePred Fits := fun record =>
  inferInstanceAs (Decidable (∀ field ∈ record, field.2.Fits))

/-- The table that tells the same. -/
def table (record : Record) : Table :=
  record.map fun field => (field.1, field.2.node)

/-- Every name can stand without quotes and is there once. -/
structure Plain (record : Record) : Prop where
  present : ∀ field ∈ record, field.1 ≠ ""
  bare : ∀ field ∈ record, ∀ character ∈ field.1.toList, isKeyChar character = true
  distinct : (record.map Prod.fst).Nodup

end Record

structure Codec where
  read : String → Except String Table
  print : Record → Except String String

/-- The integers of documents are signed 64-bit words. So no other integers are read, and a record
is printed if its numbers are such words and refused otherwise. What is printed is read back,
name by name. -/
structure Codec.Lawful (codec : Codec) : Prop where
  reads_words : ∀ {text table name number}, codec.read text = .ok table →
    table.lookup name = some (.integer number) → FitsWord number
  prints_fitting : ∀ {record : Record}, record.Plain → record.Fits →
    ∃ text, codec.print record = .ok text
  refuses_others : ∀ {record : Record}, ¬record.Fits →
    ∃ reason, codec.print record = .error reason
  reads_printed : ∀ {record : Record} {text}, record.Plain → codec.print record = .ok text →
    ∃ table, codec.read text = .ok table ∧ ∀ name, table.lookup name = record.table.lookup name

end ObjectCalculus.Toml
