import ObjectCalculus.Toml.Codec
import ObjectCalculus.Toml.Quoted

/-!
# Documents

Reads a document into its table, or fails if the text is not a document. Values
nest, and keys have parts, up to a fixed number. With a printer for records this
is one codec, `Codec.plain`.
-/

set_option autoImplicit false

namespace ObjectCalculus.Toml

def nestingLimit : Nat := 79

def skipBlanks (text : List Char) : List Char :=
  text.dropWhile isBlank

def skipSpace : Bool → List Char → Option (List Char)
  | _, [] => some []
  | _, '\n' :: rest => skipSpace false rest
  | _, '\r' :: '\n' :: rest => skipSpace false rest
  | true, character :: rest =>
      if isTextChar character then skipSpace true rest else none
  | false, '#' :: rest => skipSpace true rest
  | false, character :: rest =>
      if isBlank character then skipSpace false rest
      else some (character :: rest)

def lineBreak : List Char → Option (List Char)
  | [] => some []
  | '\n' :: rest => some rest
  | '\r' :: '\n' :: rest => some rest
  | _ => none

def lineEnd (text : List Char) : Option (List Char) :=
  match skipBlanks text with
  | '#' :: comment => lineBreak (comment.dropWhile isTextChar)
  | rest => lineBreak rest

def readKeyPart : List Char → Option (String × List Char)
  | '"' :: rest => (readBasic rest).map fun part => (String.ofList part.1, part.2)
  | '\'' :: rest =>
      (readLiteral rest).map fun part => (String.ofList part.1, part.2)
  | text =>
      let part := text.takeWhile isKeyChar
      if part.isEmpty then none
      else some (String.ofList part, text.dropWhile isKeyChar)

/-- A key of at most `parts` parts, and the blanks around it: all parts but the
last, and the last. -/
def readKey : Nat → List Char → Option (List String × String × List Char)
  | 0, _ => none
  | parts + 1, text => do
      let (part, after) ← readKeyPart (skipBlanks text)
      match skipBlanks after with
      | '.' :: more =>
          let (path, key, rest) ← readKey parts more
          some (part :: path, key, rest)
      | rest => some ([], part, rest)

abbrev ValueReader := List Char → Option (Node × List Char)

/-- Values separated by commas up to a closing bracket; a last comma may stand
before it. At most `fuel` values are read. -/
def readItems (readValue : ValueReader) : Nat → List Char →
    Option (List Node × List Char)
  | 0, _ => none
  | fuel + 1, text => do
      match ← skipSpace false text with
      | ']' :: rest => some ([], rest)
      | start =>
          let (item, after) ← readValue start
          match ← skipSpace false after with
          | ',' :: more =>
              let (items, rest) ← readItems readValue fuel more
              some (item :: items, rest)
          | ']' :: rest => some ([item], rest)
          | _ => none

def readPair (readValue : ValueReader) (text : List Char) :
    Option ((List String × String × Node) × List Char) := do
  let (path, key, after) ← readKey nestingLimit text
  match after with
  | '=' :: start =>
      let (node, rest) ← readValue (skipBlanks start)
      some ((path, key, node), rest)
  | _ => none

def readPairs (readValue : ValueReader) : Nat → List Char →
    Option (List (List String × String × Node) × List Char)
  | 0, _ => none
  | fuel + 1, text => do
      let (pair, after) ← readPair readValue text
      match skipBlanks after with
      | ',' :: more =>
          let (pairs, rest) ← readPairs readValue fuel more
          some (pair :: pairs, rest)
      | '\x7d' :: rest => some ([pair], rest)
      | _ => none

def readInlineTable (readValue : ValueReader) (text : List Char) :
    Option (Node × List Char) :=
  match skipBlanks text with
  | '\x7d' :: rest => some (.table .inline [], rest)
  | start => do
      let (pairs, rest) ← readPairs readValue start.length start
      let entries ← Table.ofPairs pairs
      some (.table .inline entries, rest)

def stringOf (reading : Reading) : Option (Node × List Char) :=
  reading.map fun found => (.string (String.ofList found.1), found.2)

/-- A value with at most the given number of values nested in each other. -/
def readValue : Nat → ValueReader
  | levels, text =>
      match text, levels with
      | '"' :: '"' :: '"' :: rest, _ =>
          stringOf (readBasicLines false (skipLineBreak rest))
      | '"' :: rest, _ => stringOf (readBasic rest)
      | '\'' :: '\'' :: '\'' :: rest, _ =>
          stringOf (readLiteralLines (skipLineBreak rest))
      | '\'' :: rest, _ => stringOf (readLiteral rest)
      | '[' :: rest, levels + 1 => do
          let (items, after) ←
            readItems (readValue levels) (rest.length + 1) rest
          some (.array items, after)
      | '\x7b' :: rest, levels + 1 => readInlineTable (readValue levels) rest
      | _, _ => readScalar text

structure Progress where
  table : Table
  current : List String

def readHeader (text : List Char) (close : List Char)
    (openUnder : List String → String → Table → Option Table) (progress : Progress) :
    Option (Progress × List Char) := do
  let (path, key, after) ← readKey nestingLimit text
  guard (close.isPrefixOf after)
  let rest ← lineEnd (after.drop close.length)
  let table ← openUnder path key progress.table
  some (⟨table, path ++ [key]⟩, rest)

def readStatement (progress : Progress) :
    List Char → Option (Progress × List Char)
  | '[' :: '[' :: rest => readHeader rest [']', ']'] Table.openElement progress
  | '[' :: rest => readHeader rest [']'] Table.openTable progress
  | '#' :: rest => (lineEnd ('#' :: rest)).map fun after => (progress, after)
  | '\n' :: rest => some (progress, rest)
  | '\r' :: '\n' :: rest => some (progress, rest)
  | text => do
      let ((path, key, node), after) ← readPair (readValue nestingLimit) text
      let rest ← lineEnd after
      let table ← Table.insertUnder progress.current path key node progress.table
      some (⟨table, progress.current⟩, rest)

/-- Reads at most `fuel` statements; every statement takes a character. -/
def readStatements : Nat → Progress → List Char → Option Table
  | 0, progress, text => if (skipBlanks text).isEmpty then some progress.table else none
  | fuel + 1, progress, text =>
      match skipBlanks text with
      | [] => some progress.table
      | start => do
          let (after, rest) ← readStatement progress start
          readStatements fuel after rest

def skipMark : List Char → List Char
  | '\ufeff' :: rest => rest
  | text => text

def document? (text : String) : Option Table :=
  let start := skipMark text.toList
  readStatements start.length ⟨[], []⟩ start

def Field.spelling : Field → String
  | .unsigned number => toString number.toNat
  | .boolean truth => toString truth

def Record.text (record : Record) : String :=
  String.join (record.map fun field => field.1 ++ " = " ++ field.2.spelling ++ "\n")

def Codec.plain : Codec where
  read text := (document? text).elim (.error "not a document") .ok
  print record :=
    if record.Fits then .ok record.text
    else .error "a number does not fit a signed 64-bit word"

end ObjectCalculus.Toml
