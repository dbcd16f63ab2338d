import ObjectCalculus.Toml.Scalar

/-!
# Strings

Strings between double quotes know escapes and strings between single quotes do
not; between three quotes of either sort a string may hold line breaks. Each
reader starts behind the opening quotes and hands back the string's characters
and what follows the closing quotes.
-/

set_option autoImplicit false

namespace ObjectCalculus.Toml

/-- Everything but control characters; the tab is none here. -/
def isTextChar (character : Char) : Bool :=
  character == '\t' || (0x20 ≤ character.toNat && character.toNat != 0x7f)

def isBlank (character : Char) : Bool :=
  character == ' ' || character == '\t'

def escaped? : Char → Option Char
  | 'b' => some (Char.ofNat 8)
  | 't' => some '\t'
  | 'n' => some '\n'
  | 'f' => some (Char.ofNat 12)
  | 'r' => some '\r'
  | '"' => some '"'
  | '\\' => some '\\'
  | _ => none

/-- Surrogates and numbers beyond the last code point stand for nothing. -/
def codePoint? (digits : List Char) : Option Char :=
  let number := groupedValue 16 digits
  if digits.all isHexDigit && decide number.isValidChar then
    some (Char.ofNat number)
  else
    none

abbrev Reading := Option (List Char × List Char)

def Reading.cons (character : Option Char) (reading : Reading) : Reading := do
  let first ← character
  let (others, rest) ← reading
  some (first :: others, rest)

def readBasic : List Char → Reading
  | [] => none
  | '"' :: rest => some ([], rest)
  | '\\' :: 'u' :: a :: b :: c :: d :: rest =>
      (readBasic rest).cons (codePoint? [a, b, c, d])
  | '\\' :: 'U' :: a :: b :: c :: d :: e :: f :: g :: h :: rest =>
      (readBasic rest).cons (codePoint? [a, b, c, d, e, f, g, h])
  | '\\' :: character :: rest => (readBasic rest).cons (escaped? character)
  | character :: rest =>
      if isTextChar character then (readBasic rest).cons (some character) else none

def readLiteral : List Char → Reading
  | [] => none
  | '\'' :: rest => some ([], rest)
  | character :: rest =>
      if isTextChar character then (readLiteral rest).cons (some character)
      else none

def skipLineBreak : List Char → List Char
  | '\n' :: rest => rest
  | '\r' :: '\n' :: rest => rest
  | text => text

def startsLineBreak : List Char → Bool
  | '\n' :: _ => true
  | '\r' :: '\n' :: _ => true
  | _ => false

/-- Three quotes end the string; up to two before them belong to it. -/
def closing (quote : Char) (text : List Char) : Option (List Char × List Char) :=
  let quotes := (text.takeWhile (· == quote)).length
  if quotes < 3 then none
  else some (List.replicate (min quotes 5 - 3) quote, text.drop (min quotes 5))

/-- A backslash at the end of a line joins the line to the next character that
is not blank; `joining` holds meanwhile. -/
def readBasicLines : Bool → List Char → Reading
  | _, [] => none
  | true, '\n' :: rest => readBasicLines true rest
  | true, '\r' :: '\n' :: rest => readBasicLines true rest
  | false, '\n' :: rest => (readBasicLines false rest).cons (some '\n')
  | false, '\r' :: '\n' :: rest => (readBasicLines false rest).cons (some '\n')
  | _, '"' :: rest =>
      match closing '"' ('"' :: rest) with
      | some ending => some ending
      | none => (readBasicLines false rest).cons (some '"')
  | _, '\\' :: 'u' :: a :: b :: c :: d :: rest =>
      (readBasicLines false rest).cons (codePoint? [a, b, c, d])
  | _, '\\' :: 'U' :: a :: b :: c :: d :: e :: f :: g :: h :: rest =>
      (readBasicLines false rest).cons (codePoint? [a, b, c, d, e, f, g, h])
  | _, '\\' :: character :: rest =>
      if startsLineBreak ((character :: rest).dropWhile isBlank) then
        readBasicLines true (character :: rest)
      else
        (readBasicLines false rest).cons (escaped? character)
  | joining, character :: rest =>
      if joining && isBlank character then readBasicLines true rest
      else if isTextChar character then
        (readBasicLines false rest).cons (some character)
      else none

def readLiteralLines : List Char → Reading
  | [] => none
  | '\n' :: rest => (readLiteralLines rest).cons (some '\n')
  | '\r' :: '\n' :: rest => (readLiteralLines rest).cons (some '\n')
  | '\'' :: rest =>
      match closing '\'' ('\'' :: rest) with
      | some ending => some ending
      | none => (readLiteralLines rest).cons (some '\'')
  | character :: rest =>
      if isTextChar character then (readLiteralLines rest).cons (some character)
      else none

end ObjectCalculus.Toml
