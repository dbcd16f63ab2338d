import ObjectCalculus.Toml.Table

/-!
# Numbers, truth values and instants

A scalar that is not a string is one run of letters, digits and the characters
`+`, `-`, `_`, `.` and `:`, and is read as a whole. Integers are 64-bit words
with a sign, and a float must not overflow to positive infinity.
-/

set_option autoImplicit false

namespace ObjectCalculus.Toml

def isScalarChar (character : Char) : Bool :=
  character.isAlphanum || ['+', '-', '_', '.', ':'].contains character

def isHexDigit (character : Char) : Bool :=
  character.isDigit || ('a' ≤ character && character ≤ 'f') ||
    ('A' ≤ character && character ≤ 'F')

def isOctalDigit (character : Char) : Bool :=
  '0' ≤ character && character ≤ '7'

def isBinaryDigit (character : Char) : Bool :=
  character == '0' || character == '1'

def digitValue (character : Char) : Nat :=
  if character.isDigit then character.toNat - '0'.toNat
  else if 'a' ≤ character ∧ character ≤ 'f' then character.toNat - 'a'.toNat + 10
  else if 'A' ≤ character ∧ character ≤ 'F' then character.toNat - 'A'.toNat + 10
  else 0

/-- Digits, with single underscores only between two of them. -/
def isGrouped (isDigit : Char → Bool) : List Char → Bool
  | [] => false
  | [character] => isDigit character
  | character :: '_' :: rest => isDigit character && isGrouped isDigit rest
  | character :: rest => isDigit character && isGrouped isDigit rest

def groupedValue (base : Nat) (digits : List Char) : Nat :=
  (digits.filter (· != '_')).foldl
    (fun total digit => total * base + digitValue digit) 0

def isDecimal (digits : List Char) : Bool :=
  isGrouped Char.isDigit digits && (digits.head? != some '0' || digits == ['0'])

def splitSign : List Char → Bool × List Char
  | '+' :: rest => (false, rest)
  | '-' :: rest => (true, rest)
  | text => (false, text)

def inRange (number : Int) : Option Int :=
  if -Int.pow 2 63 ≤ number ∧ number < Int.pow 2 63 then some number else none

def based? (base : Nat) (isDigit : Char → Bool) (digits : List Char) : Option Int :=
  if isGrouped isDigit digits then inRange (groupedValue base digits) else none

def decimal? (text : List Char) : Option Int :=
  let (negative, digits) := splitSign text
  if isDecimal digits then
    let number : Int := groupedValue 10 digits
    inRange (if negative then -number else number)
  else
    none

/-- A base mark admits no sign. -/
def integer? : List Char → Option Int
  | '0' :: 'x' :: digits => based? 16 isHexDigit digits
  | '0' :: 'o' :: digits => based? 8 isOctalDigit digits
  | '0' :: 'b' :: digits => based? 2 isBinaryDigit digits
  | text => decimal? text

/-- Half the last binary place above the greatest binary64 number: from here on
numbers round to infinity. -/
def overflowBound : Nat := Nat.pow 2 1024 - Nat.pow 2 970

def overflows (digits : Nat) (exponent : Int) : Bool :=
  let magnitude := ((Nat.toDigits 10 digits).length : Int) + exponent
  if digits = 0 ∨ magnitude < 300 then false
  else if 320 < magnitude then true
  else decide
    (overflowBound * Nat.pow 10 (-exponent).toNat ≤ digits * Nat.pow 10 exponent.toNat)

structure FloatParts where
  whole : List Char
  fraction : List Char
  exponentNegative : Bool
  exponent : List Char

def isGroupChar (character : Char) : Bool :=
  character.isDigit || character == '_'

def exponent? : List Char → Option (Bool × List Char)
  | [] => some (false, [])
  | mark :: rest =>
      let (negative, digits) := splitSign rest
      if (mark == 'e' || mark == 'E') && isGrouped Char.isDigit digits then
        some (negative, digits)
      else
        none

def floatParts? (text : List Char) : Option FloatParts := do
  let whole := text.takeWhile isGroupChar
  guard (isDecimal whole)
  match text.dropWhile isGroupChar with
  | [] => none
  | '.' :: rest =>
      let fraction := rest.takeWhile isGroupChar
      guard (isGrouped Char.isDigit fraction)
      let (negative, exponent) ← exponent? (rest.dropWhile isGroupChar)
      some ⟨whole, fraction, negative, exponent⟩
  | rest =>
      let (negative, exponent) ← exponent? rest
      some ⟨whole, [], negative, exponent⟩

def FloatParts.overflows (parts : FloatParts) : Bool :=
  let magnitude : Int := groupedValue 10 parts.exponent
  let exponent := if parts.exponentNegative then -magnitude else magnitude
  Toml.overflows (groupedValue 10 (parts.whole ++ parts.fraction))
    (exponent - (parts.fraction.filter (· != '_')).length)

def isFloat (text : List Char) : Bool :=
  let (negative, body) := splitSign text
  if body = ['i', 'n', 'f'] ∨ body = ['n', 'a', 'n'] then true
  else
    match floatParts? body with
    | some parts => negative || !parts.overflows
    | none => false

def twoDigits? (low high : Nat) (tens ones : Char) : Option Nat :=
  if tens.isDigit && ones.isDigit then
    let number := digitValue tens * 10 + digitValue ones
    if low ≤ number ∧ number ≤ high then some number else none
  else
    none

def isLeapYear (year : Nat) : Bool :=
  year % 4 == 0 && (year % 100 != 0 || year % 400 == 0)

def daysInMonth (year month : Nat) : Nat :=
  if month = 2 then (if isLeapYear year then 29 else 28)
  else if [4, 6, 9, 11].contains month then 30
  else 31

def afterDate? : List Char → Option (List Char)
  | y₁ :: y₂ :: y₃ :: y₄ :: '-' :: m₁ :: m₂ :: '-' :: d₁ :: d₂ :: rest => do
      let century ← twoDigits? 0 99 y₁ y₂
      let year ← twoDigits? 0 99 y₃ y₄
      let month ← twoDigits? 1 12 m₁ m₂
      let _ ← twoDigits? 1 (daysInMonth (century * 100 + year) month) d₁ d₂
      some rest
  | _ => none

def afterTime? : List Char → Option (List Char)
  | h₁ :: h₂ :: ':' :: m₁ :: m₂ :: ':' :: s₁ :: s₂ :: rest => do
      let _ ← twoDigits? 0 23 h₁ h₂
      let _ ← twoDigits? 0 59 m₁ m₂
      let _ ← twoDigits? 0 60 s₁ s₂
      match rest with
      | '.' :: digits =>
          if (digits.takeWhile Char.isDigit).isEmpty then none
          else some (digits.dropWhile Char.isDigit)
      | _ => some rest
  | _ => none

def isOffset : List Char → Bool
  | [] => true
  | ['Z'] => true
  | ['z'] => true
  | [sign, h₁, h₂, ':', m₁, m₂] =>
      (sign == '+' || sign == '-') && (twoDigits? 0 23 h₁ h₂).isSome &&
        (twoDigits? 0 59 m₁ m₂).isSome
  | _ => false

def isDate (text : List Char) : Bool :=
  afterDate? text == some []

def isTime (text : List Char) : Bool :=
  afterTime? text == some []

/-- A time of day that may tell its offset; it has to follow a date. -/
def isTimeWithOffset (text : List Char) : Bool :=
  match afterTime? text with
  | some rest => isOffset rest
  | none => false

def isInstant (text : List Char) : Bool :=
  isTime text ||
    match afterDate? text with
    | some [] => true
    | some (mark :: rest) => (mark == 'T' || mark == 't') && isTimeWithOffset rest
    | none => false

def scalar? (text : List Char) : Option Node :=
  if text = ['t', 'r', 'u', 'e'] then some (.boolean true)
  else if text = ['f', 'a', 'l', 's', 'e'] then some (.boolean false)
  else
    match integer? text with
    | some number => some (.integer number)
    | none =>
        if isFloat text then some (.float (String.ofList text))
        else if isInstant text then some (.instant (String.ofList text))
        else none

/-- Reads one scalar. A date and a time may be joined by a single space. -/
def readScalar (text : List Char) : Option (Node × List Char) :=
  let first := text.takeWhile isScalarChar
  let rest := text.dropWhile isScalarChar
  match rest with
  | ' ' :: more =>
      let second := more.takeWhile isScalarChar
      if isDate first && !second.isEmpty then
        if isTimeWithOffset second then
          some (.instant (String.ofList (first ++ ' ' :: second)),
            more.dropWhile isScalarChar)
        else
          none
      else
        (scalar? first).map fun node => (node, rest)
  | _ => (scalar? first).map fun node => (node, rest)

end ObjectCalculus.Toml
