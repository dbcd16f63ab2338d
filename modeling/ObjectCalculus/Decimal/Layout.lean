import ObjectCalculus.Decimal.Shortest

/-!
# Layouts of decimal text

Where the digits of a number stand: with a point between them, or as one digit
and a power of ten.
-/

set_option autoImplicit false

namespace ObjectCalculus.Decimal

/-- The leading digit's power of ten decides between the two forms: the
positional one from `positionalFrom` up to but not including
`positionalUntil`. -/
structure Layout where
  positionalFrom : Int
  positionalUntil : Int
  mark : String
  infinity : String
  notANumber : String

def digitsOf (number : Nat) : List Char :=
  Nat.toDigits 10 number

def positional (digits : List Char) (leading : Int) : List Char :=
  if leading < 0 then
    ['0', '.'] ++ List.replicate (-leading - 1).toNat '0' ++ digits
  else
    let places := leading.toNat + 1
    let whole := digits.take places
    let rest := digits.drop places
    whole ++ List.replicate (places - whole.length) '0' ++
      '.' :: (if rest.isEmpty then ['0'] else rest)

def exponential (mark : String) (digits : List Char) (leading : Int) :
    List Char :=
  digits.take 1 ++
    (if (digits.drop 1).isEmpty then [] else '.' :: digits.drop 1) ++
    mark.toList ++ (toString leading).toList

namespace Layout

def magnitude (layout : Layout) (number : Scientific) : List Char :=
  let digits := digitsOf number.significand
  let leading := number.exponent + (digits.length : Int) - 1
  if layout.positionalFrom ≤ leading ∧ leading < layout.positionalUntil then
    positional digits leading
  else
    exponential layout.mark digits leading

def write (layout : Layout) (number : Binary64) : String :=
  if number.isNaN then
    layout.notANumber
  else
    let sign := if number.isNegative then ['-'] else []
    let body :=
      if number.isInfinite then
        layout.infinity.toList
      else if number.isZero then
        positional ['0'] 0
      else
        layout.magnitude (shortest number)
    String.ofList (sign ++ body)

end Layout

end ObjectCalculus.Decimal
