import ObjectCalculus.Decimal.Layout
import ObjectCalculus.Text.Outline
import ObjectCalculus.Text.Quoted
import ObjectCalculus.Value.Basic

/-!
# Value text

Two forms of text: the plain one shown to users, in which strings stand between
quotes unescaped and characters stand bare, and the outline, which names every
constructor and quotes what it holds.
-/

set_option autoImplicit false

namespace ObjectCalculus

/-- Positional from a ten-thousandth up to ten quadrillion, always with a
fractional part; outside, one digit and a bare power of ten. -/
def floatLayout : Decimal.Layout where
  positionalFrom := -4
  positionalUntil := 16
  mark := "e"
  infinity := "inf"
  notANumber := "NaN"

def Binary64.text (number : Binary64) : String :=
  floatLayout.write number

namespace Octets

def hexDigit (number : Nat) : Char :=
  if number < 10 then
    Char.ofNat ('0'.toNat + number)
  else
    Char.ofNat ('A'.toNat + (number - 10))

def pair (octet : UInt8) : List Char :=
  [hexDigit (octet.toNat / 16), hexDigit (octet.toNat % 16)]

def chars : List UInt8 → List Char
  | [] => []
  | [octet] => pair octet
  | octet :: rest => pair octet ++ '-' :: chars rest

def text (octets : List UInt8) : String :=
  String.ofList (chars octets)

end Octets

namespace Value

mutual

def text : Value → String
  | .int number => toString number.toInt
  | .float number => number.text
  | .bool true => "true"
  | .bool false => "false"
  | .bytes octets => Octets.text octets
  | .string content => "\"" ++ content ++ "\""
  | .char character => String.singleton character
  | .pattern expression => expression.source
  | .array items => "[" ++ ", ".intercalate (texts items) ++ "]"

def texts : List Value → List String
  | [] => []
  | item :: rest => text item :: texts rest

end

open Text in
mutual

def outline : Value → Outline
  | .int number => .tuple "Int" [.text (toString number.toInt)]
  | .float number => .tuple "Float" [.text number.text]
  | .bool truth => .tuple "Bool" [.text (toString truth)]
  | .bytes octets =>
      .tuple "Bytes" [.list (octets.map fun octet => .text (toString octet.toNat))]
  | .string content => .tuple "String" [.text (quoted content)]
  | .char character => .tuple "Char" [.text (quotedChar character)]
  | .pattern expression =>
      .tuple "Pattern" [.tuple "Regex" [.text (quoted expression.source)]]
  | .array items => .tuple "Array" [.list (outlines items)]

def outlines : List Value → List Outline
  | [] => []
  | item :: rest => outline item :: outlines rest

end

end Value

end ObjectCalculus
