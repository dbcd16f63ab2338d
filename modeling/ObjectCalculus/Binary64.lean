/-!
# Binary64 words

A floating value is the 64-bit word that encodes it, so two values are told
apart exactly when their words differ. Classification and comparison read the
fields of the word; arithmetic goes through the machine's own `Float`.
-/

set_option autoImplicit false

namespace ObjectCalculus

structure Binary64 where
  bits : UInt64
  deriving DecidableEq

namespace Binary64

def ofFloat (value : Float) : Binary64 where
  bits := value.toBits

def toFloat (value : Binary64) : Float :=
  Float.ofBits value.bits

def isNegative (value : Binary64) : Bool :=
  decide (Nat.pow 2 63 ≤ value.bits.toNat)

def exponentField (value : Binary64) : Nat :=
  value.bits.toNat / Nat.pow 2 52 % Nat.pow 2 11

def fraction (value : Binary64) : Nat :=
  value.bits.toNat % Nat.pow 2 52

def isNaN (value : Binary64) : Bool :=
  value.exponentField == 2047 && value.fraction != 0

def isInfinite (value : Binary64) : Bool :=
  value.exponentField == 2047 && value.fraction == 0

def isZero (value : Binary64) : Bool :=
  value.exponentField == 0 && value.fraction == 0

/-- Below zero in the order of values, so neither NaN nor a signed zero. -/
def isBelowZero (value : Binary64) : Bool :=
  value.isNegative && !value.isNaN && !value.isZero

/-- The integer that the power of two in `scale` multiplies; meaningful on
finite words only. -/
def significand (value : Binary64) : Nat :=
  if value.exponentField = 0 then value.fraction else Nat.pow 2 52 + value.fraction

def scale (value : Binary64) : Int :=
  if value.exponentField = 0 then -1074 else (value.exponentField : Int) - 1075

/-- Equality of values: a NaN equals nothing and the two zeros are one value. -/
def equal (left right : Binary64) : Bool :=
  !left.isNaN && !right.isNaN &&
    (left.bits == right.bits || (left.isZero && right.isZero))

def add (left right : Binary64) : Binary64 :=
  ofFloat (left.toFloat + right.toFloat)

def sub (left right : Binary64) : Binary64 :=
  ofFloat (left.toFloat - right.toFloat)

def mul (left right : Binary64) : Binary64 :=
  ofFloat (left.toFloat * right.toFloat)

def div (left right : Binary64) : Binary64 :=
  ofFloat (left.toFloat / right.toFloat)

def ten : Binary64 where
  bits := 0x4024000000000000

end Binary64

end ObjectCalculus
