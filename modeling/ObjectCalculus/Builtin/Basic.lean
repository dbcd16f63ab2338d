import ObjectCalculus.Value.Basic

/-!
# Names of the built-in templates
-/

set_option autoImplicit false

namespace ObjectCalculus

inductive Builtin where
  | int
  | float
  | bool
  | bytes
  | string
  | char
  | regex
  | array
  | intAdd
  | intSub
  | intMul
  | intDiv
  | intMod
  | floatAdd
  | floatSub
  | floatMul
  | floatDiv
  | boolAnd
  | boolOr
  deriving DecidableEq

namespace Builtin

def name : Builtin → String
  | .int => "int"
  | .float => "float"
  | .bool => "bool"
  | .bytes => "bytes"
  | .string => "string"
  | .char => "char"
  | .regex => "regex"
  | .array => "array"
  | .intAdd => "int.add"
  | .intSub => "int.sub"
  | .intMul => "int.mul"
  | .intDiv => "int.div"
  | .intMod => "int.mod"
  | .floatAdd => "float.add"
  | .floatSub => "float.sub"
  | .floatMul => "float.mul"
  | .floatDiv => "float.div"
  | .boolAnd => "bool.and"
  | .boolOr => "bool.or"

def all : List Builtin := [
  .int, .float, .bool, .bytes, .string, .char, .regex, .array,
  .intAdd, .intSub, .intMul, .intDiv, .intMod,
  .floatAdd, .floatSub, .floatMul, .floatDiv, .boolAnd, .boolOr]

def ofName? (name : String) : Option Builtin :=
  all.find? fun builtin => builtin.name == name

/-- The data object that holds values of a kind; arrays hold objects instead. -/
def ofKind? : Kind → Option Builtin
  | .int => some .int
  | .float => some .float
  | .bool => some .bool
  | .bytes => some .bytes
  | .string => some .string
  | .char => some .char
  | .pattern => some .regex
  | .array => none

end Builtin

/-- The attribute that holds the datum of a data object. -/
def dataAttribute : String := "Δ"

/-- The attribute whose object stands for its owner's value. -/
def valueAttribute : String := "φ"

def operandAttribute : String := "x"

def elementAttribute : String := "elements"

end ObjectCalculus
