import ObjectCalculus.Builtin.Basic
import ObjectCalculus.Fold.Rule
import ObjectCalculus.Template

/-!
# Built-in templates

Data objects hold one datum each, operators fold their operands, and an array
collects the values of its elements. Integer arithmetic is that of 64-bit words
in two's complement: it wraps, division truncates toward zero and the remainder
takes the sign of the dividend.
-/

set_option autoImplicit false

namespace ObjectCalculus

namespace Fold

def refuseZero (diagnostic : Diagnostic) (isZero : Bool) : Option Diagnostic :=
  if isZero then some diagnostic else none

def intAdd : Fold Int64 :=
  unguarded "int.add" operandAttribute fun total operand => total + operand

def intSub : Fold Int64 :=
  unguarded "int.sub" operandAttribute fun total operand => total - operand

def intMul : Fold Int64 :=
  unguarded "int.mul" operandAttribute fun total operand => total * operand

def intDiv : Fold Int64 where
  operation := "int.div"
  parameter := operandAttribute
  combine := fun total operand => total / operand
  guard := fun operand => refuseZero .divisionByZero (operand == 0)

def intMod : Fold Int64 where
  operation := "int.mod"
  parameter := operandAttribute
  combine := fun total operand => total % operand
  guard := fun operand => refuseZero .moduloByZero (operand == 0)

def floatAdd : Fold Binary64 :=
  unguarded "float.add" operandAttribute Binary64.add

def floatSub : Fold Binary64 :=
  unguarded "float.sub" operandAttribute Binary64.sub

def floatMul : Fold Binary64 :=
  unguarded "float.mul" operandAttribute Binary64.mul

def floatDiv : Fold Binary64 where
  operation := "float.div"
  parameter := operandAttribute
  combine := Binary64.div
  guard := fun operand => refuseZero .divisionByZero operand.isZero

def boolAnd : Fold Bool :=
  unguarded "bool.and" operandAttribute and

def boolOr : Fold Bool :=
  unguarded "bool.or" operandAttribute or

end Fold

/-- Reads the elements in order; the first failure is the array's. -/
def arrayRule : Rule := fun owner => do
  let items ← Program.sequence owner elementAttribute
  let values ← Program.each Program.resolve items
  Program.leaf (.array values)

namespace Template

def ofDatum (name : String) : Template :=
  (new name).free dataAttribute

def ofFold {α : Type} [Carrier α] (fold : Fold α) : Template :=
  ((new fold.operation).variadic fold.parameter).cached valueAttribute fold.rule

def ofArray : Template :=
  ((new "array").variadic elementAttribute).cached valueAttribute arrayRule

end Template

def Builtin.template : Builtin → Template
  | .int => .ofDatum "int"
  | .float => .ofDatum "float"
  | .bool => .ofDatum "bool"
  | .bytes => .ofDatum "bytes"
  | .string => .ofDatum "string"
  | .char => .ofDatum "char"
  | .regex => .ofDatum "regex"
  | .array => .ofArray
  | .intAdd => .ofFold .intAdd
  | .intSub => .ofFold .intSub
  | .intMul => .ofFold .intMul
  | .intDiv => .ofFold .intDiv
  | .intMod => .ofFold .intMod
  | .floatAdd => .ofFold .floatAdd
  | .floatSub => .ofFold .floatSub
  | .floatMul => .ofFold .floatMul
  | .floatDiv => .ofFold .floatDiv
  | .boolAnd => .ofFold .boolAnd
  | .boolOr => .ofFold .boolOr

end ObjectCalculus
