import ObjectCalculus.Value.Basic

/-!
# Errors

What can go wrong when an object is bound or dataized, each cause with what its
message needs to name.
-/

set_option autoImplicit false

namespace ObjectCalculus

inductive BindError where
  | alreadyBound (object attr : String)
  | unknownAttribute (object attr : String)
  /-- A position beyond the first free one, which is `length`. -/
  | positionGap (attr : String) (index length : Nat)
  | sealed (attr : String)
  | notBindable (attr : String)
  deriving DecidableEq

inductive Diagnostic where
  | divisionByZero
  | moduloByZero
  | other (reason : String)
  deriving DecidableEq

inductive DataError where
  | unbound (object attr : String)
  | missingOperands (operation : String)
  | invalidOperand (operation : String) (diagnostic : Diagnostic)
  | typeMismatch (expected actual : Kind)
  | cyclicEvaluation (object attr : String)
  | unsupportedDataType (typeName : String)
  | unknownAttribute (object attr : String)
  | undataizable (object : String)
  | depthExceeded (limit : Nat)
  | bind (cause : BindError)
  deriving DecidableEq

def BindError.message : BindError → String
  | .alreadyBound object attr =>
      "attribute '" ++ attr ++ "' of " ++ object ++ " is already bound"
  | .unknownAttribute object attr =>
      object ++ " has no attribute '" ++ attr ++ "'"
  | .positionGap attr index length =>
      "cannot bind '" ++ attr ++ "' at position " ++ toString index ++
        ": next free position is " ++ toString length
  | .sealed attr => "variadic attribute '" ++ attr ++ "' is sealed"
  | .notBindable attr =>
      "attribute '" ++ attr ++ "' is composite and cannot be bound"

def Diagnostic.message : Diagnostic → String
  | .divisionByZero => "division by zero is infinity"
  | .moduloByZero => "modulo by zero is undefined"
  | .other reason => reason

def DataError.message : DataError → String
  | .unbound object attr =>
      "attribute '" ++ attr ++ "' of " ++ object ++ " is not bound"
  | .missingOperands operation => operation ++ ": no operands supplied"
  | .invalidOperand operation diagnostic =>
      operation ++ ": " ++ diagnostic.message
  | .typeMismatch expected actual =>
      "expected " ++ expected.name ++ ", got " ++ actual.name
  | .cyclicEvaluation object attr =>
      "cyclic evaluation of '" ++ attr ++ "' in " ++ object
  | .unsupportedDataType typeName => "unknown type of data: " ++ typeName
  | .unknownAttribute object attr =>
      object ++ " has no attribute '" ++ attr ++ "'"
  | .undataizable object => object ++ " has nothing to dataize"
  | .depthExceeded limit =>
      "dataization exceeded depth limit of " ++ toString limit
  | .bind cause => cause.message

end ObjectCalculus
