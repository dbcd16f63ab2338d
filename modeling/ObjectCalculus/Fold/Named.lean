import ObjectCalculus.Binary64
import ObjectCalculus.Fold.Rule

/-!
# Folds by name

The combinators and guards that a description of a fold can name, for each kind
of operand.
-/

set_option autoImplicit false

namespace ObjectCalculus.Fold

def first {α : Type} (total _ : α) : α := total

def last {α : Type} (_ operand : α) : α := operand

namespace Combinator

def int? : String → Option (Int64 → Int64 → Int64)
  | "sub" => some fun total operand => total - operand
  | "first" => some first
  | "last" => some last
  | "max" => some fun total operand => if total < operand then operand else total
  | "digits" => some fun total operand => total * 10 + operand
  | _ => none

def float? : String → Option (Binary64 → Binary64 → Binary64)
  | "sub" => some Binary64.sub
  | "first" => some first
  | "last" => some last
  | "digits" => some fun total operand => (total.mul .ten).add operand
  | _ => none

def bool? : String → Option (Bool → Bool → Bool)
  | "implies" => some fun total operand => !total || operand
  | "first" => some first
  | "last" => some last
  | "xor" => some xor
  | _ => none

def string? : String → Option (String → String → String)
  | "first" => some first
  | "last" => some last
  | "pair" => some fun total operand => "(" ++ total ++ operand ++ ")"
  | _ => none

def bytes (total operand : List UInt8) : List UInt8 :=
  total ++ operand

def char : String → Char → Char → Char
  | "first" => first
  | _ => fun total operand => if total < operand then operand else total

end Combinator

structure GuardSpec where
  refused : String
  diagnostic : Diagnostic

namespace GuardSpec

def guard {α : Type} (spec : GuardSpec) (refuses : α → Bool) (operand : α) :
    Option Diagnostic :=
  if refuses operand then some spec.diagnostic else none

def int (spec : GuardSpec) : Int64 → Option Diagnostic :=
  spec.guard fun operand =>
    if spec.refused = "zero" then operand == 0 else decide (operand < 0)

def float (spec : GuardSpec) : Binary64 → Option Diagnostic :=
  spec.guard fun operand =>
    if spec.refused = "zero" then operand.isZero else operand.isBelowZero

def bool (spec : GuardSpec) : Bool → Option Diagnostic :=
  spec.guard fun operand => !operand

def string (spec : GuardSpec) : String → Option Diagnostic :=
  spec.guard String.isEmpty

def bytes (spec : GuardSpec) : List UInt8 → Option Diagnostic :=
  spec.guard List.isEmpty

def char (spec : GuardSpec) : Char → Option Diagnostic :=
  spec.guard fun operand => decide (operand.toNat < 128)

end GuardSpec

inductive Any where
  | int (fold : Fold Int64)
  | float (fold : Fold Binary64)
  | bool (fold : Fold Bool)
  | bytes (fold : Fold (List UInt8))
  | string (fold : Fold String)
  | char (fold : Fold Char)

namespace Any

def rule : Any → Rule
  | .int fold => fold.rule
  | .float fold => fold.rule
  | .bool fold => fold.rule
  | .bytes fold => fold.rule
  | .string fold => fold.rule
  | .char fold => fold.rule

def operation : Any → String
  | .int fold => fold.operation
  | .float fold => fold.operation
  | .bool fold => fold.operation
  | .bytes fold => fold.operation
  | .string fold => fold.operation
  | .char fold => fold.operation

def parameter : Any → String
  | .int fold => fold.parameter
  | .float fold => fold.parameter
  | .bool fold => fold.parameter
  | .bytes fold => fold.parameter
  | .string fold => fold.parameter
  | .char fold => fold.parameter

def outline : Any → Text.Outline
  | .int fold => fold.outline
  | .float fold => fold.outline
  | .bool fold => fold.outline
  | .bytes fold => fold.outline
  | .string fold => fold.outline
  | .char fold => fold.outline

def reduceCarried {α : Type} [Carrier α] (fold : Fold α) (operands : List Value) :
    Option (Except DataError Value × Calls) := do
  let carried ← operands.mapM fun operand => Carrier.ofValue? (α := α) operand
  let (result, calls) := fold.reduceCounted carried
  pure (result.map Carrier.toValue, calls)

def reduceCounted : Any → List Value → Option (Except DataError Value × Calls)
  | .int fold => reduceCarried fold
  | .float fold => reduceCarried fold
  | .bool fold => reduceCarried fold
  | .bytes fold => reduceCarried fold
  | .string fold => reduceCarried fold
  | .char fold => reduceCarried fold

end Any

/-- What describes a fold: the kind of its operands and the names of its
combinator and guard. -/
structure Description where
  kind : Kind
  operation : String
  parameter : String
  combinator : String
  guard : Option GuardSpec

namespace Description

def build {α : Type} (description : Description) (combine : α → α → α)
    (guardOf : GuardSpec → α → Option Diagnostic) : Fold α where
  operation := description.operation
  parameter := description.parameter
  combine := combine
  guard :=
    match description.guard with
    | some spec => guardOf spec
    | none => fun _ => none

def fold? (description : Description) : Option Any :=
  match description.kind with
  | .int => (Combinator.int? description.combinator).map fun combine =>
      .int (description.build combine GuardSpec.int)
  | .float => (Combinator.float? description.combinator).map fun combine =>
      .float (description.build combine GuardSpec.float)
  | .bool => (Combinator.bool? description.combinator).map fun combine =>
      .bool (description.build combine GuardSpec.bool)
  | .string => (Combinator.string? description.combinator).map fun combine =>
      .string (description.build combine GuardSpec.string)
  | .bytes => some (.bytes (description.build Combinator.bytes GuardSpec.bytes))
  | .char => some (.char
      (description.build (Combinator.char description.combinator) GuardSpec.char))
  | .pattern => none
  | .array => none

/-- The result over values of the fold's kind and the calls it took; a guard that
is not described is not counted. -/
def reduceCounted (description : Description) (operands : List Value) :
    Option (Except DataError Value × Calls) := do
  let fold ← description.fold?
  let (result, calls) ← fold.reduceCounted operands
  let guarded := if description.guard.isSome then calls.guarded else 0
  pure (result, { calls with guarded := guarded })

end Description

end ObjectCalculus.Fold
