import ObjectCalculus.Error
import ObjectCalculus.Text.Outline
import ObjectCalculus.Text.Quoted

/-!
# Guarded folds

A left fold that starts from its first operand and asks a guard about every
later one before it is combined. The first operand is never guarded.

The fold runs in any monad, so that calls of the guard and of the combinator can
be observed; `reduce` runs it plainly and `reduceCounted` counts.
-/

set_option autoImplicit false

namespace ObjectCalculus

structure Fold (α : Type) where
  operation : String
  parameter : String
  combine : α → α → α
  /-- The diagnostic of an operand that is refused. -/
  guard : α → Option Diagnostic

namespace Fold

variable {α : Type}

def unguarded (operation parameter : String) (combine : α → α → α) :
    Fold α where
  operation := operation
  parameter := parameter
  combine := combine
  guard := fun _ => none

section Monadic

variable {m : Type → Type} [Monad m]

def continueWith (operation : String) (guard : α → m (Option Diagnostic))
    (combine : α → α → m α) : α → List α → m (Except DataError α)
  | total, [] => pure (.ok total)
  | total, operand :: rest => do
      match ← guard operand with
      | some diagnostic => pure (.error (.invalidOperand operation diagnostic))
      | none =>
          let next ← combine total operand
          continueWith operation guard combine next rest

def reduceM (operation : String) (guard : α → m (Option Diagnostic))
    (combine : α → α → m α) : List α → m (Except DataError α)
  | [] => pure (.error (.missingOperands operation))
  | first :: rest => continueWith operation guard combine first rest

end Monadic

def reduce (fold : Fold α) (operands : List α) : Except DataError α :=
  Id.run (reduceM fold.operation fold.guard fold.combine operands)

/-- How often a fold called its guard and its combinator. -/
structure Calls where
  guarded : Nat
  combined : Nat
  deriving DecidableEq

def reduceCounted (fold : Fold α) (operands : List α) :
    Except DataError α × Calls :=
  let guard (operand : α) : StateM Calls (Option Diagnostic) := do
    modify fun calls => { calls with guarded := calls.guarded + 1 }
    pure (fold.guard operand)
  let combine (total operand : α) : StateM Calls α := do
    modify fun calls => { calls with combined := calls.combined + 1 }
    pure (fold.combine total operand)
  (reduceM fold.operation guard combine operands).run ⟨0, 0⟩

open Text in
def outline (fold : Fold α) : Outline :=
  .record "ExprReduce" [
    ("op", .text (quoted fold.operation)),
    ("param", .text (quoted fold.parameter))]

end Fold

end ObjectCalculus
