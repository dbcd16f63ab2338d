import ObjectCalculus.Fold.Basic
import ObjectCalculus.Program

/-!
# Folds as rules

A fold evaluates its owner by dataizing the elements of one attribute from left
to right, folding them, and wrapping the total in a new leaf.
-/

set_option autoImplicit false

namespace ObjectCalculus.Fold

variable {α : Type} [Carrier α]

def rule (fold : Fold α) : Rule := fun owner => do
  let items ← Program.sequence owner fold.parameter
  let operands ← Program.each (Program.dataizeAs α) items
  match fold.reduce operands with
  | .error failure => Program.fail failure
  | .ok total =>
      Program.ask (.report owner (.reduced fold.operation items.length))
      Program.leaf (Carrier.toValue total)

end ObjectCalculus.Fold
