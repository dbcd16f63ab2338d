import ObjectCalculus.Builtin.Template
import ObjectCalculus.Fold.Named

/-!
# Guarded folds of values

What a fold computes, said without the monad it runs in: a left fold that starts
from the first operand and stops at the first operand refused. A fold works on the
carrier of one kind; a carrier holds exactly the values of its kind, so the fold
is a function of values as well.
-/

set_option autoImplicit false

namespace ObjectCalculus

/-- A carrier reads back what it wrote and nothing of another kind. -/
class LawfulCarrier (α : Type) [Carrier α] : Prop where
  of_value_to_value (carried : α) : Carrier.ofValue? (Carrier.toValue carried) = some carried
  value_of_kind (value : Value) : value.kind = Carrier.kind α →
    ∃ carried : α, Carrier.ofValue? value = some carried
  kind_of_value (value : Value) (carried : α) : Carrier.ofValue? value = some carried →
    value.kind = Carrier.kind α

instance : LawfulCarrier Int64 where
  of_value_to_value _ := rfl
  value_of_kind value same := by cases value <;> first | exact ⟨_, rfl⟩ | cases same
  kind_of_value value _ held := by cases value <;> first | rfl | cases held

instance : LawfulCarrier Binary64 where
  of_value_to_value _ := rfl
  value_of_kind value same := by cases value <;> first | exact ⟨_, rfl⟩ | cases same
  kind_of_value value _ held := by cases value <;> first | rfl | cases held

instance : LawfulCarrier Bool where
  of_value_to_value _ := rfl
  value_of_kind value same := by cases value <;> first | exact ⟨_, rfl⟩ | cases same
  kind_of_value value _ held := by cases value <;> first | rfl | cases held

instance : LawfulCarrier (List UInt8) where
  of_value_to_value _ := rfl
  value_of_kind value same := by cases value <;> first | exact ⟨_, rfl⟩ | cases same
  kind_of_value value _ held := by cases value <;> first | rfl | cases held

instance : LawfulCarrier String where
  of_value_to_value _ := rfl
  value_of_kind value same := by cases value <;> first | exact ⟨_, rfl⟩ | cases same
  kind_of_value value _ held := by cases value <;> first | rfl | cases held

instance : LawfulCarrier Char where
  of_value_to_value _ := rfl
  value_of_kind value same := by cases value <;> first | exact ⟨_, rfl⟩ | cases same
  kind_of_value value _ held := by cases value <;> first | rfl | cases held

instance : LawfulCarrier Pattern where
  of_value_to_value _ := rfl
  value_of_kind value same := by cases value <;> first | exact ⟨_, rfl⟩ | cases same
  kind_of_value value _ held := by cases value <;> first | rfl | cases held

theorem of_value_none {α : Type} [Carrier α] [LawfulCarrier α] {value : Value}
    (different : value.kind ≠ Carrier.kind α) :
    (Carrier.ofValue? value : Option α) = none := by
  cases held : (Carrier.ofValue? value : Option α) with
  | none => rfl
  | some carried => exact absurd (LawfulCarrier.kind_of_value value carried held) different

namespace Fold

variable {α : Type}

def combineGuarded (fold : Fold α) (total operand : α) : Except DataError α :=
  match fold.guard operand with
  | some diagnostic => .error (.invalidOperand fold.operation diagnostic)
  | none => .ok (fold.combine total operand)

def leftFold (fold : Fold α) : List α → Except DataError α
  | [] => .error (.missingOperands fold.operation)
  | first :: rest => rest.foldlM fold.combineGuarded first

theorem continue_eq_fold (fold : Fold α) (total : α) (operands : List α) :
    Id.run (continueWith fold.operation (fun operand => pure (fold.guard operand))
        (fun total operand => pure (fold.combine total operand)) total operands) =
      operands.foldlM fold.combineGuarded total := by
  induction operands generalizing total with
  | nil => rfl
  | cons operand rest ih =>
      rw [continueWith, List.foldlM_cons]
      cases guarded : fold.guard operand with
      | some diagnostic =>
          have refused : fold.combineGuarded total operand =
              .error (.invalidOperand fold.operation diagnostic) := by
            simp only [combineGuarded, guarded]
          rw [refused]
          rfl
      | none =>
          have combined : fold.combineGuarded total operand =
              .ok (fold.combine total operand) := by
            simp only [combineGuarded, guarded]
          rw [combined]
          exact ih (fold.combine total operand)

theorem reduce_eq_left_fold (fold : Fold α) (operands : List α) :
    fold.reduce operands = fold.leftFold operands := by
  cases operands with
  | nil => rfl
  | cons first rest => exact continue_eq_fold fold first rest

/-- There are two ways for a fold to fail. -/
theorem left_fold_failure {fold : Fold α} {operands : List α} {failure : DataError}
    (failed : fold.leftFold operands = .error failure) :
    failure = .missingOperands fold.operation ∨
      ∃ diagnostic, failure = .invalidOperand fold.operation diagnostic := by
  cases operands with
  | nil =>
      cases failed
      exact .inl rfl
  | cons first rest =>
      right
      change rest.foldlM fold.combineGuarded first = .error failure at failed
      induction rest generalizing first with
      | nil => cases failed
      | cons operand rest ih =>
          rw [List.foldlM_cons] at failed
          cases guarded : fold.guard operand with
          | some diagnostic =>
              simp only [combineGuarded, guarded] at failed
              cases failed
              exact ⟨diagnostic, rfl⟩
          | none =>
              simp only [combineGuarded, guarded] at failed
              exact ih (fold.combine first operand) failed

/-- The fold of the values of the carrier's kind. -/
def total [Carrier α] (fold : Fold α) (values : List Value) : Except DataError Value :=
  (fold.leftFold (values.filterMap Carrier.ofValue?)).map Carrier.toValue

theorem total_failure [Carrier α] {fold : Fold α} {values : List Value} {failure : DataError}
    (failed : fold.total values = .error failure) :
    failure = .missingOperands fold.operation ∨
      ∃ diagnostic, failure = .invalidOperand fold.operation diagnostic := by
  unfold total at failed
  cases folded : fold.leftFold (values.filterMap Carrier.ofValue?) with
  | ok carried =>
      rw [folded] at failed
      cases failed
  | error cause =>
      rw [folded] at failed
      cases failed
      exact left_fold_failure folded

namespace Any

def kind : Any → Kind
  | .int _ => .int
  | .float _ => .float
  | .bool _ => .bool
  | .bytes _ => .bytes
  | .string _ => .string
  | .char _ => .char

def total : Any → List Value → Except DataError Value
  | .int fold => fold.total
  | .float fold => fold.total
  | .bool fold => fold.total
  | .bytes fold => fold.total
  | .string fold => fold.total
  | .char fold => fold.total

theorem total_failure {fold : Any} {values : List Value} {failure : DataError}
    (failed : fold.total values = .error failure) :
    failure = .missingOperands fold.operation ∨
      ∃ diagnostic, failure = .invalidOperand fold.operation diagnostic := by
  cases fold <;> exact Fold.total_failure failed

end Any

end Fold

end ObjectCalculus
