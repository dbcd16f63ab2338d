import ObjectCalculus.Proofs.Folding
import ObjectCalculus.Proofs.Outcome

/-!
# Operators and arrays

Operators and arrays work alike: they take the values of their items from left to
right, check each as soon as it is there, and make one value of them all. Their
rules are shown to be this one program.
-/

set_option autoImplicit false

namespace ObjectCalculus

variable {α β γ : Type}

/-- What an object makes of the values of its items. -/
inductive Aggregate where
  | operator (fold : Fold.Any)
  | array

inductive Role where
  | datum
  | aggregate (form : Aggregate)

def Builtin.role : Builtin → Role
  | .int => .datum
  | .float => .datum
  | .bool => .datum
  | .bytes => .datum
  | .string => .datum
  | .char => .datum
  | .regex => .datum
  | .array => .aggregate .array
  | .intAdd => .aggregate (.operator (.int .intAdd))
  | .intSub => .aggregate (.operator (.int .intSub))
  | .intMul => .aggregate (.operator (.int .intMul))
  | .intDiv => .aggregate (.operator (.int .intDiv))
  | .intMod => .aggregate (.operator (.int .intMod))
  | .floatAdd => .aggregate (.operator (.float .floatAdd))
  | .floatSub => .aggregate (.operator (.float .floatSub))
  | .floatMul => .aggregate (.operator (.float .floatMul))
  | .floatDiv => .aggregate (.operator (.float .floatDiv))
  | .boolAnd => .aggregate (.operator (.bool .boolAnd))
  | .boolOr => .aggregate (.operator (.bool .boolOr))

namespace Aggregate

def parameter : Aggregate → String
  | .operator fold => fold.parameter
  | .array => elementAttribute

def rule : Aggregate → Rule
  | .operator fold => fold.rule
  | .array => arrayRule

def refusal : Aggregate → Value → Option DataError
  | .operator fold, value =>
      if value.kind = fold.kind then none
      else some (.typeMismatch fold.kind value.kind)
  | .array, _ => none

def accept (form : Aggregate) (value : Value) : Except DataError Value :=
  match form.refusal value with
  | some failure => .error failure
  | none => .ok value

def total : Aggregate → List Value → Except DataError Value
  | .operator fold, values => fold.total values
  | .array, values => .ok (.array values)

def item : Aggregate → ObjectId → Program Value
  | .operator fold, object => Program.dataize object fold.kind
  | .array, object => Program.resolve object

def report (owner : ObjectId) (count : Nat) : Aggregate → Program Unit
  | .operator fold => Program.ask (.report owner (.reduced fold.operation count))
  | .array => pure ()

def conclude (form : Aggregate) (owner : ObjectId) (count : Nat)
    (values : List Value) : Program ObjectId :=
  match form.total values with
  | .error failure => Program.fail failure
  | .ok value => do
      form.report owner count
      Program.leaf value

def gather (form : Aggregate) : Rule := fun owner => do
  let items ← Program.sequence owner form.parameter
  let values ← Program.each form.item items
  form.conclude owner items.length values

end Aggregate

theorem accept_refused {form : Aggregate} {value : Value} {failure : DataError}
    (refusal : form.refusal value = some failure) : form.accept value = .error failure := by
  simp only [Aggregate.accept, refusal]

theorem accept_accepted {form : Aggregate} {value : Value}
    (refusal : form.refusal value = none) : form.accept value = .ok value := by
  simp only [Aggregate.accept, refusal]

namespace Program

theorem bind_assoc (program : Program α) (first : α → Program β) (second : β → Program γ) :
    program >>= first >>= second = program >>= fun value => first value >>= second := by
  change (program.bind first).bind second = program.bind fun value => (first value).bind second
  induction program with
  | done result => cases result <;> rfl
  | call request after ih =>
      simp only [bind]
      congr 1
      funext answer
      exact ih answer

theorem pure_bind (value : α) (next : α → Program β) :
    (pure value : Program α) >>= next = next value := rfl

theorem fail_bind (failure : DataError) (next : α → Program β) :
    (fail failure : Program α) >>= next = fail failure := rfl

theorem bind_congr (program : Program α) {left right : α → Program β}
    (same : ∀ value, left value = right value) :
    program >>= left = program >>= right := by
  rw [funext same]

theorem each_carried [Carrier α] [LawfulCarrier α] (items : List ObjectId)
    (next : List α → Program β) :
    each (dataizeAs α) items >>= next =
      each (fun item => dataize item (Carrier.kind α)) items >>= fun values =>
        next (values.filterMap Carrier.ofValue?) := by
  induction items generalizing next with
  | nil => rfl
  | cons item rest ih =>
      simp only [each, dataizeAs, dataize, bind_assoc, pure_bind]
      apply bind_congr
      intro value
      by_cases same : value.kind = Carrier.kind α
      · obtain ⟨carried, held⟩ := LawfulCarrier.value_of_kind value same
        simp only [held, checkKind, same, if_true, pure_bind, List.filterMap_cons]
        exact ih fun others => next (carried :: others)
      · simp only [of_value_none same, checkKind, same, if_false, fail_bind]

end Program

theorem fold_rule [Carrier α] [LawfulCarrier α] (fold : Fold α) (owner : ObjectId) :
    fold.rule owner = (do
      let items ← Program.sequence owner fold.parameter
      let values ← Program.each (fun item => Program.dataize item (Carrier.kind α)) items
      match fold.total values with
      | .error failure => Program.fail failure
      | .ok value => do
          Program.ask (.report owner (.reduced fold.operation items.length))
          Program.leaf value) := by
  unfold Fold.rule
  apply Program.bind_congr
  intro items
  rw [Program.each_carried]
  apply Program.bind_congr
  intro values
  rw [Fold.reduce_eq_left_fold, Fold.total]
  cases fold.leftFold (values.filterMap Carrier.ofValue?) <;> rfl

theorem array_rule (owner : ObjectId) : arrayRule owner = Aggregate.array.gather owner := by
  have item : Aggregate.array.item = Program.resolve := rfl
  unfold arrayRule Aggregate.gather
  rw [item]
  rfl

theorem rule_eq_gather (form : Aggregate) : form.rule = form.gather := by
  funext owner
  cases form with
  | array => exact array_rule owner
  | operator fold => cases fold <;> exact fold_rule _ owner

theorem template_of_datum {builtin : Builtin} (role : builtin.role = .datum) :
    builtin.template = ⟨builtin.name, [(dataAttribute, .free)]⟩ := by
  cases builtin <;> first | rfl | cases role

theorem template_of_aggregate {builtin : Builtin} {form : Aggregate}
    (role : builtin.role = .aggregate form) :
    builtin.template = ⟨builtin.name, [(form.parameter, .variadic),
      (valueAttribute, .composite form.rule true)]⟩ := by
  cases builtin <;> first | (cases role; rfl) | cases role

theorem parameter_ne_value {builtin : Builtin} {form : Aggregate}
    (role : builtin.role = .aggregate form) : form.parameter ≠ valueAttribute := by
  cases builtin <;> first | (cases role; decide) | cases role

theorem parameter_ne_data {builtin : Builtin} {form : Aggregate}
    (role : builtin.role = .aggregate form) : form.parameter ≠ dataAttribute := by
  cases builtin <;> first | (cases role; decide) | cases role

end ObjectCalculus
