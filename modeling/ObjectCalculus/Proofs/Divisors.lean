import Mathlib.Data.Set.List
import ObjectCalculus.Proofs.Operands
import ObjectCalculus.Proofs.Repetition
import ObjectCalculus.Proofs.Resolving

/-!
# Divisors that are refused

Operators have two ways to fail on values of their kind: there is none, or one after the first
is a zero to divide by. Where the zero stands and what the other operands are makes no
difference, and no total on the way is looked at. This is said of every operator whose operands
come to such values, by whatever way they do.
-/

set_option autoImplicit false

namespace ObjectCalculus

open Effect Evaluation

/-- There is one zero among the words and there are two among the floating values, told by their
bits: NaN and the subnormal values are none. -/
def Value.IsZero : Value → Prop
  | .int word => word = 0
  | .float value => value.bits = 0 ∨ value.bits = 0x8000000000000000
  | _ => False

theorem is_zero_iff (value : Binary64) :
    value.isZero = true ↔ value.bits = 0 ∨ value.bits = 0x8000000000000000 := by
  have bound := value.bits.toNat_lt
  simp only [Binary64.isZero, Binary64.exponentField, Binary64.fraction, Bool.and_eq_true,
    beq_iff_eq, ← UInt64.toNat_inj, UInt64.toNat_zero, UInt64.reduceToNat, Nat.pow_eq]
  omega

namespace Fold

variable {α : Type}

/-- If the guard refuses one class of operands, always for the same reason, a fold fails where
it has no operand or where one after the first is in the class. -/
theorem left_fold_error_iff {fold : Fold α} {reason : Option Diagnostic} {refused : α → Prop}
    (guards : ∀ operand diagnostic, fold.guard operand = some diagnostic ↔
      reason = some diagnostic ∧ refused operand)
    (operands : List α) (failure : DataError) :
    fold.leftFold operands = .error failure ↔
      (operands = [] ∧ failure = .missingOperands fold.operation) ∨
        ∃ diagnostic, reason = some diagnostic ∧ (∃ operand ∈ operands.tail, refused operand) ∧
          failure = .invalidOperand fold.operation diagnostic := by
  cases operands with
  | nil => simp [leftFold, eq_comm]
  | cons first rest =>
      simp only [reduceCtorEq, false_and, false_or, List.tail_cons]
      change rest.foldlM fold.combineGuarded first = .error failure ↔ _
      -- No more is known of the total so far than that it is some operand.
      induction rest generalizing first with
      | nil => simp [pure, Except.pure]
      | cons operand rest ih =>
          rw [List.foldlM_cons, combineGuarded]
          cases guarded : fold.guard operand with
          | some diagnostic =>
              obtain ⟨rfl, here⟩ := (guards operand diagnostic).mp guarded
              simp [bind, Except.bind, here, eq_comm]
          | none =>
              have passes (diagnostic : Diagnostic) (known : reason = some diagnostic) :
                  ¬refused operand := fun here => by
                rw [(guards operand diagnostic).mpr ⟨known, here⟩] at guarded
                cases guarded
              refine (ih (fold.combine first operand)).trans (exists_congr fun diagnostic => ?_)
              refine and_congr_right fun known => ?_
              simp [passes diagnostic known]

end Fold

namespace Builtin

/-- Why the operator refuses a zero after the first operand, if it does. -/
def zeroRefusal : Builtin → Option Diagnostic
  | .intDiv | .floatDiv => some .divisionByZero
  | .intMod => some .moduloByZero
  | _ => none

/-- The operator has no total for the values and fails in this way. -/
def Rejects (builtin : Builtin) (values : List Value) (failure : DataError) : Prop :=
  (values = [] ∧ failure = .missingOperands builtin.name) ∨
    ∃ diagnostic, builtin.zeroRefusal = some diagnostic ∧
      (∃ value ∈ values.tail, value.IsZero) ∧
      failure = .invalidOperand builtin.name diagnostic

end Builtin

section Rejects

variable {builtin : Builtin} {values : List Value} {failure : DataError}

theorem fold_rejects {α : Type} [Carrier α] [LawfulCarrier α] [Operand α] {fold : Fold α}
    (named : fold.operation = builtin.name)
    (guards : ∀ operand diagnostic, fold.guard operand = some diagnostic ↔
      builtin.zeroRefusal = some diagnostic ∧ (Carrier.toValue operand).IsZero)
    (carried : ∀ value ∈ values, value ∈ Set.range (Carrier.toValue : α → Value)) :
    fold.aggregate.total values = .error failure ↔ builtin.Rejects values failure := by
  obtain ⟨operands, rfl⟩ := (Set.range_list_map _).symm.subset carried
  have folded : (fold.leftFold operands).map Carrier.toValue = .error failure ↔
      fold.leftFold operands = .error failure := by
    cases fold.leftFold operands <;> simp [Except.map]
  rw [total_carried, folded, Fold.left_fold_error_iff guards, Builtin.Rejects, named]
  simp only [List.map_eq_nil_iff, ← List.map_tail, List.mem_map, exists_exists_and_eq_and]

theorem word_carried {value : Value} (same : value.kind = .int) :
    value ∈ Set.range (Carrier.toValue : Int64 → Value) := by
  cases value <;> first | exact ⟨_, rfl⟩ | cases same

theorem float_carried {value : Value} (same : value.kind = .float) :
    value ∈ Set.range (Carrier.toValue : Binary64 → Value) := by
  cases value <;> first | exact ⟨_, rfl⟩ | cases same

theorem truth_carried {value : Value} (same : value.kind = .bool) :
    value ∈ Set.range (Carrier.toValue : Bool → Value) := by
  cases value <;> first | exact ⟨_, rfl⟩ | cases same

theorem unguarded_guards {α : Type} (operation parameter : String) (combine : α → α → α)
    (refused : α → Prop) (operand : α) (diagnostic : Diagnostic) :
    (Fold.unguarded operation parameter combine).guard operand = some diagnostic ↔
      none = some diagnostic ∧ refused operand := by
  simp [Fold.unguarded]

theorem zero_guards {isZero : Bool} {refused : Prop} (same : isZero = true ↔ refused)
    (reason diagnostic : Diagnostic) :
    Fold.refuseZero reason isZero = some diagnostic ↔ some reason = some diagnostic ∧ refused := by
  rw [← same]
  cases isZero <;> simp [Fold.refuseZero]

theorem word_zero_guards (reason : Diagnostic) (operand : Int64) (diagnostic : Diagnostic) :
    Fold.refuseZero reason (operand == 0) = some diagnostic ↔
      some reason = some diagnostic ∧ (Value.int operand).IsZero :=
  zero_guards beq_iff_eq reason diagnostic

theorem float_zero_guards (reason : Diagnostic) (operand : Binary64) (diagnostic : Diagnostic) :
    Fold.refuseZero reason operand.isZero = some diagnostic ↔
      some reason = some diagnostic ∧ (Value.float operand).IsZero :=
  zero_guards (is_zero_iff operand) reason diagnostic

theorem total_rejects {fold : Fold.Any} (role : builtin.role = .aggregate (.operator fold))
    (kinds : ∀ value ∈ values, value.kind = fold.kind) :
    (Aggregate.operator fold).total values = .error failure ↔ builtin.Rejects values failure := by
  cases builtin <;> cases role
  case intAdd | intSub | intMul =>
    exact fold_rejects rfl (unguarded_guards _ _ _ _) fun value member =>
      word_carried (kinds value member)
  case intDiv | intMod =>
    exact fold_rejects rfl (word_zero_guards _) fun value member =>
      word_carried (kinds value member)
  case floatAdd | floatSub | floatMul =>
    exact fold_rejects rfl (unguarded_guards _ _ _ _) fun value member =>
      float_carried (kinds value member)
  case floatDiv =>
    exact fold_rejects rfl (float_zero_guards _) fun value member =>
      float_carried (kinds value member)
  case boolAnd | boolOr =>
    exact fold_rejects rfl (unguarded_guards _ _ _ _) fun value member =>
      truth_carried (kinds value member)

end Rejects

/-- Resolved or dataized for a value of its kind, the operator fails exactly as it rejects the
values. -/
def Store.FailsAs (store : Store) (config : Config) (builtin : Builtin) (fold : Fold.Any)
    (object : ObjectId) (values : List Value) : Prop :=
  ∀ failure,
    (((resolve config object).outcome store).1 = .error failure ↔
      builtin.Rejects values failure) ∧
    (((dataize config object fold.kind).outcome store).1 = .error failure ↔
      builtin.Rejects values failure)

section Operators

variable {builtin : Builtin} {fold : Fold.Any} {values : List Value} {store : Store}
  {config : Config} {object : ObjectId}

theorem fold_kind {α : Type} [Carrier α] [LawfulCarrier α] {fold : Fold α} {value : Value}
    (total : fold.total values = .ok value) : value.kind = Carrier.kind α := by
  unfold Fold.total at total
  cases folded : fold.leftFold (values.filterMap Carrier.ofValue?) with
  | error failure =>
      rw [folded] at total
      cases total
  | ok carried =>
      rw [folded] at total
      cases total
      exact kind_to_value carried

theorem total_kind {value : Value} (total : fold.total values = .ok value) :
    value.kind = fold.kind := by
  cases fold <;> exact fold_kind total

theorem accepted_kind {value : Value} (same : value.kind = fold.kind) :
    (Aggregate.operator fold).refusal value = none := by
  rw [Aggregate.refusal, if_pos same]

theorem fails_as_total (role : builtin.role = .aggregate (.operator fold))
    (kinds : ∀ value ∈ values, value.kind = fold.kind)
    (resolved : ((resolve config object).outcome store).1 =
      (Aggregate.operator fold).total values) :
    store.FailsAs config builtin fold object values := by
  have dataized : ((dataize config object fold.kind).outcome store).1 =
      (Aggregate.operator fold).total values := by
    rcases ran : (resolve config object).outcome store with ⟨result, after⟩
    rw [ran] at resolved
    rw [← resolved, dataize]
    cases result with
    | error failure => rw [outcome_bind_error ran]
    | ok value =>
        rw [outcome_bind_ok ran, if_pos (total_kind resolved.symm)]
        rfl
  intro failure
  rw [resolved, dataized]
  exact ⟨total_rejects role kinds, total_rejects role kinds⟩

/-- An operator whose operands come to values of its kind is refused for a missing operand or
for a zero to divide by, and for nothing else. Its operands may be anything as long as it has
computed nothing, and where built-in objects only were made it may have a result already; there
its operands can also be known by what they mean, if the limit is not met. -/
theorem zero_divisors_are_refused (role : builtin.role = .aggregate (.operator fold))
    (config : Config) :
    (∀ (store : Store) (object : ObjectId) (items : List ObjectId) (isSealed : Bool)
        (cache : Option ObjectId) (values : List Value),
      store.Holds object (.aggregate role items isSealed cache) →
        (cache = none ∨ ∃ deferring, Reachable deferring store) →
        ((itemValues config object (.operator fold)).outcome store).1 = .ok values →
        (∀ value ∈ values, value.kind = fold.kind) →
          store.FailsAs config builtin fold object values) ∧
      ∀ (deferring : Prop) (store : Store) (object : ObjectId)
        (operands : List (ObjectId × Value)) (isSealed : Bool) (cache : Option ObjectId),
        Reachable deferring store →
        store.Holds object (.aggregate role (operands.map Prod.fst) isSealed cache) →
        (∀ operand ∈ operands,
          Means store.graph operand.1 (.ok operand.2) ∧ operand.2.kind = fold.kind) →
        (∀ limit,
          ((resolve config object).outcome store).1 ≠ .error (.depthExceeded limit)) →
          store.FailsAs config builtin fold object (operands.map Prod.snd) := by
  constructor
  · intro store object items isSealed cache values holds known came kinds
    have accepted (value : Value) (member : value ∈ values) :
        (Aggregate.operator fold).refusal value = none := accepted_kind (kinds value member)
    apply fails_as_total role kinds
    cases cache with
    | none => exact resolve_total holds came accepted
    | some result =>
        obtain ⟨deferring, reachable⟩ := known.resolve_left nofun
        exact kept_total (reachable_sound reachable) holds came accepted
  · intro deferring store object operands isSealed cache reachable holds known fits
    apply fails_as_total role (List.forall_mem_map.mpr fun operand member =>
      (known operand member).2)
    exact items_found (reachable_sound reachable) (reachable_idle reachable) ⟨_, holds, rfl⟩
      (fun operand member => (known operand member).1)
      (fun operand member => accepted_kind (known operand member).2) fits

end Operators

theorem fraction_operands_mean :
    ∀ operand ∈ [((⟨2⟩ : ObjectId), Value.int 5), (⟨3⟩, .int 0)],
      Means Store.fraction.graph operand.1 (.ok operand.2) := by
  have leaf (object : ObjectId) (value : Value)
      (held : Store.fraction.Holds object (.leaf (.fixed value))) :
      Means Store.fraction.graph object (.ok value) := .leaf ⟨_, held, rfl⟩
  have role : Builtin.intAdd.role = .aggregate (.operator (.int .intAdd)) := rfl
  have sum : Store.fraction.Holds ⟨2⟩ (.aggregate role [⟨0⟩, ⟨1⟩] false none) := rfl
  have means : Means Store.fraction.graph ⟨2⟩
      ((Aggregate.operator (.int .intAdd)).total [.int 2, .int 3]) := by
    refine @Means.aggregate _ _ _ [(⟨0⟩, .int 2), (⟨1⟩, .int 3)] ⟨_, sum, rfl⟩ ?_ ?_
    · exact List.forall_mem_cons.mpr ⟨leaf _ _ rfl, List.forall_mem_singleton.mpr (leaf _ _ rfl)⟩
    · exact List.forall_mem_cons.mpr ⟨rfl, List.forall_mem_singleton.mpr rfl⟩
  exact List.forall_mem_cons.mpr ⟨means, List.forall_mem_singleton.mpr (leaf _ _ rfl)⟩

/-- The zero is the second operand, and the sum before it is not looked at. -/
theorem fraction_is_refused :
    let operands : List (ObjectId × Value) := [(⟨2⟩, .int 5), (⟨3⟩, .int 0)]
    let values : List Value := operands.map Prod.snd
    let failure : DataError := .invalidOperand "int.div" .divisionByZero
    Reachable False Store.fraction ∧
      ((itemValues .default ⟨4⟩ (.operator (.int .intDiv))).outcome Store.fraction).1 =
        .ok values ∧
      (∀ operand ∈ operands, Means Store.fraction.graph operand.1 (.ok operand.2)) ∧
      Builtin.intDiv.Rejects values failure ∧
      Store.fraction.FailsAs .default .intDiv (.int .intDiv) ⟨4⟩ values ∧
      ((resolve .default ⟨4⟩).outcome Store.fraction).1 = .error failure := by
  intro operands values failure
  have reachable : Reachable False Store.fraction :=
    (reachable_leaf sum_reachable (.int 0)).tail (.apply .intDiv (by decide))
  have role : Builtin.intDiv.role = .aggregate (.operator (.int .intDiv)) := rfl
  have holds : Store.fraction.Holds ⟨4⟩
      (.aggregate role (operands.map Prod.fst) false none) := rfl
  have came : ((itemValues .default ⟨4⟩ (.operator (.int .intDiv))).outcome Store.fraction).1 =
      .ok values := rfl
  have rejects : Builtin.intDiv.Rejects values failure :=
    .inr ⟨.divisionByZero, rfl, ⟨.int 0, List.mem_singleton.mpr rfl, rfl⟩, rfl⟩
  have kinds : ∀ value ∈ values, value.kind = .int :=
    List.forall_mem_cons.mpr ⟨rfl, List.forall_mem_singleton.mpr rfl⟩
  obtain ⟨resolved, meant⟩ := zero_divisors_are_refused role .default
  have fails := resolved Store.fraction ⟨4⟩ _ _ _ values holds (.inl rfl) came kinds
  have refused := (fails failure).1.mpr rejects
  -- The operands mean these values too, and the limit is not met.
  have again := meant False Store.fraction ⟨4⟩ operands _ _ reachable holds
    (fun operand member => ⟨fraction_operands_mean operand member,
      kinds operand.2 (List.mem_map_of_mem member)⟩)
    (fun limit => by simp [refused, failure])
  exact ⟨reachable, came, fraction_operands_mean, rejects, again, refused⟩

end ObjectCalculus
