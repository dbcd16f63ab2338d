import ObjectCalculus.Evaluation

/-!
# Outcomes

The outcome of an effect on a store is its result together with the store that
it leaves. Every way of putting effects together has its equations here, and so
has every function of the evaluator, one for each way it can go; no later module
looks inside the monad again.
-/

set_option autoImplicit false

namespace ObjectCalculus

variable {α β : Type}

namespace Effect

def outcome (effect : Effect α) (store : Store) : Except DataError α × Store :=
  effect.run.run store

def after (effect : Effect α) (store : Store) : Store :=
  (effect.outcome store).2

theorem same_of_outcomes {left right : Effect α}
    (same : ∀ store, left.outcome store = right.outcome store) : left = right :=
  funext same

theorem outcome_pure (value : α) (store : Store) :
    (pure value : Effect α).outcome store = (.ok value, store) := rfl

theorem outcome_of_store (change : Store → Except DataError α × Store) (store : Store) :
    (ofStore change).outcome store = change store := rfl

theorem outcome_update (change : Store → α × Store) (store : Store) :
    (update change).outcome store = (.ok (change store).1, (change store).2) := rfl

theorem outcome_read (view : Store → α) (store : Store) :
    (read view).outcome store = (.ok (view store), store) := rfl

theorem outcome_refuse (failure : Store → DataError) (store : Store) :
    (refuse failure : Effect α).outcome store = (.error (failure store), store) := rfl

theorem outcome_of_result (result : Except DataError α) (store : Store) :
    (ofResult result).outcome store = (result, store) := by
  cases result <;> rfl

theorem outcome_settle (effect : Effect α) (store : Store) :
    (settle effect).outcome store =
      (.ok (effect.outcome store).1, (effect.outcome store).2) := rfl

theorem outcome_bind_ok {effect : Effect α} {store middle : Store} {value : α}
    (first : effect.outcome store = (.ok value, middle)) (next : α → Effect β) :
    (effect >>= next).outcome store = (next value).outcome middle := by
  change effect.run.run store = _ at first
  simp only [outcome, ExceptT.run_bind, StateT.run_bind]
  rw [first]
  rfl

theorem outcome_bind_error {effect : Effect α} {store middle : Store}
    {failure : DataError} (first : effect.outcome store = (.error failure, middle))
    (next : α → Effect β) :
    (effect >>= next).outcome store = (.error failure, middle) := by
  change effect.run.run store = _ at first
  simp only [outcome, ExceptT.run_bind, StateT.run_bind]
  rw [first]
  rfl

/-- What holds of both ways a sequence can go holds of the sequence. -/
theorem outcome_bind_cases (holds : Except DataError β × Store → Prop)
    {effect : Effect α} {next : α → Effect β} {store : Store}
    (ok : ∀ value middle, effect.outcome store = (.ok value, middle) →
      holds ((next value).outcome middle))
    (error : ∀ failure middle, effect.outcome store = (.error failure, middle) →
      holds (.error failure, middle)) :
    holds ((effect >>= next).outcome store) := by
  rcases first : effect.outcome store with ⟨result, middle⟩
  cases result with
  | ok value =>
      rw [outcome_bind_ok first]
      exact ok value middle first
  | error failure =>
      rw [outcome_bind_error first]
      exact error failure middle first

end Effect

namespace Evaluation

open Effect

variable {config : Config} {marker : Marker} {store : Store} {body : Effect α}

theorem guarded_cyclic (active : marker ∈ store.activity.markers) :
    (guarded config marker body).outcome store =
      (.error (.cyclicEvaluation (store.label marker.object) marker.attr),
        store.record (.cyclicEvaluation (store.label marker.object) marker.attr)) := by
  apply outcome_bind_error
  simp [enter, outcome_of_store, active]

theorem guarded_deep (idle : marker ∉ store.activity.markers)
    (deep : config.limit ≤ store.activity.depth) :
    (guarded config marker body).outcome store =
      (.error (.depthExceeded config.limit),
        store.record (.depthLimit config.limit)) := by
  apply outcome_bind_error
  simp [enter, outcome_of_store, idle, deep]

theorem leave_outcome (marker : Marker) (store : Store) :
    (leave marker).outcome store = (.ok (), store.unmark marker) := rfl

theorem guarded_entered (idle : marker ∉ store.activity.markers)
    (room : store.activity.depth < config.limit) :
    (guarded config marker body).outcome store =
      ((body.outcome (store.mark marker)).1,
        (body.after (store.mark marker)).unmark marker) := by
  have entered : (enter config marker).outcome store = (.ok (), store.mark marker) := by
    simp [enter, outcome_of_store, idle, Nat.not_le.mpr room]
  unfold guarded
  rw [outcome_bind_ok entered, outcome_bind_ok (outcome_settle _ _),
    outcome_bind_ok (leave_outcome _ _), outcome_of_result]
  rfl

def stepped (config : Config) (object : ObjectId) (name : String) (store : Store) :
    Store :=
  if config.traceDataization then
    store.record (.step (store.label object) name store.activity.depth)
  else
    store

theorem record_step_outcome (config : Config) (object : ObjectId) (name : String)
    (store : Store) :
    (recordStep config object name).outcome store =
      (.ok (), stepped config object name store) := by
  unfold recordStep stepped
  rw [outcome_update]
  split <;> rfl

section Follow

variable {evaluate : Evaluator} {moves : Nat} {visited : List ObjectId}
  {object : ObjectId} {moveOn : Effect Value}

theorem take_leaf_instance (composed : store.leaf? object = none) :
    store.takeLeaf object = (none, store) := by
  simp [Store.takeLeaf, composed]

theorem take_leaf_none (store : Store) (object : ObjectId) :
    (store.takeLeaf object).1 = none ↔ store.leaf? object = none := by
  unfold Store.takeLeaf
  cases store.leaf? object with
  | none => simp
  | some leaf => cases leaf <;> simp

theorem arrive_leaf {result : Except DataError Value} {after : Store}
    (taken : store.takeLeaf object = (some result, after)) :
    (arrive visited object moveOn).outcome store = (result, after) := by
  unfold arrive
  rw [outcome_bind_ok (outcome_update _ _), taken]
  exact outcome_of_result result after

theorem arrive_revisited (composed : store.leaf? object = none)
    (seen : object ∈ visited) :
    (arrive visited object moveOn).outcome store =
      (.error (.cyclicEvaluation (store.label object) valueAttribute),
        store.record (.chainRevisits (store.label object))) := by
  unfold arrive
  rw [outcome_bind_ok (outcome_update _ _), take_leaf_instance composed]
  simp only [seen, if_true]
  rfl

theorem arrive_fresh (composed : store.leaf? object = none)
    (fresh : object ∉ visited) :
    (arrive visited object moveOn).outcome store = moveOn.outcome store := by
  unfold arrive
  rw [outcome_bind_ok (outcome_update _ _), take_leaf_instance composed]
  simp only [fresh, if_false]

theorem follow_leaf {result : Except DataError Value} {after : Store}
    (taken : store.takeLeaf object = (some result, after)) :
    (follow evaluate config moves visited object).outcome store = (result, after) := by
  cases moves <;> exact arrive_leaf taken

theorem follow_fixed {value : Value} (held : store.leaf? object = some (.fixed value)) :
    (follow evaluate config moves visited object).outcome store = (.ok value, store) := by
  apply follow_leaf
  simp only [Store.takeLeaf, held]

theorem follow_deferred {data : Deferred Value}
    (held : store.leaf? object = some (.deferred data)) :
    (follow evaluate config moves visited object).outcome store =
      (data.take.1, store.setLeaf object (.deferred data.take.2)) := by
  apply follow_leaf
  simp only [Store.takeLeaf, held]

theorem follow_revisited (composed : store.leaf? object = none)
    (seen : object ∈ visited) :
    (follow evaluate config moves visited object).outcome store =
      (.error (.cyclicEvaluation (store.label object) valueAttribute),
        store.record (.chainRevisits (store.label object))) := by
  cases moves <;> exact arrive_revisited composed seen

theorem follow_exhausted (composed : store.leaf? object = none)
    (fresh : object ∉ visited) :
    (follow evaluate config 0 visited object).outcome store =
      (.error (.depthExceeded config.limit),
        store.record (.depthLimit config.limit)) :=
  arrive_fresh composed fresh

theorem follow_nowhere {failure : DataError} (composed : store.leaf? object = none)
    (fresh : object ∉ visited) (nowhere : nextAttribute store object = .error failure) :
    (follow evaluate config (moves + 1) visited object).outcome store =
      (.error failure, store) := by
  rw [follow, arrive_fresh composed fresh, outcome_bind_ok (outcome_read _ _)]
  apply outcome_bind_error
  rw [outcome_of_result, nowhere]

theorem follow_step {name : String} (composed : store.leaf? object = none)
    (fresh : object ∉ visited) (way : nextAttribute store object = .ok name) :
    (follow evaluate config (moves + 1) visited object).outcome store =
      (evaluate config object name >>= fun next =>
        follow evaluate config moves (object :: visited) next).outcome
          (stepped config object name store) := by
  have named : (ofResult (nextAttribute store object)).outcome store =
      (.ok name, store) := by
    rw [outcome_of_result, way]
  rw [follow, arrive_fresh composed fresh, outcome_bind_ok (outcome_read _ _),
    outcome_bind_ok named, outcome_bind_ok (record_step_outcome config object name store)]

end Follow

theorem run_done (evaluate : Evaluator) (running : Config) (result : Except DataError α)
    (store : Store) :
    (runProgram evaluate running (.done result)).outcome store = (result, store) :=
  outcome_of_result result store

theorem run_call (evaluate : Evaluator) (running : Config) (request : Call)
    (next : Except DataError request.Answer → Program α) (store : Store) :
    (runProgram evaluate running (.call request next)).outcome store =
      (runProgram evaluate running
        (next ((perform evaluate running request).outcome store).1)).outcome
          ((perform evaluate running request).after store) := by
  rw [runProgram, outcome_bind_ok (outcome_settle _ _)]
  rfl

theorem run_bind (evaluate : Evaluator) (running : Config) (program : Program α)
    (next : α → Program β) (store : Store) :
    (runProgram evaluate running (program >>= next)).outcome store =
      (runProgram evaluate running program >>= fun value =>
        runProgram evaluate running (next value)).outcome store := by
  change (runProgram evaluate running (program.bind next)).outcome store = _
  induction program generalizing store with
  | done result =>
      cases result with
      | ok value => rfl
      | error failure => rfl
  | call request after ih =>
      rw [Program.bind, run_call, ih]
      rcases ran : (runProgram evaluate running
        (after ((perform evaluate running request).outcome store).1)).outcome
          ((perform evaluate running request).after store) with ⟨result, final⟩
      have called := (run_call evaluate running request after store).trans ran
      cases result with
      | ok value => rw [outcome_bind_ok ran, outcome_bind_ok called]
      | error failure => rw [outcome_bind_error ran, outcome_bind_error called]

theorem run_ask (evaluate : Evaluator) (running : Config) (request : Call)
    (store : Store) :
    (runProgram evaluate running (Program.ask request)).outcome store =
      (perform evaluate running request).outcome store := by
  rw [Program.ask, run_call, run_done]
  rfl

section Attribute

variable {evaluate : Evaluator} {object : ObjectId} {name : String} {rule : Rule}

theorem composite_uncached (evaluate : Evaluator) (config : Config) (object : ObjectId)
    (name : String) (rule : Rule) :
    composite evaluate config object name rule none =
      runProgram evaluate config (rule object) := rfl

theorem composite_kept {cell : Memo ObjectId} {kept : ObjectId}
    (filled : cell.content = some kept) :
    composite evaluate config object name rule (some cell) = pure kept := by
  simp [composite, filled]

theorem composite_computed {cell : Memo ObjectId} (empty : cell.content = none) :
    composite evaluate config object name rule (some cell) =
      (runProgram evaluate config (rule object) >>= publish object name) := by
  simp [composite, empty]

theorem attribute_bound {cell : Memo ObjectId} {value : ObjectId}
    (slot : store.slot? object name = some (.free cell))
    (bound : cell.content = some value) :
    (attributeBy evaluate config object name).outcome store = (.ok value, store) := by
  unfold attributeBy
  rw [outcome_bind_ok (outcome_read _ _), slot]
  simp only [bound, outcome_pure]

theorem attribute_unbound {cell : Memo ObjectId}
    (slot : store.slot? object name = some (.free cell)) (empty : cell.content = none) :
    (attributeBy evaluate config object name).outcome store =
      (.error (.unbound (store.label object) name), store) := by
  unfold attributeBy
  rw [outcome_bind_ok (outcome_read _ _), slot]
  simp only [empty, outcome_refuse]

theorem attribute_variadic {items : List ObjectId} {isSealed : Bool}
    (slot : store.slot? object name = some (.variadic items isSealed)) :
    (attributeBy evaluate config object name).outcome store =
      (.error (.undataizable (store.label object ++ "." ++ name)), store) := by
  unfold attributeBy
  rw [outcome_bind_ok (outcome_read _ _), slot]
  rfl

theorem attribute_unknown (slot : store.slot? object name = none) :
    (attributeBy evaluate config object name).outcome store =
      (.error (.unknownAttribute (store.label object) name), store) := by
  unfold attributeBy
  rw [outcome_bind_ok (outcome_read _ _), slot]
  rfl

theorem attribute_composite {cache : Option (Memo ObjectId)}
    (slot : store.slot? object name = some (.composite rule cache)) :
    (attributeBy evaluate config object name).outcome store =
      (guarded config ⟨object, name⟩
        (composite evaluate config object name rule cache)).outcome store := by
  unfold attributeBy
  rw [outcome_bind_ok (outcome_read _ _), slot]

end Attribute

end Evaluation

end ObjectCalculus
