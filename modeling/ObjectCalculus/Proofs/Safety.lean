import ObjectCalculus.Proofs.Closure
import ObjectCalculus.Proofs.Stack

/-!
# Honest evaluations

What an honest program does to a closed store leaves a closed store, and hands over objects that
are there. The rules that a closed store keeps are honest, so this goes for every evaluation,
and for every moment that an honest task passes.
-/

set_option autoImplicit false

namespace ObjectCalculus

open Effect Evaluation

variable {α β : Type}

/-- A computation that began in the store has ended so that nothing refers to an object that does
not exist, its result included. -/
structure Safe (hands : α → List ObjectId) (before : Store)
    (outcome : Except DataError α × Store) : Prop where
  grows : before.Grows outcome.2
  closed : outcome.2.Closed
  handed {value : α} : outcome.1 = .ok value → ∀ object ∈ hands value, outcome.2.Contains object

section Outcomes

variable {hands : α → List ObjectId} {more : β → List ObjectId} {store before after : Store}
  {effect : Effect α} {outcome : Except DataError α × Store}

theorem safe_failure {failure : DataError} (grows : before.Grows after) (closed : after.Closed) :
    Safe hands before (.error failure, after) :=
  ⟨grows, closed, nofun⟩

theorem safe_value {value : α} (grows : before.Grows after) (closed : after.Closed)
    (known : ∀ object ∈ hands value, after.Contains object) :
    Safe hands before (.ok value, after) where
  grows := grows
  closed := closed
  handed same := by
    cases same
    exact known

theorem safe_plain {outcome : Except DataError α × Store} (grows : before.Grows outcome.2)
    (closed : outcome.2.Closed) : Safe (fun _ => []) before outcome :=
  ⟨grows, closed, fun _ => nofun⟩

theorem safe_later {middle : Store} (grows : before.Grows middle)
    (safe : Safe hands middle outcome) : Safe hands before outcome :=
  ⟨store_grows_trans grows safe.grows, safe.closed, safe.handed⟩

theorem safe_bind {next : α → Effect β} (first : Safe hands store (effect.outcome store))
    (rest : ∀ value middle, store.Grows middle → middle.Closed →
      (∀ object ∈ hands value, middle.Contains object) →
        Safe more middle ((next value).outcome middle)) :
    Safe more store ((effect >>= next).outcome store) := by
  apply outcome_bind_cases (Safe more store)
  · intro value middle outcome
    rw [outcome] at first
    obtain ⟨grows, closed, handed⟩ := first
    exact safe_later grows (rest value middle grows closed (handed rfl))
  · intro failure middle outcome
    rw [outcome] at first
    exact safe_failure first.grows first.closed

theorem closed_record (closed : store.Closed) (event : Event) : (store.record event).Closed :=
  closed_same closed rfl rfl

theorem closed_stepped (closed : store.Closed) (config : Config) (object : ObjectId)
    (name : String) : (stepped config object name store).Closed := by
  unfold stepped
  split
  · exact closed_record closed _
  · exact closed

end Outcomes

/-- The evaluator hands over what is there. -/
def Evaluator.Safe (evaluate : Evaluator) : Prop :=
  ∀ config object name (store : Store), store.Closed →
    ObjectCalculus.Safe (fun made => [made]) store ((evaluate config object name).outcome store)

section Evaluators

variable {evaluate : Evaluator} {store : Store} {object : ObjectId} {name : String}
  {result : α → List ObjectId}

/-- What a leaf gives, or a refusal, is safe; so it is a matter of how the chain goes on. -/
theorem safe_arrive {moveOn : Effect Value} (closed : store.Closed) (visited : List ObjectId)
    (onward : Safe (fun _ => []) store (moveOn.outcome store)) :
    Safe (fun _ => []) store ((arrive visited object moveOn).outcome store) := by
  rcases taken : store.takeLeaf object with ⟨_ | result, final⟩
  · have composed := (take_leaf_none store object).mp (by rw [taken])
    by_cases seen : object ∈ visited
    · rw [arrive_revisited composed seen]
      exact safe_failure (store_grows_same rfl) (closed_record closed _)
    · rw [arrive_fresh composed seen]
      exact onward
  · have grows := growth_invariance.writes (take_leaf_writes .all store object)
    have after := closed_writes closed (take_leaf_writes store.inHand store object)
    rw [taken] at grows after
    rw [arrive_leaf taken]
    exact safe_plain grows after

theorem safe_follow (below : evaluate.Safe) (config : Config) (moves : Nat)
    (visited : List ObjectId) (object : ObjectId) (closed : store.Closed) :
    Safe (fun _ => []) store ((follow evaluate config moves visited object).outcome store) := by
  induction moves generalizing visited object store with
  | zero =>
      apply safe_arrive closed visited
      exact safe_failure (store_grows_same rfl) (closed_record closed _)
  | succ moves ih =>
      apply safe_arrive closed visited
      rw [outcome_bind_ok (outcome_read _ _)]
      cases way : nextAttribute store object with
      | error failure =>
          rw [outcome_bind_error (outcome_of_result _ _)]
          exact safe_failure (store_grows_refl store) closed
      | ok name =>
          rw [outcome_bind_ok (outcome_of_result _ _),
            outcome_bind_ok (record_step_outcome config object name store)]
          apply safe_later (growth_invariance.keeps_stepped config object name store)
          apply safe_bind (below config object name _ (closed_stepped closed _ _ _))
          intro next middle _ closed _
          exact ih (object :: visited) next closed

theorem safe_resolve_by (below : evaluate.Safe) (config : Config) (object : ObjectId)
    (closed : store.Closed) :
    Safe (fun _ => []) store ((resolveBy evaluate config object).outcome store) :=
  safe_follow below config config.limit [] object closed

theorem safe_perform (below : evaluate.Safe) (running : Config) {request : Call}
    (closed : store.Closed) (uses : ∀ object ∈ request.uses, store.Contains object) :
    Safe request.hands store ((perform evaluate running request).outcome store) := by
  cases evaluates : request.evaluates with
  | false =>
      have within := call_in_hand closed uses
      constructor
      · exact growth_invariance.writes
          (perform_writes evaluate running (call_within_all store request) evaluates)
      · exact closed_writes closed (perform_writes evaluate running within evaluates)
      · exact contains_handed evaluate running closed uses evaluates
  | true =>
      cases request with
      | attributeOf scope object name => exact below (scope.config running) object name store closed
      | resolve scope object =>
          exact safe_resolve_by below (scope.config running) object closed
      | _ => cases evaluates

theorem honest_after {request : Call} {next : Except DataError request.Answer → Program α}
    (honest : (Program.call request next).Honest result store.Contains)
    {outcome : Except DataError request.Answer × Store}
    (called : Safe request.hands store outcome) :
    (next outcome.1).Honest result outcome.2.Contains := by
  obtain ⟨_, failed, answered⟩ := honest
  obtain ⟨answer, after⟩ := outcome
  obtain ⟨grows, _, handed⟩ := called
  cases answer with
  | error failure => exact honest_more (failed failure) fun _ there => contains_grows there grows
  | ok answer =>
      apply honest_more (answered answer)
      intro object known
      rcases known with there | new
      · exact contains_grows there grows
      · exact handed rfl object new

theorem safe_run (below : evaluate.Safe) (running : Config) {program : Program α}
    (honest : program.Honest result store.Contains) (closed : store.Closed) :
    Safe result store ((runProgram evaluate running program).outcome store) := by
  -- What is in hand is taken to be all that is there, so it grows with the store.
  induction program generalizing store with
  | done ending =>
      rw [run_done]
      cases ending with
      | error failure => exact safe_failure (store_grows_refl store) closed
      | ok value => exact safe_value (store_grows_refl store) closed honest
  | call request next ih =>
      have called := safe_perform below running closed honest.1
      rw [run_call]
      exact safe_later called.grows (ih _ (honest_after honest called) called.closed)

theorem within_offered {held : ObjectId → Prop} {rule : Rule} {cell : Memo ObjectId}
    {made : ObjectId} (within : (Slot.composite rule (some cell)).Within held)
    (there : held made) :
    held (cell.getOrSet made).1 ∧
      (Slot.composite rule (some (cell.getOrSet made).2)).Within held := by
  obtain ⟨targets, honest⟩ := within
  have kept : Rule.Honest held rule := honest rfl
  unfold Memo.getOrSet
  cases content : cell.content with
  | none =>
      refine ⟨there, List.forall_mem_singleton.mpr there, fun same => ?_⟩
      cases same
      exact kept
  | some winner =>
      refine ⟨targets winner ?_, targets, honest⟩
      simp [Slot.targets, content]

theorem safe_publish {made : ObjectId} (object : ObjectId) (name : String) (closed : store.Closed)
    (there : store.Contains made) :
    Safe (fun made => [made]) store ((publish object name made).outcome store) := by
  have grows := publish_grows object name made store
  unfold publish Effect.after at grows
  unfold publish
  rw [outcome_update] at grows ⊢
  cases slot : store.slot? object name with
  | none => exact safe_value (store_grows_refl store) closed (List.forall_mem_singleton.mpr there)
  | some found =>
      rw [slot] at grows
      have refused : Safe (fun made => [made]) store (.ok made, store) :=
        safe_value (store_grows_refl store) closed (List.forall_mem_singleton.mpr there)
      cases found with
      | free | variadic => exact refused
      | composite rule cache =>
          cases cache with
          | none => exact refused
          | some cell =>
              obtain ⟨won, within⟩ := within_offered (slot_within closed slot) there
              apply safe_value grows (closed_set_slot closed within)
              exact List.forall_mem_singleton.mpr (contains_set_slot.mpr won)

theorem honest_of_slot {rule : Rule} {cache : Option (Memo ObjectId)} (closed : store.Closed)
    (slot : store.slot? object name = some (.composite rule cache)) :
    (rule object).Honest (fun made => [made]) store.Contains := by
  obtain ⟨holder, composed, _⟩ := Store.instance_of_slot slot
  apply honest_more ((slot_within closed slot).rule rfl object)
  intro other known
  rcases known with rfl | known
  · exact Store.contains_of_object (Store.object_of_instance.mp composed)
  · exact known

theorem safe_composite (below : evaluate.Safe) (config : Config) {rule : Rule}
    {cache : Option (Memo ObjectId)} (closed : store.Closed)
    (slot : store.slot? object name = some (.composite rule cache)) :
    Safe (fun made => [made]) store
      ((composite evaluate config object name rule cache).outcome store) := by
  have ran := safe_run below config (honest_of_slot closed slot) closed
  cases cache with
  | none => exact ran
  | some cell =>
      cases content : cell.content with
      | some kept =>
          rw [composite_kept content]
          refine safe_value (store_grows_refl store) closed (List.forall_mem_singleton.mpr ?_)
          exact (slot_within closed slot).targets kept (by simp [Slot.targets, content])
      | none =>
          rw [composite_computed content]
          apply safe_bind ran
          intro made middle _ closed handed
          exact safe_publish object name closed (List.forall_mem_singleton.mp handed)

theorem safe_guarded {body : Effect ObjectId} (config : Config) (marker : Marker)
    (closed : store.Closed)
    (inside : Safe (fun made => [made]) (store.mark marker) (body.outcome (store.mark marker))) :
    Safe (fun made => [made]) store ((guarded config marker body).outcome store) := by
  by_cases active : marker ∈ store.activity.markers
  · rw [guarded_cyclic active]
    exact safe_failure (store_grows_same rfl) (closed_record closed _)
  by_cases deep : config.limit ≤ store.activity.depth
  · rw [guarded_deep active deep]
    exact safe_failure (store_grows_same rfl) (closed_record closed _)
  rw [guarded_entered active (Nat.lt_of_not_le deep)]
  obtain ⟨grows, after, handed⟩ := inside
  constructor
  · exact store_grows_trans (store_grows_trans (mark_grows store marker) grows)
      (unmark_grows _ marker)
  · exact closed_same after rfl rfl
  · exact handed

theorem safe_attribute_by (below : evaluate.Safe) : (attributeBy evaluate).Safe := by
  intro config object name store closed
  cases slot : store.slot? object name with
  | none =>
      rw [attribute_unknown slot]
      exact safe_failure (store_grows_refl store) closed
  | some found =>
      cases found with
      | free cell =>
          cases content : cell.content with
          | some value =>
              rw [attribute_bound slot content]
              refine safe_value (store_grows_refl store) closed (List.forall_mem_singleton.mpr ?_)
              exact (slot_within closed slot).targets value (by simp [Slot.targets, content])
          | none =>
              rw [attribute_unbound slot content]
              exact safe_failure (store_grows_refl store) closed
      | variadic items isSealed =>
          rw [attribute_variadic slot]
          exact safe_failure (store_grows_refl store) closed
      | composite rule cache =>
          rw [attribute_composite slot]
          apply safe_guarded config ⟨object, name⟩ closed
          exact safe_composite below config (closed_same closed rfl rfl) slot

end Evaluators

theorem safe_attribute_within (levels : Nat) : (attributeWithin levels).Safe := by
  induction levels with
  | zero =>
      intro config object name store closed
      exact safe_failure (store_grows_same rfl) (closed_record closed _)
  | succ levels ih => exact safe_attribute_by ih

theorem safe_attribute_of : attributeOf.Safe :=
  safe_attribute_within Config.levels

def Task.Honest (held : ObjectId → Prop) : Task → Prop
  | .program _ body => body.Honest (fun _ => []) held
  | _ => True

section Moments

variable {store current : Store} {task : Task} {stack inner : List Marker}

theorem task_closed (honest : task.Honest store.Contains) (closed : store.Closed) :
    (task.after store).Closed := by
  cases task with
  | attributeOf config object name =>
      exact (safe_attribute_of config object name store closed).closed
  | chain config moves visited object =>
      exact (safe_follow safe_attribute_of config moves visited object closed).closed
  | dataize config object expected =>
      rw [Task.after, dataize_after]
      exact (safe_resolve_by safe_attribute_of config object closed).closed
  | program running body => exact (safe_run safe_attribute_of running honest closed).closed

theorem passes_closed (passes : Passes task stack store inner current)
    (honest : task.Honest store.Contains) (closed : store.Closed) : current.Closed := by
  induction passes with
  | start => exact closed
  | finish => exact task_closed honest closed
  | @computing config object name rule cache stack inner store current slot idle room uncomputed
      inside ih =>
      have marked : (store.mark ⟨object, name⟩).Closed := closed_same closed rfl rfl
      exact ih (honest_quiet (honest_of_slot marked slot)) marked
  | @leaving config object name rule cache stack store slot idle room =>
      have marked : (store.mark ⟨object, name⟩).Closed := closed_same closed rfl rfl
      exact (safe_composite safe_attribute_of config marked slot).closed
  | step composed fresh way inside ih => exact ih trivial (closed_stepped closed _ _ _)
  | @move config moves visited object next name stack inner store middle current composed
      fresh way moved rest ih =>
      have demanded := safe_attribute_of config object name _
        (closed_stepped closed config object name)
      rw [moved] at demanded
      exact ih trivial demanded.closed
  | dataizing inside ih => exact ih trivial closed
  | demanding inside ih => exact ih trivial closed
  | resolving inside ih => exact ih trivial closed
  | @answered α running request next stack inner store current rest ih =>
      have called := safe_perform safe_attribute_of running closed honest.1
      exact ih (honest_after honest called) called.closed

end Moments

end ObjectCalculus
