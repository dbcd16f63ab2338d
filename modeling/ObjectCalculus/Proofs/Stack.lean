import ObjectCalculus.Proofs.Growth

/-!
# The evaluation stack

The composite evaluations that have been entered and not yet left form a stack.
A task is followed here moment by moment, with the stack kept beside the store and
changed only where the body of a composite attribute is entered and left; the
markers in the store are never asked. At every moment they turn out to be exactly
that stack, with nothing on it twice and the depth its height, and when the task
is done the activity is what it was before. So a demand for an attribute that is
under evaluation is refused, whichever evaluation it comes from.
-/

set_option autoImplicit false

namespace ObjectCalculus

open Effect Evaluation

inductive Task where
  | attributeOf (config : Config) (object : ObjectId) (name : String)
  | chain (config : Config) (moves : Nat) (visited : List ObjectId) (object : ObjectId)
  | dataize (config : Config) (object : ObjectId) (expected : Kind)
  | program {α : Type} (running : Config) (program : Program α)

namespace Task

def resolve (config : Config) (object : ObjectId) : Task :=
  .chain config config.limit [] object

def dataizeAs (α : Type) [Carrier α] (config : Config) (object : ObjectId) : Task :=
  .program config (Program.dataizeAs α object)

def after : Task → Store → Store
  | .attributeOf config object name => (Evaluation.attributeOf config object name).after
  | .chain config moves visited object =>
      (follow Evaluation.attributeOf config moves visited object).after
  | .dataize config object expected => (Evaluation.dataize config object expected).after
  | .program running body => (runProgram Evaluation.attributeOf running body).after

end Task

/-- The task, begun with a stack and a store, comes through a moment with another
stack, innermost first, and another store. -/
inductive Passes :
    Task → List Marker → Store → List Marker → Store → Prop
  | start (task : Task) (stack : List Marker) (store : Store) :
      Passes task stack store stack store
  | finish (task : Task) (stack : List Marker) (store : Store) :
      Passes task stack store stack (task.after store)
  | computing {config : Config} {object : ObjectId} {name : String} {rule : Rule}
      {cache : Option (Memo ObjectId)} {stack inner : List Marker} {store current : Store}
      (slot : store.slot? object name = some (.composite rule cache))
      (idle : ⟨object, name⟩ ∉ store.activity.markers)
      (room : store.activity.depth < config.limit)
      (uncomputed : ∀ cell, cache = some cell → cell.content = none)
      (inside : Passes (.program config (rule object)) (⟨object, name⟩ :: stack)
        (store.mark ⟨object, name⟩) inner current) :
      Passes (.attributeOf config object name) stack store inner current
  | leaving {config : Config} {object : ObjectId} {name : String} {rule : Rule}
      {cache : Option (Memo ObjectId)} {stack : List Marker} {store : Store}
      (slot : store.slot? object name = some (.composite rule cache))
      (idle : ⟨object, name⟩ ∉ store.activity.markers)
      (room : store.activity.depth < config.limit) :
      Passes (.attributeOf config object name) stack store (⟨object, name⟩ :: stack)
        ((composite attributeOf config object name rule cache).after
          (store.mark ⟨object, name⟩))
  | step {config : Config} {moves : Nat} {visited : List ObjectId} {object : ObjectId}
      {name : String} {stack inner : List Marker} {store current : Store}
      (composed : store.leaf? object = none) (fresh : object ∉ visited)
      (way : nextAttribute store object = .ok name)
      (inside : Passes (.attributeOf config object name) stack
        (stepped config object name store) inner current) :
      Passes (.chain config (moves + 1) visited object) stack store inner current
  | move {config : Config} {moves : Nat} {visited : List ObjectId}
      {object next : ObjectId} {name : String} {stack inner : List Marker}
      {store middle current : Store}
      (composed : store.leaf? object = none) (fresh : object ∉ visited)
      (way : nextAttribute store object = .ok name)
      (moved : (attributeOf config object name).outcome (stepped config object name store) =
        (.ok next, middle))
      (rest : Passes (.chain config moves (object :: visited) next) stack middle inner
        current) :
      Passes (.chain config (moves + 1) visited object) stack store inner current
  | dataizing {config : Config} {object : ObjectId} {expected : Kind}
      {stack inner : List Marker} {store current : Store}
      (inside : Passes (.resolve config object) stack store inner current) :
      Passes (.dataize config object expected) stack store inner current
  | demanding {α : Type} {running : Config} {scope : Scope} {object : ObjectId}
      {name : String} {next : Except DataError ObjectId → Program α}
      {stack inner : List Marker} {store current : Store}
      (inside : Passes (.attributeOf (scope.config running) object name) stack store inner
        current) :
      Passes (.program running (.call (.attributeOf scope object name) next)) stack store
        inner current
  | resolving {α : Type} {running : Config} {scope : Scope} {object : ObjectId}
      {next : Except DataError Value → Program α} {stack inner : List Marker}
      {store current : Store}
      (inside : Passes (.resolve (scope.config running) object) stack store inner current) :
      Passes (.program running (.call (.resolve scope object) next)) stack store inner
        current
  | answered {α : Type} {running : Config} {request : Call}
      {next : Except DataError request.Answer → Program α} {stack inner : List Marker}
      {store current : Store}
      (rest : Passes (.program running
          (next ((perform attributeOf running request).outcome store).1)) stack
        ((perform attributeOf running request).after store) inner current) :
      Passes (.program running (.call request next)) stack store inner current

/-- The store's activity is that of the stack. -/
structure Mirrors (stack : List Marker) (store : Store) : Prop where
  markers : store.activity.markers = stack
  depth : store.activity.depth = stack.length
  once : stack.Nodup
  composite {marker : Marker} : marker ∈ stack →
    ∃ rule cache, store.slot? marker.object marker.attr = some (.composite rule cache)

theorem mirrors_empty {store : Store} (idle : store.activity = .idle) :
    Mirrors [] store where
  markers := by rw [idle]; rfl
  depth := by rw [idle]; rfl
  once := List.nodup_nil
  composite member := absurd member List.not_mem_nil

theorem dataize_after (config : Config) (object : ObjectId) (expected : Kind)
    (store : Store) :
    (Evaluation.dataize config object expected).after store =
      (Evaluation.resolve config object).after store := by
  unfold Evaluation.dataize
  rcases resolved : (Evaluation.resolve config object).outcome store with ⟨result, after⟩
  cases result with
  | error failure =>
      rw [Effect.after, outcome_bind_error resolved, Effect.after, resolved]
  | ok value =>
      rw [Effect.after, outcome_bind_ok resolved, Effect.after, resolved]
      split <;> rfl

theorem task_keeps {kept : Store → Store → Prop} (invariance : Invariance kept) (task : Task)
    (store : Store) : kept store (task.after store) := by
  cases task with
  | attributeOf config object name => exact invariance.keeps_attribute_of config object name store
  | chain config moves visited object =>
      exact invariance.keeps_follow invariance.keeps_attribute_of config moves visited object
        store
  | dataize config object expected =>
      rw [Task.after, dataize_after]
      exact invariance.keeps_resolve config object store
  | program running program =>
      exact invariance.keeps_run invariance.keeps_attribute_of running program store

section Mirrors

variable {stack : List Marker} {store current : Store} {marker : Marker}

theorem mirrors_kept (mirrors : Mirrors stack store)
    (same : current.activity = store.activity) (grows : store.Grows current) :
    Mirrors stack current where
  markers := by rw [same, mirrors.markers]
  depth := by rw [same, mirrors.depth]
  once := mirrors.once
  composite member := by
    obtain ⟨rule, cache, slot⟩ := mirrors.composite member
    obtain ⟨grown, found⟩ := grows_composite grows slot
    exact ⟨rule, grown, found⟩

theorem mirrors_mark {rule : Rule} {cache : Option (Memo ObjectId)}
    (mirrors : Mirrors stack store) (idle : marker ∉ store.activity.markers)
    (slot : store.slot? marker.object marker.attr = some (.composite rule cache)) :
    Mirrors (marker :: stack) (store.mark marker) where
  markers := congrArg (List.cons marker) mirrors.markers
  depth := congrArg Nat.succ mirrors.depth
  once := by
    rw [mirrors.markers] at idle
    exact List.nodup_cons.mpr ⟨idle, mirrors.once⟩
  composite {other} member := by
    rcases List.mem_cons.mp member with rfl | below
    · exact ⟨rule, cache, slot⟩
    · exact mirrors.composite below

theorem mirrors_task (mirrors : Mirrors stack store) (task : Task) :
    Mirrors stack (task.after store) :=
  mirrors_kept mirrors (task_keeps activity_invariance task store)
    (task_keeps growth_invariance task store)

theorem mirrors_passes {task : Task} {inner : List Marker}
    (passes : Passes task stack store inner current) (mirrors : Mirrors stack store) :
    Mirrors inner current := by
  induction passes with
  | start => exact mirrors
  | finish task => exact mirrors_task mirrors task
  | computing slot idle room uncomputed inside ih => exact ih (mirrors_mark mirrors idle slot)
  | @leaving config object name rule cache stack store slot idle room =>
      have marked := mirrors_mark mirrors idle slot
      apply mirrors_kept marked
      · exact activity_invariance.keeps_composite attribute_of_restores
          (fun object name result store => activity_publish object name result store)
          config object name rule cache _
      · exact growth_invariance.keeps_composite growth_invariance.keeps_attribute_of
          publish_grows config object name rule cache _
  | step composed fresh way inside ih =>
      apply ih
      exact mirrors_kept mirrors (activity_invariance.keeps_stepped _ _ _ _)
        (growth_invariance.keeps_stepped _ _ _ _)
  | @move config moves visited object next name stack inner store middle current composed
      fresh way moved rest ih =>
      have stepped := mirrors_kept mirrors
        (activity_invariance.keeps_stepped config object name store)
        (growth_invariance.keeps_stepped config object name store)
      have demanded := mirrors_task stepped (.attributeOf config object name)
      have arrived : (Task.attributeOf config object name).after
          (Evaluation.stepped config object name store) = middle := congrArg Prod.snd moved
      rw [arrived] at demanded
      exact ih demanded
  | dataizing inside ih => exact ih mirrors
  | demanding inside ih => exact ih mirrors
  | resolving inside ih => exact ih mirrors
  | @answered α running request next stack inner store current rest ih =>
      apply ih
      exact mirrors_kept mirrors
        (activity_invariance.keeps_perform attribute_of_restores running request store)
        (growth_invariance.keeps_perform growth_invariance.keeps_attribute_of running request
          store)

/-- Nothing but the report of the refusal happens, so no rule is run. -/
theorem active_refused (mirrors : Mirrors stack store) (active : marker ∈ stack)
    (config : Config) :
    (attributeOf config marker.object marker.attr).outcome store =
      (.error (.cyclicEvaluation (store.label marker.object) marker.attr),
        store.record (.cyclicEvaluation (store.label marker.object) marker.attr)) := by
  obtain ⟨rule, cache, slot⟩ := mirrors.composite active
  rw [attribute_of_unfold, attribute_composite slot]
  apply guarded_cyclic
  rw [mirrors.markers]
  exact active

end Mirrors

/-- Every task gives back the activity it found, whatever it ends with. If that
activity is the stack's, then at every moment on the way the store's activity is
that of the stack at the moment, there is a level to leave whenever something is on
that stack, and every attribute on it is refused to whoever demands it. -/
theorem activity_mirrors_stack (task : Task) (store : Store) :
    (task.after store).activity = store.activity ∧
      ∀ stack, Mirrors stack store → ∀ inner current,
        Passes task stack store inner current →
          Mirrors inner current ∧ (inner ≠ [] → 0 < current.activity.depth) ∧
            ∀ marker ∈ inner, ∀ config,
              (attributeOf config marker.object marker.attr).outcome current =
                (.error (.cyclicEvaluation (current.label marker.object) marker.attr),
                  current.record
                    (.cyclicEvaluation (current.label marker.object) marker.attr)) := by
  refine ⟨task_keeps activity_invariance task store, ?_⟩
  intro stack mirrors inner current passes
  have now := mirrors_passes passes mirrors
  refine ⟨now, ?_, fun marker active config => active_refused now active config⟩
  intro occupied
  rw [now.depth]
  exact List.length_pos_iff.mpr occupied

def Template.reentrantRule : Rule := fun owner => do
  let value ← Program.resolveFresh .default owner
  Program.leaf value

def Template.reentrant : Template :=
  (Template.new "reentrant").composite valueAttribute reentrantRule

/-- The rule starts a dataization of its own, under limits of its own, and finds
its attribute still on the stack. -/
theorem reentrant_refused :
    let owner : ObjectId := ⟨0⟩
    let marker : Marker := ⟨owner, valueAttribute⟩
    let store := (Store.empty.instantiate ⟨.declared 0, .reentrant⟩).2
    Mirrors [] store ∧
      Passes (.resolve .default owner) [] store [marker] (store.mark marker) ∧
      Mirrors [marker] (store.mark marker) ∧
      (attributeOf .default owner valueAttribute).outcome (store.mark marker) =
        (.error (.cyclicEvaluation "reentrant#1" "φ"),
          (store.mark marker).record (.cyclicEvaluation "reentrant#1" "φ")) := by
  intro owner marker store
  have idle : Mirrors [] store := mirrors_empty rfl
  have passes : Passes (.resolve .default owner) [] store [marker] (store.mark marker) := by
    have way : nextAttribute store owner = .ok valueAttribute := rfl
    have slot : store.slot? owner valueAttribute =
        some (.composite Template.reentrantRule none) := rfl
    refine .step rfl List.not_mem_nil way ?_
    refine .computing slot List.not_mem_nil (by decide) ?_ (.start _ _ _)
    intro cell given
    cases given
  have label : (store.mark marker).label owner = "reentrant#1" := by decide
  have now := (activity_mirrors_stack (.resolve .default owner) store).2 [] idle _ _ passes
  have refused := now.2.2 marker (List.mem_singleton.mpr rfl) .default
  rw [label] at refused
  exact ⟨idle, passes, now.1, refused⟩

end ObjectCalculus
