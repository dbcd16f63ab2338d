import ObjectCalculus.Proofs.Writing

/-!
# What every evaluation keeps

A relation between the store before and the store after is kept by every
evaluation, whatever the rules are, as soon as it is kept by every write and by
the bracket around a composite evaluation. The
induction over levels, chains and programs is done here once.
-/

set_option autoImplicit false

namespace ObjectCalculus

/-- What has to be shown of a relation once. The last two fields are the bracket
around a composite evaluation, which ends with or without a result to publish. -/
structure Invariance (kept : Store → Store → Prop) : Prop where
  refl (store : Store) : kept store store
  trans {first second third : Store} :
    kept first second → kept second third → kept first third
  written {before after : Store} : Write .all before after → kept before after
  left {marker : Marker} {store inner : Store} :
    marker ∉ store.activity.markers → kept (store.mark marker) inner →
      kept store (inner.unmark marker)
  published {marker : Marker} {store inner : Store} (result : ObjectId) :
    marker ∉ store.activity.markers → kept (store.mark marker) inner →
      kept store (((Evaluation.publish marker.object marker.attr result).after
        inner).unmark marker)

namespace Invariance

open Effect Evaluation

variable {α β : Type} {kept : Store → Store → Prop}

/-- The relation holds between every store and the one the effect leaves. -/
def Keeps (kept : Store → Store → Prop) (effect : Effect α) : Prop :=
  ∀ store, kept store (effect.after store)

variable (invariance : Invariance kept)

include invariance

theorem writes {before after : Store} (writes : Writes .all before after) :
    kept before after := by
  induction writes with
  | refl => exact invariance.refl before
  | tail _ write ih => exact invariance.trans ih (invariance.written write)

theorem recorded (store : Store) (event : Event) : kept store (store.record event) :=
  invariance.written (.recorded event)

theorem keeps_bind {effect : Effect α} {next : α → Effect β}
    (first : Keeps kept effect) (rest : ∀ value, Keeps kept (next value)) :
    Keeps kept (effect >>= next) := by
  intro store
  apply outcome_bind_cases (fun outcome => kept store outcome.2)
  · intro value middle outcome
    have start := first store
    rw [after, outcome] at start
    exact invariance.trans start (rest value middle)
  · intro failure middle outcome
    have start := first store
    rwa [after, outcome] at start

theorem keeps_stepped (config : Config) (object : ObjectId) (name : String)
    (store : Store) : kept store (stepped config object name store) := by
  unfold stepped
  split
  · exact invariance.recorded _ _
  · exact invariance.refl store

section Evaluate

variable {evaluate : Evaluator}
  (below : ∀ config object name, Keeps kept (evaluate config object name))

include below

theorem keeps_follow (config : Config) (moves : Nat) (visited : List ObjectId)
    (object : ObjectId) : Keeps kept (follow evaluate config moves visited object) := by
  induction moves generalizing visited object with
  | zero =>
      intro store
      rcases taken : store.takeLeaf object with ⟨result, final⟩
      cases result with
      | some result =>
          have leaf := invariance.writes (take_leaf_writes .all store object)
          rw [taken] at leaf
          rw [after, follow_leaf taken]
          exact leaf
      | none =>
          have composed := (take_leaf_none store object).mp (by rw [taken])
          by_cases seen : object ∈ visited
          · rw [after, follow_revisited composed seen]
            exact invariance.recorded _ _
          · rw [after, follow_exhausted composed seen]
            exact invariance.recorded _ _
  | succ moves ih =>
      intro store
      rcases taken : store.takeLeaf object with ⟨result, final⟩
      cases result with
      | some result =>
          have leaf := invariance.writes (take_leaf_writes .all store object)
          rw [taken] at leaf
          rw [after, follow_leaf taken]
          exact leaf
      | none =>
          have composed := (take_leaf_none store object).mp (by rw [taken])
          by_cases seen : object ∈ visited
          · rw [after, follow_revisited composed seen]
            exact invariance.recorded _ _
          · cases way : nextAttribute store object with
            | error failure =>
                rw [after, follow_nowhere composed seen way]
                exact invariance.refl store
            | ok name =>
                rw [after, follow_step composed seen way]
                have step := invariance.keeps_stepped config object name store
                exact invariance.trans step (invariance.keeps_bind
                  (below config object name) (fun next => ih (object :: visited) next) _)

theorem keeps_resolve_by (config : Config) (object : ObjectId) :
    Keeps kept (resolveBy evaluate config object) :=
  invariance.keeps_follow below config config.limit [] object

theorem keeps_perform (running : Config) (request : Call) :
    Keeps kept (perform evaluate running request) := by
  cases evaluates : request.evaluates with
  | false =>
      intro store
      exact invariance.writes
        (perform_writes evaluate running (call_within_all store request) evaluates)
  | true =>
      cases request with
      | attributeOf scope object name => exact below (scope.config running) object name
      | resolve scope object =>
          exact invariance.keeps_resolve_by below (scope.config running) object
      | _ => exact absurd evaluates (by simp [Call.evaluates])

theorem keeps_run (running : Config) (program : Program α) :
    Keeps kept (runProgram evaluate running program) := by
  induction program with
  | done result =>
      intro store
      rw [after, run_done]
      exact invariance.refl store
  | call request next ih =>
      intro store
      rw [after, run_call]
      exact invariance.trans (invariance.keeps_perform below running request store)
        (ih _ _)

theorem keeps_composite
    (publishes : ∀ object name result, Keeps kept (publish object name result))
    (config : Config) (object : ObjectId) (name : String) (rule : Rule)
    (cache : Option (Memo ObjectId)) :
    Keeps kept (composite evaluate config object name rule cache) := by
  have ran := invariance.keeps_run below config (rule object)
  cases cache with
  | none => exact ran
  | some cell =>
      cases content : cell.content with
      | some result =>
          rw [composite_kept content]
          exact fun store => invariance.refl store
      | none =>
          rw [composite_computed content]
          exact invariance.keeps_bind ran (publishes object name)

theorem keeps_guarded (config : Config) (object : ObjectId) (name : String) (rule : Rule)
    (cache : Option (Memo ObjectId)) :
    Keeps kept (guarded config ⟨object, name⟩
      (composite evaluate config object name rule cache)) := by
  intro store
  by_cases active : ⟨object, name⟩ ∈ store.activity.markers
  · rw [after, guarded_cyclic active]
    exact invariance.recorded _ _
  by_cases deep : config.limit ≤ store.activity.depth
  · rw [after, guarded_deep active deep]
    exact invariance.recorded _ _
  rw [after, guarded_entered active (Nat.lt_of_not_le deep)]
  have ran := invariance.keeps_run below config (rule object)
    (store.mark ⟨object, name⟩)
  cases cache with
  | none =>
      rw [composite_uncached]
      exact invariance.left active ran
  | some cell =>
      cases content : cell.content with
      | some result =>
          rw [composite_kept content]
          exact invariance.left active (invariance.refl _)
      | none =>
          rw [composite_computed content, after]
          apply outcome_bind_cases
            (fun outcome => kept store (outcome.2.unmark ⟨object, name⟩))
          · intro result inner outcome
            rw [after, outcome] at ran
            have closed := invariance.published result active ran
            exact closed
          · intro failure inner outcome
            rw [after, outcome] at ran
            exact invariance.left active ran

theorem keeps_attribute_by (config : Config) (object : ObjectId) (name : String) :
    Keeps kept (attributeBy evaluate config object name) := by
  intro store
  cases slot : store.slot? object name with
  | none =>
      rw [after, attribute_unknown slot]
      exact invariance.refl store
  | some found =>
      cases found with
      | free cell =>
          cases content : cell.content with
          | some value =>
              rw [after, attribute_bound slot content]
              exact invariance.refl store
          | none =>
              rw [after, attribute_unbound slot content]
              exact invariance.refl store
      | variadic items isSealed =>
          rw [after, attribute_variadic slot]
          exact invariance.refl store
      | composite rule cache =>
          rw [after, attribute_composite slot]
          exact invariance.keeps_guarded below config object name rule cache store

end Evaluate

theorem keeps_attribute_within (levels : Nat) (config : Config) (object : ObjectId)
    (name : String) : Keeps kept (attributeWithin levels config object name) := by
  induction levels generalizing config object name with
  | zero => exact fun store => invariance.recorded _ _
  | succ levels ih => exact invariance.keeps_attribute_by ih config object name

theorem keeps_attribute_of (config : Config) (object : ObjectId) (name : String) :
    Keeps kept (attributeOf config object name) :=
  invariance.keeps_attribute_within Config.levels config object name

theorem keeps_resolve (config : Config) (object : ObjectId) :
    Keeps kept (resolve config object) :=
  invariance.keeps_resolve_by invariance.keeps_attribute_of config object

theorem keeps_program (config : Config) (program : Program α) :
    Keeps kept (run config program) :=
  invariance.keeps_run invariance.keeps_attribute_of config program

end Invariance

end ObjectCalculus
