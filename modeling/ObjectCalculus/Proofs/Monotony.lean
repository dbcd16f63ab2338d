import ObjectCalculus.Proofs.Meaning

/-!
# Monotony

Along everything that can be done with a store, from one operation to the next and at
every moment inside an evaluation, whatever its rules are and whatever it ends with, the
store grows. So no attribute ever changes what it holds more than once: it holds nothing
until it is bound or computed, and the same object from then on.
-/

set_option autoImplicit false

namespace ObjectCalculus

open Effect Evaluation

def Call.task? (running : Config) : Call → Option Task
  | .attributeOf scope object name => some (.attributeOf (scope.config running) object name)
  | .resolve scope object => some (.resolve (scope.config running) object)
  | _ => none

/-- The task, begun in a store, comes through these stores one after another. Any part of
it can be passed over in one step or followed from inside. -/
inductive Traces : Task → Store → List Store → Prop
  | done (task : Task) (store : Store) : Traces task store [store, task.after store]
  | entered {config : Config} {object : ObjectId} {name : String} {rule : Rule}
      {cache : Option (Memo ObjectId)} {store : Store}
      (slot : store.slot? object name = some (.composite rule cache))
      (idle : ⟨object, name⟩ ∉ store.activity.markers)
      (room : store.activity.depth < config.limit) :
      Traces (.attributeOf config object name) store
        [store, store.mark ⟨object, name⟩,
          (composite attributeOf config object name rule cache).after
            (store.mark ⟨object, name⟩),
          (Task.attributeOf config object name).after store]
  | computing {config : Config} {object : ObjectId} {name : String} {rule : Rule}
      {cache : Option (Memo ObjectId)} {store : Store} {moments : List Store}
      (slot : store.slot? object name = some (.composite rule cache))
      (idle : ⟨object, name⟩ ∉ store.activity.markers)
      (room : store.activity.depth < config.limit)
      (uncomputed : ∀ cell, cache = some cell → cell.content = none)
      (inside : Traces (.program config (rule object)) (store.mark ⟨object, name⟩) moments) :
      Traces (.attributeOf config object name) store
        (store :: moments ++
          [(composite attributeOf config object name rule cache).after
              (store.mark ⟨object, name⟩),
            (Task.attributeOf config object name).after store])
  | stopped {config : Config} {moves : Nat} {visited : List ObjectId} {object : ObjectId}
      {name : String} {failure : DataError} {store middle : Store} {moments : List Store}
      (composed : store.leaf? object = none) (fresh : object ∉ visited)
      (way : nextAttribute store object = .ok name)
      (failed : (attributeOf config object name).outcome (stepped config object name store) =
        (.error failure, middle))
      (inside : Traces (.attributeOf config object name) (stepped config object name store)
        moments) :
      Traces (.chain config (moves + 1) visited object) store (store :: moments)
  | moved {config : Config} {moves : Nat} {visited : List ObjectId} {object next : ObjectId}
      {name : String} {store middle : Store} {moments others : List Store}
      (composed : store.leaf? object = none) (fresh : object ∉ visited)
      (way : nextAttribute store object = .ok name)
      (found : (attributeOf config object name).outcome (stepped config object name store) =
        (.ok next, middle))
      (inside : Traces (.attributeOf config object name) (stepped config object name store)
        moments)
      (rest : Traces (.chain config moves (object :: visited) next) middle others) :
      Traces (.chain config (moves + 1) visited object) store (store :: moments ++ others)
  | dataizing {config : Config} {object : ObjectId} {expected : Kind} {store : Store}
      {moments : List Store} (inside : Traces (.resolve config object) store moments) :
      Traces (.dataize config object expected) store moments
  | asked {α : Type} {running : Config} {request : Call} {task : Task}
      {next : Except DataError request.Answer → Program α} {store : Store}
      {moments others : List Store} (starts : request.task? running = some task)
      (inside : Traces task store moments)
      (rest : Traces (.program running
          (next ((perform attributeOf running request).outcome store).1))
        ((perform attributeOf running request).after store) others) :
      Traces (.program running (.call request next)) store (moments ++ others)
  | answered {α : Type} {running : Config} {request : Call}
      {next : Except DataError request.Answer → Program α} {store : Store}
      {others : List Store}
      (rest : Traces (.program running
          (next ((perform attributeOf running request).outcome store).1))
        ((perform attributeOf running request).after store) others) :
      Traces (.program running (.call request next)) store (store :: others)

/-- Everything that is done with a store from outside is a task, a call or a rule being a
program, or shows what the store holds. -/
inductive Operation where
  | task (task : Task)
  | outline (object : ObjectId)

def Operation.after : Operation → Store → Store
  | .task begun, store => begun.after store
  | .outline object, store => (store.outline object).2

inductive History : List Operation → Store → List Store → Prop
  | nil (store : Store) : History [] store [store]
  | task {task : Task} {operations : List Operation} {store : Store}
      {moments others : List Store} (trace : Traces task store moments)
      (rest : History operations (task.after store) others) :
      History (.task task :: operations) store (moments ++ others)
  | outline {object : ObjectId} {operations : List Operation} {store : Store}
      {others : List Store}
      (rest : History operations (store.outline object).2 others) :
      History (.outline object :: operations) store (store :: others)

/-- The stores lie on the way from the first to the last, each grown from all before. -/
structure Climbs (first last : Store) (moments : List Store) : Prop where
  grows : first.Grows last
  ordered : moments.Pairwise Store.Grows
  above : ∀ moment ∈ moments, first.Grows moment
  below : ∀ moment ∈ moments, moment.Grows last

section Climbs

variable {first middle last store : Store} {moments others : List Store}

theorem climbs_nil (grows : first.Grows last) : Climbs first last [] where
  grows := grows
  ordered := .nil
  above _ member := absurd member List.not_mem_nil
  below _ member := absurd member List.not_mem_nil

theorem climbs_cons (start : first.Grows middle) (rest : Climbs middle last moments) :
    Climbs first last (first :: moments) where
  grows := store_grows_trans start rest.grows
  ordered := List.pairwise_cons.mpr
    ⟨fun moment member => store_grows_trans start (rest.above moment member), rest.ordered⟩
  above := List.forall_mem_cons.mpr ⟨store_grows_refl first,
    fun moment member => store_grows_trans start (rest.above moment member)⟩
  below := List.forall_mem_cons.mpr ⟨store_grows_trans start rest.grows, rest.below⟩

theorem climbs_append (start : Climbs first middle moments) (rest : Climbs middle last others) :
    Climbs first last (moments ++ others) where
  grows := store_grows_trans start.grows rest.grows
  ordered := List.pairwise_append.mpr ⟨start.ordered, rest.ordered,
    fun early inStart late inRest =>
      store_grows_trans (start.below early inStart) (rest.above late inRest)⟩
  above moment member := by
    rcases List.mem_append.mp member with early | late
    · exact start.above moment early
    · exact store_grows_trans start.grows (rest.above moment late)
  below moment member := by
    rcases List.mem_append.mp member with early | late
    · exact store_grows_trans (start.below moment early) rest.grows
    · exact rest.below moment late

theorem climbs_widen (start : first.Grows middle) (rest : Climbs middle last moments) :
    Climbs first last moments where
  grows := store_grows_trans start rest.grows
  ordered := rest.ordered
  above moment member := store_grows_trans start (rest.above moment member)
  below := rest.below

theorem climbs_single (store : Store) : Climbs store store [store] :=
  climbs_cons (store_grows_refl store) (climbs_nil (store_grows_refl store))

end Climbs

section Growth

variable {config : Config} {store : Store} {object : ObjectId} {name : String} {rule : Rule}
  {cache : Option (Memo ObjectId)}

theorem task_grows (task : Task) (store : Store) : store.Grows (task.after store) :=
  task_keeps growth_invariance task store

theorem stepped_grows (config : Config) (object : ObjectId) (name : String) (store : Store) :
    store.Grows (stepped config object name store) :=
  growth_invariance.keeps_stepped config object name store

theorem perform_grows (config : Config) (request : Call) (store : Store) :
    store.Grows ((perform attributeOf config request).after store) :=
  growth_invariance.keeps_perform growth_invariance.keeps_attribute_of config request store

theorem outline_grows (store : Store) (object : ObjectId) :
    store.Grows (store.outline object).2 := by
  unfold Store.outline
  split
  · exact store_grows_refl store
  · exact growth_invariance.writes (@display_writes .all store object)

theorem operation_grows (operation : Operation) (store : Store) :
    store.Grows (operation.after store) := by
  cases operation with
  | task task => exact task_grows task store
  | outline object => exact outline_grows store object

theorem body_grows (slot : store.slot? object name = some (.composite rule cache))
    (idle : ⟨object, name⟩ ∉ store.activity.markers)
    (room : store.activity.depth < config.limit) :
    ((composite attributeOf config object name rule cache).after
      (store.mark ⟨object, name⟩)).Grows ((attributeOf config object name).after store) := by
  have left : (attributeOf config object name).after store =
      ((composite attributeOf config object name rule cache).after
        (store.mark ⟨object, name⟩)).unmark ⟨object, name⟩ := by
    conv_lhs =>
      rw [Effect.after, attribute_of_unfold, attribute_composite slot, guarded_entered idle room]
  rw [left]
  exact unmark_grows _ _

theorem rule_grows (uncomputed : ∀ cell, cache = some cell → cell.content = none)
    (store : Store) :
    ((runProgram attributeOf config (rule object)).after store).Grows
      ((composite attributeOf config object name rule cache).after store) := by
  cases cache with
  | none =>
      rw [composite_uncached]
      exact store_grows_refl _
  | some cell =>
      rw [composite_computed (uncomputed cell rfl)]
      rcases ran : (runProgram attributeOf config (rule object)).outcome store with ⟨result, inner⟩
      cases result with
      | error failure =>
          rw [Effect.after, ran, Effect.after, outcome_bind_error ran]
          exact store_grows_refl _
      | ok found =>
          rw [Effect.after, ran, Effect.after, outcome_bind_ok ran]
          exact publish_grows _ _ _ _

end Growth

theorem call_task_after {running : Config} {request : Call} {task : Task}
    (starts : request.task? running = some task) (store : Store) :
    task.after store = (perform attributeOf running request).after store := by
  cases request <;> cases starts <;> rfl

theorem program_after {α : Type} (running : Config) (request : Call)
    (next : Except DataError request.Answer → Program α) (store : Store) :
    (Task.program running (.call request next)).after store =
      (Task.program running
        (next ((perform attributeOf running request).outcome store).1)).after
          ((perform attributeOf running request).after store) := by
  rw [Task.after, Effect.after, run_call]
  rfl

theorem traces_climb {task : Task} {store : Store} {moments : List Store}
    (traces : Traces task store moments) : Climbs store (task.after store) moments := by
  induction traces with
  | done task store => exact climbs_cons (task_grows task store) (climbs_single _)
  | @entered config object name rule cache store slot idle room =>
      have body := growth_invariance.keeps_composite growth_invariance.keeps_attribute_of
        publish_grows config object name rule cache (store.mark ⟨object, name⟩)
      exact climbs_cons (mark_grows store _) (climbs_cons body
        (climbs_cons (body_grows slot idle room) (climbs_single _)))
  | @computing config object name rule cache store moments slot idle room uncomputed _ ih =>
      have ended := climbs_cons (body_grows slot idle room) (climbs_single _)
      have inside := climbs_append ih (climbs_widen (rule_grows uncomputed _) ended)
      exact climbs_cons (mark_grows store _) inside
  | @stopped config moves visited object name failure store middle moments composed fresh way
      failed _ ih =>
      have ended : (Task.chain config (moves + 1) visited object).after store =
          (attributeOf config object name).after (stepped config object name store) := by
        rw [Task.after, Effect.after, follow_step composed fresh way, outcome_bind_error failed,
          Effect.after, failed]
      rw [ended]
      exact climbs_cons (stepped_grows config object name store) ih
  | @moved config moves visited object next name store middle moments others composed fresh way
      found _ _ ihInside ihRest =>
      have ended : (Task.chain config (moves + 1) visited object).after store =
          (Task.chain config moves (object :: visited) next).after middle := by
        rw [Task.after, Effect.after, follow_step composed fresh way, outcome_bind_ok found]
        rfl
      have arrived : (Task.attributeOf config object name).after
          (stepped config object name store) = middle := congrArg Prod.snd found
      rw [ended]
      rw [arrived] at ihInside
      exact climbs_append (climbs_cons (stepped_grows config object name store) ihInside) ihRest
  | @dataizing config object expected store moments _ ih =>
      rw [Task.after, dataize_after]
      exact ih
  | @asked α running request task next store moments others starts _ _ ihInside ihRest =>
      rw [call_task_after starts] at ihInside
      rw [program_after]
      exact climbs_append ihInside ihRest
  | @answered α running request next store others _ ih =>
      rw [program_after]
      exact climbs_cons (perform_grows running request store) ih

theorem history_climbs {operations : List Operation} {store : Store} {moments : List Store}
    (history : History operations store moments) : ∃ last, Climbs store last moments := by
  induction history with
  | nil store => exact ⟨store, climbs_single store⟩
  | task trace _ ih =>
      obtain ⟨last, rest⟩ := ih
      exact ⟨last, climbs_append (traces_climb trace) rest⟩
  | outline _ ih =>
      obtain ⟨last, rest⟩ := ih
      exact ⟨last, climbs_cons (outline_grows _ _) rest⟩

/-- Every moment that the task passes lies on one of its traces. -/
theorem passes_trace {task : Task} {stack inner : List Marker} {store current : Store}
    (passes : Passes task stack store inner current) :
    ∃ moments, Traces task store moments ∧ current ∈ moments := by
  induction passes with
  | start task => exact ⟨_, .done task _, List.mem_cons_self⟩
  | finish task => exact ⟨_, .done task _, List.mem_cons_of_mem _ List.mem_cons_self⟩
  | computing slot idle room uncomputed _ ih =>
      obtain ⟨moments, inside, member⟩ := ih
      refine ⟨_, .computing slot idle room uncomputed inside, ?_⟩
      exact List.mem_append_left _ (List.mem_cons_of_mem _ member)
  | leaving slot idle room =>
      refine ⟨_, .entered slot idle room, ?_⟩
      simp
  | @step config moves visited object name stack inner store current composed fresh way _ ih =>
      obtain ⟨moments, inside, member⟩ := ih
      rcases ran : (attributeOf config object name).outcome (stepped config object name store)
        with ⟨result, middle⟩
      cases result with
      | error failure =>
          exact ⟨_, .stopped composed fresh way ran inside, List.mem_cons_of_mem _ member⟩
      | ok next =>
          refine ⟨_, .moved composed fresh way ran inside (.done _ _), ?_⟩
          exact List.mem_append_left _ (List.mem_cons_of_mem _ member)
  | move composed fresh way moved _ ih =>
      obtain ⟨moments, rest, member⟩ := ih
      refine ⟨_, .moved composed fresh way moved (.done _ _) rest, ?_⟩
      exact List.mem_append_right _ member
  | dataizing _ ih =>
      obtain ⟨moments, inside, member⟩ := ih
      exact ⟨moments, .dataizing inside, member⟩
  | demanding _ ih | resolving _ ih =>
      obtain ⟨moments, inside, member⟩ := ih
      exact ⟨_, .asked rfl inside (.done _ _), List.mem_append_left _ member⟩
  | answered _ ih =>
      obtain ⟨moments, rest, member⟩ := ih
      exact ⟨_, .answered rest, List.mem_cons_of_mem _ member⟩

/-- The object that a free attribute is bound to, or that a composite one keeps. -/
def Store.linked? (store : Store) (object : ObjectId) (name : String) : Option ObjectId :=
  match store.slot? object name with
  | some (.free cell) => cell.content
  | some (.composite _ (some cell)) => cell.content
  | _ => none

def changes : List (Option ObjectId) → Nat
  | first :: second :: rest =>
      (if first = second then 0 else 1) + changes (second :: rest)
  | _ => 0

theorem linked_grows {before after : Store} {object link : ObjectId} {name : String}
    (grows : before.Grows after) (linked : before.linked? object name = some link) :
    after.linked? object name = some link := by
  unfold Store.linked? at linked ⊢
  cases slot : before.slot? object name with
  | none =>
      rw [slot] at linked
      cases linked
  | some found =>
      rw [slot] at linked
      obtain ⟨grown, slotAfter, growth⟩ := grows_slot grows slot
      rw [slotAfter]
      cases growth with
      | free cell => exact cell link linked
      | variadic | uncached => cases linked
      | cached rule cell => exact cell link linked

theorem changes_constant {link : Option ObjectId} {links : List (Option ObjectId)}
    (same : ∀ other ∈ links, other = link) : changes links = 0 := by
  induction links with
  | nil => rfl
  | cons first rest ih =>
      cases rest with
      | nil => rfl
      | cons second others =>
          have here := same first List.mem_cons_self
          have next := same second (List.mem_cons_of_mem first List.mem_cons_self)
          have later := ih fun other member => same other (List.mem_cons_of_mem first member)
          rw [changes, if_pos (here.trans next.symm), later]

theorem changes_le_one {links : List (Option ObjectId)}
    (stays : links.Pairwise fun before after => ∀ link, before = some link → after = some link) :
    changes links ≤ 1 := by
  induction links with
  | nil => exact Nat.zero_le 1
  | cons first rest ih =>
      cases rest with
      | nil => exact Nat.zero_le 1
      | cons second others =>
          obtain ⟨fromFirst, fromSecond⟩ := List.pairwise_cons.mp stays
          rw [changes]
          by_cases same : first = second
          · rw [if_pos same, Nat.zero_add]
            exact ih fromSecond
          · cases second with
            | none =>
                cases first with
                | none => exact absurd rfl same
                | some link => cases fromFirst none List.mem_cons_self link rfl
            | some link =>
                have settled : ∀ other ∈ some link :: others, other = some link := by
                  refine List.forall_mem_cons.mpr ⟨rfl, fun other member => ?_⟩
                  exact (List.pairwise_cons.mp fromSecond).1 other member link rfl
                simp [same, changes_constant settled]

/-- Every operation grows the store. Along any history of operations, followed to any
detail, each moment has grown from all those before, and so what an attribute is bound to
or keeps changes at most once. -/
theorem stores_only_grow :
    (∀ (operation : Operation) (store : Store), store.Grows (operation.after store)) ∧
      ∀ operations store moments, History operations store moments →
        moments.Pairwise Store.Grows ∧
          ∀ object name, changes (moments.map (·.linked? object name)) ≤ 1 := by
  refine ⟨operation_grows, ?_⟩
  intro operations store moments history
  obtain ⟨last, climbs⟩ := history_climbs history
  refine ⟨climbs.ordered, ?_⟩
  intro object name
  apply changes_le_one
  exact List.pairwise_map.mpr (climbs.ordered.imp fun grows link => linked_grows grows)

theorem sum_changes_once :
    ∃ moments, History [.task (.resolve .default ⟨2⟩), .outline ⟨2⟩] Store.sum moments ∧
      moments.map (·.linked? ⟨2⟩ valueAttribute) =
        List.replicate 4 none ++ List.replicate 6 (some ⟨3⟩) ∧
      changes (moments.map (·.linked? ⟨2⟩ valueAttribute)) ≤ 1 := by
  have slot : Store.sum.slot? ⟨2⟩ valueAttribute =
      some (.composite (Aggregate.rule (.operator (.int .intAdd))) (some .empty)) := rfl
  have uncomputed (cell : Memo ObjectId) (given : some Memo.empty = some cell) :
      cell.content = none := by
    cases given
    rfl
  have value : ((attributeOf .default ⟨2⟩ valueAttribute).outcome Store.sum).1 = .ok ⟨3⟩ := rfl
  have found : (attributeOf .default ⟨2⟩ valueAttribute).outcome Store.sum =
      (.ok ⟨3⟩, (attributeOf .default ⟨2⟩ valueAttribute).after Store.sum) := Prod.ext value rfl
  have computed : Traces (.attributeOf .default ⟨2⟩ valueAttribute) Store.sum _ :=
    .computing slot List.not_mem_nil (by decide) uncomputed (.done _ _)
  have trace : Traces (.resolve .default ⟨2⟩) Store.sum _ :=
    .moved rfl List.not_mem_nil rfl found computed (.done _ _)
  have history : History [.task (.resolve .default ⟨2⟩), .outline ⟨2⟩] Store.sum _ :=
    .task trace (.outline (.nil _))
  exact ⟨_, history, rfl, (stores_only_grow.2 _ _ _ history).2 ⟨2⟩ valueAttribute⟩

end ObjectCalculus
