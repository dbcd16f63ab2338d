import ObjectCalculus.Proofs.Isolation
import ObjectCalculus.Proofs.Outcome

/-!
# Tracing

Steps are reported and never read. Two evaluations under the same limits, one that reports
its steps and one that does not, go side by side: from stores that are the same but for the
steps reported they come to the same result and to stores that are the same but for the
steps. Whatever rules are run on the way, and whatever dataizations of their own these start,
makes no difference to that.
-/

set_option autoImplicit false

namespace ObjectCalculus

open Effect Evaluation

variable {α β : Type}

def Store.silenced (store : Store) : Store :=
  { store with events := store.events.filter fun event => event.level ≠ .trace }

theorem silenced_record {event : Event} (store : Store) (loud : event.level ≠ .trace) :
    (store.record event).silenced = store.silenced.record event := by
  simp [Store.silenced, Store.record, loud]

theorem silenced_step (store : Store) (label name : String) (depth : Nat) :
    (store.record (.step label name depth)).silenced = store.silenced := by
  simp [Store.silenced, Store.record, Event.level]

theorem silenced_stepped (config : Config) (object : ObjectId) (name : String) (store : Store) :
    (stepped config object name store).silenced = store.silenced := by
  unfold stepped
  split
  · exact silenced_step store _ _ _
  · rfl

/-- A change that reports no steps and does not look at the reports: it makes no difference
whether the steps are taken out before it or after. -/
def Deaf (change : Store → α × Store) : Prop :=
  ∀ store, change store.silenced = ((change store).1, (change store).2.silenced)

section Deaf

theorem deaf_pure (value : Store → α) (same : ∀ store, value store.silenced = value store) :
    Deaf fun store => (value store, store) := by
  intro store
  exact congrArg (·, store.silenced) (same store)

theorem deaf_record (value : Store → α) (event : Store → Event)
    (same : ∀ store, value store.silenced = value store)
    (alike : ∀ store, event store.silenced = event store)
    (loud : ∀ store, (event store).level ≠ .trace) :
    Deaf fun store => (value store, store.record (event store)) := by
  intro store
  change (value store.silenced, store.silenced.record (event store.silenced)) = _
  rw [same, alike, ← silenced_record store (loud store)]

theorem deaf_take_leaf (object : ObjectId) : Deaf fun store => store.takeLeaf object := by
  intro store
  have same : store.silenced.leaf? object = store.leaf? object := rfl
  simp only [Store.takeLeaf, same]
  cases store.leaf? object with
  | none => rfl
  | some leaf => cases leaf <;> rfl

theorem deaf_datum (object : ObjectId) : Deaf fun store => store.datum object := by
  intro store
  simp only [Store.datum, deaf_take_leaf object store]
  rcases store.takeLeaf object with ⟨_ | _ | value, after⟩ <;> rfl

theorem deaf_display (object : ObjectId) : Deaf fun store => store.display object := by
  intro store
  have same : store.silenced.leaf? object = store.leaf? object := rfl
  simp only [Store.display, same]
  cases store.leaf? object with
  | none => rfl
  | some leaf => cases leaf <;> rfl

theorem deaf_add (added : Object) : Deaf fun store => store.add added := by
  intro store
  rfl

theorem deaf_copy (object : ObjectId) : Deaf fun store => store.copy object := by
  intro store
  have same : store.silenced.instance? object = store.instance? object := rfl
  simp only [Store.copy, same]
  cases store.instance? object <;> rfl

theorem deaf_sequence (object : ObjectId) (name : String) :
    Deaf fun store => store.sequence object name := by
  intro store
  have same : store.silenced.slot? object name = store.slot? object name := rfl
  simp only [Store.sequence, same]
  cases store.slot? object name with
  | none => rfl
  | some slot =>
      cases slot with
      | free cell =>
          rcases cell with ⟨_ | item⟩
          · rfl
          · rfl
      | variadic | composite => rfl

theorem deaf_attempt (binding : Binding) : Deaf binding.attempt := by
  intro store
  have same : store.silenced.slot? binding.object binding.name =
      store.slot? binding.object binding.name := rfl
  cases found : store.slot? binding.object binding.name with
  | none =>
      rw [Binding.attempt_unknown found, Binding.attempt_unknown (same.trans found)]
      rfl
  | some slot =>
      cases placed : binding.place (store.label binding.object) slot with
      | error failure =>
          rw [Binding.attempt_refused found placed,
            Binding.attempt_refused (same.trans found) placed]
      | ok bound =>
          have loud : (binding.event (store.label binding.object)).level ≠ .trace := by
            unfold Binding.event
            cases binding.index? <;> exact nofun
          have bind := silenced_record (store.setSlot binding.object binding.name bound) loud
          rw [Binding.attempt_bound found placed, Binding.attempt_bound (same.trans found) placed]
          exact congrArg (Prod.mk (Except.ok ())) bind.symm

theorem deaf_instantiate (definition : Definition) :
    Deaf fun store => store.instantiate definition := by
  intro store
  have loud : (Event.instantiated definition.template.name store.nextId.text).level ≠ .trace :=
    nofun
  have made := silenced_record (store.add (.composed (.ofDefinition definition))).2 loud
  exact congrArg (Prod.mk store.nextId) made.symm

theorem deaf_extend (object : ObjectId) (name : String) (value : ObjectId) :
    Deaf fun store => store.extend object name value := by
  intro store
  have same : store.silenced.slot? object name = store.slot? object name := rfl
  cases found : store.slot? object name with
  | none =>
      have unknown : store.silenced.slot? object name = none := same.trans found
      simp only [Store.extend, Store.require, found, unknown]
      rfl
  | some slot =>
      obtain ⟨composed, held, _⟩ := Store.instance_of_slot found
      have heldSilenced : store.silenced.instance? object = some composed := held
      have attempted := deaf_attempt ⟨store.nextId, name, value, none⟩
        (store.add (.composed composed.copy)).2
      simp only [extend_outcome held found value]
      refine (extend_outcome heldSilenced (same.trans found) value).trans ?_
      exact congrArg (fun outcome : Except BindError Unit × Store =>
        (outcome.1.map fun _ => store.nextId, outcome.2)) attempted

theorem deaf_map {change : Store → α × Store} (deaf : Deaf change) (view : α → β) :
    Deaf fun store => (view (change store).1, (change store).2) := by
  intro store
  simp only [deaf store]

theorem deaf_publish (object : ObjectId) (name : String) (result : ObjectId) :
    Deaf (publish object name result).outcome := by
  intro store
  have same : store.silenced.slot? object name = store.slot? object name := rfl
  simp only [publish, outcome_update, same]
  cases store.slot? object name with
  | none => rfl
  | some slot =>
      cases slot with
      | free | variadic => rfl
      | composite rule cache => cases cache <;> rfl

end Deaf

/-- From stores that are the same but for steps the effects have the same result, and they
leave stores that are the same but for steps. -/
def Effect.Parallel (left right : Effect α) : Prop :=
  ∀ first second, first.silenced = second.silenced →
    (left.outcome first).1 = (right.outcome second).1 ∧
      (left.after first).silenced = (right.after second).silenced

section Parallel

theorem parallel_of_deaf {effect : Effect α} (deaf : Deaf effect.outcome) :
    effect.Parallel effect := by
  intro first second same
  have left := deaf first
  rw [same, deaf second] at left
  exact ⟨(congrArg Prod.fst left).symm, (congrArg Prod.snd left).symm⟩

theorem parallel_update {change : Store → α × Store} (deaf : Deaf change) :
    (update change).Parallel (update change) :=
  parallel_of_deaf (deaf_map deaf Except.ok)

theorem parallel_read {view : Store → α} (same : ∀ store, view store.silenced = view store) :
    (read view).Parallel (read view) :=
  parallel_update (deaf_pure view same)

theorem parallel_refuse {failure : Store → DataError}
    (same : ∀ store, failure store.silenced = failure store) :
    (refuse failure : Effect α).Parallel (refuse failure) :=
  parallel_of_deaf (deaf_pure (fun store => Except.error (failure store))
    fun store => congrArg Except.error (same store))

theorem parallel_of_binding {change : Store → Except BindError α × Store} (deaf : Deaf change) :
    (ofBinding change).Parallel (ofBinding change) :=
  parallel_of_deaf (deaf_map deaf (Except.mapError DataError.bind))

theorem parallel_instantiate (template : TemplateRef) :
    (instantiate template).Parallel (instantiate template) := by
  apply parallel_of_deaf
  cases template with
  | builtin builtin => exact deaf_map (deaf_instantiate builtin.definition) Except.ok
  | named name =>
      intro store
      have same : store.silenced.definition? name = store.definition? name := rfl
      simp only [instantiate, outcome_of_store, same]
      cases store.definition? name with
      | none => rfl
      | some definition => exact deaf_map (deaf_instantiate definition) Except.ok store

theorem parallel_of_result (result : Except DataError α) :
    (ofResult result).Parallel (ofResult result) := by
  intro first second same
  rw [Effect.after, Effect.after, outcome_of_result, outcome_of_result]
  exact ⟨rfl, same⟩

theorem parallel_settle {left right : Effect α} (parallel : left.Parallel right) :
    (settle left).Parallel (settle right) := by
  intro first second same
  obtain ⟨result, stores⟩ := parallel first second same
  exact ⟨congrArg Except.ok result, stores⟩

theorem parallel_bind {left right : Effect α} {leftNext rightNext : α → Effect β}
    (parallel : left.Parallel right)
    (next : ∀ value, (leftNext value).Parallel (rightNext value)) :
    (left >>= leftNext).Parallel (right >>= rightNext) := by
  intro first second same
  obtain ⟨result, stores⟩ := parallel first second same
  rcases ran : left.outcome first with ⟨found, middle⟩
  rcases ranToo : right.outcome second with ⟨foundToo, middleToo⟩
  rw [ran, ranToo] at result
  rw [Effect.after, Effect.after, ran, ranToo] at stores
  cases result
  cases found with
  | error failure =>
      rw [Effect.after, Effect.after, outcome_bind_error ran, outcome_bind_error ranToo]
      exact ⟨rfl, stores⟩
  | ok value =>
      rw [Effect.after, Effect.after, outcome_bind_ok ran, outcome_bind_ok ranToo]
      exact next value middle middleToo stores

end Parallel

/-- Under the same limits, reported or not, the evaluator goes the same way. -/
def Impartial (evaluate : Evaluator) : Prop :=
  ∀ (left right : Config), left.maxDepth = right.maxDepth → ∀ object name,
    (evaluate left object name).Parallel (evaluate right object name)

section Evaluate

variable {left right : Config} (limits : left.maxDepth = right.maxDepth)

theorem parallel_step (left right : Config) (object : ObjectId) (name : String) :
    (recordStep left object name).Parallel (recordStep right object name) := by
  intro first second same
  rw [Effect.after, Effect.after, record_step_outcome, record_step_outcome]
  exact ⟨rfl, by rw [silenced_stepped, silenced_stepped, same]⟩

theorem parallel_revisited (object : ObjectId) :
    (revisited object : Effect α).Parallel (revisited object) :=
  parallel_of_deaf (deaf_record _ _ (fun _ => rfl) (fun _ => rfl) fun _ => nofun)

theorem parallel_arrive {leftOn rightOn : Effect Value} (visited : List ObjectId)
    (object : ObjectId) (onward : leftOn.Parallel rightOn) :
    (arrive visited object leftOn).Parallel (arrive visited object rightOn) := by
  apply parallel_bind (parallel_update (deaf_take_leaf object))
  intro taken
  cases taken with
  | some result => exact parallel_of_result result
  | none =>
      by_cases seen : object ∈ visited
      · simp only [if_pos seen]
        exact parallel_revisited object
      · simp only [if_neg seen]
        exact onward

include limits

theorem same_limit : left.limit = right.limit :=
  congrArg UInt64.toNat limits

theorem parallel_depth_exceeded :
    (depthExceeded left : Effect α).Parallel (depthExceeded right) := by
  unfold depthExceeded
  rw [same_limit limits]
  exact parallel_of_deaf (deaf_record _ _ (fun _ => rfl) (fun _ => rfl) fun _ => nofun)

theorem parallel_enter (marker : Marker) : (enter left marker).Parallel (enter right marker) := by
  unfold enter
  rw [same_limit limits]
  apply parallel_of_deaf
  intro store
  simp only [outcome_of_store]
  by_cases active : marker ∈ store.activity.markers
  · have activeToo : marker ∈ store.silenced.activity.markers := active
    have loud : (Event.cyclicEvaluation (store.label marker.object) marker.attr).level ≠ .trace :=
      nofun
    rw [if_pos active, if_pos activeToo]
    exact congrArg (Prod.mk _) (silenced_record store loud).symm
  have idle : marker ∉ store.silenced.activity.markers := active
  rw [if_neg active, if_neg idle]
  by_cases deep : right.limit ≤ store.activity.depth
  · have deepToo : right.limit ≤ store.silenced.activity.depth := deep
    have loud : (Event.depthLimit right.limit).level ≠ .trace := nofun
    rw [if_pos deep, if_pos deepToo]
    exact congrArg (Prod.mk _) (silenced_record store loud).symm
  · have room : ¬right.limit ≤ store.silenced.activity.depth := deep
    rw [if_neg deep, if_neg room]
    rfl

theorem parallel_guarded {leftBody rightBody : Effect α} (marker : Marker)
    (bodies : leftBody.Parallel rightBody) :
    (guarded left marker leftBody).Parallel (guarded right marker rightBody) := by
  apply parallel_bind (parallel_enter limits marker)
  intro _
  apply parallel_bind (parallel_settle bodies)
  intro result
  apply parallel_bind (parallel_update fun _ => rfl)
  intro _
  exact parallel_of_result result

variable {evaluate : Evaluator} (impartial : Impartial evaluate)

include impartial

theorem parallel_follow (moves : Nat) (visited : List ObjectId) (object : ObjectId) :
    (follow evaluate left moves visited object).Parallel
      (follow evaluate right moves visited object) := by
  induction moves generalizing visited object with
  | zero => exact parallel_arrive visited object (parallel_depth_exceeded limits)
  | succ moves ih =>
      apply parallel_arrive visited object
      apply parallel_bind (parallel_read fun _ => rfl)
      intro way
      apply parallel_bind (parallel_of_result way)
      intro name
      apply parallel_bind (parallel_step left right object name)
      intro _
      apply parallel_bind (impartial left right limits object name)
      intro next
      exact ih (object :: visited) next

theorem parallel_resolve_by (object : ObjectId) :
    (resolveBy evaluate left object).Parallel (resolveBy evaluate right object) := by
  unfold resolveBy
  rw [same_limit limits]
  exact parallel_follow limits impartial right.limit [] object

theorem parallel_perform (request : Call) :
    (perform evaluate left request).Parallel (perform evaluate right request) := by
  cases request with
  | attributeOf scope object name =>
      cases scope with
      | running => exact impartial left right limits object name
      | fresh config => exact impartial config config rfl object name
  | resolve scope object =>
      cases scope with
      | running => exact parallel_resolve_by limits impartial object
      | fresh config => exact parallel_resolve_by rfl impartial object
  | sequence object name => exact parallel_of_deaf (deaf_sequence object name)
  | instantiate template => exact parallel_instantiate template
  | leaf value => exact parallel_update (deaf_add _)
  | deferredLeaf data => exact parallel_update (deaf_add _)
  | copy object => exact parallel_update (deaf_copy object)
  | extend object name value => exact parallel_of_binding (deaf_extend object name value)
  | bind object name value =>
      exact parallel_of_binding (deaf_attempt ⟨object, name, value, none⟩)
  | bindAt object name index value =>
      exact parallel_of_binding (deaf_attempt ⟨object, name, value, some index⟩)
  | datum object => exact parallel_update (deaf_datum object)
  | display object => exact parallel_update (deaf_display object)
  | depth => exact parallel_read fun _ => rfl
  | report object content =>
      apply parallel_update
      refine deaf_record _ (fun store => eventOf (store.label object) content) ?_ ?_ ?_
      · exact fun _ => rfl
      · exact fun _ => rfl
      · intro store
        cases content <;> exact nofun
  | tally counter => exact parallel_update fun _ => rfl

theorem parallel_run (program : Program α) :
    (runProgram evaluate left program).Parallel (runProgram evaluate right program) := by
  induction program with
  | done result => exact parallel_of_result result
  | call request next ih =>
      apply parallel_bind (parallel_settle (parallel_perform limits impartial request))
      exact ih

theorem parallel_composite (object : ObjectId) (name : String) (rule : Rule)
    (cache : Option (Memo ObjectId)) :
    (composite evaluate left object name rule cache).Parallel
      (composite evaluate right object name rule cache) := by
  cases cache with
  | none => exact parallel_run limits impartial (rule object)
  | some cell =>
      cases computed : cell.content with
      | some kept =>
          rw [composite_kept computed, composite_kept computed]
          exact parallel_of_result (.ok kept)
      | none =>
          rw [composite_computed computed, composite_computed computed]
          apply parallel_bind (parallel_run limits impartial (rule object))
          exact fun result => parallel_of_deaf (deaf_publish object name result)

end Evaluate

theorem impartial_by {evaluate : Evaluator} (impartial : Impartial evaluate) :
    Impartial (attributeBy evaluate) := by
  intro left right limits object name
  apply parallel_bind (parallel_read fun _ => rfl)
  intro slot
  cases slot with
  | none => exact parallel_refuse fun _ => rfl
  | some slot =>
      cases slot with
      | free cell =>
          rcases cell with ⟨_ | value⟩
          · exact parallel_refuse fun _ => rfl
          · exact parallel_of_result (.ok value)
      | variadic items isSealed => exact parallel_refuse fun _ => rfl
      | composite rule cache =>
          exact parallel_guarded limits ⟨object, name⟩
            (parallel_composite limits impartial object name rule cache)

theorem impartial_attribute : Impartial attributeOf := by
  have within (levels : Nat) : Impartial (attributeWithin levels) := by
    induction levels with
    | zero => exact fun left right limits _ _ => parallel_depth_exceeded limits
    | succ levels ih => exact impartial_by ih
  exact within Config.levels

/-- The stores are the same but for steps reported in one of them and not in the other. -/
structure Store.SameButSteps (left right : Store) : Prop where
  objects : left.objects = right.objects
  declared : left.declared = right.declared
  activity : left.activity = right.activity
  counters : left.counters = right.counters
  events : left.events.filter (·.level ≠ .trace) = right.events.filter (·.level ≠ .trace)

structure Effect.SameFrom (store : Store) (left right : Effect α) : Prop where
  result : (left.outcome store).1 = (right.outcome store).1
  stores : (left.after store).SameButSteps (right.after store)

theorem same_of_silenced {left right : Store} (same : left.silenced = right.silenced) :
    left.SameButSteps right where
  objects := congrArg (·.objects) same
  declared := congrArg (·.declared) same
  activity := congrArg (·.activity) same
  counters := congrArg (·.counters) same
  events := congrArg (·.events) same

theorem Effect.Parallel.same_from {left right : Effect α} (parallel : left.Parallel right)
    (store : Store) : left.SameFrom store right :=
  ⟨(parallel store store rfl).1, same_of_silenced (parallel store store rfl).2⟩

/-- Whether steps are reported makes no difference to a dataization but for the steps, in
every store and whatever the rules in it do; nor to any other program. -/
theorem tracing_adds_only_steps (maxDepth : UInt64) (store : Store) :
    let traced : Config := ⟨maxDepth, true⟩
    let silent : Config := ⟨maxDepth, false⟩
    (∀ object, (resolve traced object).SameFrom store (resolve silent object)) ∧
    (∀ object expected,
      (dataize traced object expected).SameFrom store (dataize silent object expected)) ∧
    (∀ (carried : Type) [Carrier carried] (object : ObjectId),
      (run traced (Program.dataizeAs carried object)).SameFrom store
        (run silent (Program.dataizeAs carried object))) ∧
    ∀ {result : Type} (program : Program result),
      (run traced program).SameFrom store (run silent program) := by
  intro traced silent
  have limits : traced.maxDepth = silent.maxDepth := rfl
  have resolved (object : ObjectId) : (resolve traced object).Parallel (resolve silent object) :=
    parallel_resolve_by limits impartial_attribute object
  have ran {result : Type} (program : Program result) :
      (run traced program).Parallel (run silent program) :=
    parallel_run limits impartial_attribute program
  refine ⟨fun object => (resolved object).same_from store, ?kinds,
    fun carried _ object => (ran _).same_from store, fun program => (ran program).same_from store⟩
  case kinds =>
    intro object expected
    apply Effect.Parallel.same_from
    apply parallel_bind (resolved object)
    intro value
    split
    · exact parallel_of_result (.ok value)
    · exact parallel_of_result (.error _)

end ObjectCalculus
