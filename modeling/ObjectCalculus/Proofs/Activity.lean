import ObjectCalculus.Proofs.Invariance

/-!
# Activity

Whatever an evaluation does and however it ends, it gives back the activity it
found: the same markers and the same depth. An evaluation is only entered below
its limit, and every limit lies below the number of levels, so the levels never
run out: an attribute is evaluated by one level of evaluation over the evaluator
itself.
-/

set_option autoImplicit false

namespace ObjectCalculus

open Effect Evaluation

variable {α : Type}

theorem activity_write {supply : Supply} {before after : Store}
    (write : Write supply before after) : after.activity = before.activity := by
  cases write <;> rfl

theorem activity_publish (object : ObjectId) (name : String) (result : ObjectId)
    (store : Store) :
    ((publish object name result).after store).activity = store.activity := by
  unfold publish after
  rw [outcome_update]
  split <;> rfl

theorem activity_leave {marker : Marker} {store inner : Store}
    (same : inner.activity = (store.mark marker).activity) :
    (inner.unmark marker).activity = store.activity := by
  unfold Store.unmark
  rw [same]
  simp [Store.mark]

theorem activity_invariance :
    Invariance fun before after => after.activity = before.activity where
  refl _ := rfl
  trans first second := second.trans first
  written := activity_write
  left _ same := activity_leave same
  published result _ same := activity_leave ((activity_publish _ _ result _).trans same)

/-- The activity is the same, and so is the result that each marked attribute keeps
or lacks. -/
structure Store.Locks (before after : Store) : Prop where
  activity : after.activity = before.activity
  slots {marker : Marker} {rule : Rule} {cache : Option (Memo ObjectId)} :
    marker ∈ before.activity.markers →
      before.slot? marker.object marker.attr = some (.composite rule cache) →
        after.slot? marker.object marker.attr = some (.composite rule cache)

theorem locks_write {supply : Supply} {before after : Store}
    (write : Write supply before after) : before.Locks after where
  activity := activity_write write
  slots {marker rule cache} _ slot := by
    have added (object : Object) :
        (before.add object).2.slot? marker.object marker.attr =
          some (.composite rule cache) := by
      obtain ⟨found, held, inside⟩ := Store.instance_of_slot slot
      rw [Store.slot_of_instance (Store.instance_add_old object held), inside]
    have replaced {object : ObjectId} {name : String} {old new : Slot}
        (other : before.slot? object name = some old) (apart : old.kind ≠ .composite) :
        (before.setSlot object name new).slot? marker.object marker.attr =
          some (.composite rule cache) := by
      rw [Store.slot_set_other, slot]
      by_cases same : marker.object = object
      · right
        rintro named
        rw [same, named, other] at slot
        cases slot
        exact apart rfl
      · exact .inl same
    cases write with
    | recorded event => exact slot
    | tallied counter => exact slot
    | leaf supplied => exact added _
    | instantiated supplied => exact added _
    | copied composed => exact added _
    | bound other empty supplied => exact replaced other (by simp [Slot.kind])
    | appended other supplied => exact replaced other (by simp [Slot.kind])
    | sealed other => exact replaced other (by simp [Slot.kind])
    | taken leaf => rwa [Store.slot_set_leaf]

theorem markers_differ {left right : Marker} (different : left ≠ right) :
    left.object ≠ right.object ∨ left.attr ≠ right.attr := by
  obtain ⟨object, attr⟩ := left
  obtain ⟨other, name⟩ := right
  by_cases same : object = other
  · subst same
    exact .inr fun named => different (congrArg (Marker.mk object) named)
  · exact .inl same

theorem slot_publish {marker other : Marker} (different : other ≠ marker) (result : ObjectId)
    (store : Store) :
    ((publish marker.object marker.attr result).after store).slot? other.object other.attr =
      store.slot? other.object other.attr := by
  unfold publish after
  rw [outcome_update]
  split
  · exact Store.slot_set_other (markers_differ different)
  · rfl

/-- While an attribute is marked, nobody fills in its result: whoever would have
to mark it first. -/
theorem locks_invariance : Invariance Store.Locks where
  refl _ := ⟨rfl, fun _ slot => slot⟩
  trans {first second third} start rest :=
    ⟨rest.activity.trans start.activity, fun marked slot =>
      rest.slots (start.activity ▸ marked) (start.slots marked slot)⟩
  written := locks_write
  left {marker store inner} _ inside :=
    ⟨activity_leave inside.activity, fun marked slot =>
      inside.slots (List.mem_cons_of_mem marker marked) slot⟩
  published {marker store inner} result idle inside := by
    refine ⟨activity_leave ((activity_publish _ _ result inner).trans inside.activity), ?_⟩
    intro other rule cache marked slot
    have different : other ≠ marker := by
      rintro rfl
      exact idle marked
    exact (slot_publish different result inner).trans
      (inside.slots (List.mem_cons_of_mem marker marked) slot)

/-- The activity before is the activity after. -/
def Restores (evaluate : Evaluator) : Prop :=
  ∀ config object name,
    Invariance.Keeps (fun before after => after.activity = before.activity)
      (evaluate config object name)

theorem within_restores (levels : Nat) : Restores (attributeWithin levels) :=
  activity_invariance.keeps_attribute_within levels

def AgreeAt (depth : Nat) (left right : Evaluator) : Prop :=
  ∀ config object name store, store.activity.depth = depth →
    (left config object name).outcome store = (right config object name).outcome store

section Agree

variable {left right : Evaluator} {depth : Nat}

theorem follow_agree (agree : AgreeAt depth left right) (restores : Restores left)
    (config : Config) (moves : Nat) (visited : List ObjectId) (object : ObjectId)
    (store : Store) (deep : store.activity.depth = depth) :
    (follow left config moves visited object).outcome store =
      (follow right config moves visited object).outcome store := by
  induction moves generalizing visited object store with
  | zero => rfl
  | succ moves ih =>
      rcases taken : store.takeLeaf object with ⟨result, after⟩
      cases result with
      | some result => rw [follow_leaf taken, follow_leaf taken]
      | none =>
          have composed := (take_leaf_none store object).mp (by rw [taken])
          by_cases seen : object ∈ visited
          · rw [follow_revisited composed seen, follow_revisited composed seen]
          cases way : nextAttribute store object with
          | error failure =>
              rw [follow_nowhere composed seen way, follow_nowhere composed seen way]
          | ok name =>
              rw [follow_step composed seen way, follow_step composed seen way]
              have steppedDeep : (stepped config object name store).activity.depth = depth := by
                rw [activity_invariance.keeps_stepped config object name store, deep]
              have same := agree config object name _ steppedDeep
              rcases moved : (left config object name).outcome
                (stepped config object name store) with ⟨result, middle⟩
              have kept := restores config object name (stepped config object name store)
              rw [Effect.after, moved] at kept
              rw [moved] at same
              cases result with
              | error failure =>
                  rw [outcome_bind_error moved, outcome_bind_error same.symm]
              | ok next =>
                  rw [outcome_bind_ok moved, outcome_bind_ok same.symm]
                  apply ih
                  rw [kept, steppedDeep]

theorem perform_agree (agree : AgreeAt depth left right) (restores : Restores left)
    (running : Config) (request : Call) (store : Store)
    (deep : store.activity.depth = depth) :
    (perform left running request).outcome store =
      (perform right running request).outcome store := by
  cases request with
  | attributeOf scope object name => exact agree (scope.config running) object name store deep
  | resolve scope object =>
      exact follow_agree agree restores (scope.config running) _ [] object store deep
  | _ => rfl

theorem run_agree (agree : AgreeAt depth left right) (restores : Restores left)
    (running : Config) (program : Program α) (store : Store)
    (deep : store.activity.depth = depth) :
    (runProgram left running program).outcome store =
      (runProgram right running program).outcome store := by
  induction program generalizing store with
  | done result => rfl
  | call request next ih =>
      have same := perform_agree agree restores running request store deep
      have kept := activity_invariance.keeps_perform restores running request store
      rw [run_call, run_call, after, after, ← same]
      apply ih
      rw [← after, kept, deep]

theorem composite_agree (agree : AgreeAt depth left right) (restores : Restores left)
    (config : Config) (object : ObjectId) (name : String) (rule : Rule)
    (cache : Option (Memo ObjectId)) (store : Store)
    (deep : store.activity.depth = depth) :
    (composite left config object name rule cache).outcome store =
      (composite right config object name rule cache).outcome store := by
  have same := run_agree agree restores config (rule object) store deep
  cases cache with
  | none => exact same
  | some cell =>
      cases content : cell.content with
      | some kept => rw [composite_kept content, composite_kept content]
      | none =>
          rw [composite_computed content, composite_computed content]
          rcases ran : (runProgram left config (rule object)).outcome store with
            ⟨result, inner⟩
          rw [ran] at same
          cases result with
          | error failure => rw [outcome_bind_error ran, outcome_bind_error same.symm]
          | ok result => rw [outcome_bind_ok ran, outcome_bind_ok same.symm]

theorem attribute_by_agree (restores : Restores left)
    (agree : ∀ config : Config, depth < config.limit → AgreeAt (depth + 1) left right) :
    AgreeAt depth (attributeBy left) (attributeBy right) := by
  intro config object name store deep
  cases slot : store.slot? object name with
  | none => rw [attribute_unknown slot, attribute_unknown slot]
  | some found =>
      cases found with
      | free cell =>
          cases content : cell.content with
          | some value => rw [attribute_bound slot content, attribute_bound slot content]
          | none => rw [attribute_unbound slot content, attribute_unbound slot content]
      | variadic items isSealed => rw [attribute_variadic slot, attribute_variadic slot]
      | composite rule cache =>
          rw [attribute_composite slot, attribute_composite slot]
          by_cases active : ⟨object, name⟩ ∈ store.activity.markers
          · rw [guarded_cyclic active, guarded_cyclic active]
          by_cases tooDeep : config.limit ≤ store.activity.depth
          · rw [guarded_deep active tooDeep, guarded_deep active tooDeep]
          have room := Nat.lt_of_not_le tooDeep
          have entered : (store.mark ⟨object, name⟩).activity.depth = depth + 1 := by
            simp [Store.mark, deep]
          have same := composite_agree (agree config (deep ▸ room)) restores config object
            name rule cache (store.mark ⟨object, name⟩) entered
          rw [guarded_entered active room, guarded_entered active room, after, after, same]

end Agree

/-- Levels that reach beyond every limit are as good as any others. -/
theorem within_agree (depth fewer more : Nat) (fewerReach : Config.levels ≤ depth + fewer)
    (moreReach : Config.levels ≤ depth + more) (fewerLeft : 0 < fewer) (moreLeft : 0 < more) :
    AgreeAt depth (attributeWithin fewer) (attributeWithin more) := by
  induction fewer generalizing more depth with
  | zero => omega
  | succ fewer ih =>
      cases more with
      | zero => omega
      | succ more =>
          apply attribute_by_agree (within_restores fewer)
          intro config room
          have bounded := config.limit_lt_levels
          exact ih _ _ (by omega) (by omega) (by omega) (by omega)

/-- The evaluator is one level of evaluation over itself. -/
theorem attribute_of_unfold : attributeOf = attributeBy attributeOf := by
  have positive : 0 < Config.levels := by decide
  funext config object name
  apply same_of_outcomes
  intro store
  exact within_agree store.activity.depth Config.levels (Config.levels + 1)
    (by omega) (by omega) positive (by omega) config object name store rfl

theorem attribute_of_restores : Restores attributeOf :=
  within_restores Config.levels

end ObjectCalculus
