import ObjectCalculus.Proofs.Ground
import ObjectCalculus.Proofs.History

/-!
# Permanence

A value once found is found again, whatever is done in between: the way to it leads
over bindings and kept results only, and neither is ever replaced. What has been
computed has sealed everything it was computed from.
-/

set_option autoImplicit false

namespace ObjectCalculus

open Effect Evaluation

/-- The value is the given number of moves away, and nothing on the way is left to
compute or to produce. -/
inductive Store.AtHand (store : Store) : Nat → ObjectId → Value → Prop
  | fixed {object : ObjectId} {value : Value}
      (held : store.leaf? object = some (.fixed value)) : AtHand store 0 object value
  | produced {object : ObjectId} {value : Value} {data : Deferred Value}
      (held : store.leaf? object = some (.deferred data))
      (content : data.cell.content = some value) : AtHand store 0 object value
  | kept {object result : ObjectId} {value : Value} {builtin : Builtin} {form : Aggregate}
      {role : builtin.role = .aggregate form} {items : List ObjectId} {isSealed : Bool}
      (holds : store.Holds object (.aggregate role items isSealed (some result)))
      (held : store.leaf? result = some (.fixed value)) : AtHand store 1 object value
  | bound {moves : Nat} {object target : ObjectId} {value : Value} {builtin : Builtin}
      {role : builtin.role = .datum} (holds : store.Holds object (.datum role (some target)))
      (atHand : AtHand store moves target value) : AtHand store (moves + 1) object value

section AtHand

variable {store before after : Store} {object : ObjectId} {value : Value} {moves : Nat}

theorem kept_grows {builtin : Builtin} {form : Aggregate} {role : builtin.role = .aggregate form}
    {items : List ObjectId} {isSealed : Bool} {result : ObjectId} (grows : before.Grows after)
    (holds : before.Holds object (.aggregate role items isSealed (some result))) :
    ∃ more nowSealed, after.Holds object (.aggregate role more nowSealed (some result)) := by
  obtain ⟨grown, held, growth⟩ := grows.instances (instance_of_holds rfl holds)
  obtain ⟨left, right, rfl, itemsGrow, cacheGrows⟩ := grown_pair growth
  cases itemsGrow with
  | @variadic _ more _ nowSealed extended closed =>
      cases cacheGrows with
      | @cached _ _ cell content =>
          have kept := content result rfl
          obtain ⟨cache⟩ := cell
          cases kept
          exact ⟨more, nowSealed, holds_of_instance rfl held⟩

theorem at_hand_grows (grows : before.Grows after) (atHand : before.AtHand moves object value) :
    after.AtHand moves object value := by
  induction atHand with
  | fixed held => exact .fixed (fixed_grows grows held)
  | produced held content =>
      obtain ⟨grown, heldAfter, growth⟩ := grows.leaves held
      cases growth with
      | deferred cell blank => exact .produced heldAfter (cell _ content)
  | kept holds held =>
      obtain ⟨more, nowSealed, stays⟩ := kept_grows grows holds
      exact .kept stays (fixed_grows grows held)
  | bound holds _ ih => exact .bound (bound_grows grows holds) ih

theorem at_hand_unique {other : Nat} {otherValue : Value}
    (first : store.AtHand moves object value) (second : store.AtHand other object otherValue) :
    other = moves := by
  induction first generalizing other with
  | fixed held =>
      cases second with
      | fixed | produced => rfl
      | kept holds | bound holds => cases Store.holds_unique holds (Store.holds_leaf.mpr held)
  | produced held =>
      cases second with
      | fixed | produced => rfl
      | kept holds | bound holds => cases Store.holds_unique holds (Store.holds_leaf.mpr held)
  | kept holds =>
      cases second with
      | fixed held | produced held =>
          cases Store.holds_unique holds (Store.holds_leaf.mpr held)
      | kept => rfl
      | bound others => cases Store.holds_unique holds others
  | bound holds _ ih =>
      cases second with
      | fixed held | produced held =>
          cases Store.holds_unique holds (Store.holds_leaf.mpr held)
      | kept others => cases Store.holds_unique holds others
      | bound others rest =>
          cases Store.holds_unique holds others
          exact congrArg Nat.succ (ih rest)

end AtHand

/-- Whatever a run has found is at hand from then on. -/
def Act.Leaves (store : Store) : Act → Prop
  | .chain moves _ object (.ok value) => ∃ steps ≤ moves, store.AtHand steps object value
  | .compute object (.ok result) =>
      ∃ (builtin : Builtin) (form : Aggregate) (role : builtin.role = .aggregate form)
        (items : List ObjectId) (isSealed : Bool),
        store.Holds object (.aggregate role items isSealed (some result))
  | _ => True

theorem runs_leave {config : Config} {act : Act} {store after : Store}
    (runs : Runs config act store after) : act.Leaves after := by
  induction runs with
  | leaf held => exact ⟨0, Nat.zero_le _, .fixed held⟩
  | @deferred moves visited object data store held =>
      cases taken : data.take.1 with
      | error failure => trivial
      | ok value =>
          have puts : store.Puts object (.leaf (.deferred data.take.2)) _ :=
            Store.puts_leaf held
          have left := Store.holds_leaf.mp (Store.holds_put puts)
          exact ⟨0, Nat.zero_le _, .produced left (taken_content taken)⟩
  | @bound moves visited object target result store after builtin role holds _ rest ih =>
      cases result with
      | error failure => trivial
      | ok value =>
          obtain ⟨steps, few, atHand⟩ := ih
          have grows := store_grows_trans (stepped_extends _ _ _ _).grows
            (runs_extend rest).grows
          exact ⟨steps + 1, Nat.succ_le_succ few, .bound (bound_grows grows holds) atHand⟩
  | computed _ _ _ held ih =>
      obtain ⟨builtin, form, role, items, isSealed, holds⟩ := ih
      exact ⟨1, by omega, .kept holds held⟩
  | kept holds => exact ⟨_, _, _, _, _, holds⟩
  | published _ _ _ _ waiting => exact ⟨_, _, _, _, _, Store.holds_put (concluded_puts _ _ waiting)⟩
  | _ => trivial

section Found

variable {config : Config} {store : Store} {object : ObjectId} {value : Value}

theorem kept_outcome {builtin : Builtin} {form : Aggregate}
    {role : builtin.role = .aggregate form} {items : List ObjectId} {isSealed : Bool}
    {result : ObjectId} (idle : store.activity = .idle) (room : 0 < config.limit)
    (holds : store.Holds object (.aggregate role items isSealed (some result))) :
    (attributeOf config object valueAttribute).outcome store =
      (.ok result, (store.mark ⟨object, valueAttribute⟩).unmark ⟨object, valueAttribute⟩) := by
  have unmarked : ⟨object, valueAttribute⟩ ∉ store.activity.markers := by
    rw [idle]
    exact List.not_mem_nil
  have shallow : store.activity.depth < config.limit := by
    rw [idle]
    exact room
  rw [attribute_of_unfold, attribute_composite (slot_value holds),
    guarded_entered unmarked shallow, composite_kept rfl]
  rfl

/-- Everything that a chain has passed is further away than what it is at. -/
def Store.Passed (store : Store) (visited : List ObjectId) (steps : Nat) : Prop :=
  ∀ other ∈ visited, ∃ away, steps < away ∧ ∃ found, store.AtHand away other found

theorem not_passed {steps : Nat} {visited : List ObjectId}
    (atHand : store.AtHand steps object value) (passed : store.Passed visited steps) :
    object ∉ visited := by
  intro member
  obtain ⟨away, further, found, again⟩ := passed object member
  have same := at_hand_unique atHand again
  omega

theorem passed_cons {steps : Nat} {visited : List ObjectId}
    (atHand : store.AtHand (steps + 1) object value)
    (passed : store.Passed visited (steps + 1)) : store.Passed (object :: visited) steps := by
  intro other member
  rcases List.mem_cons.mp member with rfl | earlier
  · exact ⟨steps + 1, Nat.lt_succ_self steps, value, atHand⟩
  · obtain ⟨away, further, found⟩ := passed other earlier
    exact ⟨away, by omega, found⟩

theorem leaf_found {moves : Nat} {visited : List ObjectId} {current : Store}
    {evaluate : Evaluator} (held : current.leaf? object = some (.fixed value)) :
    ((follow evaluate config moves visited object).outcome current).1 = .ok value := by
  rw [follow_fixed held]

theorem leaf_same {current : Store} (same : current.objects = store.objects) :
    current.leaf? object = store.leaf? object := by
  simp only [Store.leaf?, Store.object?, same]

theorem follow_at_hand {steps moves : Nat} {visited : List ObjectId}
    (atHand : store.AtHand steps object value) (few : steps ≤ moves)
    (within : moves ≤ config.limit) (passed : store.Passed visited steps)
    {current : Store} (same : current.objects = store.objects)
    (idle : current.activity = .idle) :
    ((follow attributeOf config moves visited object).outcome current).1 = .ok value := by
  have fresh := not_passed atHand passed
  induction atHand generalizing moves visited current with
  | fixed held => exact leaf_found ((leaf_same same).trans held)
  | @produced object value data held content =>
      rw [follow_deferred ((leaf_same same).trans held)]
      simp only [Deferred.take, content]
  | @kept object result value builtin form role items isSealed holds held =>
      obtain ⟨moves, rfl⟩ := Nat.exists_eq_succ_of_ne_zero (Nat.ne_of_gt few)
      have now := (Store.holds_same same).mpr holds
      have steppedSame := stepped_objects config object valueAttribute current
      have steppedIdle := activity_invariance.keeps_stepped config object valueAttribute current
      have room : 0 < config.limit := by omega
      have demanded := kept_outcome (steppedIdle.trans idle) room
        ((Store.holds_same steppedSame).mpr now)
      rw [follow_step (Store.leaf_none_of_aggregate now) fresh (Store.way_aggregate now),
        outcome_bind_ok demanded]
      exact leaf_found ((leaf_same (steppedSame.trans same)).trans held)
  | @bound steps object target value builtin role holds atHand ih =>
      obtain ⟨moves, rfl⟩ := Nat.exists_eq_succ_of_ne_zero (Nat.ne_of_gt
        (Nat.lt_of_lt_of_le (Nat.succ_pos steps) few))
      have now := (Store.holds_same same).mpr holds
      have steppedSame := stepped_objects config object dataAttribute current
      have steppedIdle := activity_invariance.keeps_stepped config object dataAttribute current
      have demanded := data_outcome config ((Store.holds_same steppedSame).mpr now)
      have passedMore := passed_cons (.bound holds atHand) passed
      rw [follow_step (Store.leaf_none_of_datum now) fresh (Store.way_datum now),
        outcome_bind_ok demanded]
      exact ih (Nat.le_of_succ_le_succ few) (by omega) passedMore (steppedSame.trans same)
        (steppedIdle.trans idle) (not_passed atHand passedMore)

theorem resolve_at_hand {steps : Nat} (atHand : store.AtHand steps object value)
    (few : steps ≤ config.limit) (idle : store.activity = .idle) :
    ((resolve config object).outcome store).1 = .ok value := by
  have nothing : store.Passed [] steps := by
    intro other member
    cases member
  exact follow_at_hand atHand few (Nat.le_refl _) nothing rfl idle

end Found

theorem settled_reaches {store : Store} {object other : ObjectId} {value : Value}
    (settled : store.Settled object value) (path : store.graph.Reaches object other) :
    ∃ found, store.Settled other found := by
  induction path with
  | refl => exact ⟨value, settled⟩
  | tail _ demands ih =>
      obtain ⟨found, settledBefore⟩ := ih
      cases settledBefore with
      | fixed held | produced held _ =>
          cases demands_content (Store.holds_leaf.mpr held) demands
      | bound holds settled =>
          cases List.mem_singleton.mp (demands_content holds demands)
          exact ⟨_, settled⟩
      | aggregate holds settled _ _ =>
          obtain ⟨operand, member, rfl⟩ := List.mem_map.mp (demands_content holds demands)
          exact ⟨_, settled operand member⟩

theorem settled_sealed {store : Store} {object : ObjectId} {value : Value} {name : String}
    {items : List ObjectId} {isSealed : Bool} (settled : store.Settled object value)
    (slot : store.slot? object name = some (.variadic items isSealed)) : isSealed = true := by
  cases settled with
  | fixed held | produced held _ =>
      rw [Store.leaf_none_of_slot slot] at held
      cases held
  | bound holds _ =>
      rw [Store.holds_slot holds] at slot
      obtain ⟨_, _, _, _, same, _⟩ := Content.slot_variadic slot
      cases same
  | aggregate holds _ _ _ =>
      rw [Store.holds_slot holds] at slot
      obtain ⟨_, _, _, _, same, _⟩ := Content.slot_variadic slot
      cases same
      rfl

/-- A value found once is found for good, by every dataization under the same limits
after any operations on any objects; and whatever keeps a result is sealed, with
everything that is reached from it. -/
theorem found_values_are_permanent {deferring : Prop} {store : Store}
    (reachable : Reachable deferring store) :
    (∀ config object value after, store.Contains object →
        (resolve config object).outcome store = (.ok value, after) →
          ∀ later, Leads deferring after later →
            ((resolve config object).outcome later).1 = .ok value) ∧
      ∀ object slot, store.slot? object valueAttribute = some slot → slot.isComputed = true →
        ∀ other, store.graph.Reaches object other →
          ∀ name items isSealed, store.slot? other name = some (.variadic items isSealed) →
            isSealed = true := by
  have sound := reachable_sound reachable
  constructor
  · intro config object value after contained ran later leads
    have runs := resolve_runs sound contained ran
    obtain ⟨steps, few, atHand⟩ := runs_leave runs
    have grown := at_hand_grows (leads_keeps growth_invariance leads) atHand
    have idle := leads_keeps activity_invariance leads
    rw [runs_activity runs, reachable_idle reachable] at idle
    exact resolve_at_hand grown few idle
  · intro object slot found isComputed other path name items isSealed variadic
    obtain ⟨content, holds, shown⟩ := content_of_slot sound found
    cases slot with
    | free cell => cases isComputed
    | variadic => cases isComputed
    | composite rule cache =>
        obtain ⟨builtin, form, role, own, _, kept, rfl, _, rfl, rfl⟩ :=
          Content.slot_composite shown
        obtain ⟨result, rfl⟩ := Option.isSome_iff_exists.mp isComputed
        obtain ⟨value, _, settled⟩ := sound.kept holds
        obtain ⟨found, settledThere⟩ := settled_reaches settled path
        exact settled_sealed settledThere variadic

def Deferred.belated : Deferred Value :=
  .ofProducer (.ofEntries (.error (.undataizable "source")) [.ok (.int 3)]) "…"

def Store.belated : Store :=
  let first := (Store.empty.addLeaf (.fixed (.int 2))).2
  let second := (first.addLeaf (.deferred .belated)).2
  (run .default (Program.instantiateWith (.builtin .intAdd) operandAttribute
    [⟨0⟩, ⟨1⟩])).after second

theorem belated_reachable : Reachable True Store.belated := by
  have start : Reachable True .empty := .refl
  have leaves := reachable_deferred (reachable_leaf start (.int 2)) .belated
  have known : ∀ operand ∈ [⟨0⟩, ⟨1⟩], Store.Contains
      ((Store.empty.addLeaf (.fixed (.int 2))).2.addLeaf (.deferred .belated)).2 operand := by
    decide
  exact leaves.tail (.apply .intAdd known)

/-- Found at the second attempt, the sum takes no further operand and stays what it
is. -/
theorem belated_sum_stays :
    let failed := (resolve .default ⟨2⟩).after Store.belated
    let found := (resolve .default ⟨2⟩).after failed
    let later := (Store.tryBind
      (fun store => store.bind ⟨2⟩ operandAttribute ⟨0⟩) found).2
    Reachable True failed ∧
      (resolve .default ⟨2⟩).outcome failed = (.ok (.int 5), found) ∧
      Leads True found later ∧
      ((resolve .default ⟨2⟩).outcome later).1 = .ok (.int 5) := by
  intro failed found later
  have reachable : Reachable True failed := reachable_resolve belated_reachable .default ⟨2⟩
  have contained : failed.Contains ⟨2⟩ := by decide
  have value : ((resolve .default ⟨2⟩).outcome failed).1 = .ok (.int 5) := rfl
  have ran : (resolve .default ⟨2⟩).outcome failed = (.ok (.int 5), found) :=
    Prod.ext value rfl
  have known : found.Contains ⟨0⟩ := by decide
  have leads : Leads True found later := .single (operates_bind ⟨2⟩ operandAttribute known)
  have permanent := (found_values_are_permanent reachable).1 .default ⟨2⟩ (.int 5) found
    contained ran later leads
  exact ⟨reachable, ran, leads, permanent⟩

end ObjectCalculus
