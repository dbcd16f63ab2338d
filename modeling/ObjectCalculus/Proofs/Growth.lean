import ObjectCalculus.Proofs.Activity

/-!
# Growth

A store only ever grows: objects stay, with their templates; what is bound stays
bound, sequences are only extended and not even that once they are sealed, and
what has been computed or produced is kept. Every write grows the store, and so
does every evaluation, whatever its rules do.
-/

set_option autoImplicit false

namespace ObjectCalculus

variable {α : Type}

def Memo.Grows (before after : Memo α) : Prop :=
  ∀ value, before.content = some value → after.content = some value

theorem memo_grows_refl (cell : Memo α) : cell.Grows cell :=
  fun _ content => content

theorem memo_grows_empty {before after : Memo α} (empty : before.content = none) :
    before.Grows after := by
  intro value content
  rw [empty] at content
  cases content

inductive Slot.Grows : Slot → Slot → Prop
  | free {before after : Memo ObjectId} (cell : before.Grows after) :
      Grows (.free before) (.free after)
  | variadic {items more : List ObjectId} {isSealed staysSealed : Bool}
      (extended : items <+: more)
      (closed : isSealed = true → more = items ∧ staysSealed = true) :
      Grows (.variadic items isSealed) (.variadic more staysSealed)
  | uncached (rule : Rule) : Grows (.composite rule none) (.composite rule none)
  | cached (rule : Rule) {before after : Memo ObjectId} (cell : before.Grows after) :
      Grows (.composite rule (some before)) (.composite rule (some after))

theorem slot_grows_refl (slot : Slot) : slot.Grows slot := by
  cases slot with
  | free cell => exact .free (memo_grows_refl cell)
  | variadic items isSealed => exact .variadic List.prefix_rfl fun closed => ⟨rfl, closed⟩
  | composite rule cache =>
      cases cache with
      | none => exact .uncached rule
      | some cell => exact .cached rule (memo_grows_refl cell)

theorem slot_grows_trans {first second third : Slot} (start : first.Grows second)
    (rest : second.Grows third) : first.Grows third := by
  cases start with
  | free cell =>
      cases rest with
      | free next => exact .free fun value content => next value (cell value content)
  | variadic extended closed =>
      cases rest with
      | variadic further closedFurther =>
          refine .variadic (extended.trans further) fun isSealed => ?_
          obtain ⟨same, stays⟩ := closed isSealed
          obtain ⟨sameFurther, staysFurther⟩ := closedFurther stays
          exact ⟨sameFurther.trans same, staysFurther⟩
  | uncached rule => exact rest
  | cached rule cell =>
      cases rest with
      | cached _ next => exact .cached rule fun value content => next value (cell value content)

inductive Leaf.Grows : Leaf → Leaf → Prop
  | fixed (value : Value) : Grows (.fixed value) (.fixed value)
  | deferred {before after : Deferred Value} (cell : before.cell.Grows after.cell)
      (blank : after.blank = before.blank) : Grows (.deferred before) (.deferred after)

theorem leaf_grows_refl (leaf : Leaf) : leaf.Grows leaf := by
  cases leaf with
  | fixed value => exact .fixed value
  | deferred data => exact .deferred (memo_grows_refl _) rfl

theorem leaf_grows_trans {first second third : Leaf} (start : first.Grows second)
    (rest : second.Grows third) : first.Grows third := by
  cases start with
  | fixed value => exact rest
  | deferred cell blank =>
      cases rest with
      | deferred next blankNext =>
          exact .deferred (fun value content => next value (cell value content))
            (blankNext.trans blank)

theorem leaf_grows_take (data : Deferred Value) :
    Leaf.Grows (.deferred data) (.deferred data.take.2) := by
  cases content : data.cell.content with
  | some value =>
      have taken : data.take.2 = data := by
        unfold Deferred.take
        rw [content]
      rw [taken]
      exact leaf_grows_refl _
  | none =>
      refine .deferred (memo_grows_empty content) ?_
      unfold Deferred.take
      rw [content]
      rcases data.source.run with ⟨result, left⟩
      cases result <;> rfl

structure Instance.Grows (before after : Instance) : Prop where
  definition : after.definition = before.definition
  length : after.slots.length = before.slots.length
  slots {position : Nat} {slot : Slot} : before.slots[position]? = some slot →
    ∃ grown, after.slots[position]? = some grown ∧ slot.Grows grown

theorem instance_grows_refl (object : Instance) : object.Grows object where
  definition := rfl
  length := rfl
  slots held := ⟨_, held, slot_grows_refl _⟩

theorem instance_grows_trans {first second third : Instance} (start : first.Grows second)
    (rest : second.Grows third) : first.Grows third where
  definition := rest.definition.trans start.definition
  length := rest.length.trans start.length
  slots held := by
    obtain ⟨middle, heldMiddle, grown⟩ := start.slots held
    obtain ⟨last, heldLast, further⟩ := rest.slots heldMiddle
    exact ⟨last, heldLast, slot_grows_trans grown further⟩

theorem instance_grows_set {object : Instance} {name : String} {old new : Slot}
    (found : object.slot? name = some old) (grown : old.Grows new) :
    object.Grows (object.setSlot name new) := by
  obtain ⟨position, placed, held⟩ := Option.bind_eq_some_iff.mp found
  have changed : object.setSlot name new =
      { object with slots := object.slots.set position new } := by
    simp [Instance.setSlot, placed]
  rw [changed]
  refine ⟨rfl, List.length_set, ?_⟩
  intro other slot heldOther
  by_cases same : position = other
  · subst same
    rw [held] at heldOther
    cases heldOther
    have inside := (List.getElem?_eq_some_iff.mp held).1
    exact ⟨new, by simp [inside], grown⟩
  · exact ⟨slot, by simpa [List.getElem?_set_ne same] using heldOther, slot_grows_refl slot⟩

theorem instance_grows_slot {before after : Instance} {name : String} {slot : Slot}
    (grows : before.Grows after) (found : before.slot? name = some slot) :
    ∃ grown, after.slot? name = some grown ∧ slot.Grows grown := by
  obtain ⟨position, placed, held⟩ := Option.bind_eq_some_iff.mp found
  obtain ⟨grown, heldAfter, growth⟩ := grows.slots held
  have placedAfter : after.template.position? name = some position := by
    rw [Instance.template, grows.definition]
    exact placed
  exact ⟨grown, Option.bind_eq_some_iff.mpr ⟨position, placedAfter, heldAfter⟩, growth⟩

structure Store.Grows (before after : Store) : Prop where
  size : before.objects.size ≤ after.objects.size
  instances {object : ObjectId} {found : Instance} :
    before.instance? object = some found →
      ∃ grown, after.instance? object = some grown ∧ found.Grows grown
  leaves {object : ObjectId} {leaf : Leaf} :
    before.leaf? object = some leaf →
      ∃ grown, after.leaf? object = some grown ∧ leaf.Grows grown

theorem store_grows_refl (store : Store) : store.Grows store where
  size := Nat.le_refl _
  instances composed := ⟨_, composed, instance_grows_refl _⟩
  leaves held := ⟨_, held, leaf_grows_refl _⟩

theorem store_grows_trans {first second third : Store} (start : first.Grows second)
    (rest : second.Grows third) : first.Grows third where
  size := Nat.le_trans start.size rest.size
  instances composed := by
    obtain ⟨middle, composedMiddle, grown⟩ := start.instances composed
    obtain ⟨last, composedLast, further⟩ := rest.instances composedMiddle
    exact ⟨last, composedLast, instance_grows_trans grown further⟩
  leaves held := by
    obtain ⟨middle, heldMiddle, grown⟩ := start.leaves held
    obtain ⟨last, heldLast, further⟩ := rest.leaves heldMiddle
    exact ⟨last, heldLast, leaf_grows_trans grown further⟩

theorem store_grows_same {before after : Store} (same : after.objects = before.objects) :
    before.Grows after where
  size := Nat.le_of_eq (congrArg Array.size same.symm)
  instances {object found} composed := by
    refine ⟨found, ?_, instance_grows_refl found⟩
    simpa only [Store.instance?, Store.object?, same] using composed
  leaves {object leaf} held := by
    refine ⟨leaf, ?_, leaf_grows_refl leaf⟩
    simpa only [Store.leaf?, Store.object?, same] using held

theorem store_grows_add (store : Store) (added : Object) :
    store.Grows (store.add added).2 where
  size := by simp [Store.add]
  instances {object found} composed :=
    ⟨found, Store.instance_add_old added composed, instance_grows_refl found⟩
  leaves {object leaf} held := ⟨leaf, Store.leaf_add_old added held, leaf_grows_refl leaf⟩

theorem store_grows_set_slot {store : Store} {object : ObjectId} {name : String}
    {old new : Slot} (found : store.slot? object name = some old) (grown : old.Grows new) :
    store.Grows (store.setSlot object name new) where
  size := by simp [Store.setSlot, Store.modifyObject]
  instances {other composed} held := by
    rw [Store.instance_set_slot]
    by_cases same : other = object
    · subst same
      rw [if_pos rfl, held]
      rw [Store.slot_of_instance held] at found
      exact ⟨_, rfl, instance_grows_set found grown⟩
    · rw [if_neg same, held]
      exact ⟨_, rfl, instance_grows_refl composed⟩
  leaves {other leaf} held := by
    rw [Store.leaf_set_slot]
    exact ⟨leaf, held, leaf_grows_refl leaf⟩

theorem store_grows_set_leaf {store : Store} {object : ObjectId} {old new : Leaf}
    (found : store.leaf? object = some old) (grown : old.Grows new) :
    store.Grows (store.setLeaf object new) where
  size := by simp [Store.setLeaf, Store.modifyObject]
  instances {other composed} held := by
    rw [Store.instance_set_leaf]
    exact ⟨composed, held, instance_grows_refl composed⟩
  leaves {other leaf} held := by
    rw [Store.leaf_set_leaf]
    by_cases same : other = object
    · subst same
      rw [found] at held
      cases held
      rw [if_pos rfl, found]
      exact ⟨new, rfl, grown⟩
    · rw [if_neg same]
      exact ⟨leaf, held, leaf_grows_refl leaf⟩

theorem write_grows {supply : Supply} {before after : Store}
    (write : Write supply before after) : before.Grows after := by
  cases write with
  | recorded event => exact store_grows_same rfl
  | tallied counter => exact store_grows_same rfl
  | leaf supplied => exact store_grows_add _ _
  | instantiated supplied => exact store_grows_add _ _
  | copied composed => exact store_grows_add _ _
  | bound slot empty supplied =>
      exact store_grows_set_slot slot (.free (memo_grows_empty empty))
  | appended slot supplied =>
      refine store_grows_set_slot slot (.variadic (List.prefix_append _ _) ?_)
      intro closed
      cases closed
  | sealed slot =>
      exact store_grows_set_slot slot (.variadic List.prefix_rfl fun _ => ⟨rfl, rfl⟩)
  | taken leaf => exact store_grows_set_leaf leaf (leaf_grows_take _)

open Effect Evaluation in
theorem publish_grows (object : ObjectId) (name : String) (result : ObjectId)
    (store : Store) : store.Grows ((publish object name result).after store) := by
  unfold publish after
  rw [outcome_update]
  split
  · rename_i rule cell slot
    apply store_grows_set_slot slot
    apply Slot.Grows.cached
    cases content : cell.content with
    | none => exact memo_grows_empty content
    | some winner =>
        simp only [Memo.getOrSet, content]
        exact memo_grows_refl cell
  · exact store_grows_refl store

theorem mark_grows (store : Store) (marker : Marker) : store.Grows (store.mark marker) :=
  store_grows_same rfl

theorem unmark_grows (store : Store) (marker : Marker) :
    store.Grows (store.unmark marker) :=
  store_grows_same rfl

theorem growth_invariance : Invariance Store.Grows where
  refl := store_grows_refl
  trans := store_grows_trans
  written := write_grows
  left {marker store inner} _ grows :=
    store_grows_trans (store_grows_trans (mark_grows store marker) grows)
      (unmark_grows inner marker)
  published {marker store inner} result _ grows :=
    store_grows_trans
      (store_grows_trans (store_grows_trans (mark_grows store marker) grows)
        (publish_grows _ _ result inner))
      (unmark_grows _ marker)

section Reading

variable {before after : Store} {object : ObjectId} {name : String}

theorem grows_slot {slot : Slot} (grows : before.Grows after)
    (found : before.slot? object name = some slot) :
    ∃ grown, after.slot? object name = some grown ∧ slot.Grows grown := by
  obtain ⟨composed, held, inside⟩ := Store.instance_of_slot found
  obtain ⟨composedAfter, heldAfter, growth⟩ := grows.instances held
  obtain ⟨grown, insideAfter, slotGrowth⟩ := instance_grows_slot growth inside
  exact ⟨grown, (Store.slot_of_instance heldAfter).trans insideAfter, slotGrowth⟩

theorem grows_composite {rule : Rule} {cache : Option (Memo ObjectId)}
    (grows : before.Grows after)
    (found : before.slot? object name = some (.composite rule cache)) :
    ∃ grown, after.slot? object name = some (.composite rule grown) := by
  obtain ⟨slot, foundAfter, growth⟩ := grows_slot grows found
  cases growth with
  | uncached => exact ⟨none, foundAfter⟩
  | cached _ cell => exact ⟨_, foundAfter⟩

theorem name_grows {found : Object} (grows : before.Grows after)
    (held : before.object? object = some found) : after.name object = before.name object := by
  unfold Store.name
  cases found with
  | leaf data =>
      obtain ⟨grown, heldAfter, _⟩ := grows.leaves (Store.object_of_leaf.mpr held)
      rw [held, Store.object_of_leaf.mp heldAfter]
      rfl
  | composed found =>
      obtain ⟨grown, heldAfter, growth⟩ := grows.instances (Store.object_of_instance.mpr held)
      rw [held, Store.object_of_instance.mp heldAfter]
      exact congrArg (·.template.name) growth.definition

end Reading

end ObjectCalculus
