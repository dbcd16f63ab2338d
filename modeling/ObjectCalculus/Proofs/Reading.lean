import ObjectCalculus.Store
import Mathlib.Data.List.Basic

/-!
# Reading a store after a change

What can be read of each object after a slot or a leaf has been replaced, or an
object added: the changed place reads as it was written and every other place as
before.
-/

set_option autoImplicit false

namespace ObjectCalculus

theorem object_id_ext {left right : ObjectId} (same : left.index = right.index) :
    left = right := by
  cases left
  cases right
  exact congrArg ObjectId.mk same

theorem position_entry {template : Template} {name : String} {position : Nat}
    (found : template.position? name = some position) :
    ∃ entry, template.attributes[position]? = some entry ∧ entry.1 = name := by
  obtain ⟨inside, named, _⟩ := List.findIdx?_eq_some_iff_getElem.mp found
  exact ⟨template.attributes[position], List.getElem?_eq_getElem inside, eq_of_beq named⟩

theorem position_injective {template : Template} {left right : String} {position : Nat}
    (leftFound : template.position? left = some position)
    (rightFound : template.position? right = some position) : left = right := by
  obtain ⟨leftEntry, leftAt, leftNamed⟩ := position_entry leftFound
  obtain ⟨rightEntry, rightAt, rightNamed⟩ := position_entry rightFound
  rw [leftAt] at rightAt
  cases rightAt
  exact leftNamed.symm.trans rightNamed

namespace Instance

variable {object : Instance} {name other : String} {old slot : Slot}

theorem slot_set_same (found : object.slot? name = some old) :
    (object.setSlot name slot).slot? name = some slot := by
  obtain ⟨position, placed, held⟩ := Option.bind_eq_some_iff.mp found
  have inside : position < object.slots.length := (List.getElem?_eq_some_iff.mp held).1
  have changed : object.setSlot name slot =
      { object with slots := object.slots.set position slot } := by
    simp [setSlot, placed]
  rw [changed]
  refine Option.bind_eq_some_iff.mpr ⟨position, placed, ?_⟩
  simp [inside]

theorem slot_set_other (different : other ≠ name) :
    (object.setSlot name slot).slot? other = object.slot? other := by
  unfold setSlot
  cases placed : object.template.position? name with
  | none => rfl
  | some position =>
      change ((object.template.position? other).bind fun p =>
        (object.slots.set position slot)[p]?) = object.slot? other
      unfold slot?
      cases otherPlaced : object.template.position? other with
      | none => rfl
      | some otherPosition =>
          have apart : position ≠ otherPosition := by
            rintro rfl
            exact different (position_injective otherPlaced placed)
          exact List.getElem?_set_ne apart

theorem set_slot_same (found : object.slot? name = some old) :
    object.setSlot name old = object := by
  obtain ⟨position, placed, held⟩ := Option.bind_eq_some_iff.mp found
  obtain ⟨inside, held⟩ := List.getElem?_eq_some_iff.mp held
  have changed : object.setSlot name old =
      { object with slots := object.slots.set position old } := by
    simp [setSlot, placed]
  rw [changed, ← held, List.set_getElem_self]

theorem slot_copy (object : Instance) (name : String) :
    object.copy.slot? name = (object.slot? name).map Slot.carry := by
  change ((object.template.position? name).bind fun position =>
    (object.slots.map Slot.carry)[position]?) = _
  unfold slot?
  cases object.template.position? name with
  | none => rfl
  | some position => exact List.getElem?_map

theorem slot_of_definition {definition : Definition}
    (found : (ofDefinition definition).slot? name = some slot) :
    ∃ entry ∈ definition.template.attributes, slot = .ofSpec entry.2 := by
  obtain ⟨position, _, held⟩ := Option.bind_eq_some_iff.mp found
  obtain ⟨entry, declared, same⟩ := Option.map_eq_some_iff.mp (List.getElem?_map.symm.trans held)
  exact ⟨entry, List.mem_of_getElem? declared, same.symm⟩

end Instance

theorem entry_of_lookup {α : Type} {entries : List (String × α)} {name : String} {value : α}
    (found : entries.lookup name = some value) : (name, value) ∈ entries := by
  obtain ⟨front, back, rfl, _⟩ := List.lookup_eq_some_iff.mp found
  exact List.mem_append_right front List.mem_cons_self

namespace Store

variable {store : Store} {object other : ObjectId} {name otherName : String}
  {old slot : Slot}

theorem object_modify (store : Store) (object other : ObjectId)
    (change : Object → Object) :
    (store.modifyObject object change).object? other =
      if other = object then (store.object? other).map change
      else store.object? other := by
  unfold modifyObject object?
  simp only [Array.getElem?_modify]
  by_cases same : other = object
  · simp [same]
  · have apart : object.index ≠ other.index := fun equal => same (object_id_ext equal.symm)
    simp [same, apart]

theorem object_same {before after : Store} (same : after.objects = before.objects)
    (object : ObjectId) : after.object? object = before.object? object := by
  unfold object?
  rw [same]

theorem slot_of_instance {found : Instance} (composed : store.instance? object = some found) :
    store.slot? object name = found.slot? name := by
  unfold instance? at composed
  split at composed
  · rename_i given
    cases composed
    simp [slot?, given, Object.slot?]
  · cases composed

theorem instance_of_slot (found : store.slot? object name = some slot) :
    ∃ composed, store.instance? object = some composed ∧
      composed.slot? name = some slot := by
  obtain ⟨holder, held, inside⟩ := Option.bind_eq_some_iff.mp found
  cases holder with
  | leaf leaf => cases inside
  | composed composed => exact ⟨composed, by simp [instance?, held], inside⟩

theorem leaf_none_of_slot (found : store.slot? object name = some slot) :
    store.leaf? object = none := by
  obtain ⟨holder, held, inside⟩ := Option.bind_eq_some_iff.mp found
  cases holder with
  | leaf leaf => cases inside
  | composed composed => simp [leaf?, held]

theorem slot_set_same (found : store.slot? object name = some old) :
    (store.setSlot object name slot).slot? object name = some slot := by
  obtain ⟨holder, held, inside⟩ := Option.bind_eq_some_iff.mp found
  cases holder with
  | leaf leaf => cases inside
  | composed composed =>
      unfold setSlot
      simp only [slot?, object_modify, held, if_true]
      exact Instance.slot_set_same inside

theorem slot_set_other (different : other ≠ object ∨ otherName ≠ name) :
    (store.setSlot object name slot).slot? other otherName =
      store.slot? other otherName := by
  unfold setSlot
  by_cases same : other = object
  · have named : otherName ≠ name := different.resolve_left fun apart => apart same
    simp only [slot?, object_modify, same, if_true]
    cases store.object? object with
    | none => rfl
    | some holder =>
        cases holder with
        | leaf leaf => rfl
        | composed composed => exact Instance.slot_set_other named
  · simp only [slot?, object_modify, same, if_false]

theorem modify_same {holder : Object} {change : Object → Object}
    (held : store.object? object = some holder) (same : change holder = holder) :
    store.modifyObject object change = store := by
  have objects : store.objects.modify object.index change = store.objects := by
    apply Array.ext_getElem?
    intro index
    rw [Array.getElem?_modify]
    split_ifs with hit
    · rw [← hit, show store.objects[object.index]? = some holder from held, Option.map_some, same]
    · rfl
  unfold modifyObject
  rw [objects]

theorem set_slot_same (found : store.slot? object name = some old) :
    store.setSlot object name old = store := by
  obtain ⟨holder, held, inside⟩ := Option.bind_eq_some_iff.mp found
  refine modify_same held ?_
  cases holder with
  | leaf leaf => cases inside
  | composed composed => exact congrArg Object.composed (Instance.set_slot_same inside)

theorem leaf_set_slot (store : Store) (object other : ObjectId) (name : String)
    (slot : Slot) : (store.setSlot object name slot).leaf? other = store.leaf? other := by
  unfold setSlot leaf?
  rw [object_modify]
  by_cases same : other = object
  · simp only [same, if_true]
    cases store.object? object with
    | none => rfl
    | some holder => cases holder <;> rfl
  · simp only [same, if_false]

theorem instance_set_slot (store : Store) (object other : ObjectId) (name : String)
    (slot : Slot) :
    (store.setSlot object name slot).instance? other =
      if other = object then (store.instance? other).map fun found => found.setSlot name slot
      else store.instance? other := by
  unfold setSlot instance?
  rw [object_modify]
  by_cases same : other = object
  · simp only [same, if_true]
    cases store.object? object with
    | none => rfl
    | some holder => cases holder <;> rfl
  · simp only [same, if_false]

theorem slot_set_leaf (store : Store) (object other : ObjectId) (leaf : Leaf) :
    (store.setLeaf object leaf).slot? other name = store.slot? other name := by
  unfold setLeaf slot?
  rw [object_modify]
  by_cases same : other = object
  · simp only [same, if_true]
    cases store.object? object with
    | none => rfl
    | some holder => cases holder <;> rfl
  · simp only [same, if_false]

theorem leaf_set_leaf (store : Store) (object other : ObjectId) (leaf : Leaf) :
    (store.setLeaf object leaf).leaf? other =
      if other = object then (store.leaf? other).map fun _ => leaf
      else store.leaf? other := by
  unfold setLeaf leaf?
  rw [object_modify]
  by_cases same : other = object
  · simp only [same, if_true]
    cases store.object? object with
    | none => rfl
    | some holder => cases holder <;> rfl
  · simp only [same, if_false]

theorem instance_set_leaf (store : Store) (object other : ObjectId) (leaf : Leaf) :
    (store.setLeaf object leaf).instance? other = store.instance? other := by
  unfold setLeaf instance?
  rw [object_modify]
  by_cases same : other = object
  · simp only [same, if_true]
    cases store.object? object with
    | none => rfl
    | some holder => cases holder <;> rfl
  · simp only [same, if_false]

theorem set_leaf_same {leaf : Leaf} (held : store.leaf? object = some leaf) :
    store.setLeaf object leaf = store := by
  have found : store.object? object = some (.leaf leaf) := by
    unfold leaf? at held
    split at held
    · cases held
      assumption
    · cases held
  exact modify_same found rfl

theorem object_add (store : Store) (added : Object) (other : ObjectId) :
    (store.add added).2.object? other =
      if other = store.nextId then some added else store.object? other := by
  simp only [add, object?, Array.getElem?_push]
  by_cases same : other = store.nextId
  · simp [same, nextId]
  · have apart : other.index ≠ store.objects.size :=
      fun equal => same (object_id_ext equal)
    simp [same, apart]

theorem object_next (store : Store) : store.object? store.nextId = none := by
  simp [object?, nextId]

theorem object_add_old {holder : Object} (added : Object)
    (held : store.object? other = some holder) :
    (store.add added).2.object? other = some holder := by
  rw [object_add, if_neg]
  · exact held
  · rintro rfl
    rw [object_next] at held
    cases held

theorem object_of_instance {found : Instance} :
    store.instance? object = some found ↔ store.object? object = some (.composed found) := by
  unfold instance?
  split <;> simp_all

theorem object_of_leaf {leaf : Leaf} :
    store.leaf? object = some leaf ↔ store.object? object = some (.leaf leaf) := by
  unfold leaf?
  split <;> simp_all

theorem instance_add_old {found : Instance} (added : Object)
    (composed : store.instance? other = some found) :
    (store.add added).2.instance? other = some found :=
  object_of_instance.mpr (object_add_old added (object_of_instance.mp composed))

theorem definition_cases {definition : Definition}
    (found : store.definition? name = some definition) :
    (name, definition) ∈ store.declared ∨ ∃ own : Builtin, definition = own.definition := by
  unfold definition? at found
  rcases Option.or_eq_some_iff.mp found with declared | ⟨_, builtin⟩
  · exact .inl (entry_of_lookup declared)
  · obtain ⟨own, _, rfl⟩ := Option.map_eq_some_iff.mp builtin
    exact .inr ⟨own, rfl⟩

theorem leaf_add_old {leaf : Leaf} (added : Object)
    (held : store.leaf? other = some leaf) :
    (store.add added).2.leaf? other = some leaf :=
  object_of_leaf.mpr (object_add_old added (object_of_leaf.mp held))

end Store

end ObjectCalculus
