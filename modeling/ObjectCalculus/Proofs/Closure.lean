import ObjectCalculus.Proofs.Domain
import ObjectCalculus.Proofs.Honesty

/-!
# Closed stores

In a closed store every slot refers to objects that are there, and so do the rules of all slots
and of all templates that are declared. A call that refers to objects that are there leaves a
closed store and hands over objects that are there as well. So does whatever honest programs
make of such calls, at every moment on the way.
-/

set_option autoImplicit false

namespace ObjectCalculus

open Effect Evaluation

variable {α β : Type}

def Slot.targets : Slot → List ObjectId
  | .free cell => cell.content.toList
  | .variadic items _ => items
  | .composite _ cache => (cache.bind Memo.content).toList

structure Slot.Within (held : ObjectId → Prop) (slot : Slot) : Prop where
  targets : ∀ target ∈ slot.targets, held target
  rule {rule : Rule} {cache : Option (Memo ObjectId)} :
    slot = .composite rule cache → Rule.Honest held rule

section Slots

variable {held more : ObjectId → Prop} {slot : Slot}

theorem within_more (within : slot.Within held) (grows : ∀ object, held object → more object) :
    slot.Within more where
  targets target member := grows target (within.targets target member)
  rule same := honest_rule_more (within.rule same) grows

theorem within_fresh {spec : Spec} (honest : spec.Honest held) :
    (Slot.ofSpec spec).Within held := by
  cases spec with
  | free => exact ⟨nofun, nofun⟩
  | variadic => exact ⟨nofun, nofun⟩
  | composite rule cached =>
      refine ⟨fun target member => ?_, fun same => ?_⟩
      · cases cached <;> cases member
      · cases same
        exact honest

theorem within_carry (within : slot.Within held) : slot.carry.Within held := by
  cases slot with
  | free cell => exact within
  | variadic items isSealed => exact ⟨within.targets, nofun⟩
  | composite rule cache =>
      refine ⟨fun target member => ?_, fun same => ?_⟩
      · cases cache <;> cases member
      · cases same
        exact within.rule rfl

end Slots

structure Store.Closed (store : Store) : Prop where
  slots {object : ObjectId} {found : Instance} {slot : Slot} :
    store.instance? object = some found → slot ∈ found.slots → slot.Within store.Contains
  declared : ∀ entry ∈ store.declared, entry.2.template.Honest store.Contains

section Stores

variable {store before after : Store} {object value : ObjectId} {name : String} {slot : Slot}

theorem closed_empty : Store.empty.Closed where
  slots := nofun
  declared := nofun

theorem closed_same (closed : before.Closed) (objects : after.objects = before.objects)
    (declared : after.declared = before.declared) : after.Closed := by
  obtain ⟨slots, templates⟩ := closed
  have contains : after.Contains = before.Contains := by
    funext object
    unfold Store.Contains
    rw [objects]
  constructor
  · intro object found slot composed member
    rw [contains]
    refine slots (?_ : before.instance? object = some found) member
    rwa [Store.object_of_instance, ← Store.object_same objects, ← Store.object_of_instance]
  · rw [contains, declared]
    exact templates

theorem contains_set_slot :
    (store.setSlot object name slot).Contains value ↔ store.Contains value := by
  simp [Store.Contains, Store.setSlot, Store.modifyObject]

theorem slot_within (closed : store.Closed) (found : store.slot? object name = some slot) :
    slot.Within store.Contains := by
  obtain ⟨composed, held, inside⟩ := Store.instance_of_slot found
  obtain ⟨position, _, there⟩ := Option.bind_eq_some_iff.mp inside
  exact closed.slots held (List.mem_of_getElem? there)

theorem closed_set_slot (closed : store.Closed) (within : slot.Within store.Contains) :
    (store.setSlot object name slot).Closed where
  slots {other found held} composed member := by
    refine within_more ?_ fun _ => contains_set_slot.mpr
    rw [Store.instance_set_slot] at composed
    split_ifs at composed
    · obtain ⟨old, composedBefore, rfl⟩ := Option.map_eq_some_iff.mp composed
      unfold Instance.setSlot at member
      split at member
      · rcases List.mem_or_eq_of_mem_set member with kept | rfl
        · exact closed.slots composedBefore kept
        · exact within
      · exact closed.slots composedBefore member
    · exact closed.slots composed member
  declared entry member :=
    honest_template_more (closed.declared entry member) fun _ => contains_set_slot.mpr

theorem closed_set_leaf (closed : store.Closed) (leaf : Leaf) :
    (store.setLeaf object leaf).Closed := by
  have contains (other : ObjectId) : store.Contains other →
      (store.setLeaf object leaf).Contains other := by
    simp [Store.Contains, Store.setLeaf, Store.modifyObject]
  constructor
  · intro other found slot composed member
    rw [Store.instance_set_leaf] at composed
    exact within_more (closed.slots composed member) contains
  · exact fun entry member => honest_template_more (closed.declared entry member) contains

theorem closed_add {added : Object} (closed : store.Closed)
    (within : ∀ found, added = .composed found → ∀ slot ∈ found.slots,
      slot.Within store.Contains) : (store.add added).2.Closed := by
  have contains (other : ObjectId) (there : store.Contains other) :
      (store.add added).2.Contains other :=
    contains_grows there (store_grows_add store added)
  constructor
  · intro other found slot composed member
    refine within_more ?_ contains
    rw [Store.object_of_instance, Store.object_add] at composed
    split_ifs at composed
    · exact within found (Option.some.inj composed) slot member
    · exact closed.slots (Store.object_of_instance.mpr composed) member
  · exact fun entry member => honest_template_more (closed.declared entry member) contains

end Stores

/-- What calls may bring in that refer to nothing outside the store. -/
def Store.inHand (store : Store) : Supply where
  definition definition := definition.template.Honest store.Contains
  leaf _ := True
  value := store.Contains

section Writes

variable {store before after : Store} {supply : Supply} {request : Call}

theorem closed_write (closed : before.Closed) (grows : store.Grows before)
    (write : Write store.inHand before after) : after.Closed := by
  -- A call is made of several writes; what it brings in was there before the first of them.
  have known (object : ObjectId) (there : store.Contains object) : before.Contains object :=
    contains_grows there grows
  cases write with
  | recorded | tallied => exact closed_same closed rfl rfl
  | leaf => exact closed_add closed nofun
  | instantiated supplied =>
      apply closed_add closed
      intro found same slot member
      cases same
      obtain ⟨entry, declared, rfl⟩ := List.mem_map.mp member
      exact within_more (within_fresh (supplied entry declared)) known
  | copied composed =>
      apply closed_add closed
      intro found same slot member
      cases same
      obtain ⟨old, kept, rfl⟩ := List.mem_map.mp member
      exact within_carry (closed.slots composed kept)
  | bound _ _ supplied =>
      refine closed_set_slot closed ⟨fun target member => ?_, nofun⟩
      cases List.mem_singleton.mp member
      exact known _ supplied
  | appended slot supplied =>
      refine closed_set_slot closed ⟨fun target member => ?_, nofun⟩
      rcases List.mem_append.mp member with old | new
      · exact (slot_within closed slot).targets target old
      · cases List.mem_singleton.mp new
        exact known _ supplied
  | sealed slot => exact closed_set_slot closed ⟨(slot_within closed slot).targets, nofun⟩
  | taken => exact closed_set_leaf closed _

theorem closed_writes (closed : store.Closed) (writes : Writes store.inHand store after) :
    after.Closed := by
  suffices both : store.Grows after ∧ after.Closed from both.2
  induction writes with
  | refl => exact ⟨store_grows_refl store, closed⟩
  | tail _ write ih =>
      obtain ⟨grows, closed⟩ := ih
      exact ⟨store_grows_trans grows (write_grows write), closed_write closed grows write⟩

theorem closed_definition {definition : Definition} {name : String} (closed : store.Closed)
    (found : store.definition? name = some definition) :
    definition.template.Honest store.Contains := by
  rcases Store.definition_cases found with declared | ⟨own, rfl⟩
  · exact closed.declared _ declared
  · exact honest_builtin _ own

theorem call_in_hand (closed : store.Closed)
    (uses : ∀ object ∈ request.uses, store.Contains object) :
    request.Within store.inHand store := by
  cases request with
  | instantiate template =>
      cases template with
      | builtin builtin => exact honest_builtin _ builtin
      | named name => exact fun definition => closed_definition closed
  | extend | bind | bindAt => exact uses _ (List.mem_cons_of_mem _ List.mem_cons_self)
  | _ => trivial

end Writes

section Answers

variable {store : Store} {object value made : ObjectId} {name : String}

theorem contains_added (store : Store) (added : Object) :
    (store.add added).2.Contains (store.add added).1 := by
  simp [Store.Contains, Store.add, Store.nextId]

theorem contains_instantiated (store : Store) (definition : Definition) :
    (store.instantiate definition).2.Contains (store.instantiate definition).1 :=
  contains_added store (.composed (.ofDefinition definition))

theorem contains_named
    (made : ((Evaluation.instantiate (.named name)).outcome store).1 = .ok object) :
    ((Evaluation.instantiate (.named name)).after store).Contains object := by
  unfold Evaluation.instantiate at made
  unfold Evaluation.instantiate Effect.after
  rw [outcome_of_store] at made ⊢
  cases declared : store.definition? name with
  | none =>
      simp only [declared] at made
      cases made
  | some definition =>
      simp only [declared] at made ⊢
      cases made
      exact contains_instantiated store definition

theorem contains_copied (there : store.Contains object) :
    (store.copy object).2.Contains (store.copy object).1 := by
  unfold Store.copy
  split
  · exact contains_added _ _
  · exact there

theorem contains_extended (there : store.Contains object)
    (extended : (store.extend object name value).1 = .ok made) :
    (store.extend object name value).2.Contains made := by
  unfold Store.extend at extended ⊢
  cases required : store.require object name with
  | error failure =>
      simp only [required] at extended
      cases extended
  | ok slot =>
      cases success : (store.copy object).2.bind (store.copy object).1 name value with
      | error failure =>
          simp only [required, success] at extended
          cases extended
      | ok bound =>
          simp only [required, success] at extended ⊢
          cases extended
          have writes : Writes .all (store.copy object).2 bound := bind_writes trivial success
          exact contains_grows (contains_copied there) (growth_invariance.writes writes)

theorem contains_listed {items : List ObjectId} (closed : store.Closed)
    (read : (store.sequence object name).1 = .ok items) :
    ∀ item ∈ items, store.Contains item := by
  unfold Store.sequence at read
  split at read
  next slot =>
    cases read
    exact (slot_within closed slot).targets
  next cell slot =>
    split at read
    next item content =>
      cases read
      have within := (slot_within closed slot).targets
      rwa [Slot.targets, content] at within
    next => cases read
  all_goals cases read

end Answers

open Evaluation Effect in
theorem contains_handed {store : Store} {request : Call} {answer : request.Answer}
    (evaluate : Evaluator) (running : Config) (closed : store.Closed)
    (uses : ∀ object ∈ request.uses, store.Contains object) (direct : request.evaluates = false)
    (answered : ((perform evaluate running request).outcome store).1 = .ok answer) :
    ∀ object ∈ request.hands answer,
      ((perform evaluate running request).after store).Contains object := by
  have writes := perform_writes evaluate running (call_within_all store request) direct
  have grows := growth_invariance.writes writes
  cases request with
  | attributeOf | resolve => cases direct
  | sequence object name =>
      exact fun item member => contains_grows (contains_listed closed answered item member) grows
  | leaf value =>
      cases answered
      exact List.forall_mem_singleton.mpr (contains_added store _)
  | deferredLeaf data =>
      cases answered
      exact List.forall_mem_singleton.mpr (contains_added store _)
  | instantiate template =>
      refine List.forall_mem_singleton.mpr ?_
      cases template with
      | builtin builtin =>
          cases answered
          exact contains_instantiated store builtin.definition
      | named name => exact contains_named answered
  | copy object =>
      cases answered
      exact List.forall_mem_singleton.mpr (contains_copied (uses object List.mem_cons_self))
  | extend object name value =>
      refine List.forall_mem_singleton.mpr ?_
      apply contains_extended (uses object List.mem_cons_self)
      change (store.extend object name value).1.mapError DataError.bind = .ok answer at answered
      cases extended : (store.extend object name value).1 with
      | error failure =>
          rw [extended] at answered
          cases answered
      | ok made =>
          rw [extended] at answered
          cases answered
          rfl
  | _ => exact nofun

end ObjectCalculus
