import ObjectCalculus.Proofs.Attempts

/-!
# Building by order and by position

A value bound to an attribute goes to its next position, so that giving that position as well
makes no difference. A new instance can therefore be given its items one by one in order, by
their positions, or in any mixture of the two, and has them all in the end.
-/

set_option autoImplicit false

namespace ObjectCalculus

open Effect Evaluation

/-- Where a value comes next. Only a sequence has another position than the first. -/
def Slot.next : Slot → Nat
  | .free _ => 0
  | .variadic items _ => items.length
  | .composite .. => 0

theorem bind_at_next (owner name : String) (value : ObjectId) (slot : Slot) :
    slot.bindAt owner name slot.next value = slot.bind owner name value := by
  cases slot with
  | free cell => rfl
  | variadic items isSealed => cases isSealed <;> simp [Slot.bindAt, Slot.bind, Slot.next]
  | composite => rfl

/-- Where the attribute takes its next value. Where there is no such attribute any position is as
good as another. -/
def Store.nextPosition (store : Store) (object : ObjectId) (name : String) : Nat :=
  match store.slot? object name with
  | some slot => slot.next
  | none => 0

namespace Binding

/-- The attempts have one outcome. They leave the same but for what they report, or nothing. -/
inductive Agrees (left right : Binding) (store : Store) : Prop
  | bound (after : Store)
      (first : left.attempt store =
        (.ok (), after.record (left.event (store.label left.object))))
      (second : right.attempt store =
        (.ok (), after.record (right.event (store.label right.object))))
  | refused (failure : BindError)
      (first : left.attempt store = (.error failure, store))
      (second : right.attempt store = (.error failure, store))

theorem next_agrees (object : ObjectId) (name : String) (value : ObjectId) (store : Store) :
    (Binding.mk object name value none).Agrees
      ⟨object, name, value, some (store.nextPosition object name)⟩ store := by
  cases found : store.slot? object name with
  | none => exact .refused _ (attempt_unknown found) (attempt_unknown found)
  | some slot =>
      have position : store.nextPosition object name = slot.next := by
        simp only [Store.nextPosition, found]
      have same := bind_at_next (store.label object) name value slot
      rw [position]
      cases placed : slot.bind (store.label object) name value with
      | error failure =>
          exact .refused failure (attempt_refused found placed)
            (attempt_refused found (same.trans placed))
      | ok bound =>
          exact .bound _ (attempt_bound found placed) (attempt_bound found (same.trans placed))

/-- An attempt for each value in turn, which says at what position the value comes where that is
to be given. -/
def inOrder (object : ObjectId) (name : String) (given : Nat → Bool) (values : List ObjectId)
    (start : Nat) : List Binding :=
  (values.zipIdx start).map fun entry =>
    ⟨object, name, entry.1, if given entry.2 then some entry.2 else none⟩

end Binding

section Instances

variable {definition : Definition} {name : String}

theorem slot_fresh (definition : Definition) (name : String) :
    (Instance.ofDefinition definition).slot? name =
      (definition.template.spec? name).map Slot.ofSpec := by
  change ((definition.template.position? name).bind fun position =>
    (definition.template.attributes.map fun entry => Slot.ofSpec entry.2)[position]?) = _
  unfold Template.spec?
  cases definition.template.position? name with
  | none => rfl
  | some position =>
      simp only [Option.bind_some, List.getElem?_map, Option.bind_eq_bind]
      cases definition.template.attributes[position]? <;> rfl

theorem set_slot_again (object : Instance) (first second : Slot) :
    (object.setSlot name first).setSlot name second = object.setSlot name second := by
  cases placed : object.template.position? name with
  | none => simp [Instance.setSlot, placed]
  | some position =>
      have kept : (object.setSlot name first).template.position? name = some position := by
        simp only [Instance.setSlot, placed]
        exact placed
      simp only [Instance.setSlot, placed] at kept ⊢
      simp only [kept, List.set_set]

end Instances

/-- The store has one more object, an instance with the items in the one attribute and nothing
in any other. -/
structure Store.Builds (before : Store) (definition : Definition) (name : String)
    (items : List ObjectId) (after : Store) : Prop where
  made : after.instance? before.nextId =
    some ((Instance.ofDefinition definition).setSlot name (.variadic items false))
  read : after.slot? before.nextId name = some (.variadic items false)
  others {other : ObjectId} :
    other ≠ before.nextId → after.object? other = before.object? other
  size : after.objects.size = before.objects.size + 1

section Builds

variable {before after store : Store} {definition : Definition} {name : String}
  {items : List ObjectId}

theorem builds_fresh (before : Store)
    (declared : definition.template.spec? name = some .variadic) :
    before.Builds definition name [] (before.instantiate definition).2 := by
  have instanced : (before.instantiate definition).2.instance? before.nextId =
      some (.ofDefinition definition) := instance_added before _
  have empty : (Instance.ofDefinition definition).slot? name = some (.variadic [] false) := by
    rw [slot_fresh, declared]
    rfl
  refine ⟨?_, ?_, fun apart => (Store.object_add before _ _).trans (if_neg apart),
    Array.size_push _⟩
  · rw [Instance.set_slot_same empty]
    exact instanced
  · rw [Store.slot_of_instance instanced]
    exact empty

/-- One more value comes behind the others, whether or not its position is given. -/
theorem builds_step (builds : before.Builds definition name items store) (value : ObjectId)
    {index? : Option Nat} (next : ∀ index ∈ index?, index = items.length) :
    ∃ after, (Binding.mk before.nextId name value index?).attempt store = (.ok (), after) ∧
      before.Builds definition name (items ++ [value]) after := by
  let binding : Binding := ⟨before.nextId, name, value, index?⟩
  have placed : binding.place (store.label before.nextId) (.variadic items false) =
      .ok (.variadic (items ++ [value]) false) :=
    Binding.place_iff.mpr ⟨⟨rfl, next⟩, rfl⟩
  refine ⟨_, Binding.attempt_bound builds.read placed, ?_, Store.slot_set_same builds.read,
    fun apart => ?_, Array.size_modify.trans builds.size⟩
  · refine (Store.instance_set_slot _ _ _ _ _).trans ?_
    rw [if_pos rfl, builds.made, Option.map_some, set_slot_again]
  · exact ((Store.object_modify _ _ _ _).trans (if_neg apart)).trans (builds.others apart)

theorem builds_all (values : List ObjectId) (given : Nat → Bool)
    (builds : before.Builds definition name items store) :
    let built := Binding.attemptAll
      (Binding.inOrder before.nextId name given values items.length) store
    (∀ attempt ∈ built.1, attempt.2 = .ok ()) ∧
      before.Builds definition name (items ++ values) built.2 := by
  induction values generalizing items store with
  | nil =>
      rw [List.append_nil]
      exact ⟨List.forall_mem_nil _, builds⟩
  | cons value rest ih =>
      obtain ⟨after, bound, one⟩ := builds_step builds value
        (show ∀ index ∈ (if given items.length then some items.length else none),
          index = items.length by split <;> simp)
      obtain ⟨succeeded, all⟩ := ih one
      rw [List.length_append, List.length_singleton] at succeeded all
      rw [List.append_assoc, List.singleton_append] at all
      simp only [Binding.inOrder, List.zipIdx_cons, List.map_cons, Binding.attemptAll, bound]
      exact ⟨List.forall_mem_cons.mpr ⟨rfl, succeeded⟩, all⟩

end Builds

def Store.referred? (store : Store) : TemplateRef → Option Definition
  | .builtin builtin => some builtin.definition
  | .named name => store.definition? name

section Programs

variable {store : Store} {definition : Definition} {name : String} {template : TemplateRef}

theorem instantiate_referred (config : Config)
    (refers : store.referred? template = some definition) :
    (runProgram attributeOf config (Program.instantiate template)).outcome store =
      (.ok store.nextId, (store.instantiate definition).2) := by
  refine (run_ask attributeOf config (.instantiate template) store).trans ?_
  cases template with
  | builtin builtin =>
      cases refers
      rfl
  | named title =>
      have known : store.definition? title = some definition := refers
      change (instantiate (.named title)).outcome store = _
      simp only [instantiate, outcome_of_store, known]
      rfl

theorem bind_all_attempts (config : Config) (object : ObjectId) (name : String)
    (values : List ObjectId) (start : Nat) (store : Store)
    (succeeded : ∀ attempt ∈ (Binding.attemptAll
      (Binding.inOrder object name (fun _ => false) values start) store).1, attempt.2 = .ok ()) :
    (runProgram attributeOf config (Program.bindAll object name values)).outcome store =
      (.ok (), (Binding.attemptAll
        (Binding.inOrder object name (fun _ => false) values start) store).2) := by
  induction values generalizing start store with
  | nil => exact run_done attributeOf config (.ok ()) store
  | cons value rest ih =>
      simp only [Binding.inOrder, List.zipIdx_cons, List.map_cons, Binding.attemptAll,
        List.forall_mem_cons] at succeeded ⊢
      obtain ⟨first, others⟩ := succeeded
      have attempted : (Binding.mk object name value none).attempt store =
          (.ok (), ((Binding.mk object name value none).attempt store).2) := Prod.ext first rfl
      rw [Program.bindAll, run_bind, outcome_bind_ok (Binding.bind_to_outcome config attempted)]
      exact ih (start + 1) _ others

theorem instantiate_with_builds (config : Config)
    (declared : definition.template.spec? name = some .variadic)
    (refers : store.referred? template = some definition) (values : List ObjectId) :
    ∃ after, (run config (Program.instantiateWith template name values)).outcome store =
        (.ok store.nextId, after) ∧ store.Builds definition name values after := by
  obtain ⟨succeeded, built⟩ := builds_all values (fun _ => false) (builds_fresh store declared)
  refine ⟨_, ?_, built⟩
  rw [run, Program.instantiateWith, run_bind,
    outcome_bind_ok (instantiate_referred config refers), run_bind,
    outcome_bind_ok (bind_all_attempts config store.nextId name values _ _ succeeded)]
  exact run_done attributeOf config (.ok store.nextId) _

end Programs

/-- To bind a value is to bind it at the next position: the two succeed or fail alike and leave
the same, but for what they report. So values can be given to a new instance in order, by their
positions or in any mixture, and an operator can be applied to them or an array made of them:
it all succeeds, and the instance has just these items in this order. -/
theorem order_and_position_agree (store : Store) :
    (∀ (object : ObjectId) (name : String) (value : ObjectId),
      (Binding.mk object name value none).Agrees
        ⟨object, name, value, some (store.nextPosition object name)⟩ store) ∧
    (∀ (definition : Definition) (name : String) (values : List ObjectId),
      definition.template.spec? name = some .variadic →
        (∀ given : Nat → Bool,
          let made := store.instantiate definition
          let built := Binding.attemptAll (Binding.inOrder made.1 name given values 0) made.2
          (∀ attempt ∈ built.1, attempt.2 = .ok ()) ∧
            store.Builds definition name values built.2) ∧
        ∀ (config : Config) (template : TemplateRef),
          store.referred? template = some definition →
            ∃ after, (run config (Program.instantiateWith template name values)).outcome store =
                (.ok store.nextId, after) ∧ store.Builds definition name values after) ∧
    ∀ (config : Config) (elements : List ObjectId),
      ∃ after, (run config (Program.instantiateWith (.builtin .array) elementAttribute
          elements)).outcome store = (.ok store.nextId, after) ∧
        store.Builds Builtin.array.definition elementAttribute elements after := by
  refine ⟨fun object name value => Binding.next_agrees object name value store, ?_, ?_⟩
  · intro definition name values declared
    exact ⟨fun given => builds_all values given (builds_fresh store declared),
      fun config template refers => instantiate_with_builds config declared refers values⟩
  · intro config elements
    exact instantiate_with_builds config rfl rfl elements

/-- A new sum takes one of two sums twice and then the other, the middle one by its position,
and the second operand of a sum that has been read is refused either way. -/
theorem read_paired_built :
    let values : List ObjectId := [⟨1⟩, ⟨1⟩, ⟨0⟩]
    let made := Store.readPaired.instantiate Builtin.intAdd.definition
    let bindings := Binding.inOrder made.1 operandAttribute (· == 1) values 0
    let built := Binding.attemptAll bindings made.2
    bindings.map Binding.index? = [none, some 1, none] ∧
      Builtin.intAdd.template.spec? operandAttribute = some .variadic ∧
      (∀ attempt ∈ built.1, attempt.2 = .ok ()) ∧
      built.2.slot? ⟨2⟩ operandAttribute = some (.variadic values false) ∧
      (∃ after, (run .default (Program.instantiateWith (.builtin .intAdd) operandAttribute
          values)).outcome Store.readPaired = (.ok ⟨2⟩, after) ∧
        after.slot? ⟨2⟩ operandAttribute = some (.variadic values false)) := by
  intro values made bindings built
  obtain ⟨_, built, _⟩ := order_and_position_agree Store.readPaired
  obtain ⟨mixed, applied⟩ := built Builtin.intAdd.definition operandAttribute values rfl
  obtain ⟨succeeded, builds⟩ := mixed (· == 1)
  obtain ⟨after, outcome, alike⟩ := applied .default (.builtin .intAdd) rfl
  exact ⟨rfl, rfl, succeeded, builds.read, after, outcome, alike.read⟩

end ObjectCalculus
