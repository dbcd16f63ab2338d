import ObjectCalculus.Proofs.Graph

/-!
# Isolated instances

Every instance has slots of its own. A binding reads and changes one slot of one object,
so attempts on several objects, in whatever order they come, end for each of them as if
the others had not been made. A copy and a new instance are objects that were not there
before, and nothing that was there is changed by making them.
-/

set_option autoImplicit false

namespace ObjectCalculus

/-- An attempt to bind a value to an attribute, at its next position or at one that is
given. The value may be the object itself. -/
structure Binding where
  object : ObjectId
  name : String
  value : ObjectId
  index? : Option Nat

namespace Binding

def attempt (binding : Binding) : Store → Except BindError Unit × Store :=
  match binding.index? with
  | none => Store.tryBind fun store => store.bind binding.object binding.name binding.value
  | some index =>
      Store.tryBind fun store => store.bindAt binding.object binding.name index binding.value

/-- All attempts in order, each with its outcome. A failure does not end them. -/
def attemptAll : List Binding → Store → List (Binding × Except BindError Unit) × Store
  | [], store => ([], store)
  | binding :: rest, store =>
      let (result, after) := binding.attempt store
      let (results, last) := attemptAll rest after
      ((binding, result) :: results, last)

/-- What an attempt makes of the slot that it is made on. -/
def place (binding : Binding) (owner : String) (slot : Slot) : Except BindError Slot :=
  match binding.index? with
  | none => slot.bind owner binding.name binding.value
  | some index => slot.bindAt owner binding.name index binding.value

def event (binding : Binding) (owner : String) : Event :=
  match binding.index? with
  | none => .bound owner binding.name
  | some index => .boundAt owner binding.name index

variable {binding : Binding} {store left right : Store} {object : ObjectId}

theorem attempt_unknown (absent : store.slot? binding.object binding.name = none) :
    binding.attempt store =
      (.error (.unknownAttribute (store.label binding.object) binding.name), store) := by
  unfold attempt
  cases binding.index? <;>
    simp [Store.tryBind, Store.bind, Store.bindAt, Store.require, absent, Bind.bind, Except.bind]

theorem attempt_refused {slot : Slot} {failure : BindError}
    (found : store.slot? binding.object binding.name = some slot)
    (refused : binding.place (store.label binding.object) slot = .error failure) :
    binding.attempt store = (.error failure, store) := by
  unfold attempt
  unfold place at refused
  cases given : binding.index? <;>
    simp_all [Store.tryBind, Store.bind, Store.bindAt, Store.require, Bind.bind, Except.bind]

theorem attempt_bound {slot bound : Slot}
    (found : store.slot? binding.object binding.name = some slot)
    (placed : binding.place (store.label binding.object) slot = .ok bound) :
    binding.attempt store =
      (.ok (), (store.setSlot binding.object binding.name bound).record
        (binding.event (store.label binding.object))) := by
  unfold attempt event
  unfold place at placed
  cases given : binding.index? <;>
    simp_all [Store.tryBind, Store.bind, Store.bindAt, Store.require, Bind.bind, Except.bind,
      pure, Except.pure]

open Evaluation in
theorem bind_to_outcome (config : Config) {name : String} {value : ObjectId} {after : Store}
    (attempted : (Binding.mk object name value none).attempt store = (.ok (), after)) :
    (runProgram attributeOf config (Program.bindTo object name value)).outcome store =
      (.ok (), after) :=
  (run_ask attributeOf config (.bind object name value) store).trans
    (congrArg (fun outcome : Except BindError Unit × Store =>
      (outcome.1.mapError DataError.bind, outcome.2)) attempted)

theorem attempt_elsewhere (binding : Binding) (store : Store) (apart : object ≠ binding.object) :
    (binding.attempt store).2.object? object = store.object? object := by
  cases found : store.slot? binding.object binding.name with
  | none => rw [attempt_unknown found]
  | some slot =>
      cases placed : binding.place (store.label binding.object) slot with
      | error failure => rw [attempt_refused found placed]
      | ok bound =>
          rw [attempt_bound found placed]
          exact (Store.object_modify _ _ _ _).trans (if_neg apart)

/-- The object itself is all that an attempt on it reads. -/
theorem attempt_here (binding : Binding)
    (same : left.object? binding.object = right.object? binding.object) :
    (binding.attempt left).1 = (binding.attempt right).1 ∧
      (binding.attempt left).2.object? binding.object =
        (binding.attempt right).2.object? binding.object := by
  have slots : left.slot? binding.object binding.name =
      right.slot? binding.object binding.name := by
    unfold Store.slot?
    rw [same]
  have labels : left.label binding.object = right.label binding.object := by
    unfold Store.label Store.name
    rw [same]
  cases found : right.slot? binding.object binding.name with
  | none =>
      rw [attempt_unknown found, attempt_unknown (slots.trans found), labels]
      exact ⟨rfl, same⟩
  | some slot =>
      cases placed : binding.place (right.label binding.object) slot with
      | error failure =>
          rw [attempt_refused found placed,
            attempt_refused (slots.trans found) (labels ▸ placed)]
          exact ⟨rfl, same⟩
      | ok bound =>
          rw [attempt_bound found placed, attempt_bound (slots.trans found) (labels ▸ placed)]
          refine ⟨rfl, ?_⟩
          have changed (store : Store) :
              (store.setSlot binding.object binding.name bound).object? binding.object =
                (store.object? binding.object).map (Object.setSlot binding.name bound) :=
            (Store.object_modify _ _ _ _).trans (if_pos rfl)
          exact (changed left).trans ((congrArg _ same).trans (changed right).symm)

/-- What becomes of one object among attempts on many is what its own attempts make of
it. -/
theorem attempts_apart (bindings : List Binding)
    (same : left.object? object = right.object? object) :
    (attemptAll bindings left).1.filter (·.1.object = object) =
        (attemptAll (bindings.filter (·.object = object)) right).1 ∧
      (attemptAll bindings left).2.object? object =
        (attemptAll (bindings.filter (·.object = object)) right).2.object? object := by
  induction bindings generalizing left right with
  | nil => exact ⟨rfl, same⟩
  | cons binding rest ih =>
      by_cases here : binding.object = object
      · subst here
        obtain ⟨outcome, sameAfter⟩ := attempt_here binding same
        obtain ⟨outcomes, sameLast⟩ := ih sameAfter
        rw [List.filter_cons_of_pos (by simp)]
        refine ⟨?_, sameLast⟩
        simp only [attemptAll]
        rw [List.filter_cons_of_pos (by simp), outcomes, outcome]
      · have kept := (attempt_elsewhere binding left (Ne.symm here)).trans same
        obtain ⟨outcomes, sameLast⟩ := ih kept
        rw [List.filter_cons_of_neg (by simpa using here)]
        refine ⟨?_, sameLast⟩
        simp only [attemptAll]
        rw [List.filter_cons_of_neg (by simpa using here), outcomes]

end Binding

/-- The other instance has the same bindings in slots of its own: it is open again and has
computed nothing. -/
structure Instance.CarriesTo (original copied : Instance) : Prop where
  definition : copied.definition = original.definition
  length : copied.slots.length = original.slots.length
  free {name : String} {cell : Memo ObjectId} :
    original.slot? name = some (.free cell) → copied.slot? name = some (.free cell)
  variadic {name : String} {items : List ObjectId} {isSealed : Bool} :
    original.slot? name = some (.variadic items isSealed) →
      copied.slot? name = some (.variadic items false)
  uncached {name : String} {rule : Rule} :
    original.slot? name = some (.composite rule none) →
      copied.slot? name = some (.composite rule none)
  cached {name : String} {rule : Rule} {cell : Memo ObjectId} :
    original.slot? name = some (.composite rule (some cell)) →
      copied.slot? name = some (.composite rule (some .empty))

structure Instance.Blank (object : Instance) : Prop where
  free {name : String} {cell : Memo ObjectId} :
    object.slot? name = some (.free cell) → cell.content = none
  variadic {name : String} {items : List ObjectId} {isSealed : Bool} :
    object.slot? name = some (.variadic items isSealed) → items = [] ∧ isSealed = false
  composite {name : String} {rule : Rule} {cell : Memo ObjectId} :
    object.slot? name = some (.composite rule (some cell)) → cell.content = none

theorem copy_carries (object : Instance) : object.CarriesTo object.copy where
  definition := rfl
  length := List.length_map _
  free found := by rw [Instance.slot_copy, found]; rfl
  variadic found := by rw [Instance.slot_copy, found]; rfl
  uncached found := by rw [Instance.slot_copy, found]; rfl
  cached found := by rw [Instance.slot_copy, found]; rfl

theorem instance_blank (definition : Definition) : (Instance.ofDefinition definition).Blank where
  free found := by
    obtain ⟨⟨_, spec⟩, _, same⟩ := Instance.slot_of_definition found
    cases spec <;> cases same
    rfl
  variadic found := by
    obtain ⟨⟨_, spec⟩, _, same⟩ := Instance.slot_of_definition found
    cases spec <;> cases same
    exact ⟨rfl, rfl⟩
  composite found := by
    obtain ⟨⟨_, spec⟩, _, same⟩ := Instance.slot_of_definition found
    cases spec with
    | free | variadic => cases same
    | composite rule cached =>
        cases cached <;> cases same
        rfl

/-- The object was not there before, and whatever was there is as it was. -/
structure Store.Makes (before : Store) (made : ObjectId) (after : Store) : Prop where
  new : ¬before.Contains made
  others {other : ObjectId} : before.Contains other → after.object? other = before.object? other

section Makes

variable {store : Store} {object value : ObjectId} {name : String} {found : Instance} {slot : Slot}

theorem next_not_contained (store : Store) : ¬store.Contains store.nextId :=
  Nat.lt_irrefl store.objects.size

theorem makes_add (store : Store) (added : Object) :
    store.Makes store.nextId (store.add added).2 where
  new := next_not_contained store
  others {other} there := by
    rw [Store.object_add, if_neg]
    rintro rfl
    exact next_not_contained store there

theorem copy_outcome (composed : store.instance? object = some found) :
    store.copy object = (store.nextId, (store.add (.composed found.copy)).2) := by
  unfold Store.copy
  rw [composed]
  rfl

theorem extend_outcome (composed : store.instance? object = some found)
    (has : store.slot? object name = some slot) (value : ObjectId) :
    let copied := (store.add (.composed found.copy)).2
    let binding : Binding := ⟨store.nextId, name, value, none⟩
    store.extend object name value =
      ((binding.attempt copied).1.map fun _ => store.nextId, (binding.attempt copied).2) := by
  intro copied binding
  have attempted : binding.attempt copied =
      Store.tryBind (fun store => store.bind binding.object name value) copied := rfl
  rw [attempted]
  simp only [Store.extend, Store.require, has, copy_outcome composed, Store.tryBind]
  cases copied.bind binding.object name value <;> rfl

theorem extend_made {made : ObjectId} (composed : store.instance? object = some found)
    (has : store.slot? object name = some slot)
    (succeeded : (store.extend object name value).1 = .ok made) : made = store.nextId := by
  rw [extend_outcome composed has value] at succeeded
  revert succeeded
  cases (Binding.attempt ⟨store.nextId, name, value, none⟩
      (store.add (.composed found.copy)).2).1 with
  | error failure => intro succeeded; cases succeeded
  | ok bound => intro succeeded; cases succeeded; rfl

theorem makes_extend (composed : store.instance? object = some found)
    (has : store.slot? object name = some slot) (value : ObjectId) :
    store.Makes store.nextId (store.extend object name value).2 where
  new := next_not_contained store
  others {other} there := by
    have apart : other ≠ store.nextId := by
      rintro rfl
      exact next_not_contained store there
    rw [extend_outcome composed has value]
    exact (Binding.attempt_elsewhere _ _ apart).trans ((makes_add store _).others there)

theorem instance_added (store : Store) (added : Instance) :
    (store.add (.composed added)).2.instance? store.nextId = some added := by
  unfold Store.instance?
  rw [Store.object_add, if_pos rfl]

end Makes

/-- No attempt on another object is noticed by an object, in its outcomes or in its slots,
and every way of making an instance makes one that was not there before. -/
theorem instances_are_isolated (store : Store) :
    (∀ (bindings : List Binding) (object : ObjectId),
      let own := bindings.filter (·.object = object)
      (Binding.attemptAll bindings store).1.filter (·.1.object = object) =
          (Binding.attemptAll own store).1 ∧
        (Binding.attemptAll bindings store).2.object? object =
          (Binding.attemptAll own store).2.object? object) ∧
    (∀ (object : ObjectId) (found : Instance), store.instance? object = some found →
      let copy := store.copy object
      store.Makes copy.1 copy.2 ∧
        ∃ copied, copy.2.instance? copy.1 = some copied ∧ found.CarriesTo copied) ∧
    (∀ (object value : ObjectId) (name : String) (found : Instance),
      store.instance? object = some found →
      let extension := store.extend object name value
      (∀ made, extension.1 = .ok made → store.Makes made extension.2) ∧
        ∀ other, store.Contains other → extension.2.object? other = store.object? other) ∧
    ∀ definition : Definition,
      let instantiated := store.instantiate definition
      store.Makes instantiated.1 instantiated.2 ∧
        ∃ found, instantiated.2.instance? instantiated.1 = some found ∧
          found.definition = definition ∧ found.Blank := by
  refine ⟨fun bindings object => Binding.attempts_apart bindings rfl, ?copied, ?extended, ?fresh⟩
  case copied =>
    intro object found composed copy
    have copies : copy = (store.nextId, (store.add (.composed found.copy)).2) :=
      copy_outcome composed
    rw [copies]
    exact ⟨makes_add store _, found.copy, instance_added store _, copy_carries found⟩
  case extended =>
    intro object value name found composed extension
    cases has : store.slot? object name with
    | none =>
        have refused : extension =
            (.error (.unknownAttribute (store.label object) name), store) := by
          simp only [extension, Store.extend, Store.require, has]
        rw [refused]
        exact ⟨fun _ made => (nomatch made), fun _ _ => rfl⟩
    | some slot =>
        have makes := makes_extend composed has value
        exact ⟨fun made succeeded => extend_made composed has succeeded ▸ makes,
          fun _ => makes.others⟩
  case fresh =>
    intro definition
    exact ⟨⟨next_not_contained store, (makes_add store _).others⟩, _, instance_added store _,
      rfl, instance_blank definition⟩

/-- A sum of nothing, as the first object, and its copy as the second. -/
def Store.paired : Store :=
  ((Store.empty.instantiate Builtin.intAdd.definition).2.copy ⟨0⟩).2

/-- The sum takes its copy as its first operand and the copy takes itself; that the sum has
no second position free and the copy no value to bind is no concern of the other. -/
def crossed : List Binding :=
  [⟨⟨0⟩, operandAttribute, ⟨1⟩, none⟩, ⟨⟨1⟩, operandAttribute, ⟨1⟩, some 0⟩,
    ⟨⟨0⟩, operandAttribute, ⟨0⟩, some 2⟩, ⟨⟨1⟩, valueAttribute, ⟨0⟩, none⟩]

theorem paired_bind_apart :
    let lone := (Store.empty.instantiate Builtin.intAdd.definition).2
    let own := crossed.filter (·.object = ⟨0⟩)
    lone.Makes ⟨1⟩ Store.paired ∧
      (Binding.attemptAll crossed Store.paired).1.map Prod.snd =
        [.ok (), .ok (), .error (.positionGap operandAttribute 2 1),
          .error (.notBindable valueAttribute)] ∧
      (Binding.attemptAll own Store.paired).1.map Prod.snd =
        [.ok (), .error (.positionGap operandAttribute 2 1)] ∧
      (Binding.attemptAll crossed Store.paired).2.object? ⟨0⟩ =
        (Binding.attemptAll own Store.paired).2.object? ⟨0⟩ := by
  intro lone own
  exact ⟨((instances_are_isolated lone).2.1 ⟨0⟩ _ rfl).1, rfl, rfl,
    ((instances_are_isolated Store.paired).1 crossed ⟨0⟩).2⟩

end ObjectCalculus
