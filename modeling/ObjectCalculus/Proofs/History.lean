import ObjectCalculus.Coercion
import ObjectCalculus.Proofs.Simulation
import ObjectCalculus.Proofs.Stack

/-!
# Histories

What can be done with built-in templates from outside, one operation after another,
whether it succeeds or fails. All stores that such a history leads to are sound, and
no evaluation is left under way in them.
-/

set_option autoImplicit false

namespace ObjectCalculus

open Effect Evaluation

variable {α β : Type} {deferring : Prop} {supply : Supply} {before after store : Store}

/-- The writes bring in built-in templates, leaves of the kind allowed and objects
that are there. -/
structure Supply.Fits (supply : Supply) (deferring : Prop) (store : Store) : Prop where
  definition {definition : Definition} :
    supply.definition definition → ∃ builtin : Builtin, definition = builtin.definition
  leaf {data : Leaf} : supply.leaf data → (∃ value, data = .fixed value) ∨ deferring
  value {object : ObjectId} : supply.value object → store.Contains object

theorem fits_grows (fits : supply.Fits deferring before) (grows : before.Grows after) :
    supply.Fits deferring after where
  definition := fits.definition
  leaf := fits.leaf
  value supplied := contains_grows (fits.value supplied) grows

/-- What is open keeps nothing: whatever keeps a result is sealed. -/
theorem open_keeps_nothing {object : ObjectId} {builtin : Builtin} {form : Aggregate}
    {role : builtin.role = .aggregate form} {items : List ObjectId} {cache : Option ObjectId}
    (sound : store.Sound deferring)
    (holds : store.Holds object (.aggregate role items false cache)) : cache = none := by
  cases cache with
  | none => rfl
  | some result =>
      obtain ⟨value, _, settled⟩ := sound.kept holds
      cases settled with
      | fixed held | produced held _ =>
          cases Store.holds_unique holds (Store.holds_leaf.mpr held)
      | bound other _ => cases Store.holds_unique holds other
      | aggregate other _ _ _ => cases Store.holds_unique holds other

theorem sound_added (sound : before.Sound deferring) (content : Content)
    (leaf : content.node = .leaf none → deferring)
    (closed : ∀ target ∈ content.node.targets, before.Contains target)
    (uncomputed : content.result? = none) : (before.add content.object).2.Sound deferring :=
  sound_put_uncomputed sound (Store.puts_add before content)
    (store_grows_add before content.object) leaf closed uncomputed

theorem sound_instantiated (sound : before.Sound deferring) (builtin : Builtin) :
    (before.add (.composed (.ofDefinition builtin.definition))).2.Sound deferring := by
  rw [← Content.object_fresh]
  have shown := node_fresh builtin
  refine sound_added sound (.fresh builtin) ?_ ?_ (Content.result_fresh builtin)
  · intro same
    rw [same] at shown
    rcases shown with datum | ⟨_, aggregate⟩
    · cases datum
    · cases aggregate
  · intro target wanted
    rcases shown with datum | ⟨_, aggregate⟩
    · rw [datum] at wanted
      cases wanted
    · rw [aggregate] at wanted
      cases wanted

theorem sound_copied {object : ObjectId} {found : Instance} (sound : before.Sound deferring)
    (composed : before.instance? object = some found) :
    (before.add (.composed found.copy)).2.Sound deferring := by
  obtain ⟨content, holds⟩ := sound.built (Store.object_of_instance.mp composed)
  have same : content.object = .composed found := by
    have held := Store.object_of_instance.mp composed
    rw [show before.object? object = _ from holds] at held
    exact Option.some.inj held
  rw [← Content.object_copy same]
  refine sound_added sound content.copy ?_ ?_ (Content.result_copy content)
  · intro shows
    rw [node_copy] at shows
    exact sound.leaves ⟨content, holds, shows⟩
  · intro target wanted
    rw [node_copy] at wanted
    exact sound.closed (demands_of_holds holds wanted)

theorem content_of_slot {object : ObjectId} {name : String} {slot : Slot}
    (sound : store.Sound deferring) (found : store.slot? object name = some slot) :
    ∃ content, store.Holds object content ∧ content.slot? name = some slot := by
  obtain ⟨composed, held, _⟩ := Store.instance_of_slot found
  obtain ⟨content, holds⟩ := sound.built (Store.object_of_instance.mp held)
  rw [Store.holds_slot holds] at found
  exact ⟨content, holds, found⟩

theorem sound_bound {object value : ObjectId} {name : String} {cell : Memo ObjectId}
    (sound : before.Sound deferring) (slot : before.slot? object name = some (.free cell))
    (empty : cell.content = none) (there : before.Contains value) :
    (before.setSlot object name (.free (.filled value))).Sound deferring := by
  have grows : before.Grows (before.setSlot object name (.free (.filled value))) :=
    store_grows_set_slot slot (.free (memo_grows_empty empty))
  obtain ⟨content, holds, shown⟩ := content_of_slot sound slot
  obtain ⟨builtin, role, rfl, rfl⟩ := Content.slot_free shown
  have puts := Store.puts_slot holds (Content.set_binding role _ (some value))
  refine sound_put_uncomputed sound puts grows ?_ ?_ rfl
  · intro same
    cases same
  · intro target wanted
    cases List.mem_singleton.mp wanted
    exact there

theorem sound_appended {object value : ObjectId} {name : String} {items : List ObjectId}
    (sound : before.Sound deferring)
    (slot : before.slot? object name = some (.variadic items false))
    (there : before.Contains value) :
    (before.setSlot object name (.variadic (items ++ [value]) false)).Sound deferring := by
  have appended : Write .all before (before.setSlot object name
      (.variadic (items ++ [value]) false)) := .appended slot trivial
  obtain ⟨content, holds, shown⟩ := content_of_slot sound slot
  obtain ⟨builtin, form, role, cache, rfl, rfl⟩ := Content.slot_variadic shown
  have nothing := open_keeps_nothing sound holds
  subst nothing
  have puts := Store.puts_slot holds
    (Content.set_items role items (items ++ [value]) false false none)
  refine sound_put_uncomputed sound puts (write_grows appended) ?_ ?_ rfl
  · intro same
    cases same
  · intro target wanted
    rcases List.mem_append.mp wanted with old | new
    · exact sound.closed (demands_of_holds holds old)
    · cases List.mem_singleton.mp new
      exact there

theorem sound_sealed {object : ObjectId} {name : String} {items : List ObjectId}
    {isSealed : Bool} (sound : before.Sound deferring)
    (slot : before.slot? object name = some (.variadic items isSealed)) :
    (before.setSlot object name (.variadic items true)).Sound deferring := by
  have closed : Write .all before _ := .sealed slot
  have grows := write_grows closed
  obtain ⟨content, holds, shown⟩ := content_of_slot sound slot
  obtain ⟨builtin, form, role, cache, rfl, rfl⟩ := Content.slot_variadic shown
  have puts := Store.puts_slot holds (Content.set_items role items items isSealed true cache)
  refine sound_put sound puts grows ?_ ?_ ?_
  · intro same
    cases same
  · intro target wanted
    exact contains_grows (sound.closed (demands_of_holds holds wanted)) grows
  · intro result kept
    cases kept
    obtain ⟨value, held, settled⟩ := sound.kept holds
    exact ⟨value, fixed_grows grows held, settled_grows grows settled⟩

theorem write_sound (write : Write supply before after)
    (fits : supply.Fits deferring before) (sound : before.Sound deferring) :
    after.Sound deferring := by
  cases write with
  | recorded event => exact sound_same sound rfl
  | tallied counter => exact sound_same sound rfl
  | @leaf data supplied =>
      refine sound_added sound (.leaf data) ?_ ?_ rfl
      · intro shows
        rcases fits.leaf supplied with ⟨value, rfl⟩ | allowed
        · cases shows
        · exact allowed
      · intro target wanted
        cases data <;> cases wanted
  | instantiated supplied =>
      obtain ⟨builtin, rfl⟩ := fits.definition supplied
      exact sound_instantiated sound builtin
  | copied composed => exact sound_copied sound composed
  | bound slot empty supplied => exact sound_bound sound slot empty (fits.value supplied)
  | appended slot supplied => exact sound_appended sound slot (fits.value supplied)
  | sealed slot => exact sound_sealed sound slot
  | taken leaf => exact sound_taken sound leaf

theorem writes_sound (writes : Writes supply before after)
    (fits : supply.Fits deferring before) (sound : before.Sound deferring) :
    after.Sound deferring := by
  induction writes using Relation.ReflTransGen.head_induction_on with
  | refl => exact sound
  | head write _ ih => exact ih (fits_grows fits (write_grows write)) (write_sound write fits sound)

theorem follow_absent (config : Config) (moves : Nat) (visited : List ObjectId)
    {object : ObjectId} (absent : ¬store.Contains object) :
    ((follow attributeOf config moves visited object).after store).objects = store.objects := by
  have missing : store.object? object = none :=
    Array.getElem?_eq_none_iff.mpr (Nat.le_of_not_lt absent)
  have composed : store.leaf? object = none := by simp [Store.leaf?, missing]
  have nowhere : nextAttribute store object = .error (.undataizable (store.label object)) := by
    simp [nextAttribute, Store.has, Store.slot?, missing]
  rw [Effect.after]
  by_cases seen : object ∈ visited
  · rw [follow_revisited composed seen]
    rfl
  · cases moves with
    | zero =>
        rw [follow_exhausted composed seen]
        rfl
    | succ moves => rw [follow_nowhere composed seen nowhere]

theorem follow_sound (config : Config) (moves : Nat) (visited : List ObjectId)
    (object : ObjectId) (sound : store.Sound deferring) :
    ((follow attributeOf config moves visited object).after store).Sound deferring := by
  by_cases contained : store.Contains object
  · rcases ran : (follow attributeOf config moves visited object).outcome store with
      ⟨result, after⟩
    rw [Effect.after, ran]
    have runs := follow_runs (computes config _) sound rfl contained ran
    exact (runs_settle runs sound).1
  · exact sound_same sound (follow_absent config moves visited contained)

theorem resolve_sound (config : Config) (object : ObjectId) (sound : store.Sound deferring) :
    ((resolve config object).after store).Sound deferring :=
  follow_sound config config.limit [] object sound

theorem attribute_sound (config : Config) (object : ObjectId) (name : String)
    (sound : store.Sound deferring) :
    ((attributeOf config object name).after store).Sound deferring := by
  rcases ran : (attributeOf config object name).outcome store with ⟨result, after⟩
  rw [Effect.after, ran]
  cases slot : store.slot? object name with
  | none =>
      rw [attribute_of_unfold, attribute_unknown slot] at ran
      cases ran
      exact sound
  | some found =>
      cases found with
      | free cell =>
          rw [attribute_of_unfold] at ran
          cases content : cell.content with
          | some value =>
              rw [attribute_bound slot content] at ran
              cases ran
              exact sound
          | none =>
              rw [attribute_unbound slot content] at ran
              cases ran
              exact sound
      | variadic items isSealed =>
          rw [attribute_of_unfold, attribute_variadic slot] at ran
          cases ran
          exact sound
      | composite rule cache =>
          obtain ⟨content, holds, shown⟩ := content_of_slot sound slot
          obtain ⟨builtin, form, role, items, isSealed, kept, rfl, rfl, rfl, rfl⟩ :=
            Content.slot_composite shown
          have runs := computes config store.activity.depth sound rfl holds ran
          exact (runs_settle runs sound).1

/-- Calls keep a store sound, whatever they evaluate, if they bring in only what fits
it. -/
theorem perform_sound (config : Config) {request : Call} (within : request.Within supply store)
    (fits : supply.Fits deferring store) (sound : store.Sound deferring) :
    ((perform attributeOf config request).after store).Sound deferring := by
  cases evaluates : request.evaluates with
  | false => exact writes_sound (perform_writes attributeOf config within evaluates) fits sound
  | true =>
      cases request with
      | attributeOf scope object name => exact attribute_sound _ object name sound
      | resolve scope object => exact resolve_sound _ object sound
      | _ => cases evaluates

/-- All calls of the program bring in only what the supply allows, whatever answers the
program gets. -/
def Program.Within (supply : Supply) : Program α → Prop
  | .done _ => True
  | .call request next =>
      (∀ store, request.Within supply store) ∧ ∀ answer, (next answer).Within supply

theorem program_within_bind {program : Program α} {next : α → Program β}
    (first : program.Within supply) (rest : ∀ value, (next value).Within supply) :
    (program >>= next).Within supply := by
  change (program.bind next).Within supply
  induction program with
  | done result =>
      cases result with
      | ok value => exact rest value
      | error failure => trivial
  | call request after ih =>
      obtain ⟨within, later⟩ := first
      exact ⟨within, fun answer => ih answer (later answer)⟩

theorem program_within_ask {request : Call} (within : ∀ store, request.Within supply store) :
    (Program.ask request).Within supply :=
  ⟨within, fun _ => trivial⟩

theorem program_sound (config : Config) {program : Program α}
    (within : program.Within supply) (fits : supply.Fits deferring store)
    (sound : store.Sound deferring) :
    ((runProgram attributeOf config program).after store).Sound deferring := by
  induction program generalizing store with
  | done result =>
      rw [Effect.after, run_done]
      exact sound
  | call request next ih =>
      obtain ⟨supplied, later⟩ := within
      have grows := growth_invariance.keeps_perform growth_invariance.keeps_attribute_of config
        request store
      rw [Effect.after, run_call]
      exact ih _ (later _) (fits_grows fits grows)
        (perform_sound config (supplied store) fits sound)

theorem bind_all_within {object : ObjectId} {name : String} {values : List ObjectId}
    (known : ∀ value ∈ values, supply.value value) :
    (Program.bindAll object name values).Within supply := by
  induction values with
  | nil => trivial
  | cons value rest ih =>
      apply program_within_bind
      · exact program_within_ask fun _ => known value List.mem_cons_self
      · intro _
        exact ih fun other member => known other (List.mem_cons_of_mem value member)

theorem instantiate_with_within {builtin : Builtin} {name : String} {values : List ObjectId}
    (template : supply.definition builtin.definition)
    (known : ∀ value ∈ values, supply.value value) :
    (Program.instantiateWith (.builtin builtin) name values).Within supply := by
  apply program_within_bind
  · exact program_within_ask fun _ => template
  · intro object
    apply program_within_bind
    · exact bind_all_within known
    · intro _
      trivial

/-- What may be supplied at a moment: built-in templates, leaves of the kind allowed
and the objects made so far. -/
def Store.supplies (store : Store) (deferring : Prop) : Supply where
  definition definition := ∃ builtin : Builtin, definition = builtin.definition
  leaf data := (∃ value, data = .fixed value) ∨ deferring
  value := store.Contains

theorem supplies_fit (store : Store) (deferring : Prop) :
    (store.supplies deferring).Fits deferring store where
  definition supplied := supplied
  leaf supplied := supplied
  value supplied := supplied

def Raw.items : Raw → List ObjectId
  | .objects items => items
  | _ => []

/-- One operation from outside, with the store that it leaves. -/
inductive Operates (deferring : Prop) (store : Store) : Store → Prop
  /-- A leaf, an instance, a binding, a copy, a demand or a dataization. -/
  | call (config : Config) {request : Call}
      (within : request.Within (store.supplies deferring) store) :
      Operates deferring store ((perform attributeOf config request).after store)
  | apply (builtin : Builtin) {operands : List ObjectId}
      (known : ∀ operand ∈ operands, store.Contains operand) :
      Operates deferring store
        ((run .default
          (Program.instantiateWith (.builtin builtin) operandAttribute operands)).after store)
  | array {items : List ObjectId} (known : ∀ item ∈ items, store.Contains item) :
      Operates deferring store
        ((run .default
          (Program.instantiateWith (.builtin .array) elementAttribute items)).after store)
  | coerce (raw : Raw) (known : ∀ item ∈ raw.items, store.Contains item) :
      Operates deferring store ((run .default raw.coerce).after store)
  | dataize (config : Config) (object : ObjectId) (expected : Kind) :
      Operates deferring store ((dataize config object expected).after store)
  | dataizeAs (carried : Type) [Carrier carried] (config : Config) (object : ObjectId) :
      Operates deferring store
        ((run config (Program.dataizeAs carried object)).after store)

/-- Any number of operations, one after another. -/
def Leads (deferring : Prop) : Store → Store → Prop :=
  Relation.ReflTransGen (Operates deferring)

/-- A store that operations on built-in templates lead to. -/
def Reachable (deferring : Prop) (store : Store) : Prop :=
  Leads deferring .empty store

theorem dataize_as_after (carried : Type) [Carrier carried] (config : Config)
    (object : ObjectId) (store : Store) :
    (run config (Program.dataizeAs carried object)).after store =
      (resolve config object).after store := by
  rw [run, Effect.after, Program.dataizeAs, run_bind]
  have asked : (runProgram attributeOf config (Program.resolve object)).outcome store =
      (resolve config object).outcome store :=
    run_ask attributeOf config (.resolve .running object) store
  rcases resolved : (resolve config object).outcome store with ⟨result, after⟩
  rw [resolved] at asked
  rw [Effect.after, resolved]
  cases result with
  | error failure => rw [outcome_bind_error asked]
  | ok value =>
      rw [outcome_bind_ok asked]
      cases (Carrier.ofValue? value : Option carried) <;> rfl

theorem of_datum_sound (builtin : Builtin) (value : Value) (sound : store.Sound deferring) :
    ((run .default (Raw.ofDatum builtin value)).after store).Sound deferring := by
  have template : (store.supplies deferring).definition builtin.definition := ⟨builtin, rfl⟩
  let made := (store.instantiate builtin.definition).2
  let filled := (made.addLeaf (.fixed value)).2
  have madeSound : made.Sound deferring :=
    writes_sound (instantiate_writes template) (supplies_fit store deferring) sound
  have leaf : Write (made.supplies deferring) made filled := .leaf (.inl ⟨value, rfl⟩)
  have filledSound := write_sound leaf (supplies_fit made deferring) madeSound
  have there : filled.Contains made.nextId := by
    simp [filled, Store.Contains, Store.addLeaf, Store.add, Store.nextId]
  have instantiated : (runProgram attributeOf .default
      (Program.instantiate (.builtin builtin))).outcome store = (.ok store.nextId, made) :=
    run_ask attributeOf .default (.instantiate (.builtin builtin)) store
  have placed : (runProgram attributeOf .default (Program.leaf value)).outcome made =
      (.ok made.nextId, filled) :=
    run_ask attributeOf .default (.leaf value) made
  rw [run, Effect.after, Raw.ofDatum, run_bind, outcome_bind_ok instantiated, run_bind,
    outcome_bind_ok placed]
  apply program_sound .default _ (supplies_fit filled deferring) filledSound
  apply program_within_bind
  · exact program_within_ask fun _ => there
  · intro _
    exact program_within_bind (program_within_ask fun _ => trivial) fun _ => trivial

theorem coerce_sound (raw : Raw) (known : ∀ item ∈ raw.items, store.Contains item)
    (sound : store.Sound deferring) : ((run .default raw.coerce).after store).Sound deferring := by
  have fits := supplies_fit store deferring
  cases raw with
  | scalar value =>
      rw [Raw.coerce]
      split
      · exact of_datum_sound _ value sound
      · exact sound
  | objects items =>
      have template : (store.supplies deferring).definition Builtin.array.definition :=
        ⟨.array, rfl⟩
      apply program_sound .default _ fits sound
      apply program_within_bind
      · exact instantiate_with_within template known
      · intro object
        exact program_within_bind (program_within_ask fun _ => trivial) fun _ => trivial
  | unsupported typeName => exact sound

section Operates

variable (operates : Operates deferring before after)

include operates

theorem operates_keeps {kept : Store → Store → Prop} (invariance : Invariance kept) :
    kept before after := by
  cases operates with
  | call config within =>
      exact invariance.keeps_perform invariance.keeps_attribute_of config _ before
  | apply builtin known => exact invariance.keeps_program .default _ before
  | array known => exact invariance.keeps_program .default _ before
  | coerce raw known => exact invariance.keeps_program .default _ before
  | dataize config object expected =>
      rw [dataize_after]
      exact invariance.keeps_resolve config object before
  | dataizeAs carried config object => exact invariance.keeps_program config _ before

theorem operates_sound (sound : before.Sound deferring) : after.Sound deferring := by
  have fits := supplies_fit before deferring
  have template (builtin : Builtin) :
      (before.supplies deferring).definition builtin.definition := ⟨builtin, rfl⟩
  cases operates with
  | call config within => exact perform_sound config within fits sound
  | apply builtin known =>
      exact program_sound .default (instantiate_with_within (template builtin) known) fits sound
  | array known =>
      exact program_sound .default (instantiate_with_within (template .array) known) fits sound
  | coerce raw known => exact coerce_sound raw known sound
  | dataize config object expected =>
      rw [dataize_after]
      exact resolve_sound config object sound
  | dataizeAs carried config object =>
      rw [dataize_as_after]
      exact resolve_sound config object sound

end Operates

theorem leads_keeps {kept : Store → Store → Prop} (invariance : Invariance kept)
    (leads : Leads deferring before after) : kept before after := by
  induction leads with
  | refl => exact invariance.refl before
  | tail _ operates ih => exact invariance.trans ih (operates_keeps operates invariance)

theorem leads_sound (leads : Leads deferring before after) (sound : before.Sound deferring) :
    after.Sound deferring := by
  induction leads with
  | refl => exact sound
  | tail _ operates ih => exact operates_sound operates ih

theorem reachable_sound (reachable : Reachable deferring store) : store.Sound deferring :=
  leads_sound reachable sound_empty

theorem reachable_idle (reachable : Reachable deferring store) : store.activity = .idle :=
  leads_keeps activity_invariance reachable

theorem reachable_leaf (reachable : Reachable deferring store) (value : Value) :
    Reachable deferring (store.addLeaf (.fixed value)).2 :=
  .tail reachable (@Operates.call deferring store .default (.leaf value) (.inl ⟨value, rfl⟩))

theorem reachable_deferred (reachable : Reachable True store) (data : Deferred Value) :
    Reachable True (store.addLeaf (.deferred data)).2 :=
  .tail reachable (@Operates.call True store .default (.deferredLeaf data) (.inr trivial))

theorem reachable_instantiate (reachable : Reachable deferring store) (builtin : Builtin) :
    Reachable deferring (store.instantiate builtin.definition).2 :=
  .tail reachable
    (@Operates.call deferring store .default (.instantiate (.builtin builtin)) ⟨builtin, rfl⟩)

theorem operates_bind (object : ObjectId) (name : String) {value : ObjectId}
    (known : store.Contains value) :
    Operates deferring store
      (Store.tryBind (fun store => store.bind object name value) store).2 :=
  @Operates.call deferring store .default (.bind object name value) known

theorem reachable_resolve (reachable : Reachable deferring store) (config : Config)
    (object : ObjectId) : Reachable deferring ((resolve config object).after store) :=
  .tail reachable (@Operates.call deferring store config (.resolve .running object) trivial)

end ObjectCalculus
