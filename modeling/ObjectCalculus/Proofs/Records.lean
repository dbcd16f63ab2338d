import ObjectCalculus.Proofs.Accesses
import ObjectCalculus.Proofs.Transfer

/-!
# Histories under one configuration

As long as everything is evaluated under the same limits, whatever keeps a result has once
collected its items under them, in a store that has only grown since. So there is a record of
how each result came about, although the store has none.
-/

set_option autoImplicit false

namespace ObjectCalculus

open Effect Evaluation

/-- What the call evaluates, it evaluates under the given limits. -/
def Call.Under (config : Config) : Call → Prop
  | .attributeOf scope _ _ => scope.config config = config
  | .resolve scope _ => scope.config config = config
  | _ => True

/-- One operation from outside on built-in templates and leaves with values, with the store
that it leaves; all evaluations are under the same limits. -/
inductive OperatesUnder (config : Config) (store : Store) : Store → Prop
  | call {request : Call} (within : request.Within (store.supplies False) store)
      (scope : request.Under config) :
      OperatesUnder config store ((perform attributeOf config request).after store)
  | apply (builtin : Builtin) {operands : List ObjectId}
      (known : ∀ operand ∈ operands, store.Contains operand) :
      OperatesUnder config store
        ((run .default
          (Program.instantiateWith (.builtin builtin) operandAttribute operands)).after store)
  | array {items : List ObjectId} (known : ∀ item ∈ items, store.Contains item) :
      OperatesUnder config store
        ((run .default
          (Program.instantiateWith (.builtin .array) elementAttribute items)).after store)
  | coerce (raw : Raw) (known : ∀ item ∈ raw.items, store.Contains item) :
      OperatesUnder config store ((run .default raw.coerce).after store)
  | dataize (object : ObjectId) (expected : Kind) :
      OperatesUnder config store ((Evaluation.dataize config object expected).after store)
  | dataizeAs (carried : Type) [Carrier carried] (object : ObjectId) :
      OperatesUnder config store
        ((run config (Program.dataizeAs carried object)).after store)

def ReachableUnder (config : Config) (store : Store) : Prop :=
  Relation.ReflTransGen (OperatesUnder config) .empty store

section Operations

variable {α β : Type} {config : Config} {before after store : Store}

theorem operates_under (operates : OperatesUnder config before after) :
    Operates False before after := by
  cases operates with
  | call within scope => exact .call config within
  | apply builtin known => exact .apply builtin known
  | array known => exact .array known
  | coerce raw known => exact .coerce raw known
  | dataize object expected => exact .dataize config object expected
  | dataizeAs carried object => exact .dataizeAs carried config object

theorem reachable_under (reachable : ReachableUnder config store) : Reachable False store :=
  Relation.ReflTransGen.mono (fun _ _ => operates_under) _ _ reachable

def Program.Direct : Program α → Prop
  | .done _ => True
  | .call request next => request.evaluates = false ∧ ∀ answer, (next answer).Direct

theorem direct_bind {program : Program α} {next : α → Program β} (first : program.Direct)
    (rest : ∀ value, (next value).Direct) : (program >>= next).Direct := by
  change (program.bind next).Direct
  induction program with
  | done result =>
      cases result with
      | ok value => exact rest value
      | error failure => trivial
  | call request after ih =>
      obtain ⟨direct, later⟩ := first
      exact ⟨direct, fun answer => ih answer (later answer)⟩

theorem direct_ask {request : Call} (direct : request.evaluates = false) :
    (Program.ask request).Direct :=
  ⟨direct, fun _ => trivial⟩

theorem direct_bind_all (object : ObjectId) (name : String) (values : List ObjectId) :
    (Program.bindAll object name values).Direct := by
  induction values with
  | nil => trivial
  | cons value rest ih => exact direct_bind (direct_ask rfl) fun _ => ih

theorem direct_instantiate_with (template : TemplateRef) (name : String)
    (values : List ObjectId) : (Program.instantiateWith template name values).Direct :=
  direct_bind (direct_ask rfl) fun object =>
    direct_bind (direct_bind_all object name values) fun _ => trivial

theorem direct_coerce (raw : Raw) : raw.coerce.Direct := by
  cases raw with
  | scalar value =>
      rw [Raw.coerce]
      split
      · exact direct_bind (direct_ask rfl) fun _ => direct_bind (direct_ask rfl) fun _ =>
          direct_bind (direct_ask rfl) fun _ => direct_bind (direct_ask rfl) fun _ => trivial
      · trivial
  | objects items =>
      exact direct_bind (direct_instantiate_with _ _ _) fun _ =>
        direct_bind (direct_ask rfl) fun _ => trivial
  | unsupported typeName => trivial

theorem direct_writes {program : Program α} (direct : program.Direct) (store : Store) :
    Writes .all store ((run config program).after store) := by
  rw [run]
  induction program generalizing store with
  | done result =>
      rw [Effect.after, run_done]
  | call request next ih =>
      obtain ⟨evaluates, later⟩ := direct
      rw [Effect.after, run_call]
      exact (perform_writes attributeOf config (call_within_all store request) evaluates).trans
        (ih _ (later _) _)

theorem account_nothing {first last : Option ObjectId} (account : Account first [] last) :
    first = last := by
  cases account
  rfl

theorem writes_keep {object result : ObjectId} (writes : Writes .all before after)
    (keeps : after.Keeps object result) : before.Keeps object result := by
  obtain ⟨rule, slot⟩ := keeps
  have caches : after.Caches object valueAttribute := by
    intro found held
    rw [slot] at held
    cases held
    rfl
  have linked : before.linked? object valueAttribute = after.linked? object valueAttribute :=
    account_nothing (accounts_writes writes caches)
  rw [linked_composite slot] at linked
  cases there : before.slot? object valueAttribute with
  | none =>
      rw [linked_nothing there] at linked
      cases linked
  | some found =>
      obtain ⟨grown, slotAfter, growth⟩ := grows_slot (growth_invariance.writes writes) there
      rw [slot] at slotAfter
      cases slotAfter
      cases growth with
      | @cached _ cell =>
          rw [linked_composite there] at linked
          obtain ⟨content⟩ := cell
          cases linked
          exact ⟨rule, there⟩

end Operations

/-- The items came to the value when they were collected under the limits, while something was
computed, and the store has only grown since. -/
inductive Collected (config : Config) (form : Aggregate) (items : List ObjectId) (value : Value)
    (store : Store) : Prop
  | intro {left inner : Store} {values : List Value} (sound : left.Sound False)
      (deep : 0 < left.activity.depth) (known : ∀ item ∈ items, left.Contains item)
      (runs : Runs config (.collect form items (.ok values)) left inner)
      (grows : inner.Grows store) (total : form.total values = .ok value)

/-- There is a record of every result that is kept. -/
structure Store.Recorded (config : Config) (store : Store) : Prop where
  kept {object result : ObjectId} {builtin : Builtin} {form : Aggregate}
    {role : builtin.role = .aggregate form} {items : List ObjectId} {isSealed : Bool} :
    store.Holds object (.aggregate role items isSealed (some result)) →
      ∃ value, store.leaf? result = some (.fixed value) ∧ Collected config form items value store

section Records

variable {config : Config} {before after store : Store} {object result : ObjectId}

theorem collected_grows {form : Aggregate} {items : List ObjectId} {value : Value}
    (collected : Collected config form items value before) (grows : before.Grows after) :
    Collected config form items value after := by
  obtain ⟨sound, deep, known, runs, earlier, total⟩ := collected
  exact ⟨sound, deep, known, runs, store_grows_trans earlier grows, total⟩

theorem holds_of_keeps (sound : store.Sound False) (keeps : store.Keeps object result) :
    ∃ (builtin : Builtin) (form : Aggregate) (role : builtin.role = .aggregate form)
      (items : List ObjectId), store.Holds object (.aggregate role items true (some result)) := by
  obtain ⟨rule, slot⟩ := id keeps
  obtain ⟨content, holds, shown⟩ := content_of_slot sound slot
  obtain ⟨builtin, form, role, items, isSealed, cache, rfl, _⟩ := Content.slot_composite shown
  cases (keeps_of_holds holds).mp keeps
  cases isSealed with
  | true => exact ⟨builtin, form, role, items, holds⟩
  | false => cases open_keeps_nothing sound holds

theorem record_grows (sound : before.Sound False) (recorded : before.Recorded config)
    (grows : before.Grows after) (keeps : before.Keeps object result) {builtin : Builtin}
    {form : Aggregate} {role : builtin.role = .aggregate form} {items : List ObjectId}
    {isSealed : Bool} (holds : after.Holds object (.aggregate role items isSealed (some result))) :
    ∃ value, after.leaf? result = some (.fixed value) ∧
      Collected config form items value after := by
  obtain ⟨_, _, _, _, holdsBefore⟩ := holds_of_keeps sound keeps
  obtain ⟨_, holdsAfter, _⟩ := sealed_grows grows holdsBefore
  cases Store.holds_unique holds holdsAfter
  obtain ⟨value, held, collected⟩ := recorded.kept holdsBefore
  exact ⟨value, fixed_grows grows held, collected_grows collected grows⟩

theorem recorded_grows (sound : before.Sound False) (recorded : before.Recorded config)
    (grows : before.Grows after)
    (old : ∀ object result, after.Keeps object result → before.Keeps object result) :
    after.Recorded config where
  kept holds := record_grows sound recorded grows (old _ _ ((keeps_of_holds holds).mpr rfl)) holds

theorem recorded_same (sound : before.Sound False) (recorded : before.Recorded config)
    (same : after.objects = before.objects) : after.Recorded config :=
  recorded_grows sound recorded (store_grows_same same) fun object _ =>
    (keeps_same (Store.object_same same object)).mp

theorem recorded_writes (sound : before.Sound False) (recorded : before.Recorded config)
    (writes : Writes .all before after) : after.Recorded config :=
  recorded_grows sound recorded (growth_invariance.writes writes) fun _ _ => writes_keep writes

theorem recorded_stepped (sound : store.Sound False) (recorded : store.Recorded config)
    (object : ObjectId) (name : String) : (stepped config object name store).Recorded config :=
  recorded_same sound recorded (stepped_objects config object name store)

theorem recorded_concluded {values : List Value} {value : Value} {inner : Store}
    {builtin : Builtin} {form : Aggregate} {role : builtin.role = .aggregate form}
    {items : List ObjectId} {isSealed : Bool} (sound : store.Sound False)
    (holds : store.Holds object (.aggregate role items isSealed none))
    (inside : Runs config (.collect form items (.ok values)) (store.entered object form items)
      inner)
    (total : form.total values = .ok value)
    (waiting : inner.Holds object (.aggregate role items true none))
    (recorded : inner.Recorded config) :
    ((inner.concluded object form items.length value).unmark
      ⟨object, valueAttribute⟩).Recorded config := by
  have entered := sound_entered sound holds
  have innerSound := (runs_settle inside entered).1
  have grows := store_grows_trans (concluded_extends items.length value waiting).grows
    (unmark_grows _ ⟨object, valueAttribute⟩)
  refine ⟨fun {other result _ _ _ _ _} kept => ?_⟩
  have keeps : (inner.concluded object form items.length value).Keeps other result :=
    (keeps_of_holds kept).mpr rfl
  -- Whatever keeps a result is the object itself or kept one before.
  rcases concluded_keeps waiting keeps with rfl | earlier
  · have published := Store.holds_put (concluded_puts items.length value waiting)
    cases Store.holds_unique kept published
    refine ⟨value, concluded_leaf items.length value waiting, ?_⟩
    refine .intro entered (Nat.succ_pos _) ?_ inside grows total
    intro item member
    exact contains_grows (sound.closed (demands_of_holds holds member))
      (entered_extends holds).grows
  · exact record_grows innerSound recorded grows earlier kept

theorem runs_recorded {act : Act} (runs : Runs config act before after)
    (sound : before.Sound False) (recorded : before.Recorded config) :
    after.Recorded config := by
  induction runs with
  | leaf | nil => exact recorded
  | deferred held => exact (sound.leaves ⟨_, Store.holds_leaf.mpr held, rfl⟩).elim
  | revisited | exhausted | active | deep | kept => exact recorded_same sound recorded rfl
  | unbound => exact recorded_stepped sound recorded _ _
  | bound _ _ _ ih | failed _ _ _ ih | computed _ _ _ _ ih =>
      exact ih (sound_stepped sound _ _ _) (recorded_stepped sound recorded _ _)
  | cut holds _ inside ih | rejected holds _ inside _ ih =>
      have entered := sound_entered sound holds
      have opened := recorded_grows sound recorded (entered_extends holds).grows
        fun _ _ => entered_keeps holds
      exact recorded_same (runs_settle inside entered).1 (ih entered opened) rfl
  | @published object values value store inner builtin form role items isSealed holds _ inside
      total waiting ih =>
      have entered := sound_entered sound holds
      have opened := recorded_grows sound recorded (entered_extends holds).grows
        fun _ _ => entered_keeps holds
      exact recorded_concluded sound holds inside total waiting (ih entered opened)
  | unresolved _ ih | refused _ _ ih => exact ih sound recorded
  | later first _ _ ihFirst ihOthers | cons first _ _ ihFirst ihOthers =>
      exact ihOthers (runs_settle first sound).1 (ihFirst sound recorded)

end Records

section Reachable

variable {config : Config} {before after store : Store}

theorem attribute_recorded (object : ObjectId) (name : String) (sound : store.Sound False)
    (recorded : store.Recorded config) :
    ((attributeOf config object name).after store).Recorded config := by
  cases due : store.due? config object name with
  | none =>
      obtain ⟨_, after, ran, same, _⟩ := undue_outcome due
      rw [Effect.after, attribute_of_unfold, ran]
      exact recorded_same sound recorded same
  | some rule =>
      obtain ⟨_, _, cache, _, slot⟩ := due_slot due
      obtain ⟨content, holds, shown⟩ := content_of_slot sound slot
      obtain ⟨_, _, _, _, _, _, rfl, rfl, _⟩ := Content.slot_composite shown
      exact runs_recorded (computes config store.activity.depth sound rfl holds rfl) sound recorded

theorem resolve_recorded (object : ObjectId) (sound : store.Sound False)
    (recorded : store.Recorded config) :
    ((resolve config object).after store).Recorded config := by
  by_cases contained : store.Contains object
  · exact runs_recorded (resolve_runs sound contained rfl) sound recorded
  · exact recorded_same sound recorded (follow_absent config _ [] contained)

theorem operates_recorded (operates : OperatesUnder config before after)
    (sound : before.Sound False) (recorded : before.Recorded config) :
    after.Recorded config := by
  cases operates with
  | @call request within scope =>
      cases evaluates : request.evaluates with
      | false =>
          exact recorded_writes sound recorded
            (perform_writes attributeOf config (call_within_all before request) evaluates)
      | true =>
          cases request with
          | attributeOf given object name =>
              change ((attributeOf (given.config config) object name).after before).Recorded config
              rw [show given.config config = config from scope]
              exact attribute_recorded object name sound recorded
          | resolve given object =>
              change ((resolve (given.config config) object).after before).Recorded config
              rw [show given.config config = config from scope]
              exact resolve_recorded object sound recorded
          | _ => cases evaluates
  | apply builtin known =>
      exact recorded_writes sound recorded (direct_writes (direct_instantiate_with _ _ _) before)
  | array known =>
      exact recorded_writes sound recorded (direct_writes (direct_instantiate_with _ _ _) before)
  | coerce raw known =>
      exact recorded_writes sound recorded (direct_writes (direct_coerce raw) before)
  | dataize object expected =>
      rw [dataize_after]
      exact resolve_recorded object sound recorded
  | dataizeAs carried object =>
      rw [dataize_as_after]
      exact resolve_recorded object sound recorded

theorem reachable_recorded (reachable : ReachableUnder config store) : store.Recorded config := by
  induction reachable with
  | refl => exact ⟨fun holds => nomatch holds⟩
  | tail earlier operates ih =>
      exact operates_recorded operates (reachable_sound (reachable_under earlier)) ih

/-- Nothing is under way, and there is a record of every result that is kept. -/
structure Store.Ready (config : Config) (store : Store) : Prop where
  sound : store.Sound False
  idle : store.activity = .idle
  recorded : store.Recorded config

theorem reachable_ready (reachable : ReachableUnder config store) : store.Ready config where
  sound := reachable_sound (reachable_under reachable)
  idle := reachable_idle (reachable_under reachable)
  recorded := reachable_recorded reachable

end Reachable

end ObjectCalculus
