import ObjectCalculus.Proofs.Gathering
import ObjectCalculus.Proofs.Machine

/-!
# Every dataization ends

Whatever the rules are and however the objects hang together, the machine comes to an
end. The two guards are all that holds it: a loop makes at most one turn more than its
limit allows, and where all rules stay within the evaluation they are given, no more
composite evaluations are nested than its limit allows.
-/

set_option autoImplicit false

namespace ObjectCalculus

open Effect Evaluation Relation

variable {α β : Type}

def Call.Confined : Call → Prop
  | .attributeOf scope _ _ => scope = .running
  | .resolve scope _ => scope = .running
  | _ => True

/-- All that the program evaluates, it evaluates through the evaluation it is given. -/
def Program.Confined : Program α → Prop
  | .done _ => True
  | .call request next => request.Confined ∧ ∀ answer, (next answer).Confined

def Rule.Confined (rule : Rule) : Prop :=
  ∀ owner, (rule owner).Confined

def Spec.Confined : Spec → Prop
  | .composite rule _ => Rule.Confined rule
  | _ => True

def Definition.Confined (definition : Definition) : Prop :=
  ∀ entry ∈ definition.template.attributes, entry.2.Confined

structure Store.Confined (store : Store) : Prop where
  slots {object : ObjectId} {name : String} {rule : Rule} {cache : Option (Memo ObjectId)} :
    store.slot? object name = some (.composite rule cache) → Rule.Confined rule
  declared : ∀ entry ∈ store.declared, entry.2.Confined

section Programs

theorem confined_bind {program : Program α} {next : α → Program β} (first : program.Confined)
    (rest : ∀ value, (next value).Confined) : (program >>= next).Confined := by
  change (program.bind next).Confined
  induction program with
  | done result =>
      cases result with
      | ok value => exact rest value
      | error failure => trivial
  | call request after ih =>
      obtain ⟨confined, later⟩ := first
      exact ⟨confined, fun answer => ih answer (later answer)⟩

theorem confined_ask {request : Call} (confined : request.Confined) :
    (Program.ask request).Confined :=
  ⟨confined, fun _ => trivial⟩

theorem confined_each {γ : Type} {step : γ → Program α} (confined : ∀ item, (step item).Confined)
    (items : List γ) : (Program.each step items).Confined := by
  induction items with
  | nil => trivial
  | cons item rest ih =>
      exact confined_bind (confined item) fun _ => confined_bind ih fun _ => trivial

theorem item_confined (form : Aggregate) (item : ObjectId) : (form.item item).Confined := by
  have resolved : (Program.resolve item).Confined := confined_ask rfl
  cases form with
  | array => exact resolved
  | operator fold =>
      refine confined_bind resolved fun value => ?_
      unfold Program.checkKind
      split <;> trivial

theorem conclude_confined (form : Aggregate) (owner : ObjectId) (count : Nat)
    (values : List Value) : (form.conclude owner count values).Confined := by
  unfold Aggregate.conclude
  split
  · trivial
  · refine confined_bind ?_ fun _ => confined_ask trivial
    cases form with
    | array => trivial
    | operator fold => exact confined_ask trivial

theorem aggregate_confined (form : Aggregate) : Rule.Confined form.rule := by
  intro owner
  rw [rule_eq_gather]
  refine confined_bind (confined_ask trivial) fun items => ?_
  exact confined_bind (confined_each (item_confined form) items) fun values =>
    conclude_confined form owner items.length values

theorem builtin_confined (builtin : Builtin) : builtin.definition.Confined := by
  intro entry member
  change entry ∈ builtin.template.attributes at member
  cases role : builtin.role with
  | datum =>
      rw [template_of_datum role] at member
      cases List.mem_singleton.mp member
      trivial
  | aggregate form =>
      rw [template_of_aggregate role] at member
      rcases List.mem_cons.mp member with rfl | member
      · trivial
      · cases List.mem_singleton.mp member
        exact aggregate_confined form

end Programs

def Supply.confined : Supply where
  definition := Definition.Confined
  leaf _ := True
  value _ := True

section Confined

variable {store before after : Store} {object : ObjectId} {name : String} {slot old : Slot}

theorem confined_same (confined : before.Confined) (objects : after.objects = before.objects)
    (declared : after.declared = before.declared) : after.Confined where
  slots {object name rule cache} found := by
    have same := Store.object_same objects object
    unfold Store.slot? at found
    rw [same] at found
    exact confined.slots found
  declared := declared ▸ confined.declared

theorem confined_set_slot (confined : store.Confined) (found : store.slot? object name = some old)
    (rules : ∀ rule cache, slot = .composite rule cache → Rule.Confined rule) :
    (store.setSlot object name slot).Confined where
  slots {other otherName rule cache} shown := by
    by_cases here : other = object ∧ otherName = name
    · obtain ⟨rfl, rfl⟩ := here
      rw [Store.slot_set_same found] at shown
      exact rules rule cache (Option.some.inj shown)
    · rw [Store.slot_set_other (Decidable.not_and_iff_or_not.mp here)] at shown
      exact confined.slots shown
  declared := confined.declared

theorem confined_add {added : Object} (confined : store.Confined)
    (rules : ∀ name rule cache, added.slot? name = some (.composite rule cache) →
      Rule.Confined rule) : (store.add added).2.Confined where
  slots {other otherName rule cache} shown := by
    unfold Store.slot? at shown
    rw [Store.object_add] at shown
    split_ifs at shown
    · exact rules otherName rule cache shown
    · exact confined.slots shown
  declared := confined.declared

theorem confined_write (confined : before.Confined) (write : Write .confined before after) :
    after.Confined := by
  cases write with
  | recorded | tallied => exact confined_same confined rfl rfl
  | leaf => exact confined_add confined nofun
  | instantiated supplied =>
      refine confined_add confined fun name rule cache found => ?_
      obtain ⟨entry, declared, same⟩ := Instance.slot_of_definition found
      have stated := supplied entry declared
      cases spec : entry.2 with
      | composite own cached =>
          rw [spec] at same stated
          cases same
          exact stated
      | free | variadic =>
          rw [spec] at same
          cases same
  | @copied object found composed =>
      refine confined_add confined fun name rule cache shown => ?_
      change found.copy.slot? name = _ at shown
      rw [Instance.slot_copy] at shown
      obtain ⟨slot, original, same⟩ := Option.map_eq_some_iff.mp shown
      cases slot with
      | composite own kept =>
          cases same
          exact confined.slots ((Store.slot_of_instance composed).trans original)
      | free | variadic => cases same
  | bound slot | appended slot | sealed slot => exact confined_set_slot confined slot nofun
  | taken leaf =>
      refine ⟨fun {object name rule cache} shown => ?_, confined.declared⟩
      rw [Store.slot_set_leaf] at shown
      exact confined.slots shown

theorem confined_writes (confined : before.Confined) (writes : Writes .confined before after) :
    after.Confined := by
  induction writes with
  | refl => exact confined
  | tail _ write ih => exact confined_write ih write

theorem confined_publish (confined : store.Confined) (object : ObjectId) (name : String)
    (result : ObjectId) : ((publish object name result).after store).Confined := by
  unfold publish Effect.after
  rw [outcome_update]
  split
  · rename_i rule cell slot
    refine confined_set_slot confined slot fun own cache same => ?_
    cases same
    exact confined.slots slot
  · exact confined

theorem confined_definition {definition : Definition} (confined : store.Confined)
    (found : store.definition? name = some definition) : definition.Confined := by
  rcases Store.definition_cases found with declared | ⟨own, rfl⟩
  · exact confined.declared _ declared
  · exact builtin_confined own

theorem call_confined (confined : store.Confined) (request : Call) :
    request.Within .confined store := by
  cases request with
  | instantiate template =>
      cases template with
      | builtin builtin => exact builtin_confined builtin
      | named name => exact fun definition => confined_definition confined
  | _ => trivial

end Confined

namespace Waiting

/-- The composite evaluations that have been entered and not left. -/
def nesting : {wanted : Wanted} → Waiting wanted → Nat
  | _, .bottom => 0
  | _, .chain _ _ below => below.nesting
  | _, .computing _ _ _ below => below.nesting + 1
  | _, .demanding _ _ below => below.nesting
  | _, .resolving _ _ below => below.nesting

/-- The limits of each loop that has not ended, with the number of the turn it is in. -/
def turns : {wanted : Wanted} → Waiting wanted → List (Config × Nat)
  | _, .bottom => []
  | _, .chain config visited below => (config, visited.length) :: below.turns
  | _, .computing _ _ _ below => below.turns
  | _, .demanding _ _ below => below.turns
  | _, .resolving _ _ below => below.turns

def Under (config : Config) : {wanted : Wanted} → Waiting wanted → Prop
  | _, .bottom => True
  | _, .chain own _ below => own = config ∧ below.Under config
  | _, .computing _ _ _ below => below.Under config
  | _, .demanding running next below =>
      running = config ∧ (∀ answer, (next answer).Confined) ∧ below.Under config
  | _, .resolving running next below =>
      running = config ∧ (∀ answer, (next answer).Confined) ∧ below.Under config

end Waiting

namespace Control

def turns : {wanted : Wanted} → Control wanted → List (Config × Nat)
  | _, .turn config visited _ => [(config, visited.length + 1)]
  | _, _ => []

def Under (config : Config) : {wanted : Wanted} → Control wanted → Prop
  | _, .demand own _ _ => own = config
  | _, .turn own _ _ => own = config
  | _, .program running body => running = config ∧ body.Confined
  | _, .answer _ => True

end Control

/-- The marks stay as they are, and so does the kind of the rules. -/
structure Store.Quiet (before after : Store) : Prop where
  activity : after.activity = before.activity
  confined : before.Confined → after.Confined

namespace Machine

def turns (machine : Machine) : List (Config × Nat) :=
  machine.control.turns ++ machine.waiting.turns

/-- Every way in which a step can go, with what the guards have found. -/
inductive Goes : Machine → Machine → Prop
  | handed {wanted : Wanted} {control : Control wanted} {waiting : Waiting wanted}
      {store after : Store} (result : Except DataError wanted.Answer)
      (quiet : store.Quiet after) :
      Goes ⟨control, waiting, store⟩ (handing waiting (result, after))
  | entered {config : Config} {object : ObjectId} {name : String} {rule : Rule}
      {cache : Option (Memo ObjectId)} {publishes : Bool} {control : Control .object}
      {waiting : Waiting .object} {store : Store}
      (slot : store.slot? object name = some (.composite rule cache))
      (room : store.activity.depth < config.limit)
      (begins : control = .program config (rule object) ∨ ∃ kept, control = .answer (.ok kept)) :
      Goes ⟨.demand config object name, waiting, store⟩
        ⟨control, .computing object name publishes waiting, store.mark ⟨object, name⟩⟩
  | left {object : ObjectId} {name : String} {publishes : Bool}
      {result : Except DataError ObjectId} {below : Waiting .object} {store after : Store}
      (final : Except DataError ObjectId) (quiet : store.Quiet after) :
      Goes (handing (.computing object name publishes below) (result, store))
        (handing below (final, after.unmark ⟨object, name⟩))
  | onward {config : Config} {visited : List ObjectId} {object : ObjectId} {name : String}
      {waiting : Waiting .value} {store after : Store} (room : visited.length < config.limit)
      (quiet : store.Quiet after) :
      Goes ⟨.turn config visited object, waiting, store⟩
        ⟨.demand config object name, .chain config (object :: visited) waiting, after⟩
  | wentOn {config : Config} {visited : List ObjectId} {next : ObjectId}
      {below : Waiting .value} {store : Store} :
      Goes (handing (.chain config visited below) (.ok next, store))
        ⟨.turn config visited next, below, store⟩
  | failed {config : Config} {visited : List ObjectId} {failure : DataError}
      {below : Waiting .value} {store : Store} :
      Goes (handing (.chain config visited below) (.error failure, store))
        (handing below (.error failure, store))
  | demanded {running : Config} {scope : Scope} {object : ObjectId} {name : String}
      {next : Except DataError ObjectId → Program ObjectId} {waiting : Waiting .object}
      {store : Store} :
      Goes ⟨.program running (.call (.attributeOf scope object name) next), waiting, store⟩
        ⟨.demand (scope.config running) object name, .demanding running next waiting, store⟩
  | resolved {running : Config} {scope : Scope} {object : ObjectId}
      {next : Except DataError Value → Program ObjectId} {waiting : Waiting .object}
      {store : Store} :
      Goes ⟨.program running (.call (.resolve scope object) next), waiting, store⟩
        ⟨.turn (scope.config running) [] object, .resolving running next waiting, store⟩
  | called {running : Config} {request : Call}
      {next : Except DataError request.Answer → Program ObjectId} {waiting : Waiting .object}
      {store after : Store} (answer : Except DataError request.Answer)
      (quiet : store.Quiet after) :
      Goes ⟨.program running (.call request next), waiting, store⟩
        ⟨.program running (next answer), waiting, after⟩
  | gave {running : Config} {next : Except DataError ObjectId → Program ObjectId}
      {result : Except DataError ObjectId} {below : Waiting .object} {store : Store} :
      Goes (handing (.demanding running next below) (result, store))
        ⟨.program running (next result), below, store⟩
  | found {running : Config} {next : Except DataError Value → Program ObjectId}
      {result : Except DataError Value} {below : Waiting .object} {store : Store} :
      Goes (handing (.resolving running next below) (result, store))
        ⟨.program running (next result), below, store⟩

section Goes

variable {config running : Config} {object : ObjectId} {name : String} {store after : Store}

theorem quiet_refl (store : Store) : store.Quiet store :=
  ⟨rfl, id⟩

theorem quiet_record (store : Store) (event : Event) : store.Quiet (store.record event) :=
  ⟨rfl, fun confined => confined_same confined rfl rfl⟩

theorem quiet_taken {result : Option (Except DataError Value)}
    (taken : store.takeLeaf object = (result, after)) : store.Quiet after where
  activity := by
    have same := activity_invariance.writes (take_leaf_writes .all store object)
    rwa [taken] at same
  confined confined := by
    have written := confined_writes confined (take_leaf_writes .confined store object)
    rwa [taken] at written

theorem quiet_trans {first second third : Store} (start : first.Quiet second)
    (rest : second.Quiet third) : first.Quiet third :=
  ⟨rest.activity.trans start.activity, fun confined => rest.confined (start.confined confined)⟩

theorem quiet_stepped (config : Config) (object : ObjectId) (name : String) (store : Store) :
    store.Quiet (stepped config object name store) := by
  unfold stepped
  split
  · exact quiet_record store _
  · exact quiet_refl store

theorem demand_goes (config : Config) (object : ObjectId) (name : String)
    (waiting : Waiting .object) (store : Store) :
    Goes ⟨.demand config object name, waiting, store⟩
      (demand config object name waiting store) := by
  unfold demand
  split
  · split
    · exact .handed _ (quiet_refl store)
    · exact .handed _ (quiet_refl store)
  · exact .handed _ (quiet_refl store)
  · rename_i rule cache slot
    split_ifs with active full
    · exact .handed _ (quiet_record store _)
    · exact .handed _ (quiet_record store _)
    · unfold compute
      split
      · exact .entered slot (Nat.lt_of_not_le full) (.inl rfl)
      · split
        · exact .entered slot (Nat.lt_of_not_le full) (.inr ⟨_, rfl⟩)
        · exact .entered slot (Nat.lt_of_not_le full) (.inl rfl)
  · exact .handed _ (quiet_refl store)

theorem turn_goes (config : Config) (visited : List ObjectId) (object : ObjectId)
    (waiting : Waiting .value) (store : Store) :
    Goes ⟨.turn config visited object, waiting, store⟩
      (turn config visited object waiting store) := by
  unfold turn
  split
  · rename_i result after taken
    exact .handed _ (quiet_taken taken)
  · rename_i after taken
    have quiet := quiet_taken taken
    split_ifs with seen full
    · exact .handed _ (quiet_trans quiet (quiet_record after _))
    · exact .handed _ (quiet_trans quiet (quiet_record after _))
    · split
      · exact .handed _ quiet
      · exact .onward (Nat.le_of_not_lt full) (quiet_trans quiet (quiet_stepped config _ _ after))

theorem call_goes (running : Config) (request : Call)
    (next : Except DataError request.Answer → Program ObjectId) (waiting : Waiting .object)
    (store : Store) :
    Goes ⟨.program running (.call request next), waiting, store⟩
      (call running request next waiting store) := by
  cases evaluates : request.evaluates with
  | true =>
      cases request with
      | attributeOf scope object name => exact .demanded
      | resolve scope object => exact .resolved
      | _ => cases evaluates
  | false =>
      rw [call_direct evaluates]
      refine .called _ ⟨?_, fun confined => ?_⟩
      · exact activity_invariance.keeps_perform attribute_of_restores running request store
      · exact confined_writes confined
          (perform_writes attributeOf running (call_confined confined request) evaluates)

theorem leave_goes (object : ObjectId) (name : String) (publishes : Bool)
    (result : Except DataError ObjectId) (waiting : Waiting .object) (store : Store) :
    Goes (handing (.computing object name publishes waiting) (result, store))
      (leave object name publishes result waiting store) := by
  unfold leave
  split
  · rename_i found
    exact .left _ ⟨activity_publish object name found store,
      fun confined => confined_publish confined object name found⟩
  · exact .left _ (quiet_refl store)

theorem step_goes {machine next : Machine} (step : machine.step = some next) :
    machine.Goes next := by
  obtain ⟨control, waiting, store⟩ := machine
  cases control with
  | demand config object name =>
      cases step
      exact demand_goes config object name waiting store
  | turn config visited object =>
      cases step
      exact turn_goes config visited object waiting store
  | program running body =>
      cases body with
      | done result =>
          cases step
          exact .handed _ (quiet_refl store)
      | call request next =>
          cases step
          exact call_goes running request next waiting store
  | answer result =>
      cases waiting with
      | bottom => cases step
      | chain config visited below =>
          cases result with
          | ok found =>
              cases step
              exact .wentOn
          | error failure =>
              cases step
              exact .failed
      | computing object name publishes below =>
          cases step
          exact leave_goes object name publishes result below store
      | demanding running next below =>
          cases step
          exact .gave
      | resolving running next below =>
          cases step
          exact .found

end Goes

/-- A loop whose turn has got past the guard has room for one turn more. -/
structure Paced (machine : Machine) : Prop where
  control : ∀ loop ∈ machine.control.turns, loop.2 ≤ loop.1.limit + 1
  waiting : ∀ loop ∈ machine.waiting.turns, loop.2 ≤ loop.1.limit

/-- All is done under the same limits, and what is nested is within them. -/
structure Within (config : Config) (machine : Machine) : Prop where
  control : machine.control.Under config
  waiting : machine.waiting.Under config
  depth : machine.store.activity.depth = machine.waiting.nesting
  nested : machine.waiting.nesting ≤ config.limit
  confined : machine.store.Confined

section Keeps

variable {config : Config} {before after : Machine}

theorem paced_between (idle : after.control.turns = [])
    (waiting : ∀ loop ∈ after.waiting.turns, loop.2 ≤ loop.1.limit) : after.Paced where
  control loop member := by
    rw [idle] at member
    exact absurd member List.not_mem_nil
  waiting := waiting

theorem goes_paced (goes : before.Goes after) (paced : before.Paced) : after.Paced := by
  cases goes with
  | handed | demanded | called | left | gave | found => exact paced_between rfl paced.waiting
  | entered _ _ begins =>
      rcases begins with rfl | ⟨kept, rfl⟩ <;> exact paced_between rfl paced.waiting
  | onward room => exact paced_between rfl (List.forall_mem_cons.mpr ⟨room, paced.waiting⟩)
  | wentOn =>
      obtain ⟨here, below⟩ := List.forall_mem_cons.mp paced.waiting
      exact ⟨List.forall_mem_singleton.mpr (Nat.succ_le_succ here), below⟩
  | failed => exact paced_between rfl (List.forall_mem_cons.mp paced.waiting).2
  | resolved => exact ⟨List.forall_mem_singleton.mpr (Nat.le_add_left 1 _), paced.waiting⟩

theorem goes_within (goes : before.Goes after) (within : before.Within config) :
    after.Within config := by
  obtain ⟨control, waiting, depth, nested, confined⟩ := within
  cases goes with
  | handed result quiet =>
      exact ⟨trivial, waiting, (congrArg Activity.depth quiet.activity).trans depth, nested,
        quiet.confined confined⟩
  | @entered own object name rule cache publishes _ below store slot room begins =>
      cases (show own = config from control)
      have free : below.nesting < config.limit :=
        Nat.lt_of_le_of_lt (Nat.le_of_eq depth.symm) room
      refine ⟨?_, waiting, congrArg Nat.succ depth, free, confined_same confined rfl rfl⟩
      rcases begins with rfl | ⟨kept, rfl⟩
      · exact ⟨rfl, confined.slots slot object⟩
      · trivial
  | @left object name publishes result below store after final quiet =>
      have inside : after.activity.depth = below.nesting + 1 :=
        (congrArg Activity.depth quiet.activity).trans depth
      have outside : (after.unmark ⟨object, name⟩).activity.depth = below.nesting :=
        congrArg Nat.pred inside
      exact ⟨trivial, waiting, outside, Nat.le_of_succ_le nested,
        confined_same (quiet.confined confined) rfl rfl⟩
  | onward room quiet =>
      exact ⟨control, ⟨control, waiting⟩, (congrArg Activity.depth quiet.activity).trans depth,
        nested, quiet.confined confined⟩
  | wentOn => exact ⟨waiting.1, waiting.2, depth, nested, confined⟩
  | failed => exact ⟨trivial, waiting.2, depth, nested, confined⟩
  | demanded | resolved =>
      obtain ⟨rfl, rfl, next⟩ := control
      exact ⟨rfl, ⟨rfl, next, waiting⟩, depth, nested, confined⟩
  | called answer quiet =>
      exact ⟨⟨control.1, control.2.2 answer⟩, waiting,
        (congrArg Activity.depth quiet.activity).trans depth, nested, quiet.confined confined⟩
  | gave | found =>
      exact ⟨⟨waiting.1, waiting.2.1 _⟩, waiting.2.2, depth, nested, confined⟩

theorem steps_paced (steps : before.Steps after) (paced : before.Paced) : after.Paced := by
  induction steps with
  | refl => exact paced
  | tail _ step ih => exact goes_paced (step_goes step) ih

theorem steps_within (steps : before.Steps after) (within : before.Within config) :
    after.Within config := by
  induction steps with
  | refl => exact within
  | tail _ step ih => exact goes_within (step_goes step) ih

theorem steps_end {last middle : Machine} (steps : before.Steps last) (ended : last.step = none)
    (other : before.Steps middle) : middle.Steps last := by
  have functional : Relator.RightUnique fun before after : Machine => before.step = some after :=
    fun _ _ _ left right => Option.some.inj (left.symm.trans right)
  rcases ReflTransGen.total_of_right_unique functional steps other with further | reached
  · rcases ReflTransGen.cases_head further with rfl | ⟨next, step, _⟩
    · exact .refl
    · rw [ended] at step
      cases step
  · exact reached

theorem start_within {object : ObjectId} {store : Store} (idle : store.activity.depth = 0)
    (confined : store.Confined) : (start config object store).Within config :=
  ⟨rfl, trivial, idle, Nat.zero_le _, confined⟩

theorem start_paced (object : ObjectId) (store : Store) : (start config object store).Paced where
  control := List.forall_mem_singleton.mpr (Nat.le_add_left 1 _)
  waiting _ member := absurd member List.not_mem_nil

theorem turns_bounded {machine : Machine} (paced : machine.Paced) :
    ∀ loop ∈ machine.turns, loop.2 ≤ loop.1.limit + 1 :=
  List.forall_mem_append.mpr
    ⟨paced.control, fun loop member => Nat.le_succ_of_le (paced.waiting loop member)⟩

theorem control_limits {wanted : Wanted} {control : Control wanted}
    (under : control.Under config) : ∀ loop ∈ control.turns, loop.1 = config := by
  cases control with
  | turn own visited object => exact List.forall_mem_singleton.mpr under
  | demand | program | answer => exact fun _ member => absurd member List.not_mem_nil

theorem waiting_limits {wanted : Wanted} {waiting : Waiting wanted}
    (under : waiting.Under config) : ∀ loop ∈ waiting.turns, loop.1 = config := by
  induction waiting with
  | bottom => exact fun _ member => absurd member List.not_mem_nil
  | chain own visited below ih => exact List.forall_mem_cons.mpr ⟨under.1, ih under.2⟩
  | computing _ _ _ below ih => exact ih under
  | demanding _ _ below ih | resolving _ _ below ih => exact ih under.2.2

end Keeps

end Machine

/-- A dataization is done after finitely many steps, with the outcome that the evaluator
gives, and each turn of a loop is at most one beyond the limit of its evaluation. Begun at
nesting zero, with rules that stay within the evaluation they are given, it never has more
composite evaluations nested than its limit, which is the limit of every loop. -/
theorem dataization_terminates (config : Config) (object : ObjectId) (store : Store) :
    let start := Machine.start config object store
    let last := Machine.handing .bottom ((resolve config object).outcome store)
    (start.Steps last ∧ last.step = none ∧
        ∀ machine, start.Steps machine → machine.Steps last) ∧
      (∀ machine, start.Steps machine →
        ∀ loop ∈ machine.turns, loop.2 ≤ loop.1.limit + 1) ∧
      (store.activity.depth = 0 → store.Confined → ∀ machine, start.Steps machine →
        machine.waiting.nesting ≤ config.limit ∧ ∀ loop ∈ machine.turns, loop.1 = config) := by
  intro start last
  have ends : start.Steps last := Machine.start_steps config object store
  refine ⟨⟨ends, rfl, fun machine => Machine.steps_end ends rfl⟩, ?_, ?_⟩
  · intro machine steps
    exact Machine.turns_bounded (Machine.steps_paced steps (Machine.start_paced object store))
  · intro idle confined machine steps
    have within := Machine.steps_within steps (Machine.start_within idle confined)
    exact ⟨within.nested, List.forall_mem_append.mpr
      ⟨Machine.control_limits within.control, Machine.waiting_limits within.waiting⟩⟩

/-- Every evaluation makes another instance and demands the same of it. -/
def Template.endlessRule : Rule := fun _ => do
  let again ← Program.instantiate (.named "endless")
  Program.attributeOf again valueAttribute

def Template.endless : Template :=
  (Template.new "endless").composite valueAttribute endlessRule

def Store.endless : Store :=
  ((Store.empty.declare "endless" .endless).instantiate ⟨.declared 0, .endless⟩).2

theorem endless_confined : Store.endless.Confined := by
  have rule : Rule.Confined Template.endlessRule := fun _ =>
    confined_bind (confined_ask trivial) fun _ => confined_ask rfl
  have definition : Definition.Confined ⟨.declared 0, .endless⟩ :=
    List.forall_mem_singleton.mpr rule
  have declared : (Store.empty.declare "endless" .endless).Confined :=
    ⟨nofun, List.forall_mem_singleton.mpr definition⟩
  exact confined_writes declared (instantiate_writes definition)

/-- Three instances are made and a fourth is not entered, however the machine gets there. -/
theorem endless_ends :
    let config : Config := ⟨3, false⟩
    let start := Machine.start config ⟨0⟩ Store.endless
    ((resolve config ⟨0⟩).outcome Store.endless).1 = .error (.depthExceeded 3) ∧
      start.Steps (Machine.handing .bottom ((resolve config ⟨0⟩).outcome Store.endless)) ∧
      Store.endless.activity.depth = 0 ∧ Store.endless.Confined ∧
      ∀ machine, start.Steps machine →
        machine.waiting.nesting ≤ config.limit ∧ ∀ loop ∈ machine.turns, loop.1 = config := by
  intro config start
  have terminates := dataization_terminates config ⟨0⟩ Store.endless
  exact ⟨rfl, terminates.1.1, rfl, endless_confined, terminates.2.2 rfl endless_confined⟩

end ObjectCalculus
