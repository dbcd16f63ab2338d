import ObjectCalculus.Proofs.Activity

/-!
# Evaluation one step at a time

The evaluator is defined by recursion on levels that never run out. Here it is taken
apart into a machine with no levels and no count of moves to go: what it is at, what waits
for the outcome, and the store. One step looks up one attribute, makes one turn of a
chain, carries out one call of a rule or hands one outcome back. From every store,
whatever the rules are, the machine comes to an end, and it ends with what the evaluator
ends with.
-/

set_option autoImplicit false

namespace ObjectCalculus

open Effect Evaluation Relation

/-- What is waited for: the object of an attribute or the value of a chain. -/
inductive Wanted where
  | object
  | value

abbrev Wanted.Answer : Wanted → Type
  | .object => ObjectId
  | .value => Value

inductive Control : Wanted → Type where
  | demand (config : Config) (object : ObjectId) (name : String) : Control .object
  /-- A turn of the loop that follows a chain, with the objects of the turns before. -/
  | turn (config : Config) (visited : List ObjectId) (object : ObjectId) : Control .value
  | program (running : Config) (body : Program ObjectId) : Control .object
  | answer {wanted : Wanted} (result : Except DataError wanted.Answer) : Control wanted

inductive Waiting : Wanted → Type where
  | bottom : Waiting .value
  /-- A loop, in a turn that has yet to learn the next object. -/
  | chain (config : Config) (visited : List ObjectId) (below : Waiting .value) :
      Waiting .object
  | computing (object : ObjectId) (name : String) (publishes : Bool)
      (below : Waiting .object) : Waiting .object
  | demanding (running : Config) (next : Except DataError ObjectId → Program ObjectId)
      (below : Waiting .object) : Waiting .object
  | resolving (running : Config) (next : Except DataError Value → Program ObjectId)
      (below : Waiting .object) : Waiting .value

structure Machine where
  {wanted : Wanted}
  control : Control wanted
  waiting : Waiting wanted
  store : Store

namespace Machine

def handing {wanted : Wanted} (waiting : Waiting wanted)
    (outcome : Except DataError wanted.Answer × Store) : Machine :=
  ⟨.answer outcome.1, waiting, outcome.2⟩

/-- The rule is started, unless there is a result that is kept. -/
def compute (config : Config) (object : ObjectId) (name : String) (rule : Rule)
    (cache : Option (Memo ObjectId)) (waiting : Waiting .object) (store : Store) : Machine :=
  match cache with
  | none => ⟨.program config (rule object), .computing object name false waiting, store⟩
  | some cell =>
      match cell.content with
      | some kept => ⟨.answer (.ok kept), .computing object name false waiting, store⟩
      | none => ⟨.program config (rule object), .computing object name true waiting, store⟩

def demand (config : Config) (object : ObjectId) (name : String)
    (waiting : Waiting .object) (store : Store) : Machine :=
  match store.slot? object name with
  | some (.free cell) =>
      match cell.content with
      | some value => handing waiting (.ok value, store)
      | none => handing waiting (.error (.unbound (store.label object) name), store)
  | some (.variadic ..) =>
      handing waiting (.error (.undataizable (store.label object ++ "." ++ name)), store)
  | some (.composite rule cache) =>
      if ⟨object, name⟩ ∈ store.activity.markers then
        handing waiting (.error (.cyclicEvaluation (store.label object) name),
          store.record (.cyclicEvaluation (store.label object) name))
      else if config.limit ≤ store.activity.depth then
        handing waiting (.error (.depthExceeded config.limit),
          store.record (.depthLimit config.limit))
      else
        compute config object name rule cache waiting (store.mark ⟨object, name⟩)
  | none => handing waiting (.error (.unknownAttribute (store.label object) name), store)

def turn (config : Config) (visited : List ObjectId) (object : ObjectId)
    (waiting : Waiting .value) (store : Store) : Machine :=
  match store.takeLeaf object with
  | (some result, after) => handing waiting (result, after)
  | (none, after) =>
      if object ∈ visited then
        handing waiting (.error (.cyclicEvaluation (after.label object) valueAttribute),
          after.record (.chainRevisits (after.label object)))
      else if config.limit < (object :: visited).length then
        handing waiting (.error (.depthExceeded config.limit),
          after.record (.depthLimit config.limit))
      else
        match nextAttribute after object with
        | .error failure => handing waiting (.error failure, after)
        | .ok name =>
            ⟨.demand config object name, .chain config (object :: visited) waiting,
              stepped config object name after⟩

/-- All calls but two are carried out at once, and no evaluator has a part in them. -/
def call (running : Config) : (request : Call) →
    (Except DataError request.Answer → Program ObjectId) → Waiting .object → Store → Machine
  | .attributeOf scope object name, next, waiting, store =>
      ⟨.demand (scope.config running) object name, .demanding running next waiting, store⟩
  | .resolve scope object, next, waiting, store =>
      ⟨.turn (scope.config running) [] object, .resolving running next waiting, store⟩
  | request, next, waiting, store =>
      let (answer, after) := (perform (attributeWithin 0) running request).outcome store
      ⟨.program running (next answer), waiting, after⟩

def leave (object : ObjectId) (name : String) (publishes : Bool)
    (result : Except DataError ObjectId) (waiting : Waiting .object) (store : Store) : Machine :=
  match result, publishes with
  | .ok found, true =>
      let (kept, after) := (publish object name found).outcome store
      handing waiting (kept, after.unmark ⟨object, name⟩)
  | _, _ => handing waiting (result, store.unmark ⟨object, name⟩)

def goOn (config : Config) (visited : List ObjectId) (result : Except DataError ObjectId)
    (waiting : Waiting .value) (store : Store) : Machine :=
  match result with
  | .ok next => ⟨.turn config visited next, waiting, store⟩
  | .error failure => handing waiting (.error failure, store)

def handBack : {wanted : Wanted} → Waiting wanted → Except DataError wanted.Answer → Store →
    Option Machine
  | _, .bottom, _, _ => none
  | _, .chain config visited below, result, store =>
      some (goOn config visited result below store)
  | _, .computing object name publishes below, result, store =>
      some (leave object name publishes result below store)
  | _, .demanding running next below, result, store =>
      some ⟨.program running (next result), below, store⟩
  | _, .resolving running next below, result, store =>
      some ⟨.program running (next result), below, store⟩

/-- Nothing is left to do once nothing waits. -/
def step : Machine → Option Machine
  | ⟨.demand config object name, waiting, store⟩ =>
      some (demand config object name waiting store)
  | ⟨.turn config visited object, waiting, store⟩ =>
      some (turn config visited object waiting store)
  | ⟨.program _ (.done result), waiting, store⟩ => some (handing waiting (result, store))
  | ⟨.program running (.call request next), waiting, store⟩ =>
      some (call running request next waiting store)
  | ⟨.answer result, waiting, store⟩ => handBack waiting result store

def start (config : Config) (object : ObjectId) (store : Store) : Machine :=
  ⟨.turn config [] object, .bottom, store⟩

def Steps : Machine → Machine → Prop :=
  ReflTransGen fun before after => before.step = some after

theorem steps_head {first second last : Machine} (step : first.step = some second)
    (rest : Steps second last) : Steps first last :=
  ReflTransGen.head step rest

section Step

variable {config running : Config} {visited : List ObjectId} {object : ObjectId} {name : String}
  {rule : Rule} {cache : Option (Memo ObjectId)} {store : Store}

theorem demand_composite (waiting : Waiting .object)
    (slot : store.slot? object name = some (.composite rule cache))
    (idle : ⟨object, name⟩ ∉ store.activity.markers)
    (room : store.activity.depth < config.limit) :
    demand config object name waiting store =
      compute config object name rule cache waiting (store.mark ⟨object, name⟩) := by
  unfold demand
  rw [slot]
  simp only [idle, if_false, Nat.not_le.mpr room]

theorem turn_leaf {result : Except DataError Value} {after : Store} (waiting : Waiting .value)
    (taken : store.takeLeaf object = (some result, after)) :
    turn config visited object waiting store = handing waiting (result, after) := by
  unfold turn
  rw [taken]

theorem turn_revisited (waiting : Waiting .value) (composed : store.leaf? object = none)
    (seen : object ∈ visited) :
    turn config visited object waiting store =
      handing waiting (.error (.cyclicEvaluation (store.label object) valueAttribute),
        store.record (.chainRevisits (store.label object))) := by
  unfold turn
  rw [take_leaf_instance composed]
  simp only [seen, if_true]

theorem turn_exhausted (waiting : Waiting .value) (composed : store.leaf? object = none)
    (fresh : object ∉ visited) (full : config.limit ≤ visited.length) :
    turn config visited object waiting store =
      handing waiting (.error (.depthExceeded config.limit),
        store.record (.depthLimit config.limit)) := by
  have beyond : config.limit < (object :: visited).length := Nat.lt_succ_of_le full
  unfold turn
  rw [take_leaf_instance composed]
  simp only [fresh, if_false, beyond, if_true]

/-- What a turn does that neither arrives nor is refused. -/
theorem turn_onward (waiting : Waiting .value) (composed : store.leaf? object = none)
    (fresh : object ∉ visited) (room : visited.length < config.limit) :
    turn config visited object waiting store =
      match nextAttribute store object with
      | .error failure => handing waiting (.error failure, store)
      | .ok name =>
          ⟨.demand config object name, .chain config (object :: visited) waiting,
            stepped config object name store⟩ := by
  have within : ¬config.limit < (object :: visited).length := Nat.not_lt.mpr room
  unfold turn
  rw [take_leaf_instance composed]
  simp only [fresh, if_false, within]

theorem call_direct {request : Call} (direct : request.evaluates = false)
    (next : Except DataError request.Answer → Program ObjectId) (waiting : Waiting .object) :
    call running request next waiting store =
      ⟨.program running (next ((perform attributeOf running request).outcome store).1), waiting,
        (perform attributeOf running request).after store⟩ := by
  cases request <;> first | rfl | cases direct

end Step

/-- At a depth, the machine gets from the demand for an attribute to the outcome. -/
def DemandsAt (depth : Nat) : Prop :=
  ∀ (config : Config) (object : ObjectId) (name : String) (waiting : Waiting .object)
    (store : Store), store.activity.depth = depth →
      Steps ⟨.demand config object name, waiting, store⟩
        (handing waiting ((attributeOf config object name).outcome store))

section Steps

variable {depth : Nat}

theorem attribute_keeps_depth {config : Config} {object : ObjectId} {name : String}
    {store middle : Store} {result : Except DataError ObjectId}
    (ran : (attributeOf config object name).outcome store = (result, middle)) :
    middle.activity.depth = store.activity.depth := by
  have kept := attribute_of_restores config object name store
  rw [Effect.after, ran] at kept
  exact congrArg Activity.depth kept

/-- A loop that has come to a leaf, or to an object it has passed, goes no further. -/
theorem turn_arrives (config : Config) (moves : Nat) {visited : List ObjectId}
    {object : ObjectId} (waiting : Waiting .value) {store : Store}
    (arrived : store.leaf? object = none → object ∈ visited) :
    Steps ⟨.turn config visited object, waiting, store⟩
      (handing waiting ((follow attributeOf config moves visited object).outcome store)) := by
  rcases taken : store.takeLeaf object with ⟨result, after⟩
  cases result with
  | some result =>
      rw [follow_leaf taken]
      exact .single (congrArg some (turn_leaf waiting taken))
  | none =>
      have composed := (take_leaf_none store object).mp (by rw [taken])
      rw [follow_revisited composed (arrived composed)]
      exact .single (congrArg some (turn_revisited waiting composed (arrived composed)))

/-- The turns that a loop has made and the moves it has left make up the limit. -/
theorem turn_steps (demands : DemandsAt depth) {config : Config} {moves : Nat}
    {visited : List ObjectId} (object : ObjectId) (waiting : Waiting .value) {store : Store}
    (deep : store.activity.depth = depth) (left : moves + visited.length = config.limit) :
    Steps ⟨.turn config visited object, waiting, store⟩
      (handing waiting ((follow attributeOf config moves visited object).outcome store)) := by
  induction moves generalizing visited object store with
  | zero =>
      by_cases arrived : store.leaf? object = none → object ∈ visited
      · exact turn_arrives config 0 waiting arrived
      obtain ⟨composed, fresh⟩ := Classical.not_imp.mp arrived
      have full : config.limit ≤ visited.length := by omega
      rw [follow_exhausted composed fresh]
      exact .single (congrArg some (turn_exhausted waiting composed fresh full))
  | succ moves ih =>
      by_cases arrived : store.leaf? object = none → object ∈ visited
      · exact turn_arrives config (moves + 1) waiting arrived
      obtain ⟨composed, fresh⟩ := Classical.not_imp.mp arrived
      have room : visited.length < config.limit := by omega
      have onward := turn_onward waiting composed fresh room
      cases way : nextAttribute store object with
      | error failure =>
          rw [follow_nowhere composed fresh way]
          rw [way] at onward
          exact .single (congrArg some onward)
      | ok name =>
          rw [follow_step composed fresh way]
          rw [way] at onward
          have first : (Machine.mk (.turn config visited object) waiting store).step =
            some ⟨.demand config object name, .chain config (object :: visited) waiting,
              stepped config object name store⟩ := congrArg some onward
          have steppedDeep : (stepped config object name store).activity.depth = depth := by
            rw [activity_invariance.keeps_stepped config object name store, deep]
          have reached := steps_head first (demands config object name _ _ steppedDeep)
          rcases moved : (attributeOf config object name).outcome
            (stepped config object name store) with ⟨result, middle⟩
          rw [moved] at reached
          cases result with
          | error failure =>
              rw [outcome_bind_error moved]
              exact reached.tail rfl
          | ok next =>
              rw [outcome_bind_ok moved]
              have passed : moves + (object :: visited).length = config.limit := by
                rw [List.length_cons]
                omega
              have further := ih next ((attribute_keeps_depth moved).trans steppedDeep) passed
              exact (reached.tail rfl).trans further

theorem program_steps (demands : DemandsAt depth) (running : Config) (body : Program ObjectId)
    (waiting : Waiting .object) {store : Store} (deep : store.activity.depth = depth) :
    Steps ⟨.program running body, waiting, store⟩
      (handing waiting ((runProgram attributeOf running body).outcome store)) := by
  induction body generalizing store with
  | done result =>
      rw [run_done]
      exact .single rfl
  | call request next ih =>
      rw [run_call]
      have kept := activity_invariance.keeps_perform attribute_of_restores running request store
      refine ReflTransGen.trans ?_ (ih _ ((congrArg Activity.depth kept).trans deep))
      cases evaluates : request.evaluates with
      | false => exact .single (congrArg some (call_direct evaluates next waiting))
      | true =>
          cases request with
          | attributeOf scope object name =>
              have demanded := demands (scope.config running) object name
                (.demanding running next waiting) store deep
              exact .head rfl (demanded.tail rfl)
          | resolve scope object =>
              have nothing : (scope.config running).limit + ([] : List ObjectId).length =
                (scope.config running).limit := Nat.add_zero _
              have resolved := turn_steps demands object (.resolving running next waiting) deep
                nothing
              exact .head rfl (resolved.tail rfl)
          | _ => cases evaluates

theorem leave_failed (object : ObjectId) (name : String) (publishes : Bool)
    (failure : DataError) (waiting : Waiting .object) (store : Store) :
    leave object name publishes (.error failure) waiting store =
      handing waiting (.error failure, store.unmark ⟨object, name⟩) := by
  cases publishes <;> rfl

theorem leave_unpublished (object : ObjectId) (name : String)
    (result : Except DataError ObjectId) (waiting : Waiting .object) (store : Store) :
    leave object name false result waiting store =
      handing waiting (result, store.unmark ⟨object, name⟩) := by
  cases result <;> rfl

theorem compute_steps (demands : DemandsAt depth) (config : Config) (object : ObjectId)
    (name : String) (rule : Rule) (cache : Option (Memo ObjectId)) (waiting : Waiting .object)
    {store : Store} (deep : store.activity.depth = depth) :
    let body := composite attributeOf config object name rule cache
    Steps (compute config object name rule cache waiting store)
      (handing waiting ((body.outcome store).1, (body.after store).unmark ⟨object, name⟩)) := by
  intro body
  have ran (publishes : Bool) := program_steps demands config (rule object)
    (.computing object name publishes waiting) deep
  have left (outcome : Except DataError ObjectId × Store) :
      (handing (.computing object name false waiting) outcome).step =
        some (handing waiting (outcome.1, outcome.2.unmark ⟨object, name⟩)) :=
    congrArg some (leave_unpublished object name outcome.1 waiting outcome.2)
  cases cache with
  | none => exact (ran false).tail (left _)
  | some cell =>
      cases content : cell.content with
      | some kept =>
          have same : body = pure kept := composite_kept content
          have handed : compute config object name rule (some cell) waiting store =
              ⟨.answer (.ok kept), .computing object name false waiting, store⟩ := by
            simp only [compute, content]
          rw [same, handed]
          exact .single (left (.ok kept, store))
      | none =>
          have same : body =
              (runProgram attributeOf config (rule object) >>= publish object name) :=
            composite_computed content
          have started : compute config object name rule (some cell) waiting store =
              ⟨.program config (rule object), .computing object name true waiting, store⟩ := by
            simp only [compute, content]
          rw [same, started]
          have reached := ran true
          rcases outcome : (runProgram attributeOf config (rule object)).outcome store with
            ⟨result, inner⟩
          rw [outcome] at reached
          cases result with
          | error failure =>
              rw [Effect.after, outcome_bind_error outcome]
              exact reached.tail (congrArg some (leave_failed object name _ failure waiting _))
          | ok result =>
              rw [Effect.after, outcome_bind_ok outcome]
              exact reached.tail rfl

theorem demand_steps (below : depth < Config.levels → DemandsAt (depth + 1)) :
    DemandsAt depth := by
  intro config object name waiting store deep
  rw [attribute_of_unfold]
  have looked {outcome : Except DataError ObjectId × Store}
      (same : demand config object name waiting store = handing waiting outcome) :
      Steps ⟨.demand config object name, waiting, store⟩ (handing waiting outcome) :=
    .single (congrArg some same)
  cases slot : store.slot? object name with
  | none =>
      rw [attribute_unknown slot]
      exact looked (by simp only [demand, slot])
  | some found =>
      cases found with
      | free cell =>
          cases content : cell.content with
          | some value =>
              rw [attribute_bound slot content]
              exact looked (by simp only [demand, slot, content])
          | none =>
              rw [attribute_unbound slot content]
              exact looked (by simp only [demand, slot, content])
      | variadic items isSealed =>
          rw [attribute_variadic slot]
          exact looked (by simp only [demand, slot])
      | composite rule cache =>
          rw [attribute_composite slot]
          by_cases active : ⟨object, name⟩ ∈ store.activity.markers
          · rw [guarded_cyclic active]
            exact looked (by simp only [demand, slot, active, if_true])
          by_cases full : config.limit ≤ store.activity.depth
          · rw [guarded_deep active full]
            exact looked (by simp only [demand, slot, active, if_false, full, if_true])
          have room := Nat.lt_of_not_le full
          rw [guarded_entered active room]
          have entered : (store.mark ⟨object, name⟩).activity.depth = depth + 1 :=
            congrArg Nat.succ deep
          have inside := below (Nat.lt_trans (deep ▸ room) config.limit_lt_levels)
          exact .head (congrArg some (demand_composite waiting slot active room))
            (compute_steps inside config object name rule cache waiting entered)

end Steps

/-- No limit reaches beyond the levels, so that nothing is entered at that depth. -/
theorem demands_at (depth : Nat) : DemandsAt depth := by
  induction left : Config.levels - depth generalizing depth with
  | zero => exact demand_steps fun below => absurd below (by omega)
  | succ left ih => exact demand_steps fun below => ih (depth + 1) (by omega)

theorem start_steps (config : Config) (object : ObjectId) (store : Store) :
    Steps (start config object store)
      (handing .bottom ((resolve config object).outcome store)) :=
  turn_steps (demands_at store.activity.depth) object .bottom rfl (Nat.add_zero _)

end Machine

end ObjectCalculus
