import ObjectCalculus.Store

/-!
# Evaluation

Dataization follows one attribute after another, from an object to the leaf it
stands for. A composite attribute on the way is evaluated by its rule, which may
dataize further objects; such evaluations nest, and two guards keep them finite:

* an attribute that is already under evaluation cannot be entered again;
* neither the nesting nor one chain of objects grows beyond the limit.

Whatever an evaluation ends with, its marker is cleared.

The nesting is bounded by every limit, and a limit is a machine word, so the
evaluator is defined by recursion on the levels that are left of that word's
range; no evaluation that starts at nesting zero uses them up.
-/

set_option autoImplicit false

namespace ObjectCalculus

/-- A computation on the store that may fail; a failure keeps what was done to
the store before. -/
abbrev Effect (α : Type) := ExceptT DataError (StateM Store) α

abbrev Evaluator := Config → ObjectId → String → Effect ObjectId

namespace Effect

variable {α : Type}

/-- Every effect is put together from changes of the store that come with a
result. -/
def ofStore (change : Store → Except DataError α × Store) : Effect α :=
  ExceptT.mk (modifyGet change)

def update (change : Store → α × Store) : Effect α :=
  ofStore fun store =>
    let (value, after) := change store
    (.ok value, after)

def read (view : Store → α) : Effect α :=
  update fun store => (view store, store)

def refuse (failure : Store → DataError) : Effect α :=
  ofStore fun store => (.error (failure store), store)

def ofResult : Except DataError α → Effect α
  | .ok value => pure value
  | .error failure => throw failure

def ofBinding (change : Store → Except BindError α × Store) : Effect α :=
  ofStore fun store =>
    let (result, after) := change store
    (result.mapError .bind, after)

def settle (effect : Effect α) : Effect (Except DataError α) :=
  ExceptT.lift effect.run

end Effect

namespace Evaluation

open Effect

variable {α : Type}

def depthExceeded (config : Config) : Effect α :=
  ofStore fun store =>
    (.error (.depthExceeded config.limit), store.record (.depthLimit config.limit))

/-- Marks an attribute as under evaluation, if it is not already and the limit
allows one more. -/
def enter (config : Config) (marker : Marker) : Effect Unit :=
  ofStore fun store =>
    let label := store.label marker.object
    if marker ∈ store.activity.markers then
      (.error (.cyclicEvaluation label marker.attr),
        store.record (.cyclicEvaluation label marker.attr))
    else if config.limit ≤ store.activity.depth then
      (.error (.depthExceeded config.limit),
        store.record (.depthLimit config.limit))
    else
      (.ok (), store.mark marker)

def leave (marker : Marker) : Effect Unit :=
  update fun store => ((), store.unmark marker)

def guarded (config : Config) (marker : Marker) (body : Effect α) : Effect α := do
  enter config marker
  let result ← settle body
  leave marker
  ofResult result

/-- The attribute that stands for an object's value: its datum if it has one. -/
def nextAttribute (store : Store) (object : ObjectId) : Except DataError String :=
  if store.has object dataAttribute then .ok dataAttribute
  else if store.has object valueAttribute then .ok valueAttribute
  else .error (.undataizable (store.label object))

def recordStep (config : Config) (object : ObjectId) (name : String) :
    Effect Unit :=
  update fun store =>
    if config.traceDataization then
      ((), store.record (.step (store.label object) name store.activity.depth))
    else
      ((), store)

def revisited (object : ObjectId) : Effect α :=
  ofStore fun store =>
    (.error (.cyclicEvaluation (store.label object) valueAttribute),
      store.record (.chainRevisits (store.label object)))

def arrive (visited : List ObjectId) (object : ObjectId)
    (moveOn : Effect Value) : Effect Value := do
  match ← update fun store => store.takeLeaf object with
  | some result => ofResult result
  | none => if object ∈ visited then revisited object else moveOn

def follow (evaluate : Evaluator) (config : Config) :
    Nat → List ObjectId → ObjectId → Effect Value
  | 0, visited, object => arrive visited object (depthExceeded config)
  | moves + 1, visited, object =>
      arrive visited object do
        let name ← ofResult (← read fun store => nextAttribute store object)
        recordStep config object name
        let next ← evaluate config object name
        follow evaluate config moves (object :: visited) next

def resolveBy (evaluate : Evaluator) (config : Config) (object : ObjectId) :
    Effect Value :=
  follow evaluate config config.limit [] object

def eventOf (label : String) : Report → Event
  | .reduced operation operands => .reduced operation label operands
  | .coerced => .coerced label
  | .coercedArray elements => .coercedArray label elements

def instantiate (template : TemplateRef) : Effect ObjectId :=
  ofStore fun store =>
    match template with
    | .builtin builtin =>
        let (object, after) := store.instantiate builtin.definition
        (.ok object, after)
    | .named name =>
        match store.definition? name with
        | some definition =>
            let (object, after) := store.instantiate definition
            (.ok object, after)
        | none => (.error (.undataizable name), store)

/-- Carries out one call of a program that runs under the given limits. -/
def perform (evaluate : Evaluator) (running : Config) :
    (call : Call) → Effect call.Answer
  | .attributeOf scope object name => evaluate (scope.config running) object name
  | .resolve scope object => resolveBy evaluate (scope.config running) object
  | .sequence object name => ofStore fun store => store.sequence object name
  | .instantiate template => instantiate template
  | .leaf value => update fun store => store.addLeaf (.fixed value)
  | .deferredLeaf data => update fun store => store.addLeaf (.deferred data)
  | .copy object => update fun store => store.copy object
  | .extend object name value =>
      ofBinding fun store => store.extend object name value
  | .bind object name value =>
      ofBinding (Store.tryBind fun store => store.bind object name value)
  | .bindAt object name index value =>
      ofBinding (Store.tryBind fun store => store.bindAt object name index value)
  | .datum object => update fun store => store.datum object
  | .display object => update fun store => store.display object
  | .depth => read fun store => store.activity.depth
  | .report object content =>
      update fun store => ((), store.record (eventOf (store.label object) content))
  | .tally counter => update fun store => ((), store.tally counter)

def runProgram (evaluate : Evaluator) (running : Config) :
    Program α → Effect α
  | .done result => ofResult result
  | .call request next => do
      let answer ← settle (perform evaluate running request)
      runProgram evaluate running (next answer)

/-- The result a rule ended with, or the one that its attribute already keeps. -/
def publish (object : ObjectId) (name : String) (result : ObjectId) :
    Effect ObjectId :=
  update fun store =>
    match store.slot? object name with
    | some (.composite rule (some cell)) =>
        let (winner, kept) := cell.getOrSet result
        (winner, store.setSlot object name (.composite rule (some kept)))
    | _ => (result, store)

def composite (evaluate : Evaluator) (config : Config) (object : ObjectId)
    (name : String) (rule : Rule) (cache : Option (Memo ObjectId)) :
    Effect ObjectId :=
  match cache with
  | none => runProgram evaluate config (rule object)
  | some cell =>
      match cell.content with
      | some kept => pure kept
      | none => do
          let result ← runProgram evaluate config (rule object)
          publish object name result

/-- One level of evaluation, given the evaluator of the levels below. -/
def attributeBy (evaluate : Evaluator) : Evaluator := fun config object name => do
  match ← read fun store => store.slot? object name with
  | some (.free cell) =>
      match cell.content with
      | some value => pure value
      | none => refuse fun store => .unbound (store.label object) name
  | some (.variadic ..) =>
      refuse fun store => .undataizable (store.label object ++ "." ++ name)
  | some (.composite rule cache) =>
      guarded config ⟨object, name⟩
        (composite evaluate config object name rule cache)
  | none => refuse fun store => .unknownAttribute (store.label object) name

def attributeWithin : Nat → Evaluator
  | 0 => fun config _ _ => depthExceeded config
  | levels + 1 => attributeBy (attributeWithin levels)

def attributeOf : Evaluator :=
  attributeWithin Config.levels

def resolve (config : Config) (object : ObjectId) : Effect Value :=
  resolveBy attributeOf config object

def dataize (config : Config) (object : ObjectId) (expected : Kind) :
    Effect Value := do
  let value ← resolve config object
  if value.kind = expected then
    pure value
  else
    throw (.typeMismatch expected value.kind)

/-- Runs a program that no rule runs. -/
def run (config : Config) (program : Program α) : Effect α :=
  runProgram attributeOf config program

end Evaluation

end ObjectCalculus
