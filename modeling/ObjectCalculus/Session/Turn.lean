import ObjectCalculus.Coercion
import ObjectCalculus.Evaluation
import ObjectCalculus.Session.Answer
import ObjectCalculus.Session.Step

/-!
# Turns of a session

A session keeps one store, the names given so far, and the configuration that
everything runs under. A turn reads and changes a session; making an object is
the turn that most steps consist of.
-/

set_option autoImplicit false

namespace ObjectCalculus

/-- A step that names something the session does not know. -/
inductive Session.UnknownName where
  | object (name : String)
  | template (name : String)
  | coercion (name : String)

structure Session where
  config : Config
  store : Store
  objects : List (String × ObjectId)
  coercions : List (String × Coercion)

namespace Session

def start (config : Config) : Session where
  config := config
  store := .empty
  objects := []
  coercions := []

/-- A step on a session; unlike a failure in an answer, an error ends it. -/
abbrev Turn (α : Type) := StateT Session (Except UnknownName) α

variable {α : Type}

def object (name : String) : Turn ObjectId := do
  match (← get).objects.lookup name with
  | some object => pure object
  | none => throw (.object name)

def nameObject (name : String) (object : ObjectId) : Turn Unit :=
  modify fun session => { session with objects := (name, object) :: session.objects }

def definition (name : String) : Turn Definition := do
  match (← get).store.definition? name with
  | some definition => pure definition
  | none => throw (.template name)

def coercion (name : String) : Turn Coercion := do
  match (← get).coercions.lookup name with
  | some coercion => pure coercion
  | none => throw (.coercion name)

def nameCoercion (name : String) (coercion : Coercion) : Turn Unit :=
  modify fun session =>
    { session with coercions := (name, coercion) :: session.coercions }

def perform (effect : Effect α) : Turn (Except DataError α) :=
  modifyGet fun session =>
    let (result, store) := effect.run.run session.store
    (result, { session with store := store })

def execute (program : Program α) : Turn (Except DataError α) := do
  perform (Evaluation.run (← get).config program)

def onStore (change : Store → α × Store) : Turn α :=
  modifyGet fun session =>
    let (result, store) := change session.store
    (result, { session with store := store })

def label (object : ObjectId) : Turn String := do
  pure ((← get).store.label object)

def operand : Operand → Turn ObjectId
  | .named name => object name
  | .value value => onStore fun store => store.addLeaf (.fixed value)

def raw : RawSource → Turn Raw
  | .scalar value => pure (.scalar value)
  | .objects items => do
      pure (.objects (← items.mapM operand))
  | .unsupported typeName => pure (.unsupported typeName)

def force (name : String) : Turn (Except DataError ObjectId) := do
  let coercion ← coercion name
  match coercion.object.content with
  | some object => pure (.ok object)
  | none =>
      match ← execute coercion.raw.coerce with
      | .ok object =>
          nameCoercion name { coercion with object := .filled object }
          pure (.ok object)
      | .error failure => pure (.error failure)

/-- New leaves for the values, each bound to the attribute before the next is
made. -/
def bindLeaves (object : ObjectId) (name : String) : List Value → Program Unit
  | [] => pure ()
  | value :: rest => do
      let leaf ← Program.leaf value
      Program.bindTo object name leaf
      bindLeaves object name rest

def nest (template name : String) (extra : List Value) :
    Nat → ObjectId → Program ObjectId
  | 0, object => pure object
  | times + 1, object => do
      let outer ← Program.instantiate (.named template)
      Program.bindTo outer name object
      bindLeaves outer name extra
      nest template name extra times outer

/-- A failure of the binding that was asked for is answered as it is; one inside
an evaluation is answered as the evaluation's. -/
inductive Fault where
  | binding (failure : BindError)
  | evaluation (failure : DataError)

def Fault.answer : Fault → Answer
  | .binding failure => .bindFailure failure
  | .evaluation failure => .failure failure

def Fault.ofBuilding : DataError → Fault
  | .bind cause => .binding cause
  | failure => .evaluation failure

def build (program : Program ObjectId) : Turn (Except Fault ObjectId) := do
  pure ((← execute program).mapError Fault.ofBuilding)

def evaluated (result : Except DataError ObjectId) : Except Fault ObjectId :=
  result.mapError Fault.evaluation

def make : Making → Turn (Except Fault ObjectId)
  | .new template => do
      let _ ← definition template
      build (Program.instantiate (.named template))
  | .leaf value => build (Program.leaf value)
  | .deferred data => build (Program.ask (.deferredLeaf data))
  | .copy name => do
      build (Program.ask (.copy (← object name)))
  | .extend receiver name value => do
      let bound ← operand value
      build (Program.ask (.extend (← object receiver) name bound))
  | .apply template operands => do
      let _ ← definition template
      let values ← operands.mapM operand
      build (Program.instantiateWith (.named template) operandAttribute values)
  | .array items => do
      let values ← items.mapM operand
      build (Program.instantiateWith (.builtin .array) elementAttribute values)
  | .nest inner template name times extra => do
      let _ ← definition template
      build (nest template name extra times (← object inner))
  | .coerce source => do
      let raw ← raw source
      pure (evaluated (← execute raw.coerce))
  | .coerced name => do
      pure (evaluated (← force name))
  | .attributeOf owner name => do
      pure (evaluated (← execute (Program.attributeOf (← object owner) name)))

end Session

end ObjectCalculus
