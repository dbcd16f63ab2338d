import ObjectCalculus.Builtin.Basic
import ObjectCalculus.Config.Basic
import ObjectCalculus.Deferred

/-!
# Programs

The rule of a composite attribute is a program: a tree of calls to the engine,
each followed by what to do with its answer, which may be a failure. A program
has no other access to objects, so whatever holds of every call holds of every
rule.
-/

set_option autoImplicit false

namespace ObjectCalculus

/-- Objects are numbered from one in the order in which they are made. -/
structure ObjectId where
  index : Nat
  deriving DecidableEq

def ObjectId.number (object : ObjectId) : Nat :=
  object.index + 1

def ObjectId.text (object : ObjectId) : String :=
  "#" ++ toString object.number

/-- Which limits a call evaluates under: those of the evaluation that runs the
program, or its own. -/
inductive Scope where
  | running
  | fresh (config : Config)

def Scope.config (running : Config) : Scope → Config
  | .running => running
  | .fresh config => config

/-- A declared template is looked up by name when the call is made; a built-in
one cannot be shadowed. -/
inductive TemplateRef where
  | builtin (builtin : Builtin)
  | named (name : String)

inductive Report where
  | reduced (operation : String) (operands : Nat)
  | coerced
  | coercedArray (elements : Nat)

inductive Call where
  | attributeOf (scope : Scope) (object : ObjectId) (name : String)
  | resolve (scope : Scope) (object : ObjectId)
  | sequence (object : ObjectId) (name : String)
  | instantiate (template : TemplateRef)
  | leaf (value : Value)
  | deferredLeaf (data : Deferred Value)
  | copy (object : ObjectId)
  | extend (object : ObjectId) (name : String) (value : ObjectId)
  | bind (object : ObjectId) (name : String) (value : ObjectId)
  | bindAt (object : ObjectId) (name : String) (index : Nat) (value : ObjectId)
  | datum (object : ObjectId)
  | display (object : ObjectId)
  | depth
  | report (object : ObjectId) (report : Report)
  | tally (counter : String)

def Call.Answer : Call → Type
  | .attributeOf .. => ObjectId
  | .resolve .. => Value
  | .sequence .. => List ObjectId
  | .instantiate .. => ObjectId
  | .leaf .. => ObjectId
  | .deferredLeaf .. => ObjectId
  | .copy .. => ObjectId
  | .extend .. => ObjectId
  | .bind .. => Unit
  | .bindAt .. => Unit
  | .datum .. => Option Value
  | .display .. => String
  | .depth => Nat
  | .report .. => Unit
  | .tally .. => Unit

inductive Program (α : Type) where
  | done (result : Except DataError α)
  | call (call : Call) (next : Except DataError call.Answer → Program α)

namespace Program

variable {α β : Type}

def bind : Program α → (α → Program β) → Program β
  | .done (.ok value), next => next value
  | .done (.error failure), _ => .done (.error failure)
  | .call request after, next => .call request fun answer => (after answer).bind next

/-- On failure the alternative runs from where the program stopped. -/
def orElse : Program α → (DataError → Program α) → Program α
  | .done (.ok value), _ => .done (.ok value)
  | .done (.error failure), alternative => alternative failure
  | .call request after, alternative =>
      .call request fun answer => (after answer).orElse alternative

instance : Monad Program where
  pure value := .done (.ok value)
  bind := Program.bind

instance : MonadExceptOf DataError Program where
  throw failure := .done (.error failure)
  tryCatch := Program.orElse

def fail (failure : DataError) : Program α :=
  .done (.error failure)

def ask (request : Call) : Program request.Answer :=
  .call request .done

def attributeOf (object : ObjectId) (name : String) : Program ObjectId :=
  ask (.attributeOf .running object name)

def resolve (object : ObjectId) : Program Value :=
  ask (.resolve .running object)

def resolveFresh (config : Config) (object : ObjectId) : Program Value :=
  ask (.resolve (.fresh config) object)

def sequence (object : ObjectId) (name : String) : Program (List ObjectId) :=
  ask (.sequence object name)

def instantiate (template : TemplateRef) : Program ObjectId :=
  ask (.instantiate template)

def leaf (value : Value) : Program ObjectId :=
  ask (.leaf value)

def bindTo (object : ObjectId) (name : String) (value : ObjectId) :
    Program Unit :=
  ask (.bind object name value)

def checkKind (expected : Kind) (value : Value) : Program Value :=
  if value.kind = expected then
    pure value
  else
    fail (.typeMismatch expected value.kind)

def dataize (object : ObjectId) (expected : Kind) : Program Value := do
  checkKind expected (← resolve object)

def dataizeAs (α : Type) [Carrier α] (object : ObjectId) : Program α := do
  let value ← resolve object
  match Carrier.ofValue? value with
  | some carried => pure carried
  | none => fail (.typeMismatch (Carrier.kind α) value.kind)

def bindAll (object : ObjectId) (name : String) : List ObjectId → Program Unit
  | [] => pure ()
  | value :: rest => do
      bindTo object name value
      bindAll object name rest

/-- A fresh instance with the given values bound to one attribute. -/
def instantiateWith (template : TemplateRef) (name : String)
    (values : List ObjectId) : Program ObjectId := do
  let object ← instantiate template
  bindAll object name values
  pure object

def each {γ : Type} (step : γ → Program α) : List γ → Program (List α)
  | [] => pure []
  | item :: rest => do
      let first ← step item
      let others ← each step rest
      pure (first :: others)

end Program

abbrev Rule := ObjectId → Program ObjectId

end ObjectCalculus
