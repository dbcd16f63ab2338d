import ObjectCalculus.Fold.Named

/-!
# Rule expressions

A small language of rules. An expression stands for an object; its parts are
evaluated from left to right and the first failure is its own, unless it is an
attempt, which goes on with its alternative.
-/

set_option autoImplicit false

namespace ObjectCalculus

inductive Expression where
  | own (name : String)
  | self
  | constant (value : Value)
  | depth
  | failure (cause : DataError)
  | resolve (object : Expression)
  | dataize (object : Expression) (expected : Kind)
  | dataizeFresh (object : Expression) (expected : Kind)
  | attributeOf (object : Expression) (name : String)
  | apply (template : String) (operands : List Expression)
  | create (template : String) (bindings : List (String × Expression))
  | extend (object : Expression) (name : String) (value : Expression)
  | bind (object : Expression) (name : String) (value : Expression)
  | copy (object : Expression)
  | gather (name : String)
  | count (name : String)
  | item (name : String) (index : Nat)
  | tally (counter : String) (object : Expression)
  | attempt (object alternative : Expression)
  | reduce (fold : Fold.Any)

namespace Expression

open Program

def ofCount (number : Nat) : Value :=
  .int (Int64.ofNat number)

mutual

def rule : Expression → Rule
  | .own name, owner => Program.attributeOf owner name
  | .self, owner => pure owner
  | .constant value, _ => leaf value
  | .depth, _ => do
      let depth ← ask .depth
      leaf (ofCount depth)
  | .failure cause, _ => fail cause
  | .resolve object, owner => do
      leaf (← Program.resolve (← rule object owner))
  | .dataize object expected, owner => do
      leaf (← Program.dataize (← rule object owner) expected)
  | .dataizeFresh object expected, owner => do
      let value ← resolveFresh .default (← rule object owner)
      leaf (← checkKind expected value)
  | .attributeOf object name, owner => do
      Program.attributeOf (← rule object owner) name
  | .apply template operands, owner => do
      let values ← rules operands owner
      instantiateWith (.named template) operandAttribute values
  | .create template bindings, owner => do
      let object ← instantiate (.named template)
      bindEach object bindings owner
      pure object
  | .extend object name value, owner => do
      let receiver ← rule object owner
      let bound ← rule value owner
      ask (.extend receiver name bound)
  | .bind object name value, owner => do
      let receiver ← rule object owner
      let bound ← rule value owner
      bindTo receiver name bound
      pure receiver
  | .copy object, owner => do
      ask (.copy (← rule object owner))
  | .gather name, owner => do
      let items ← sequence owner name
      instantiateWith (.builtin .array) elementAttribute items
  | .count name, owner => do
      let items ← sequence owner name
      leaf (ofCount items.length)
  | .item name index, owner => do
      let items ← sequence owner name
      match items[index]? with
      | some found => pure found
      | none => fail (.undataizable (name ++ "[" ++ toString index ++ "]"))
  | .tally counter object, owner => do
      ask (.tally counter)
      rule object owner
  | .attempt object alternative, owner =>
      (rule object owner).orElse fun _ => rule alternative owner
  | .reduce fold, owner => fold.rule owner

def rules : List Expression → ObjectId → Program (List ObjectId)
  | [], _ => pure []
  | expression :: rest, owner => do
      let first ← rule expression owner
      let others ← rules rest owner
      pure (first :: others)

def bindEach (object : ObjectId) :
    List (String × Expression) → ObjectId → Program Unit
  | [], _ => pure ()
  | (name, expression) :: rest, owner => do
      bindTo object name (← rule expression owner)
      bindEach object rest owner

end

end Expression

end ObjectCalculus
