import ObjectCalculus.Expression
import ObjectCalculus.Template

/-!
# Steps of a session

What a session can be asked to do. Objects, templates and coercions are referred
to by the names that earlier steps gave them.
-/

set_option autoImplicit false

namespace ObjectCalculus.Session

inductive Operand where
  | named (name : String)
  | value (value : Value)

inductive RawSource where
  | scalar (value : Value)
  | objects (items : List Operand)
  | unsupported (typeName : String)

inductive Declared where
  | free
  | variadic
  | composite (rule : Expression) (cached : Bool)

def Declared.spec : Declared → Spec
  | .free => .free
  | .variadic => .variadic
  | .composite rule cached => .composite rule.rule cached

inductive Making where
  | new (template : String)
  | leaf (value : Value)
  | deferred (data : Deferred Value)
  | copy (object : String)
  | extend (object name : String) (value : Operand)
  | apply (template : String) (operands : List Operand)
  | array (items : List Operand)
  /-- Again and again a new instance around the object before. -/
  | nest (object template name : String) (times : Nat) (extra : List Value)
  | coerce (raw : RawSource)
  | coerced (coercion : String)
  | attributeOf (object name : String)

inductive Route where
  | session
  | default

def Route.config (session : Config) : Route → Config
  | .session => session
  | .default => .default

inductive Step where
  | make (target : String) (making : Making)
  | declare (target name : String) (attributes : List (String × Declared))
  | spec (template name : String)
  | coerce (target : String) (raw : RawSource)
  | showCoercion (coercion : String)
  | bind (object name : String) (value : Operand)
  | bindAt (object name : String) (index : Nat) (value : Operand)
  | sequence (object name : String)
  | dataize (object : String) (expected : Kind) (route : Route)
  | resolve (object : String)
  | depth
  | datum (object : String)
  | display (object : String)
  | outline (object : String) (spread : Bool)
  | inspect (object : String)
  | kindOf (object name : String)
  | same (object other : String)
  | runs (object : String)
  | counters
  | config

end ObjectCalculus.Session
