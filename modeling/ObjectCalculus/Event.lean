/-!
# Events

What the engine reports about its own work, in the order in which it happens.
Objects are named by their labels, except where an event names a new instance by
its number alone.
-/

set_option autoImplicit false

namespace ObjectCalculus

inductive Event where
  | instantiated (template object : String)
  | bound (object attr : String)
  | boundAt (object attr : String) (index : Nat)
  | reduced (operation object : String) (operands : Nat)
  | coerced (object : String)
  | coercedArray (object : String) (elements : Nat)
  | cyclicEvaluation (object attr : String)
  | chainRevisits (object : String)
  | depthLimit (limit : Nat)
  | step (object attr : String) (depth : Nat)
  deriving DecidableEq

inductive Level where
  | trace
  | debug
  | warn
  deriving DecidableEq

def Level.name : Level → String
  | .trace => "trace"
  | .debug => "debug"
  | .warn => "warn"

namespace Event

def level : Event → Level
  | .cyclicEvaluation .. => .warn
  | .chainRevisits _ => .warn
  | .depthLimit _ => .warn
  | .step .. => .trace
  | _ => .debug

def message : Event → String
  | .instantiated .. => "instantiated"
  | .bound .. => "bound"
  | .boundAt .. => "bound at position"
  | .reduced .. => "reduced"
  | .coerced _ => "coerced"
  | .coercedArray .. => "coerced array"
  | .cyclicEvaluation .. => "cyclic evaluation"
  | .chainRevisits _ => "dataization chain revisits object"
  | .depthLimit _ => "dataization depth limit reached"
  | .step .. => "dataize step"

def fields : Event → List (String × String)
  | .instantiated template object => [("template", template), ("object", object)]
  | .bound object attr => [("object", object), ("attr", attr)]
  | .boundAt object attr index =>
      [("object", object), ("attr", attr), ("index", toString index)]
  | .reduced operation object operands =>
      [("op", operation), ("object", object), ("operands", toString operands)]
  | .coerced object => [("object", object)]
  | .coercedArray object elements =>
      [("object", object), ("elements", toString elements)]
  | .cyclicEvaluation object attr =>
      [("object", object), ("attr", attr)]
  | .chainRevisits object => [("object", object)]
  | .depthLimit limit => [("limit", toString limit)]
  | .step object attr depth =>
      [("object", object), ("attr", attr), ("depth", toString depth)]

end Event

end ObjectCalculus
