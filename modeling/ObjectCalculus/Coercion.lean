import ObjectCalculus.Program

/-!
# Coercion

Turns raw data into an object: a data object that holds a datum, or an array of
objects. A coercion keeps the object from the first time it succeeds.
-/

set_option autoImplicit false

namespace ObjectCalculus

inductive Raw where
  | scalar (value : Value)
  | objects (items : List ObjectId)
  | unsupported (typeName : String)

namespace Raw

def ofDatum (builtin : Builtin) (value : Value) : Program ObjectId := do
  let object ← Program.instantiate (.builtin builtin)
  let datum ← Program.leaf value
  Program.bindTo object dataAttribute datum
  Program.ask (.report object .coerced)
  pure object

def coerce : Raw → Program ObjectId
  | .scalar value =>
      match Builtin.ofKind? value.kind with
      | some builtin => ofDatum builtin value
      | none => Program.fail (.unsupportedDataType value.kind.name)
  | .objects items => do
      let object ←
        Program.instantiateWith (.builtin .array) elementAttribute items
      Program.ask (.report object (.coercedArray items.length))
      pure object
  | .unsupported typeName => Program.fail (.unsupportedDataType typeName)

end Raw

structure Coercion where
  raw : Raw
  object : Memo ObjectId

def Coercion.ofRaw (raw : Raw) : Coercion where
  raw := raw
  object := .empty

end ObjectCalculus
