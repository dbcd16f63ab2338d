import ObjectCalculus.Store

/-!
# Answers of a session

What the steps of a session hand back. Objects appear by their labels.
-/

set_option autoImplicit false

namespace ObjectCalculus.Session

inductive SlotView where
  | free (bound : Option String)
  | variadic (items : List String) (isSealed : Bool)
  | composite (cached computed : Bool)

structure Inspection where
  name : String
  label : String
  id : String
  isLeaf : Bool
  template : Option String
  attributes : List (String × SlotView)

structure Sameness where
  same : Bool
  order : Ordering
  sameTemplate : Option Bool

def SlotView.ofSlot (store : Store) : Slot → SlotView
  | .free cell => .free (cell.content.map store.label)
  | .variadic items isSealed => .variadic (items.map store.label) isSealed
  | .composite rule cache =>
      .composite (Slot.composite rule cache).isCached
        (Slot.composite rule cache).isComputed

def Inspection.ofObject (store : Store) (object : ObjectId) : Inspection where
  name := store.name object
  label := store.label object
  id := object.text
  isLeaf := (store.leaf? object).isSome
  template := (store.instance? object).map fun found => found.template.name
  attributes :=
    match store.instance? object with
    | some found =>
        found.attributes.map fun entry => (entry.1, SlotView.ofSlot store entry.2)
    | none => []

def Sameness.ofObjects (store : Store) (left right : ObjectId) : Sameness where
  same := left == right
  order := compare left.number right.number
  sameTemplate := do
    let leftInstance ← store.instance? left
    let rightInstance ← store.instance? right
    pure (leftInstance.definition.origin == rightInstance.definition.origin)

inductive Answer where
  | object (label : String)
  | bindFailure (failure : BindError)
  | failure (failure : DataError)
  | done
  | template (template : Template)
  | spec (position : Option Nat) (kind : Option AttributeKind)
  | text (content : String)
  | labels (items : List String)
  | value (value : Value)
  | number (number : Nat)
  | datum (value : Option Value)
  | inspection (inspection : Inspection)
  | kindOf (kind : Option AttributeKind)
  | sameness (sameness : Sameness)
  | counters (counters : List (String × Nat))
  | config (config : Config)

def Answer.ofResult {α : Type} (onSuccess : α → Answer) :
    Except DataError α → Answer
  | .ok found => onSuccess found
  | .error cause => .failure cause

end ObjectCalculus.Session
