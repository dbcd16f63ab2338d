import ObjectCalculus.Builtin.Template
import ObjectCalculus.Deferred
import ObjectCalculus.Template

/-!
# Objects

An object is a leaf, which holds data, or an instance of a template, which holds
one slot for each attribute its template lists, at the same position.
-/

set_option autoImplicit false

namespace ObjectCalculus

inductive Slot where
  | free (value : Memo ObjectId)
  /-- A sealed slot takes no further items. -/
  | variadic (items : List ObjectId) (isSealed : Bool)
  /-- Only a kept attribute has a cell for its result. -/
  | composite (rule : Rule) (cache : Option (Memo ObjectId))

namespace Slot

def kind : Slot → AttributeKind
  | .free _ => .free
  | .variadic .. => .variadic
  | .composite .. => .composite

/-- An unbound slot for a declaration. -/
def ofSpec : Spec → Slot
  | .free => .free .empty
  | .variadic => .variadic [] false
  | .composite rule cached =>
      .composite rule (if cached then some .empty else none)

/-- A slot of its own with the same bindings: items can be added again, and
results have to be computed again. -/
def carry : Slot → Slot
  | .free value => .free value
  | .variadic items _ => .variadic items false
  | .composite rule cache => .composite rule (cache.map fun _ => .empty)

def isCached : Slot → Bool
  | .composite _ (some _) => true
  | _ => false

def isComputed : Slot → Bool
  | .composite _ (some cell) => cell.isFilled
  | _ => false

/-- The label of the slot's object and the slot's own name serve the error only. -/
def bindFree (owner name : String) (cell : Memo ObjectId) (value : ObjectId) :
    Except BindError Slot :=
  match cell.set value with
  | (.ok _, bound) => .ok (.free bound)
  | (.error _, _) => .error (.alreadyBound owner name)

def bind (owner name : String) (value : ObjectId) : Slot → Except BindError Slot
  | .free cell => bindFree owner name cell value
  | .variadic items isSealed =>
      if isSealed then .error (.sealed name)
      else .ok (.variadic (items ++ [value]) false)
  | .composite .. => .error (.notBindable name)

/-- A free slot is a sequence with room for one item. -/
def bindAt (owner name : String) (index : Nat) (value : ObjectId) :
    Slot → Except BindError Slot
  | .free cell =>
      if 0 < index then
        .error (.positionGap name index (if cell.isFilled then 1 else 0))
      else
        bindFree owner name cell value
  | .variadic items isSealed =>
      if isSealed then
        .error (.sealed name)
      else if index < items.length then
        .error (.alreadyBound owner (name ++ "[" ++ toString index ++ "]"))
      else if items.length < index then
        .error (.positionGap name index items.length)
      else
        .ok (.variadic (items ++ [value]) false)
  | .composite .. => .error (.notBindable name)

end Slot

/-- Where a template was defined; two templates are the same definition only if
they come from the same place. -/
inductive Origin where
  | builtin (builtin : Builtin)
  | declared (serial : Nat)
  deriving DecidableEq

structure Definition where
  origin : Origin
  template : Template

def Builtin.definition (builtin : Builtin) : Definition where
  origin := .builtin builtin
  template := builtin.template

structure Instance where
  definition : Definition
  slots : List Slot

namespace Instance

def template (object : Instance) : Template :=
  object.definition.template

def ofDefinition (definition : Definition) : Instance where
  definition := definition
  slots := definition.template.attributes.map fun entry => .ofSpec entry.2

def slot? (object : Instance) (name : String) : Option Slot := do
  let position ← object.template.position? name
  object.slots[position]?

def setSlot (object : Instance) (name : String) (slot : Slot) : Instance :=
  match object.template.position? name with
  | some position => { object with slots := object.slots.set position slot }
  | none => object

def copy (object : Instance) : Instance :=
  { object with slots := object.slots.map Slot.carry }

def attributes (object : Instance) : List (String × Slot) :=
  (object.template.attributes.map Prod.fst).zip object.slots

end Instance

inductive Leaf where
  | fixed (value : Value)
  | deferred (data : Deferred Value)

namespace Leaf

def runs : Leaf → Nat
  | .fixed _ => 0
  | .deferred data => data.runs

end Leaf

inductive Object where
  | leaf (data : Leaf)
  | composed (object : Instance)

namespace Object

def leafName : String := "data"

def name : Object → String
  | .leaf _ => leafName
  | .composed object => object.template.name

def slot? : Object → String → Option Slot
  | .leaf _, _ => none
  | .composed object, name => object.slot? name

def setSlot (name : String) (slot : Slot) : Object → Object
  | .leaf data => .leaf data
  | .composed object => .composed (object.setSlot name slot)

def setLeaf (data : Leaf) : Object → Object
  | .leaf _ => .leaf data
  | .composed object => .composed object

end Object

end ObjectCalculus
