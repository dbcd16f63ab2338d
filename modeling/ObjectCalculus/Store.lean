import ObjectCalculus.Event
import ObjectCalculus.Object

/-!
# The store

All objects made so far, the templates declared so far, the composite
evaluations under way, and what has been reported. Objects are never removed,
so an object's number is its place in the store.
-/

set_option autoImplicit false

namespace ObjectCalculus

structure Marker where
  object : ObjectId
  attr : String
  deriving DecidableEq

/-- Every evaluation shares the markers and the count of nested composite
evaluations, the fresh ones that a rule starts included. -/
structure Activity where
  markers : List Marker
  depth : Nat

def Activity.idle : Activity where
  markers := []
  depth := 0

structure Store where
  objects : Array Object
  /-- Newest first; a later declaration shadows an earlier one. -/
  declared : List (String × Definition)
  activity : Activity
  events : Array Event
  counters : List (String × Nat)

namespace Store

def empty : Store where
  objects := #[]
  declared := []
  activity := .idle
  events := #[]
  counters := []

def object? (store : Store) (object : ObjectId) : Option Object :=
  store.objects[object.index]?

def name (store : Store) (object : ObjectId) : String :=
  match store.object? object with
  | some found => found.name
  | none => Object.leafName

def label (store : Store) (object : ObjectId) : String :=
  store.name object ++ object.text

def slot? (store : Store) (object : ObjectId) (name : String) : Option Slot := do
  let found ← store.object? object
  found.slot? name

def has (store : Store) (object : ObjectId) (name : String) : Bool :=
  (store.slot? object name).isSome

def leaf? (store : Store) (object : ObjectId) : Option Leaf :=
  match store.object? object with
  | some (.leaf leaf) => some leaf
  | _ => none

def instance? (store : Store) (object : ObjectId) : Option Instance :=
  match store.object? object with
  | some (.composed found) => some found
  | _ => none

/-- A built-in template is found under a name that no declaration took. -/
def definition? (store : Store) (name : String) : Option Definition :=
  (store.declared.lookup name).or ((Builtin.ofName? name).map Builtin.definition)

def record (store : Store) (event : Event) : Store :=
  { store with events := store.events.push event }

def modifyObject (store : Store) (object : ObjectId) (change : Object → Object) :
    Store :=
  { store with objects := store.objects.modify object.index change }

def setSlot (store : Store) (object : ObjectId) (name : String) (slot : Slot) :
    Store :=
  store.modifyObject object (Object.setSlot name slot)

def setLeaf (store : Store) (object : ObjectId) (leaf : Leaf) : Store :=
  store.modifyObject object (Object.setLeaf leaf)

def nextId (store : Store) : ObjectId where
  index := store.objects.size

def add (store : Store) (object : Object) : ObjectId × Store :=
  (store.nextId, { store with objects := store.objects.push object })

def declare (store : Store) (name : String) (template : Template) : Store :=
  { store with
    declared :=
      (name, ⟨.declared store.declared.length, template⟩) :: store.declared }

def tallyIn (counter : String) : List (String × Nat) → List (String × Nat)
  | [] => [(counter, 1)]
  | (other, count) :: rest =>
      if other = counter then (other, count + 1) :: rest
      else (other, count) :: tallyIn counter rest

def tally (store : Store) (counter : String) : Store :=
  { store with counters := tallyIn counter store.counters }

def mark (store : Store) (marker : Marker) : Store :=
  { store with
    activity := ⟨marker :: store.activity.markers, store.activity.depth + 1⟩ }

def unmark (store : Store) (marker : Marker) : Store :=
  { store with
    activity := ⟨store.activity.markers.erase marker, store.activity.depth - 1⟩ }

def addLeaf (store : Store) (leaf : Leaf) : ObjectId × Store :=
  store.add (.leaf leaf)

def instantiate (store : Store) (definition : Definition) : ObjectId × Store :=
  let (object, made) := store.add (.composed (.ofDefinition definition))
  (object, made.record (.instantiated definition.template.name object.text))

def copy (store : Store) (object : ObjectId) : ObjectId × Store :=
  match store.instance? object with
  | some found => store.add (.composed found.copy)
  | none => (object, store)

def require (store : Store) (object : ObjectId) (name : String) :
    Except BindError Slot :=
  match store.slot? object name with
  | some slot => .ok slot
  | none => .error (.unknownAttribute (store.label object) name)

def bind (store : Store) (object : ObjectId) (name : String) (value : ObjectId) :
    Except BindError Store := do
  let slot ← store.require object name
  let bound ← slot.bind (store.label object) name value
  pure ((store.setSlot object name bound).record
    (.bound (store.label object) name))

def bindAt (store : Store) (object : ObjectId) (name : String) (index : Nat)
    (value : ObjectId) : Except BindError Store := do
  let slot ← store.require object name
  let bound ← slot.bindAt (store.label object) name index value
  pure ((store.setSlot object name bound).record
    (.boundAt (store.label object) name index))

/-- What a program sees of a binding: the store stays as it is on failure. -/
def tryBind (change : Store → Except BindError Store) (store : Store) :
    Except BindError Unit × Store :=
  match change store with
  | .ok bound => (.ok (), bound)
  | .error failure => (.error failure, store)

/-- A copy with one more binding. The attribute is looked up before the copy is
made, so that an unknown name makes no object; any other failure leaves the
copy behind. -/
def extend (store : Store) (object : ObjectId) (name : String)
    (value : ObjectId) : Except BindError ObjectId × Store :=
  match store.require object name with
  | .error failure => (.error failure, store)
  | .ok _ =>
      let (copied, extended) := store.copy object
      match extended.bind copied name value with
      | .error failure => (.error failure, extended)
      | .ok bound => (.ok copied, bound)

/-- Reading a variadic attribute seals it. A free one is a sequence of one. -/
def sequence (store : Store) (object : ObjectId) (name : String) :
    Except DataError (List ObjectId) × Store :=
  match store.slot? object name with
  | some (.variadic items _) =>
      (.ok items, store.setSlot object name (.variadic items true))
  | some (.free cell) =>
      match cell.content with
      | some item => (.ok [item], store)
      | none => (.error (.unbound (store.label object) name), store)
  | some (.composite ..) =>
      (.error (.undataizable (store.label object ++ "." ++ name)), store)
  | none => (.error (.unknownAttribute (store.label object) name), store)

/-- Nothing if the object is not a leaf. -/
def takeLeaf (store : Store) (object : ObjectId) :
    Option (Except DataError Value) × Store :=
  match store.leaf? object with
  | some (.fixed value) => (some (.ok value), store)
  | some (.deferred data) =>
      let (result, after) := data.take
      (some result, store.setLeaf object (.deferred after))
  | none => (none, store)

def datum (store : Store) (object : ObjectId) : Option Value × Store :=
  match store.takeLeaf object with
  | (some (.ok value), after) => (some value, after)
  | (_, after) => (none, after)

def display (store : Store) (object : ObjectId) : String × Store :=
  match store.leaf? object with
  | some (.fixed value) => (value.text, store)
  | some (.deferred data) =>
      let (content, after) := data.display Value.text
      (content, store.setLeaf object (.deferred after))
  | none => (store.label object, store)

open Text

def slotOutline (store : Store) : Slot → Outline
  | .free cell =>
      match cell.content with
      | some value => .text ("Free(" ++ store.label value ++ ")")
      | none => .text "Free(<unbound>)"
  | .variadic items isSealed =>
      .record "Variadic" [
        ("items", .list (items.map fun item => .text (quoted (store.label item)))),
        ("sealed", .text (toString isSealed))]
  | .composite rule cache =>
      .record "Composite" [
        ("cached", .text (toString (Slot.composite rule cache).isCached)),
        ("computed", .text (toString (Slot.composite rule cache).isComputed))]

def outline (store : Store) (object : ObjectId) : Outline × Store :=
  match store.instance? object with
  | some found =>
      (.record (store.label object)
        (found.attributes.map fun entry => (entry.1, store.slotOutline entry.2)),
        store)
  | none =>
      let (content, after) := store.display object
      (.text ("Object(" ++ store.label object ++ ": " ++ content ++ ")"), after)

end Store

end ObjectCalculus
