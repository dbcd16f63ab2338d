import ObjectCalculus.Proofs.Content
import ObjectCalculus.Proofs.Outcome
import Mathlib.Logic.Relation

/-!
# The graph of bindings

What the objects of a store are bound to, without anything that evaluation keeps
beside the bindings. A store is read here content by content, and a change of a
store puts a new content in one place.
-/

set_option autoImplicit false

namespace ObjectCalculus

open Evaluation

/-- An object as its bindings show it. A leaf that is yet to produce its value
shows none. -/
inductive Node where
  | leaf (value : Option Value)
  | datum (builtin : Builtin) (binding : Option ObjectId)
  | aggregate (form : Aggregate) (items : List ObjectId)

def Node.targets : Node → List ObjectId
  | .leaf _ => []
  | .datum _ binding => binding.toList
  | .aggregate _ items => items

def Content.node : Content → Node
  | .leaf (.fixed value) => .leaf (some value)
  | .leaf (.deferred _) => .leaf none
  | @Content.datum builtin _ binding => .datum builtin binding
  | @Content.aggregate _ form _ items _ _ => .aggregate form items

theorem node_fresh (builtin : Builtin) :
    (Content.fresh builtin).node = .datum builtin none ∨
      ∃ form, (Content.fresh builtin).node = .aggregate form [] := by
  unfold Content.fresh
  split
  · exact .inl rfl
  · exact .inr ⟨_, rfl⟩

theorem node_copy (content : Content) : content.copy.node = content.node := by
  cases content <;> rfl

abbrev Graph := ObjectId → Node → Prop

/-- An object needs the value of another to have one itself. -/
def Graph.Demands (graph : Graph) (object target : ObjectId) : Prop :=
  ∃ node, graph object node ∧ target ∈ node.targets

/-- The second object is demanded from the first in any number of steps. -/
def Graph.Reaches (graph : Graph) : ObjectId → ObjectId → Prop :=
  Relation.ReflTransGen graph.Demands

section Demands

variable {graph : Graph} {object target : ObjectId} {builtin : Builtin} {form : Aggregate}
  {items : List ObjectId}

theorem demands_bound (shown : graph object (.datum builtin (some target))) :
    graph.Demands object target :=
  ⟨_, shown, List.mem_singleton.mpr rfl⟩

theorem demands_item (shown : graph object (.aggregate form items)) (member : target ∈ items) :
    graph.Demands object target :=
  ⟨_, shown, member⟩

end Demands

def Graph.Within (small large : Graph) : Prop :=
  ∀ object node, small object node → large object node

theorem within_refl (graph : Graph) : graph.Within graph :=
  fun _ _ shown => shown

theorem within_trans {first second third : Graph} (start : first.Within second)
    (rest : second.Within third) : first.Within third :=
  fun object node shown => rest object node (start object node shown)

namespace Store

def Contains (store : Store) (object : ObjectId) : Prop :=
  object.index < store.objects.size

instance (store : Store) (object : ObjectId) : Decidable (store.Contains object) :=
  inferInstanceAs (Decidable (object.index < store.objects.size))

def Holds (store : Store) (object : ObjectId) (content : Content) : Prop :=
  store.object? object = some content.object

def graph (store : Store) : Graph := fun object node =>
  ∃ content, store.Holds object content ∧ content.node = node

/-- One object has the given content after a change, and all others have what
they had. -/
def Puts (before : Store) (object : ObjectId) (content : Content) (after : Store) : Prop :=
  ∀ other, after.object? other =
    if other = object then some content.object else before.object? other

variable {store before after : Store} {object other : ObjectId} {content old new : Content}
  {builtin : Builtin} {form : Aggregate}

theorem object_of_contains (contained : store.Contains object) :
    ∃ found, store.object? object = some found :=
  ⟨_, Array.getElem?_eq_getElem contained⟩

theorem contains_of_object {found : Object} (held : store.object? object = some found) :
    store.Contains object :=
  (Array.getElem?_eq_some_iff.mp held).1

theorem contains_of_shown {node : Node} (shown : store.graph object node) :
    store.Contains object := by
  obtain ⟨content, holds, _⟩ := shown
  exact contains_of_object holds

theorem holds_unique (left : store.Holds object old) (right : store.Holds object new) :
    old = new := by
  apply Content.object_injective
  unfold Holds at left right
  rw [left] at right
  exact Option.some.inj right

theorem holds_slot (holds : store.Holds object content) (name : String) :
    store.slot? object name = content.slot? name := by
  have found : store.object? object = some content.object := holds
  rw [← Content.object_slot, slot?, found]
  rfl

theorem holds_leaf {data : Leaf} :
    store.Holds object (.leaf data) ↔ store.leaf? object = some data :=
  object_of_leaf.symm

theorem leaf_none_of_datum {role : builtin.role = .datum} {binding : Option ObjectId}
    (holds : store.Holds object (.datum role binding)) : store.leaf? object = none := by
  unfold leaf?
  rw [show store.object? object = _ from holds]
  rfl

theorem leaf_none_of_aggregate {role : builtin.role = .aggregate form}
    {items : List ObjectId} {isSealed : Bool} {cache : Option ObjectId}
    (holds : store.Holds object (.aggregate role items isSealed cache)) :
    store.leaf? object = none := by
  unfold leaf?
  rw [show store.object? object = _ from holds]
  rfl

theorem holds_label (holds : store.Holds object content) :
    store.label object = content.name ++ object.text := by
  unfold label name
  rw [show store.object? object = _ from holds, ← Content.object_name]

theorem way_datum {role : builtin.role = .datum} {binding : Option ObjectId}
    (holds : store.Holds object (.datum role binding)) :
    nextAttribute store object = .ok dataAttribute := by
  have slot := holds_slot holds dataAttribute
  simp [nextAttribute, has, slot, Content.slot?]

theorem way_aggregate {role : builtin.role = .aggregate form}
    {items : List ObjectId} {isSealed : Bool} {cache : Option ObjectId}
    (holds : store.Holds object (.aggregate role items isSealed cache)) :
    nextAttribute store object = .ok valueAttribute := by
  have data := holds_slot holds dataAttribute
  have value := holds_slot holds valueAttribute
  have apart : dataAttribute ≠ valueAttribute := by decide
  simp only [Content.slot?, if_neg (parameter_ne_data role).symm, if_neg apart] at data
  simp only [Content.slot?, if_neg (parameter_ne_value role).symm, if_true] at value
  simp [nextAttribute, has, data, value]

theorem holds_put (puts : before.Puts object content after) : after.Holds object content := by
  unfold Holds
  rw [puts, if_pos rfl]

theorem holds_put_other (puts : before.Puts object content after)
    (different : other ≠ object) : after.Holds other new ↔ before.Holds other new := by
  unfold Holds
  rw [puts, if_neg different]

theorem puts_slot {name : String} {slot : Slot} (holds : store.Holds object old)
    (changed : old.object.setSlot name slot = new.object) :
    store.Puts object new (store.setSlot object name slot) := by
  intro other
  unfold setSlot
  rw [object_modify]
  by_cases same : other = object
  · rw [if_pos same, if_pos same, same, show store.object? object = _ from holds,
      Option.map_some, changed]
  · rw [if_neg same, if_neg same]

theorem puts_leaf {data left : Leaf} (held : store.leaf? object = some data) :
    store.Puts object (.leaf left) (store.setLeaf object left) := by
  intro other
  unfold setLeaf
  rw [object_modify]
  by_cases same : other = object
  · rw [if_pos same, if_pos same, same, object_of_leaf.mp held]
    rfl
  · rw [if_neg same, if_neg same]

theorem puts_add (store : Store) (content : Content) :
    store.Puts store.nextId content (store.add content.object).2 :=
  object_add store content.object

theorem holds_same (same : after.objects = before.objects) :
    after.Holds object content ↔ before.Holds object content := by
  unfold Holds object?
  rw [same]

theorem graph_same (same : after.objects = before.objects) : after.graph = before.graph := by
  funext object node
  simp only [graph, holds_same same]

theorem graph_put (puts : before.Puts object new after) (holds : before.Holds object old)
    (same : new.node = old.node) : before.graph.Within after.graph := by
  intro other node ⟨content, held, shown⟩
  by_cases here : other = object
  · subst here
    cases holds_unique held holds
    exact ⟨new, holds_put puts, same.trans shown⟩
  · exact ⟨content, (holds_put_other puts here).mpr held, shown⟩

theorem next_holds_nothing (content : Content) : ¬store.Holds store.nextId content := by
  intro holds
  have missing := object_next store
  rw [show store.object? store.nextId = _ from holds] at missing
  cases missing

theorem graph_add (puts : before.Puts before.nextId new after) :
    before.graph.Within after.graph := by
  intro other node ⟨content, held, shown⟩
  have old : other ≠ before.nextId := by
    rintro rfl
    exact next_holds_nothing content held
  exact ⟨content, (holds_put_other puts old).mpr held, shown⟩

theorem graph_unique {left right : Node} (first : store.graph object left)
    (second : store.graph object right) : left = right := by
  obtain ⟨old, holdsOld, rfl⟩ := first
  obtain ⟨new, holdsNew, rfl⟩ := second
  rw [holds_unique holdsOld holdsNew]

theorem shown_leaf {value : Value} (shown : store.graph object (.leaf (some value))) :
    store.leaf? object = some (.fixed value) := by
  obtain ⟨content, holds, same⟩ := shown
  cases content with
  | leaf data =>
      cases data with
      | fixed found =>
          cases same
          exact holds_leaf.mp holds
      | deferred => cases same
  | datum | aggregate => cases same

theorem shown_datum {binding : Option ObjectId}
    (shown : store.graph object (.datum builtin binding)) :
    ∃ role : builtin.role = .datum, store.Holds object (.datum role binding) := by
  obtain ⟨content, holds, same⟩ := shown
  cases content with
  | leaf data => cases data <;> cases same
  | datum role found =>
      cases same
      exact ⟨role, holds⟩
  | aggregate => cases same

theorem shown_aggregate {items : List ObjectId}
    (shown : store.graph object (.aggregate form items)) :
    ∃ (builtin : Builtin) (role : builtin.role = .aggregate form) (isSealed : Bool)
      (cache : Option ObjectId),
      store.Holds object (.aggregate role items isSealed cache) := by
  obtain ⟨content, holds, same⟩ := shown
  cases content with
  | leaf data => cases data <;> cases same
  | datum => cases same
  | aggregate role found isSealed cache =>
      cases same
      exact ⟨_, role, isSealed, cache, holds⟩

end Store

end ObjectCalculus
