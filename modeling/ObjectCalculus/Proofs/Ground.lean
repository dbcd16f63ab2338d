import ObjectCalculus.Proofs.Settled

/-!
# The ground of a run

Runs are followed over one graph, which the store shows from beginning to end,
whatever is sealed, computed or added meanwhile. A run is grounded if its store is
sound and everything it starts from is in the graph; then so is every run inside it,
and it starts from what is demanded.
-/

set_option autoImplicit false

namespace ObjectCalculus

open Evaluation

namespace Graph

/-- Whatever is demanded is there. -/
def Closed (graph : Graph) : Prop :=
  ∀ object target, graph.Demands object target → ∃ node, graph target node

def Composed (graph : Graph) (object : ObjectId) : Prop :=
  ∃ node, graph object node ∧ ∀ value, node ≠ .leaf value

def Fixed (graph : Graph) : Prop :=
  ∀ object, ¬graph object (.leaf none)

end Graph

def Act.Present (graph : Graph) : Act → Prop
  | .chain _ _ object _ => ∃ node, graph object node
  | .compute object _ => ∃ node, graph object node
  | .collect _ items _ => ∀ item ∈ items, ∃ node, graph item node

section Store

variable {deferring : Prop} {graph : Graph} {store : Store} {object : ObjectId}

theorem shown_within {content : Content} (within : graph.Within store.graph)
    (holds : store.Holds object content) (present : ∃ node, graph object node) :
    graph object content.node := by
  obtain ⟨node, shown⟩ := present
  have inStore : store.graph object content.node := ⟨content, holds, rfl⟩
  rwa [Store.graph_unique inStore (within object node shown)]

theorem graph_functional (within : graph.Within store.graph) : Relator.RightUnique graph :=
  fun _ _ _ shown again => Store.graph_unique (within _ _ shown) (within _ _ again)

theorem composed_of_leaf_none (within : graph.Within store.graph)
    (present : ∃ node, graph object node) (composed : store.leaf? object = none) :
    graph.Composed object := by
  obtain ⟨node, shown⟩ := present
  obtain ⟨content, holds, rfl⟩ := within object node shown
  refine ⟨content.node, shown, ?_⟩
  intro value same
  cases content with
  | leaf data =>
      rw [Store.holds_leaf.mp holds] at composed
      cases composed
  | datum | aggregate => cases same

theorem leaf_none_of_composed (within : graph.Within store.graph)
    (composed : graph.Composed object) : store.leaf? object = none := by
  obtain ⟨node, shown, apart⟩ := composed
  obtain ⟨content, holds, rfl⟩ := within object node shown
  cases content with
  | leaf data => cases data <;> exact absurd rfl (apart _)
  | datum => exact Store.leaf_none_of_datum holds
  | aggregate => exact Store.leaf_none_of_aggregate holds

theorem demands_content {target : ObjectId} {content : Content}
    (holds : store.Holds object content) (demands : store.graph.Demands object target) :
    target ∈ content.node.targets := by
  obtain ⟨node, shown, wanted⟩ := demands
  have same : node = content.node := Store.graph_unique shown ⟨content, holds, rfl⟩
  rwa [← same]

theorem node_of_contains (sound : store.Sound deferring) (contained : store.Contains object) :
    ∃ node, store.graph object node := by
  obtain ⟨found, held⟩ := Store.object_of_contains contained
  obtain ⟨content, holds⟩ := sound.built held
  exact ⟨content.node, content, holds, rfl⟩

theorem graph_closed (sound : store.Sound deferring) : store.graph.Closed :=
  fun _ _ demands => node_of_contains sound (sound.closed demands)

theorem graph_fixed (sound : store.Sound False) : store.graph.Fixed :=
  fun _ shown => sound.leaves shown

end Store

structure Act.Grounded (graph : Graph) (deferring : Prop) (store : Store) (act : Act) :
    Prop where
  sound : store.Sound deferring
  within : graph.Within store.graph
  present : act.Present graph

theorem grounded_fixed {graph : Graph} {store : Store} {act : Act}
    (grounded : act.Grounded graph False store) : graph.Fixed :=
  fun object shown => grounded.sound.leaves (grounded.within object _ shown)

/-- A dataization starts on the ground of its own store. -/
theorem grounded_start {deferring : Prop} {store : Store} {object : ObjectId} {moves : Nat}
    {visited : List ObjectId} {result : Except DataError Value} (sound : store.Sound deferring)
    (contained : store.Contains object) :
    (Act.chain moves visited object result).Grounded store.graph deferring store where
  sound := sound
  within := within_refl _
  present := node_of_contains sound contained

section Grounded

variable {deferring : Prop} {graph : Graph} {config : Config} {store middle : Store}
  {object : ObjectId} {builtin : Builtin} {form : Aggregate} {items rest : List ObjectId}

theorem grounded_bound {moves : Nat} {visited : List ObjectId} {target : ObjectId}
    {result : Except DataError Value} {role : builtin.role = .datum} (closed : graph.Closed)
    (grounded : (Act.chain (moves + 1) visited object result).Grounded graph deferring store)
    (holds : store.Holds object (.datum role (some target))) :
    graph.Demands object target ∧
      (Act.chain moves (object :: visited) target result).Grounded graph deferring
        (stepped config object dataAttribute store) := by
  have shown := shown_within grounded.within holds grounded.present
  have demands := demands_bound shown
  refine ⟨demands, sound_stepped grounded.sound _ _ _, ?_, closed object target demands⟩
  exact within_trans grounded.within (stepped_extends config object dataAttribute store).graph

theorem grounded_compute {moves : Nat} {visited : List ObjectId}
    {result : Except DataError Value} (found : Except DataError ObjectId)
    (grounded : (Act.chain (moves + 1) visited object result).Grounded graph deferring store) :
    (Act.compute object found).Grounded graph deferring
      (stepped config object valueAttribute store) where
  sound := sound_stepped grounded.sound _ _ _
  within := within_trans grounded.within (stepped_extends config object valueAttribute store).graph
  present := grounded.present

theorem grounded_collect {found : Except DataError ObjectId}
    (collected : Except DataError (List Value)) {role : builtin.role = .aggregate form}
    {isSealed : Bool} (closed : graph.Closed)
    (grounded : (Act.compute object found).Grounded graph deferring store)
    (holds : store.Holds object (.aggregate role items isSealed none)) :
    (∀ item ∈ items, graph.Demands object item) ∧
      (Act.collect form items collected).Grounded graph deferring
        (store.entered object form items) := by
  have shown := shown_within grounded.within holds grounded.present
  have demands (item : ObjectId) (member : item ∈ items) : graph.Demands object item :=
    demands_item shown member
  refine ⟨demands, sound_entered grounded.sound holds, ?_, ?_⟩
  · exact within_trans grounded.within (entered_extends holds).graph
  · exact fun item member => closed object item (demands item member)

theorem grounded_first {moves : Nat} {item : ObjectId}
    {collected : Except DataError (List Value)} (result : Except DataError Value)
    (grounded : (Act.collect form (item :: rest) collected).Grounded graph deferring store) :
    (Act.chain moves [] item result).Grounded graph deferring store where
  sound := grounded.sound
  within := grounded.within
  present := grounded.present item List.mem_cons_self

theorem grounded_rest {item : ObjectId} {value : Value}
    {collected : Except DataError (List Value)} (others : Except DataError (List Value))
    (grounded : (Act.collect form (item :: rest) collected).Grounded graph deferring store)
    (first : Runs config (.chain config.limit [] item (.ok value)) store middle) :
    (Act.collect form rest others).Grounded graph deferring middle where
  sound := (runs_settle first grounded.sound).1
  within := within_trans grounded.within (runs_extend first).graph
  present other member := grounded.present other (List.mem_cons_of_mem item member)

end Grounded

end ObjectCalculus
