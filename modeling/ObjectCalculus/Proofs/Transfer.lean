import ObjectCalculus.Proofs.Finding
import ObjectCalculus.Proofs.Purity

/-!
# Runs at another depth and in another store

A run that found something finds it again elsewhere. With the same objects, all that can be in
its way is what the guards know: what is marked or passed must not be reached, and the depth
must not be greater than it was or must leave room for the nesting that is demanded. In a store
with the same bindings and at least as many results kept, the run is followed first and then
taken to its new depth.
-/

set_option autoImplicit false

namespace ObjectCalculus

open Effect Evaluation Relation

/-- No more than so many operators and arrays are nested in what the object demands, itself
included. -/
inductive Graph.Nests (graph : Graph) : Nat → ObjectId → Prop
  | leaf {bound : Nat} {object : ObjectId} {value : Option Value}
      (shown : graph object (.leaf value)) : Nests graph bound object
  | datum {bound : Nat} {object target : ObjectId} {builtin : Builtin}
      (shown : graph object (.datum builtin (some target))) (nests : Nests graph bound target) :
      Nests graph bound object
  | aggregate {bound : Nat} {object : ObjectId} {form : Aggregate} {items : List ObjectId}
      (shown : graph object (.aggregate form items))
      (nests : ∀ item ∈ items, Nests graph bound item) : Nests graph (bound + 1) object

/-- A computation that went on at one depth can go on at the other, if it is no deeper or has
room for all that is nested in the object. -/
def Graph.Roomy (graph : Graph) (limit earlier later : Nat) (object : ObjectId) : Prop :=
  later ≤ earlier ∨ ∃ bound, graph.Nests bound object ∧ later + bound ≤ limit

section Nesting

variable {graph : Graph} {limit earlier later bound : Nat} {object target : ObjectId}
  {form : Aggregate} {items : List ObjectId}
  (functional : Relator.RightUnique graph)

include functional

theorem nests_target {builtin : Builtin} (shown : graph object (.datum builtin (some target)))
    (nests : graph.Nests bound object) : graph.Nests bound target := by
  cases nests with
  | leaf other => cases functional shown other
  | datum other inner =>
      cases functional shown other
      exact inner
  | aggregate other => cases functional shown other

theorem nests_items (shown : graph object (.aggregate form items))
    (nests : graph.Nests bound object) :
    ∃ below, bound = below + 1 ∧ ∀ item ∈ items, graph.Nests below item := by
  cases nests with
  | leaf other | datum other => cases functional shown other
  | aggregate other inner =>
      cases functional shown other
      exact ⟨_, rfl, inner⟩

theorem roomy_target {builtin : Builtin} (shown : graph object (.datum builtin (some target)))
    (roomy : graph.Roomy limit earlier later object) :
    graph.Roomy limit earlier later target :=
  roomy.imp_right fun ⟨bound, nests, room⟩ => ⟨bound, nests_target functional shown nests, room⟩

theorem roomy_items (shown : graph object (.aggregate form items))
    (roomy : graph.Roomy limit earlier later object) (room : earlier < limit) :
    later < limit ∧ ∀ item ∈ items, graph.Roomy limit (earlier + 1) (later + 1) item := by
  rcases roomy with shallower | ⟨bound, nests, enough⟩
  · exact ⟨Nat.lt_of_le_of_lt shallower room, fun _ _ => .inl (Nat.succ_le_succ shallower)⟩
  · obtain ⟨below, rfl, inner⟩ := nests_items functional shown nests
    exact ⟨by omega, fun item member => .inr ⟨below, inner item member, by omega⟩⟩

end Nesting

namespace Act

def origins : Act → List ObjectId
  | .chain _ _ object _ => [object]
  | .compute object _ => [object]
  | .collect _ items _ => items

/-- The other store has the same objects, and its guards let pass whatever the act comes
across, provided that it comes across no cycle. -/
structure Suits (graph : Graph) (limit : Nat) (left right : Store) (act : Act) : Prop where
  objects : right.objects = left.objects
  acyclic : ∀ object ∈ act.origins, ¬graph.ReachesCycle object
  unmarked : ∀ object ∈ act.origins, ∀ other, right.Marked other → ¬graph.Reaches object other
  roomy : ∀ object ∈ act.origins,
    graph.Roomy limit left.activity.depth right.activity.depth object

/-- What the act found is found in the other store as well and leaves the same objects there,
whichever objects the chain has passed that are not reached any more. -/
def Repeats (config : Config) (graph : Graph) (right after : Store) : Act → Prop
  | .chain moves _ object (.ok value) =>
      ∀ visited, (∀ other ∈ visited, ¬graph.Reaches object other) →
        ∃ last, Runs config (.chain moves visited object (.ok value)) right last ∧
          last.objects = after.objects
  | .compute object (.ok next) =>
      ∃ last, Runs config (.compute object (.ok next)) right last ∧ last.objects = after.objects
  | .collect form items (.ok values) =>
      ∃ last, Runs config (.collect form items (.ok values)) right last ∧
        last.objects = after.objects
  | _ => True

end Act

theorem noted_objects (store : Store) (object : ObjectId) (count : Nat) (form : Aggregate) :
    (store.noted object count form).objects = store.objects := by
  cases form <;> rfl

section Objects

variable {left right : Store} (same : right.objects = left.objects)

include same

theorem holds_objects {object : ObjectId} {content : Content} (holds : left.Holds object content) :
    right.Holds object content :=
  (Store.object_same same object).trans holds

theorem leaf_objects (object : ObjectId) : right.leaf? object = left.leaf? object := by
  unfold Store.leaf?
  rw [Store.object_same same]

theorem entered_objects (object : ObjectId) (form : Aggregate) (items : List ObjectId) :
    (right.entered object form items).objects = (left.entered object form items).objects := by
  simp only [Store.entered, Store.setSlot, Store.modifyObject, Store.mark, same]

theorem concluded_objects (object : ObjectId) (form : Aggregate) (count : Nat) (value : Value) :
    (right.concluded object form count value).objects =
      (left.concluded object form count value).objects := by
  simp only [Store.concluded, Store.filed, Store.setSlot, Store.modifyObject, Store.addLeaf,
    Store.add, noted_objects, Store.nextId, same]

end Objects

section Suits

variable {graph : Graph} {config : Config} {left right middle last : Store}
  {object target : ObjectId} {form : Aggregate} {items rest : List ObjectId}
  {result : Except DataError Value} {found : Except DataError ObjectId}
  {collected : Except DataError (List Value)} {moves : Nat} {visited : List ObjectId}
  (functional : Relator.RightUnique graph)

theorem stepped_activity (config : Config) (object : ObjectId) (name : String) (store : Store) :
    (stepped config object name store).activity = store.activity :=
  activity_invariance.keeps_stepped config object name store

theorem suits_stepped {act other : Act} (suits : act.Suits graph config.limit left right)
    (name : String) (origins : other.origins = act.origins) :
    other.Suits graph config.limit (stepped config object name left)
      (stepped config object name right) where
  objects := by rw [stepped_objects, stepped_objects, suits.objects]
  acyclic := origins ▸ suits.acyclic
  unmarked := by
    intro origin among marked known
    rw [origins] at among
    exact suits.unmarked origin among marked
      ((marked_same (stepped_activity config object name right) marked).mp known)
  roomy := by
    rw [origins, stepped_activity, stepped_activity]
    exact suits.roomy

include functional

theorem suits_bound {builtin : Builtin} (shown : graph object (.datum builtin (some target)))
    (suits : (Act.chain (moves + 1) visited object result).Suits graph config.limit left right) :
    (Act.chain moves (object :: visited) target result).Suits graph config.limit
      (stepped config object dataAttribute left) (stepped config object dataAttribute right) := by
  have demands := demands_bound shown
  have here := List.mem_singleton_self object
  suffices direct : (Act.chain moves (object :: visited) target result).Suits graph
      config.limit left right from suits_stepped direct dataAttribute rfl
  refine ⟨suits.objects, ?_, ?_, ?_⟩ <;> intro origin among <;> cases List.mem_singleton.mp among
  · exact fun reaches => suits.acyclic object here (reaches_cycle_head demands reaches)
  · exact fun marked known path => suits.unmarked object here marked known (.head demands path)
  · exact roomy_target functional shown (suits.roomy object here)

/-- The items are collected with their owner marked; none of them reaches it. -/
theorem suits_entered (shown : graph object (.aggregate form items))
    (suits : (Act.compute object found).Suits graph config.limit left right)
    (room : left.activity.depth < config.limit) :
    right.activity.depth < config.limit ∧
      (Act.collect form items collected).Suits graph config.limit
        (left.entered object form items) (right.entered object form items) := by
  have here := List.mem_singleton_self object
  obtain ⟨admitted, roomy⟩ := roomy_items functional shown (suits.roomy object here) room
  refine ⟨admitted, entered_objects suits.objects object form items, ?_, ?_, roomy⟩
  · intro item member reaches
    exact suits.acyclic object here (reaches_cycle_head (demands_item shown member) reaches)
  · intro item member marked known path
    rcases List.mem_cons.mp known with same | earlier
    · cases same
      exact suits.acyclic object here (reaches_cycle_back (demands_item shown member) path)
    · exact suits.unmarked object here marked earlier (.head (demands_item shown member) path)

omit functional in
theorem suits_rest {item : ObjectId} {value : Value} {others : Except DataError (List Value)}
    (suits : (Act.collect form (item :: rest) collected).Suits graph config.limit left right)
    (first : Runs config (.chain config.limit [] item (.ok value)) left middle)
    (again : Runs config (.chain config.limit [] item (.ok value)) right last)
    (same : last.objects = middle.objects) :
    (Act.collect form rest others).Suits graph config.limit middle last where
  objects := same
  acyclic other member := suits.acyclic other (List.mem_cons_of_mem item member)
  unmarked other member marked known :=
    suits.unmarked other (List.mem_cons_of_mem item member) marked
      ((marked_same (runs_activity again) marked).mp known)
  roomy other member := by
    rw [runs_activity first, runs_activity again]
    exact suits.roomy other (List.mem_cons_of_mem item member)

omit functional in
theorem suits_first {item : ObjectId}
    (suits : (Act.collect form (item :: rest) collected).Suits graph config.limit left right) :
    (Act.chain moves visited item result).Suits graph config.limit left right := by
  refine ⟨suits.objects, ?_, ?_, ?_⟩ <;> intro origin among <;> cases List.mem_singleton.mp among
  · exact suits.acyclic item List.mem_cons_self
  · exact suits.unmarked item List.mem_cons_self
  · exact suits.roomy item List.mem_cons_self

end Suits

theorem runs_repeat {deferring : Prop} {graph : Graph} {config : Config} {act : Act}
    {left right after : Store} (closed : graph.Closed) (runs : Runs config act left after)
    (grounded : act.Grounded graph deferring left)
    (suits : act.Suits graph config.limit left right) : act.Repeats config graph right after := by
  induction runs generalizing right with
  | revisited | exhausted | unbound | failed | active | deep | cut | rejected | unresolved
  | refused | later => trivial
  | leaf held => exact fun visited _ => ⟨right, .leaf ((leaf_objects suits.objects _).trans held),
      suits.objects⟩
  | @deferred moves visited object data store held =>
      cases taken : data.take.1 with
      | error failure => trivial
      | ok value =>
          intro visited _
          have again : Runs config (.chain moves visited object data.take.1) right _ :=
            .deferred ((leaf_objects suits.objects object).trans held)
          rw [taken] at again
          refine ⟨_, again, ?_⟩
          simp only [Store.setLeaf, Store.modifyObject, suits.objects]
  | @bound moves visited object target result store after builtin role holds fresh _ ih =>
      cases result with
      | error failure => trivial
      | ok value =>
          intro passed apart
          have shown := shown_within grounded.within holds grounded.present
          obtain ⟨demands, inside⟩ := grounded_bound closed grounded holds
          have functional := graph_functional grounded.within
          have acyclic := suits.acyclic object (List.mem_singleton_self object)
          -- The target cannot reach the object that has just been passed: that would be a cycle.
          have beyond : ∀ other ∈ object :: passed, ¬graph.Reaches target other := by
            intro other member path
            rcases List.mem_cons.mp member with rfl | before
            · exact acyclic (reaches_cycle_back demands path)
            · exact apart other before (.head demands path)
          obtain ⟨last, rest, same⟩ := ih inside (suits_bound functional shown suits)
            (object :: passed) beyond
          exact ⟨last, .bound (holds_objects suits.objects holds)
            (fun seen => apart object seen .refl) rest, same⟩
  | @computed moves visited object next value store after builtin form role items isSealed cache
      holds fresh inside held ih =>
      intro passed apart
      obtain ⟨last, again, same⟩ := ih (grounded_compute _ grounded)
        (suits_stepped suits valueAttribute rfl)
      exact ⟨last, .computed (holds_objects suits.objects holds)
        (fun seen => apart object seen .refl) again ((leaf_objects same next).trans held), same⟩
  | @kept object next store builtin form role items isSealed holds admitted =>
      have here := List.mem_singleton_self object
      have shown := shown_within grounded.within holds grounded.present
      have functional := graph_functional grounded.within
      obtain ⟨room, _⟩ := roomy_items functional shown (suits.roomy object here) admitted.room
      exact ⟨_, .kept (holds_objects suits.objects holds)
        ⟨fun marked => suits.unmarked object here object marked .refl, room⟩, suits.objects⟩
  | @published object values value store inner builtin form role items isSealed holds admitted
      inside total waiting ih =>
      have shown := shown_within grounded.within holds grounded.present
      have functional := graph_functional grounded.within
      obtain ⟨_, insideGrounded⟩ := grounded_collect (.ok values) closed grounded holds
      obtain ⟨room, entered⟩ := suits_entered functional shown suits admitted.room
      obtain ⟨last, again, same⟩ := ih insideGrounded entered
      have next : last.nextId = inner.nextId := by
        unfold Store.nextId
        rw [same]
      rw [← next]
      refine ⟨_, .published (holds_objects suits.objects holds) ⟨?_, room⟩ again total
        (holds_objects same waiting), concluded_objects same object form items.length value⟩
      exact fun marked => suits.unmarked object (List.mem_singleton_self object) object marked .refl
  | nil => exact ⟨right, .nil, suits.objects⟩
  | @cons form item rest value values store middle after first accepted _ ihFirst ihOthers =>
      obtain ⟨last, again, same⟩ := ihFirst (grounded_first _ grounded) (suits_first suits) []
        fun _ member => absurd member List.not_mem_nil
      obtain ⟨final, others, sameAfter⟩ := ihOthers (grounded_rest _ grounded first)
        (suits_rest suits first again same)
      exact ⟨final, .cons again accepted others, sameAfter⟩

def Store.clearedAt (store : Store) (depth : Nat) : Store :=
  { store with activity := ⟨[], depth⟩ }

/-- Whatever is reached from the origins has the same bindings and the same name in the other
store, and keeps a result there if it keeps one here. -/
structure Store.Matches (left right : Store) (origins : List ObjectId) : Prop where
  within : (left.graph.under origins).Within right.graph
  name {object : ObjectId} {node : Node} :
    left.graph.under origins object node → right.name object = left.name object
  keeps {object result : ObjectId} {node : Node} :
    left.graph.under origins object node → left.Keeps object result →
      ∃ other, right.Keeps object other

namespace Act

def Transfers (config : Config) (graph : Graph) (right : Store) : Act → Prop
  | .chain moves _ object (.ok value) =>
      ∀ visited, (∀ other ∈ visited, ¬graph.Reaches object other) →
        ∃ last, Runs config (.chain moves visited object (.ok value)) right last
  | .collect form items (.ok values) =>
      ∃ last, Runs config (.collect form items (.ok values)) right last
  | _ => True

structure Prepared (limit : Nat) (left right : Store) (act : Act) : Prop where
  sound : left.Sound False
  soundRight : right.Sound False
  known : ∀ object ∈ act.origins, left.Contains object
  acyclic : ∀ object ∈ act.origins, ¬left.graph.ReachesCycle object
  unmarked : ∀ object ∈ act.origins, ∀ other, right.Marked other →
    ¬left.graph.Reaches object other
  roomy : ∀ object ∈ act.origins,
    left.graph.Roomy limit left.activity.depth right.activity.depth object
  matched : left.Matches right act.origins

end Act

section Transfer

variable {graph : Graph} {origins : List ObjectId} {object : ObjectId} {config : Config}
  {left right after : Store}

theorem under_nests {bound : Nat} (nests : graph.Nests bound object)
    (reached : ∃ origin ∈ origins, graph.Reaches origin object) :
    (graph.under origins).Nests bound object := by
  induction nests with
  | leaf shown => exact .leaf ⟨shown, reached⟩
  | datum shown _ ih =>
      obtain ⟨origin, among, path⟩ := reached
      exact .datum ⟨shown, origin, among, path⟩
        (ih ⟨origin, among, path.tail (demands_bound shown)⟩)
  | aggregate shown _ ih =>
      obtain ⟨origin, among, path⟩ := reached
      exact .aggregate ⟨shown, origin, among, path⟩ fun item member =>
        ih item member ⟨origin, among, path.tail (demands_item shown member)⟩

theorem present_of_origins {act : Act}
    (present : ∀ object ∈ act.origins, ∃ node, graph object node) : act.Present graph := by
  cases act with
  | chain moves visited object result | compute object result =>
      exact present object (List.mem_singleton_self object)
  | collect form items result => exact present

section Prepared

variable {act : Act} (prepared : act.Prepared config.limit left right)

include prepared

theorem prepared_present : act.Present (left.graph.under act.origins) := by
  refine present_of_origins fun object among => ?_
  obtain ⟨node, shown⟩ := node_of_contains prepared.sound (prepared.known object among)
  exact ⟨node, under_origin shown among⟩

theorem prepared_acyclic {object : ObjectId} (among : object ∈ act.origins) :
    ¬(left.graph.under act.origins).ReachesCycle object := fun reaches =>
  prepared.acyclic object among (reaches_cycle_within (under_within _ _) reaches)

theorem suits_cleared :
    act.Suits (left.graph.under act.origins) config.limit left
      (left.clearedAt left.activity.depth) where
  objects := rfl
  acyclic _ among := prepared_acyclic prepared among
  unmarked _ _ _ known := absurd known List.not_mem_nil
  roomy _ _ := .inl (Nat.le_refl _)

theorem prepared_twins :
    Twins (left.graph.under act.origins) (left.clearedAt left.activity.depth)
      (right.clearedAt left.activity.depth) where
  activity := rfl
  sound := sound_same prepared.soundRight rfl
  within := prepared.matched.within
  name := prepared.matched.name
  keeps := prepared.matched.keeps

theorem suits_nested :
    act.Suits (left.graph.under act.origins) config.limit
      (right.clearedAt left.activity.depth) right where
  objects := rfl
  acyclic _ among := prepared_acyclic prepared among
  unmarked object among other known path :=
    prepared.unmarked object among other known (reaches_within (under_within _ _) path)
  roomy object among := (prepared.roomy object among).imp_right
    fun ⟨bound, nests, room⟩ => ⟨bound, under_nests nests ⟨object, among, .refl⟩, room⟩

end Prepared

theorem runs_transfer {act : Act} (runs : Runs config act left after)
    (prepared : act.Prepared config.limit left right) :
    act.Transfers config left.graph right := by
  have closed : (left.graph.under act.origins).Closed := under_closed (graph_closed prepared.sound)
  have present := prepared_present prepared
  have cleared := runs_repeat closed runs ⟨prepared.sound, under_within _ _, present⟩
    (suits_cleared prepared)
  have twins := prepared_twins prepared
  have soundCleared : (left.clearedAt left.activity.depth).Sound False :=
    sound_same prepared.sound rfl
  have nested := suits_nested prepared
  cases act with
  | compute => trivial
  | chain moves passed object result =>
      cases result with
      | error failure => trivial
      | ok value =>
          intro visited apart
          -- First out of what the run was nested in, then over to the other store at the same
          -- depth, and only there to the depth at which it is wanted.
          obtain ⟨last, alone, _⟩ := cleared [] fun _ member => absurd member List.not_mem_nil
          obtain ⟨next, followed, _⟩ := runs_follow closed alone
            ⟨soundCleared, under_within _ _, present⟩ (fun _ known => absurd known List.not_mem_nil)
            twins
          obtain ⟨final, again, _⟩ := runs_repeat closed followed
            ⟨twins.sound, twins.within, present⟩
            ⟨nested.objects, nested.acyclic, nested.unmarked, nested.roomy⟩ visited
            fun other member path => apart other member (reaches_within (under_within _ _) path)
          exact ⟨final, again⟩
  | collect form items result =>
      cases result with
      | error failure => trivial
      | ok values =>
          obtain ⟨last, alone, _⟩ := cleared
          obtain ⟨next, followed, _⟩ := runs_follow closed alone
            ⟨soundCleared, under_within _ _, present⟩
            (fun _ _ _ known => absurd known List.not_mem_nil) twins
          obtain ⟨final, again, _⟩ := runs_repeat closed followed
            ⟨twins.sound, twins.within, present⟩ nested
          exact ⟨final, again⟩

end Transfer

end ObjectCalculus
