import ObjectCalculus.Proofs.Cycles
import Mathlib.Data.Set.Card

/-!
# Room below the limit

Neither guard lets an object by twice, so what is marked at a time, and what one chain
has passed, are so many different objects, all composed and reached from the object that
is dataized. A limit that is not below their number is never met: what is left of the
guards is the refusal of cycles.
-/

set_option autoImplicit false

namespace ObjectCalculus

open Effect Evaluation Relation

namespace Graph

def composedFrom (graph : Graph) (origin : ObjectId) : Set ObjectId :=
  {object | graph.Reaches origin object ∧ graph.Composed object}

/-- No two of the objects are the same, and all are among those to go through. -/
structure Passable (graph : Graph) (origin : ObjectId) (objects : List ObjectId) : Prop where
  once : objects.Nodup
  member : ∀ object ∈ objects, object ∈ graph.composedFrom origin

end Graph

section Passable

variable {graph : Graph} {origin object : ObjectId} {objects : List ObjectId} {limit : Nat}

theorem passable_nil (graph : Graph) (origin : ObjectId) : graph.Passable origin [] where
  once := List.nodup_nil
  member _ member := absurd member List.not_mem_nil

theorem passable_cons (passable : graph.Passable origin objects)
    (here : object ∈ graph.composedFrom origin) (fresh : object ∉ objects) :
    graph.Passable origin (object :: objects) where
  once := List.nodup_cons.mpr ⟨fresh, passable.once⟩
  member := List.forall_mem_cons.mpr ⟨here, passable.member⟩

theorem passable_length (passable : graph.Passable origin objects)
    (room : (graph.composedFrom origin).encard ≤ limit) : objects.length ≤ limit := by
  have subset : (objects.toFinset : Set ObjectId) ⊆ graph.composedFrom origin :=
    fun object member => passable.member object (List.mem_toFinset.mp member)
  have few := (Set.encard_le_encard subset).trans room
  rw [Set.encard_coe_eq_coe_finsetCard, List.toFinset_card_of_nodup passable.once] at few
  exact Nat.cast_le.mp few

end Passable

/-- The marked objects, all by the attribute that stands for their values. -/
def Store.Nests (store : Store) (graph : Graph) (origin : ObjectId) : Prop :=
  ∃ objects, graph.Passable origin objects ∧ store.activity.depth = objects.length ∧
    store.activity.markers = objects.map fun object => ⟨object, valueAttribute⟩

namespace Act

/-- What the run starts with is reached from the origin, and what a chain has passed and
what it may still pass make up the limit. -/
def Begun (graph : Graph) (origin : ObjectId) (limit : Nat) : Act → Prop
  | .chain moves visited object _ =>
      graph.Reaches origin object ∧ graph.Passable origin visited ∧
        moves + visited.length = limit
  | .compute object _ => object ∈ graph.composedFrom origin
  | .collect _ items _ => ∀ item ∈ items, graph.Reaches origin item

def failure? : Act → Option DataError
  | .chain _ _ _ (.error failure) => some failure
  | .compute _ (.error failure) => some failure
  | .collect _ _ (.error failure) => some failure
  | _ => none

end Act

section Runs

variable {graph : Graph} {config : Config} {origin object : ObjectId} {store after : Store}

theorem nests_same (nests : store.Nests graph origin)
    (same : after.activity = store.activity) : after.Nests graph origin := by
  unfold Store.Nests
  rwa [same]

theorem nests_stepped (nests : store.Nests graph origin) (name : String) :
    (stepped config object name store).Nests graph origin :=
  nests_same nests (activity_invariance.keeps_stepped config object name store)

theorem passable_marked {objects : List ObjectId} (passable : graph.Passable origin objects)
    (markers : store.activity.markers = objects.map fun object => ⟨object, valueAttribute⟩)
    (here : object ∈ graph.composedFrom origin) (idle : ¬store.Marked object) :
    graph.Passable origin (object :: objects) := by
  refine passable_cons passable here fun member => idle ?_
  unfold Store.Marked
  rw [markers]
  exact List.mem_map_of_mem member

theorem nests_entered {form : Aggregate} {items : List ObjectId}
    (nests : store.Nests graph origin) (here : object ∈ graph.composedFrom origin)
    (idle : ¬store.Marked object) : (store.entered object form items).Nests graph origin := by
  obtain ⟨objects, passable, depth, markers⟩ := nests
  refine ⟨object :: objects, passable_marked passable markers here idle, ?_, ?_⟩
  · exact congrArg Nat.succ depth
  · exact congrArg (List.cons ⟨object, valueAttribute⟩) markers

theorem total_not_overrun {form : Aggregate} {values : List Value} {failure : DataError}
    (failed : form.total values = .error failure) : ¬failure.Overrun := by
  intro overrun
  obtain ⟨limit, guard⟩ := by_some_guard (.inr overrun)
  exact total_unguarded failed guard

theorem refusal_not_overrun {form : Aggregate} {value : Value} {failure : DataError}
    (refused : form.refusal value = some failure) : ¬failure.Overrun := by
  intro overrun
  obtain ⟨limit, guard⟩ := by_some_guard (.inr overrun)
  exact refusal_unguarded refused guard

/-- Where there is room for all objects that are reached, the limit is never met. -/
theorem runs_have_room {deferring : Prop} {act : Act} {failure : DataError}
    (closed : graph.Closed) (fixed : graph.Fixed)
    (room : (graph.composedFrom origin).encard ≤ config.limit)
    (runs : Runs config act store after) (grounded : act.Grounded graph deferring store)
    (nests : store.Nests graph origin) (begun : act.Begun graph origin config.limit)
    (failed : act.failure? = some failure) : ¬failure.Overrun := by
  induction runs with
  | leaf | computed | kept | published | nil | cons => cases failed
  | deferred held =>
      have shown := shown_within grounded.within (Store.holds_leaf.mpr held) grounded.present
      exact absurd shown (fixed _)
  | revisited | unbound | active =>
      cases failed
      exact id
  | @exhausted visited object store composed fresh =>
      obtain ⟨reached, passable, passed⟩ := begun
      have here := composed_of_leaf_none grounded.within grounded.present composed
      have few := passable_length (passable_cons passable ⟨reached, here⟩ fresh) room
      rw [List.length_cons] at few
      omega
  | @bound moves visited object target result store after builtin role holds fresh _ ih =>
      obtain ⟨reached, passable, passed⟩ := begun
      obtain ⟨demands, inside⟩ := grounded_bound closed grounded holds
      have here := composed_of_leaf_none grounded.within grounded.present
        (Store.leaf_none_of_datum holds)
      refine ih inside (nests_stepped nests dataAttribute) ⟨reached.tail demands, ?_, ?_⟩ ?_
      · exact passable_cons passable ⟨reached, here⟩ fresh
      · rw [List.length_cons]
        omega
      · cases result with
        | ok value => cases failed
        | error failure => exact failed
  | failed holds _ _ ih =>
      have here := composed_of_leaf_none grounded.within grounded.present
        (Store.leaf_none_of_aggregate holds)
      exact ih (grounded_compute _ grounded) (nests_stepped nests valueAttribute)
        ⟨begun.1, here⟩ failed
  | deep _ idle full =>
      obtain ⟨objects, passable, depth, markers⟩ := nests
      have few := passable_length (passable_marked passable markers begun idle) room
      rw [List.length_cons] at few
      omega
  | cut holds admitted _ ih =>
      obtain ⟨demands, inside⟩ := grounded_collect _ closed grounded holds
      refine ih inside (nests_entered nests begun admitted.idle) ?_ failed
      exact fun item member => begun.1.tail (demands item member)
  | rejected _ _ _ total =>
      cases failed
      exact total_not_overrun total
  | @unresolved form item rest failure store after _ ih =>
      have reached := begun item List.mem_cons_self
      have start := Nat.add_zero config.limit
      exact ih (grounded_first _ grounded) nests ⟨reached, passable_nil graph origin, start⟩ failed
  | refused _ refusal =>
      cases failed
      exact refusal_not_overrun refusal
  | later first _ _ _ ih =>
      refine ih (grounded_rest _ grounded first) (nests_same nests (runs_activity first)) ?_ failed
      exact fun other member => begun other (List.mem_cons_of_mem _ member)

end Runs

theorem resolve_has_room {config : Config} {store : Store} {object : ObjectId}
    {failure : DataError} (sound : store.Sound False) (idle : store.activity = .idle)
    (contained : store.Contains object)
    (room : (store.graph.composedFrom object).encard ≤ config.limit)
    (failed : ((resolve config object).outcome store).1 = .error failure) :
    ¬failure.Overrun := by
  have runs := resolve_runs sound contained (Prod.ext failed rfl)
  have nests : store.Nests store.graph object := by
    refine ⟨[], passable_nil _ _, ?_⟩
    rw [idle]
    exact ⟨rfl, rfl⟩
  have grounded : (Act.chain config.limit [] object (.error failure)).Grounded store.graph False
      store := grounded_start sound contained
  exact runs_have_room (graph_closed sound) (grounded_fixed grounded) room runs grounded nests
    ⟨.refl, passable_nil _ _, Nat.add_zero _⟩ rfl

/-- If the limit is not below the number of composed objects reached, a dataization is
never refused for its depth. Where no cycle is reached it finds what the object means;
where one is, it fails, as cyclic or with the failure that the object means. -/
theorem room_leaves_cycles {store : Store} {object : ObjectId}
    (reachable : Reachable False store) (contained : store.Contains object) (config : Config)
    (room : (store.graph.composedFrom object).encard ≤ config.limit) :
    let result := ((resolve config object).outcome store).1
    (∀ limit, result ≠ .error (.depthExceeded limit)) ∧
      (¬store.graph.ReachesCycle object → Means store.graph object result) ∧
      (store.graph.ReachesCycle object →
        ∃ failure, result = .error failure ∧
          (failure.Cyclic ∨ Means store.graph object (.error failure))) := by
  intro result
  have sound := reachable_sound reachable
  have idle := reachable_idle reachable
  have runs : Runs config (.chain config.limit [] object result) store _ :=
    resolve_runs sound contained rfl
  have below (limit : Nat) : result ≠ .error (.depthExceeded limit) := fun overrun =>
    resolve_has_room sound idle contained room overrun trivial
  have explained : Means store.graph object result ∨
      ∃ failure, result = .error failure ∧ failure.Cyclic := by
    rcases resolve_means sound contained (Prod.ext rfl rfl) with means | ⟨failure, same, guard⟩
    · exact .inl means
    · rcases cyclic_or_overrun guard with cyclic | overrun
      · exact .inr ⟨failure, same, cyclic⟩
      · exact absurd overrun (resolve_has_room sound idle contained room same)
  refine ⟨below, ?_, ?_⟩
  · intro without
    rcases explained with means | ⟨failure, same, cyclic⟩
    · exact means
    · exact absurd (cyclic_reaches_cycle sound idle contained (same ▸ runs) cyclic) without
  · intro reaches
    rcases explained with means | ⟨failure, same, cyclic⟩
    · cases found : result with
      | ok value => exact absurd reaches (found_reaches_no_cycle sound (found ▸ runs))
      | error failure => exact ⟨failure, rfl, .inr (found ▸ means)⟩
    · exact ⟨failure, same, .inl cyclic⟩

theorem selfish_reaches_itself {other : ObjectId}
    (path : Store.selfish.graph.Reaches ⟨0⟩ other) : other = ⟨0⟩ := by
  induction path with
  | refl => rfl
  | tail _ demands ih =>
      subst ih
      have role : Builtin.intAdd.role = .aggregate (.operator (.int .intAdd)) := rfl
      have holds : Store.selfish.Holds ⟨0⟩ (.aggregate role [⟨0⟩] false none) := rfl
      exact List.mem_singleton.mp (demands_content holds demands)

theorem selfish_has_room :
    let config : Config := ⟨1, false⟩
    (Store.selfish.graph.composedFrom ⟨0⟩).encard ≤ config.limit ∧
      ∀ limit, ((resolve config ⟨0⟩).outcome Store.selfish).1 ≠
        .error (.depthExceeded limit) := by
  intro config
  have start : Reachable False .empty := .refl
  have reachable : Reachable False Store.selfish :=
    (reachable_instantiate start .intAdd).tail
      (operates_bind ⟨0⟩ operandAttribute (by decide))
  have room : (Store.selfish.graph.composedFrom ⟨0⟩).encard ≤ config.limit := by
    have single : Store.selfish.graph.composedFrom ⟨0⟩ ⊆ {⟨0⟩} :=
      fun other member => selfish_reaches_itself member.1
    exact (Set.encard_le_encard single).trans (by simp [config, Config.limit])
  exact ⟨room, (room_leaves_cycles reachable (by decide) config room).1⟩

end ObjectCalculus
