import ObjectCalculus.Proofs.Meaning

/-!
# Cycles of demands

An object from which a cycle of demands is reached has no value, whatever parts of
the graph have been computed before. The other way round, a refusal as cyclic is only
given where there is a cycle: some object on the way demands one that is under
evaluation, or one that the same chain has passed, and either demands it in turn.
-/

set_option autoImplicit false

namespace ObjectCalculus

open Effect Evaluation Relation

namespace Graph

def OnCycle (graph : Graph) (object : ObjectId) : Prop :=
  TransGen graph.Demands object object

/-- A cycle is reached from the object. -/
def ReachesCycle (graph : Graph) (object : ObjectId) : Prop :=
  ∃ other, graph.Reaches object other ∧ graph.OnCycle other

end Graph

section Graphs

variable {graph small large : Graph} {object target other : ObjectId}

theorem demands_within (within : small.Within large) (demands : small.Demands object target) :
    large.Demands object target := by
  obtain ⟨node, shown, wanted⟩ := demands
  exact ⟨node, within object node shown, wanted⟩

theorem reaches_within (within : small.Within large) (path : small.Reaches object other) :
    large.Reaches object other :=
  ReflTransGen.mono (fun _ _ => demands_within within) _ _ path

theorem reaches_cycle_within (within : small.Within large) (reaches : small.ReachesCycle object) :
    large.ReachesCycle object := by
  obtain ⟨other, path, cycle⟩ := reaches
  exact ⟨other, reaches_within within path,
    TransGen.mono (fun _ _ => demands_within within) _ _ cycle⟩

theorem reaches_cycle_head (demands : graph.Demands object target)
    (reaches : graph.ReachesCycle target) : graph.ReachesCycle object := by
  obtain ⟨other, path, cycle⟩ := reaches
  exact ⟨other, .head demands path, cycle⟩

theorem reaches_cycle_step (reaches : graph.ReachesCycle object) :
    ∃ target, graph.Demands object target ∧ graph.ReachesCycle target := by
  obtain ⟨other, path, cycle⟩ := reaches
  rcases ReflTransGen.cases_head path with rfl | ⟨target, demands, rest⟩
  · obtain ⟨target, demands, back⟩ := TransGen.head'_iff.mp cycle
    exact ⟨target, demands, object, back, cycle⟩
  · exact ⟨target, demands, other, rest, cycle⟩

theorem reaches_cycle_back (demands : graph.Demands object target)
    (back : graph.Reaches target object) : graph.ReachesCycle object :=
  ⟨object, .refl, TransGen.head' demands back⟩

end Graphs

theorem settled_reaches_no_cycle {store : Store} {object : ObjectId} {value : Value}
    (settled : store.Settled object value) : ¬store.graph.ReachesCycle object := by
  induction settled with
  | fixed held | produced held _ =>
      intro reaches
      obtain ⟨target, demands, _⟩ := reaches_cycle_step reaches
      cases demands_content (Store.holds_leaf.mpr held) demands
  | bound holds _ ih =>
      intro reaches
      obtain ⟨target, demands, further⟩ := reaches_cycle_step reaches
      cases List.mem_singleton.mp (demands_content holds demands)
      exact ih further
  | aggregate holds _ _ _ ih =>
      intro reaches
      obtain ⟨target, demands, further⟩ := reaches_cycle_step reaches
      obtain ⟨operand, member, rfl⟩ := List.mem_map.mp (demands_content holds demands)
      exact ih operand member further

theorem total_not_cyclic {form : Aggregate} {values : List Value} {failure : DataError}
    (failed : form.total values = .error failure) : ¬failure.Cyclic := by
  intro cyclic
  obtain ⟨limit, guard⟩ := by_some_guard (.inl cyclic)
  exact total_unguarded failed guard

theorem refusal_not_cyclic {form : Aggregate} {value : Value} {failure : DataError}
    (refused : form.refusal value = some failure) : ¬failure.Cyclic := by
  intro cyclic
  obtain ⟨limit, guard⟩ := by_some_guard (.inl cyclic)
  exact refusal_unguarded refused guard

/-- From the object a cycle is reached, or an object that the guards know already. -/
def Graph.Blames (graph : Graph) (known : ObjectId → Prop) (object : ObjectId) : Prop :=
  (∃ other, graph.Reaches object other ∧ known other) ∨ graph.ReachesCycle object

section Blame

variable {graph : Graph} {known : ObjectId → Prop} {object target : ObjectId}

theorem blames_self (knows : known object) : graph.Blames known object :=
  .inl ⟨object, .refl, knows⟩

/-- Who demands an object is to blame for it, also if the guards came to know the
demander itself on the way. -/
theorem blames_demand (demands : graph.Demands object target)
    (blames : graph.Blames (fun other => other = object ∨ known other) target) :
    graph.Blames known object := by
  rcases blames with ⟨other, path, rfl | knows⟩ | reaches
  · exact .inr (reaches_cycle_back demands path)
  · exact .inl ⟨other, .head demands path, knows⟩
  · exact .inr (reaches_cycle_head demands reaches)

theorem blames_mono {more : ObjectId → Prop} (weaker : ∀ other, known other → more other)
    (blames : graph.Blames known object) : graph.Blames more object :=
  blames.imp_left fun ⟨other, path, knows⟩ => ⟨other, path, weaker other knows⟩

end Blame

def Act.Blamed (graph : Graph) (store : Store) : Act → Prop
  | .chain _ visited object (.error failure) =>
      failure.Cyclic → graph.Blames (fun other => other ∈ visited ∨ store.Marked other) object
  | .compute object (.error failure) => failure.Cyclic → graph.Blames store.Marked object
  | .collect _ items (.error failure) =>
      failure.Cyclic → ∃ item ∈ items, graph.Blames store.Marked item
  | _ => True

theorem marked_same {store after : Store} (same : after.activity = store.activity)
    (object : ObjectId) : after.Marked object ↔ store.Marked object := by
  unfold Store.Marked
  rw [same]

/-- Every refusal as cyclic is to blame on a cycle, or on what the guards knew before
the run. -/
theorem runs_blamed {graph : Graph} {deferring : Prop} {config : Config} {act : Act}
    {store after : Store} (closed : graph.Closed) (fixed : graph.Fixed)
    (runs : Runs config act store after) (sound : store.Sound deferring)
    (within : graph.Within store.graph) (present : act.Present graph) :
    act.Blamed graph store := by
  have grounded : act.Grounded graph deferring store := ⟨sound, within, present⟩
  clear sound within present
  induction runs with
  | leaf | computed | kept | published | nil | cons => trivial
  | deferred held =>
      have shown := shown_within grounded.within (Store.holds_leaf.mpr held) grounded.present
      exact absurd shown (fixed _)
  | revisited _ seen => exact fun _ => blames_self (.inl seen)
  | active _ marked => exact fun _ => blames_self marked
  | exhausted | deep | unbound => exact fun cyclic => cyclic.elim
  | @bound moves visited object target result store after builtin role holds _ _ ih =>
      obtain ⟨demands, inside⟩ := grounded_bound closed grounded holds
      cases result with
      | ok value => trivial
      | error failure =>
          intro cyclic
          have same := activity_invariance.keeps_stepped config object dataAttribute store
          refine blames_demand demands (blames_mono ?_ (ih inside cyclic))
          rintro other (seen | marked)
          · rcases List.mem_cons.mp seen with rfl | earlier
            · exact .inl rfl
            · exact .inr (.inl earlier)
          · exact .inr (.inr ((marked_same same other).mp marked))
  | @failed moves visited object failure store after builtin form role items isSealed cache
      _ _ _ ih =>
      intro cyclic
      have same := activity_invariance.keeps_stepped config object valueAttribute store
      have blamed := ih (grounded_compute _ grounded) cyclic
      exact blames_mono (fun other marked => .inr ((marked_same same other).mp marked)) blamed
  | cut holds _ _ ih =>
      intro cyclic
      obtain ⟨demands, inside⟩ := grounded_collect _ closed grounded holds
      obtain ⟨item, member, blamed⟩ := ih inside cyclic
      refine blames_demand (demands item member) (blames_mono ?_ blamed)
      intro other marked
      rcases List.mem_cons.mp marked with same | earlier
      · cases same
        exact .inl rfl
      · exact .inr earlier
  | rejected _ _ _ total => exact fun cyclic => absurd cyclic (total_not_cyclic total)
  | @unresolved form item rest failure store after _ ih =>
      intro cyclic
      have blamed := ih (grounded_first _ grounded) cyclic
      refine ⟨item, List.mem_cons_self, blames_mono ?_ blamed⟩
      rintro other (seen | marked)
      · cases seen
      · exact marked
  | refused _ refusal => exact fun cyclic => absurd cyclic (refusal_not_cyclic refusal)
  | @later form item rest value failure store middle after first _ _ _ ih =>
      intro cyclic
      obtain ⟨other, member, blamed⟩ := ih (grounded_rest _ grounded first) cyclic
      refine ⟨other, List.mem_cons_of_mem item member, blames_mono ?_ blamed⟩
      exact fun known marked => (marked_same (runs_activity first) known).mp marked

theorem found_reaches_no_cycle {deferring : Prop} {config : Config} {moves : Nat}
    {visited : List ObjectId} {object : ObjectId} {value : Value} {store after : Store}
    (sound : store.Sound deferring)
    (runs : Runs config (.chain moves visited object (.ok value)) store after) :
    ¬store.graph.ReachesCycle object := by
  intro reaches
  have settled := (runs_settle runs sound).2
  exact settled_reaches_no_cycle settled (reaches_cycle_within (runs_extend runs).graph reaches)

/-- With nothing under way before it, a dataization is only refused as cyclic where a
cycle is reached, and that within any part of the graph on which it is grounded. -/
theorem grounded_cycle_reached {deferring : Prop} {graph : Graph} {config : Config}
    {moves : Nat} {object : ObjectId} {failure : DataError} {store after : Store}
    (closed : graph.Closed) (fixed : graph.Fixed)
    (runs : Runs config (.chain moves [] object (.error failure)) store after)
    (grounded : (Act.chain moves [] object (.error failure)).Grounded graph deferring store)
    (idle : store.activity = .idle) (cyclic : failure.Cyclic) : graph.ReachesCycle object := by
  have blamed := runs_blamed closed fixed runs grounded.sound grounded.within grounded.present
    cyclic
  rcases blamed with ⟨other, _, seen | marked⟩ | reaches
  · cases seen
  · unfold Store.Marked at marked
    rw [idle] at marked
    cases marked
  · exact reaches

theorem cyclic_reaches_cycle {config : Config} {moves : Nat} {object : ObjectId}
    {failure : DataError} {store after : Store} (sound : store.Sound False)
    (idle : store.activity = .idle) (contained : store.Contains object)
    (runs : Runs config (.chain moves [] object (.error failure)) store after)
    (cyclic : failure.Cyclic) : store.graph.ReachesCycle object :=
  grounded_cycle_reached (graph_closed sound) (graph_fixed sound) runs
    (grounded_start sound contained) idle cyclic

/-- Where a cycle is reached, a dataization fails; where none is, it is never refused
as cyclic. -/
theorem cycles_are_detected {store : Store} {object : ObjectId}
    (reachable : Reachable False store) (contained : store.Contains object)
    (config : Config) :
    (store.graph.ReachesCycle object →
        ∃ failure, ((resolve config object).outcome store).1 = .error failure) ∧
      (¬store.graph.ReachesCycle object → ∀ label attr,
        ((resolve config object).outcome store).1 ≠ .error (.cyclicEvaluation label attr)) := by
  have sound := reachable_sound reachable
  rcases ran : (resolve config object).outcome store with ⟨result, after⟩
  have runs := resolve_runs sound contained ran
  constructor
  · intro reaches
    cases result with
    | error failure => exact ⟨failure, rfl⟩
    | ok value =>
        have settled := (runs_settle runs sound).2
        have still := reaches_cycle_within (runs_extend runs).graph reaches
        exact absurd still (settled_reaches_no_cycle settled)
  · rintro without label attr rfl
    have fixed : store.graph.Fixed := fun _ shown => sound.leaves shown
    have blamed := runs_blamed (graph_closed sound) fixed runs sound (within_refl _)
      (node_of_contains sound contained) trivial
    rcases blamed with ⟨other, _, seen | marked⟩ | reaches
    · cases seen
    · unfold Store.Marked at marked
      rw [reachable_idle reachable] at marked
      cases marked
    · exact without reaches

def Store.selfish : Store :=
  let made := (Store.empty.instantiate Builtin.intAdd.definition).2
  (Store.tryBind (fun store => store.bind ⟨0⟩ operandAttribute ⟨0⟩) made).2

theorem selfish_fails :
    Reachable False Store.selfish ∧ Store.selfish.Contains ⟨0⟩ ∧
      Store.selfish.graph.ReachesCycle ⟨0⟩ ∧
      ∃ failure, ((resolve .default ⟨0⟩).outcome Store.selfish).1 = .error failure := by
  have start : Reachable False .empty := .refl
  have made := reachable_instantiate start .intAdd
  have reachable : Reachable False Store.selfish :=
    made.tail (operates_bind ⟨0⟩ operandAttribute (by decide))
  have contained : Store.selfish.Contains ⟨0⟩ := by decide
  have role : Builtin.intAdd.role = .aggregate (.operator (.int .intAdd)) := rfl
  have holds : Store.selfish.Holds ⟨0⟩ (.aggregate role [⟨0⟩] false none) := rfl
  have demands : Store.selfish.graph.Demands ⟨0⟩ ⟨0⟩ :=
    demands_of_holds holds (List.mem_singleton.mpr rfl)
  have cycle : Store.selfish.graph.ReachesCycle ⟨0⟩ := reaches_cycle_back demands .refl
  exact ⟨reachable, contained, cycle,
    (cycles_are_detected reachable contained .default).1 cycle⟩

end ObjectCalculus
