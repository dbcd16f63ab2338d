import ObjectCalculus.Proofs.Boundary

/-!
# Values that only the limit can withhold

An object that has a value by its bindings is found to have it, unless the limit is met:
no cycle is in its way and nothing that it reaches is deferred. So the leaves of other objects
may well be deferred; what counts is the part of the graph that the object reaches.
-/

set_option autoImplicit false

namespace ObjectCalculus

open Effect Evaluation Relation

/-- What the graph shows of the objects that are reached from the origins. -/
def Graph.under (graph : Graph) (origins : List ObjectId) : Graph := fun object node =>
  graph object node ∧ ∃ origin ∈ origins, graph.Reaches origin object

section Under

variable {graph small large : Graph} {origins : List ObjectId} {origin object other : ObjectId}
  {result : Except DataError Value} {value : Value}

theorem under_within (graph : Graph) (origins : List ObjectId) :
    (graph.under origins).Within graph :=
  fun _ _ shown => shown.1

theorem under_origin {node : Node} (shown : graph origin node) (among : origin ∈ origins) :
    graph.under origins origin node :=
  ⟨shown, origin, among, .refl⟩

theorem under_closed (closed : graph.Closed) : (graph.under origins).Closed := by
  rintro object target ⟨node, ⟨shown, origin, among, path⟩, wanted⟩
  have demands : graph.Demands object target := ⟨node, shown, wanted⟩
  obtain ⟨below, shownBelow⟩ := closed object target demands
  exact ⟨below, shownBelow, origin, among, path.tail demands⟩

theorem means_within (within : small.Within large) (means : Means small object result) :
    Means large object result := by
  induction means with
  | leaf shown => exact .leaf (within _ _ shown)
  | unbound shown => exact .unbound (within _ _ shown)
  | datum shown _ ih => exact .datum (within _ _ shown) ih
  | stopped shown _ accepted _ stops evaluated ih =>
      exact .stopped (within _ _ shown) evaluated accepted ih stops
  | aggregate shown _ accepted evaluated => exact .aggregate (within _ _ shown) evaluated accepted

theorem means_shown (means : Means graph object result) : ∃ node, graph object node := by
  cases means with
  | leaf shown | unbound shown | datum shown | stopped shown | aggregate shown =>
      exact ⟨_, shown⟩

variable (functional : Relator.RightUnique graph)

include functional

theorem means_not_deferred (means : Means graph object result) : ¬graph object (.leaf none) := by
  intro deferred
  cases means with
  | leaf shown | unbound shown | datum shown | stopped shown | aggregate shown =>
      cases functional shown deferred

/-- Whatever an object with a value demands has a value too. -/
theorem means_demanded (means : Means graph object result) (found : result = .ok value)
    (demands : graph.Demands object other) : ∃ part, Means graph other (.ok part) := by
  obtain ⟨node, shows, wanted⟩ := demands
  cases means with
  | leaf shown =>
      cases functional shown shows
      cases wanted
  | datum shown means =>
      cases functional shown shows
      cases List.mem_singleton.mp wanted
      exact ⟨value, found ▸ means⟩
  | unbound | stopped => cases found
  | aggregate shown evaluated =>
      cases functional shown shows
      obtain ⟨operand, member, rfl⟩ := List.mem_map.mp wanted
      exact ⟨operand.2, evaluated operand member⟩

theorem means_reached (means : Means graph object (.ok value))
    (path : graph.Reaches object other) : ∃ part, Means graph other (.ok part) := by
  induction path with
  | refl => exact ⟨value, means⟩
  | tail _ demands ih =>
      obtain ⟨part, meant⟩ := ih
      exact means_demanded functional meant rfl demands

theorem under_fixed (means : Means graph origin (.ok value)) :
    (graph.under [origin]).Fixed := by
  rintro object ⟨shown, other, among, path⟩
  cases List.mem_singleton.mp among
  obtain ⟨part, meant⟩ := means_reached functional means path
  exact means_not_deferred functional meant shown

end Under

section Found

variable {deferring : Prop} {store : Store} {object : ObjectId} {config : Config}

theorem under_grounded {moves : Nat} {visited : List ObjectId} {node : Node}
    {result : Except DataError Value} (sound : store.Sound deferring)
    (shown : store.graph object node) :
    (Act.chain moves visited object result).Grounded (store.graph.under [object]) deferring store :=
  ⟨sound, under_within _ _, node, under_origin shown List.mem_cons_self⟩

/-- What an object means is found where nothing that it reaches is deferred or on a cycle. -/
theorem explained_found {result : Except DataError Value} (sound : store.Sound deferring)
    (idle : store.activity = .idle) (means : Means store.graph object result)
    (fixed : (store.graph.under [object]).Fixed) (acyclic : ¬store.graph.ReachesCycle object)
    (fits : ∀ limit, ((resolve config object).outcome store).1 ≠ .error (.depthExceeded limit)) :
    ((resolve config object).outcome store).1 = result := by
  have functional := graph_functional (within_refl store.graph)
  obtain ⟨node, shown⟩ := means_shown means
  have contained := Store.contains_of_shown shown
  rcases ran : (resolve config object).outcome store with ⟨found, after⟩
  rw [ran] at fits
  have runs := resolve_runs sound contained ran
  have closed : (store.graph.under [object]).Closed := under_closed (graph_closed sound)
  have grounded : (Act.chain config.limit [] object found).Grounded
      (store.graph.under [object]) deferring store := under_grounded sound shown
  have only {other : Except DataError Value}
      (meant : Means (store.graph.under [object]) object other) : other = result :=
    means_unique functional means (means_within (under_within _ _) meant)
  cases found with
  | ok value => exact only (found_means closed fixed runs grounded)
  | error failure =>
      rcases runs_explained closed fixed runs grounded with guard | meant
      · rcases cyclic_or_overrun guard with cyclic | overrun
        · have reaches := grounded_cycle_reached closed fixed runs grounded idle cyclic
          exact absurd (reaches_cycle_within (under_within _ _) reaches) acyclic
        · cases failure with
          | depthExceeded limit => exact absurd rfl (fits limit)
          | _ => cases overrun
      · exact only meant

theorem meaning_found {value : Value} (sound : store.Sound deferring)
    (idle : store.activity = .idle) (means : Means store.graph object (.ok value))
    (fits : ∀ limit, ((resolve config object).outcome store).1 ≠ .error (.depthExceeded limit)) :
    ((resolve config object).outcome store).1 = .ok value := by
  have functional := graph_functional (within_refl store.graph)
  exact explained_found sound idle means (under_fixed functional means)
    (means_reaches_no_cycle functional means rfl) fits

theorem meaning_has_room {value : Value} (sound : store.Sound deferring)
    (idle : store.activity = .idle) (means : Means store.graph object (.ok value))
    (room : (store.graph.composedFrom object).encard ≤ config.limit) :
    ((resolve config object).outcome store).1 = .ok value := by
  refine meaning_found sound idle means fun limit exceeded => ?_
  obtain ⟨node, shown⟩ := means_shown means
  have contained := Store.contains_of_shown shown
  have within : store.graph.under [object] |>.Within store.graph := under_within _ _
  have fewer : (store.graph.under [object]).composedFrom object ⊆
      store.graph.composedFrom object := by
    rintro other ⟨path, below, shows, composed⟩
    exact ⟨reaches_within within path, below, within _ _ shows, composed⟩
  have nests : store.Nests (store.graph.under [object]) object := by
    refine ⟨[], passable_nil _ _, ?_⟩
    rw [idle]
    exact ⟨rfl, rfl⟩
  exact runs_have_room (under_closed (graph_closed sound))
    (under_fixed (graph_functional (within_refl _)) means)
    ((Set.encard_le_encard fewer).trans room) (resolve_runs sound contained (Prod.ext exceeded rfl))
    (under_grounded sound shown) nests ⟨.refl, passable_nil _ _, Nat.add_zero _⟩ rfl trivial

/-- With values for all its items, an operator or an array ends with their total, be it a value
or a failure. -/
theorem items_found {form : Aggregate} {operands : List (ObjectId × Value)}
    (sound : store.Sound deferring) (idle : store.activity = .idle)
    (shown : store.graph object (.aggregate form (operands.map Prod.fst)))
    (evaluated : ∀ operand ∈ operands, Means store.graph operand.1 (.ok operand.2))
    (accepted : ∀ operand ∈ operands, form.refusal operand.2 = none)
    (fits : ∀ limit, ((resolve config object).outcome store).1 ≠ .error (.depthExceeded limit)) :
    ((resolve config object).outcome store).1 = form.total (operands.map Prod.snd) := by
  have functional := graph_functional (within_refl store.graph)
  have item {target : ObjectId} (demands : store.graph.Demands object target) :
      ∃ value, Means store.graph target (.ok value) := by
    obtain ⟨node, shows, wanted⟩ := demands
    cases functional shown shows
    obtain ⟨operand, member, rfl⟩ := List.mem_map.mp wanted
    exact ⟨operand.2, evaluated operand member⟩
  refine explained_found sound idle (.aggregate shown evaluated accepted) ?_ ?_ fits
  · rintro other ⟨deferred, origin, among, path⟩
    cases List.mem_singleton.mp among
    rcases ReflTransGen.cases_head path with rfl | ⟨target, demands, further⟩
    · cases functional shown deferred
    · obtain ⟨value, means⟩ := item demands
      obtain ⟨part, meant⟩ := means_reached functional means further
      exact means_not_deferred functional meant deferred
  · intro reaches
    obtain ⟨target, demands, further⟩ := reaches_cycle_step reaches
    obtain ⟨value, means⟩ := item demands
    exact means_reaches_no_cycle functional means rfl further

end Found

end ObjectCalculus
