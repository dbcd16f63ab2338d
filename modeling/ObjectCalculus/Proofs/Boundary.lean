import ObjectCalculus.Proofs.Footprint
import ObjectCalculus.Proofs.Room

/-!
# Where the limit cuts

An object whose demands form a tree is measured twice: by how many operators and arrays
are nested in it, and by how many objects its chains pass. What the two guards allow is
exactly what has room for both. One object more in either measure, and the dataization
is cut short.
-/

set_option autoImplicit false

namespace ObjectCalculus

open Effect Evaluation Relation

/-- An object with all that it demands, and what that demands in turn. -/
inductive DemandTree where
  | leaf (object : ObjectId)
  | datum (object : ObjectId) (target : DemandTree)
  | aggregate (object : ObjectId) (items : List DemandTree)

namespace DemandTree

def object : DemandTree → ObjectId
  | .leaf object => object
  | .datum object _ => object
  | .aggregate object _ => object

mutual

/-- The operators and arrays on the way to the deepest leaf. -/
def nest : DemandTree → Nat
  | .leaf _ => 0
  | .datum _ target => target.nest
  | .aggregate _ items => 1 + nestAll items

def nestAll : List DemandTree → Nat
  | [] => 0
  | first :: rest => max first.nest (nestAll rest)

end

/-- The objects that one chain passes. An operator or an array is the last of them, as its
result is a leaf. -/
def chain : DemandTree → Nat
  | .leaf _ => 0
  | .datum _ target => 1 + target.chain
  | .aggregate .. => 1

mutual

def parts : DemandTree → List DemandTree
  | .leaf object => [.leaf object]
  | .datum object target => .datum object target :: target.parts
  | .aggregate object items => .aggregate object items :: partsAll items

def partsAll : List DemandTree → List DemandTree
  | [] => []
  | first :: rest => first.parts ++ partsAll rest

end

def composed? : DemandTree → Option ObjectId
  | .leaf _ => none
  | .datum object _ => some object
  | .aggregate object _ => some object

/-- Every object that is not a leaf, as often as it is used. -/
def composed (trees : List DemandTree) : List ObjectId :=
  (partsAll trees).filterMap composed?

/-- The trees of what the object demands itself. -/
def branches : DemandTree → List DemandTree
  | .leaf _ => []
  | .datum _ target => [target]
  | .aggregate _ items => items

def Matches : DemandTree → Node → Prop
  | .leaf _, .leaf _ => True
  | .datum _ target, .datum _ binding => binding = some target.object
  | .aggregate _ items, .aggregate _ targets => targets = items.map DemandTree.object
  | _, _ => False

def Shown (graph : Graph) (tree : DemandTree) : Prop :=
  ∃ node, graph tree.object node ∧ tree.Matches node

/-- A tree that has room below a limit, entered at some depth with some moves left. -/
structure Fits (tree : DemandTree) (limit depth moves : Nat) : Prop where
  nest : depth + tree.nest ≤ limit
  chain : tree.chain ≤ moves
  parts : ∀ part ∈ tree.parts, part.chain ≤ limit

/-- The graph has these trees, no composed object is used in two places of them, and none
has been computed. -/
structure Untouched (graph : Graph) (store : Store) (trees : List DemandTree) : Prop where
  shown : ∀ part ∈ partsAll trees, part.Shown graph
  once : (composed trees).Nodup
  uncomputed : ∀ object ∈ composed trees, ∀ result, ¬store.Keeps object result

section Parts

variable {graph : Graph} {tree target part : DemandTree} {items trees : List DemandTree}
  {object : ObjectId}

theorem nest_all_le {bound : Nat} :
    nestAll trees ≤ bound ↔ ∀ tree ∈ trees, tree.nest ≤ bound := by
  induction trees with
  | nil => simp [nestAll]
  | cons first rest ih => simp [nestAll, ih]

theorem mem_parts_all : part ∈ partsAll trees ↔ ∃ tree ∈ trees, part ∈ tree.parts := by
  induction trees with
  | nil => simp [partsAll]
  | cons first rest ih => simp [partsAll, ih]

theorem parts_all_single (tree : DemandTree) : partsAll [tree] = tree.parts :=
  List.append_nil _

theorem self_part (tree : DemandTree) : tree ∈ tree.parts := by
  cases tree <;> exact List.mem_cons_self

theorem object_of_composed (composed : tree.composed? = some object) : tree.object = object := by
  cases tree <;> simp_all [composed?, DemandTree.object]

theorem composed_cons (first : DemandTree) (rest : List DemandTree) :
    composed (first :: rest) = composed [first] ++ composed rest := by
  simp [composed, partsAll]

theorem parts_top (tree : DemandTree) : tree.parts = tree :: partsAll tree.branches := by
  cases tree <;> simp [parts, partsAll, branches]

theorem composed_top (here : tree.composed? = some object) :
    composed [tree] = object :: composed tree.branches := by
  rw [composed, parts_all_single, parts_top, List.filterMap_cons_some here]
  rfl

theorem targets_of_matches {node : Node} (matching : tree.Matches node) :
    node.targets = tree.branches.map DemandTree.object := by
  cases tree <;> cases node <;> cases matching <;> rfl

end Parts

section Fits

variable {tree target : DemandTree} {items : List DemandTree} {object : ObjectId}
  {limit depth moves : Nat}

theorem fits_leaf (room : depth ≤ limit) : (DemandTree.leaf object).Fits limit depth moves where
  nest := room
  chain := Nat.zero_le _
  parts part member := by
    cases List.mem_singleton.mp member
    exact Nat.zero_le _

theorem fits_datum (room : moves < limit) :
    (DemandTree.datum object target).Fits limit depth (moves + 1) ↔
      target.Fits limit depth moves := by
  constructor
  · intro fits
    refine ⟨fits.nest, ?_, fun part member => fits.parts part (List.mem_cons_of_mem _ member)⟩
    have passed : 1 + target.chain ≤ moves + 1 := fits.chain
    omega
  · intro fits
    have passed : 1 + target.chain ≤ moves + 1 := by
      have inner := fits.chain
      omega
    refine ⟨fits.nest, passed, List.forall_mem_cons.mpr ⟨?_, fits.parts⟩⟩
    exact Nat.le_trans passed room

theorem fits_aggregate (room : moves < limit) :
    (DemandTree.aggregate object items).Fits limit depth (moves + 1) ↔
      depth < limit ∧ ∀ item ∈ items, item.Fits limit (depth + 1) limit := by
  have nests : depth + (1 + nestAll items) ≤ limit ↔
      depth < limit ∧ ∀ item ∈ items, depth + 1 + item.nest ≤ limit := by
    constructor
    · intro room
      refine ⟨by omega, fun item here => ?_⟩
      have below := nest_all_le.mp (Nat.le_refl (nestAll items)) item here
      omega
    · rintro ⟨below, nested⟩
      have all : nestAll items ≤ limit - (depth + 1) := nest_all_le.mpr fun item here => by
        have inner := nested item here
        omega
      omega
  constructor
  · intro fits
    obtain ⟨below, nested⟩ := nests.mp fits.nest
    have inside {item part : DemandTree} (here : item ∈ items) (member : part ∈ item.parts) :
        part.chain ≤ limit :=
      fits.parts part (List.mem_cons_of_mem _ (mem_parts_all.mpr ⟨item, here, member⟩))
    exact ⟨below, fun item here =>
      ⟨nested item here, inside here (self_part item), fun part => inside here⟩⟩
  · rintro ⟨below, each⟩
    refine ⟨nests.mpr ⟨below, fun item here => (each item here).nest⟩, Nat.le_add_left _ _, ?_⟩
    refine List.forall_mem_cons.mpr ⟨Nat.lt_of_le_of_lt (Nat.zero_le _) room, ?_⟩
    intro part member
    obtain ⟨item, here, inside⟩ := mem_parts_all.mp member
    exact (each item here).parts part inside

theorem no_moves_left (composed : tree.composed? = some object) : ¬tree.Fits limit depth 0 := by
  intro fits
  have passed := fits.chain
  cases tree with
  | leaf => cases composed
  | datum _ target => simp [DemandTree.chain] at passed
  | aggregate => cases passed

end Fits

section Shown

variable {graph : Graph} {tree : DemandTree} {trees : List DemandTree} {object target : ObjectId}

theorem composed_part (shown : tree.Shown graph) (composed : tree.composed? = some object) :
    graph.Composed object := by
  obtain ⟨node, shows, matching⟩ := shown
  rw [object_of_composed composed] at shows
  refine ⟨node, shows, ?_⟩
  rintro value rfl
  cases tree with
  | leaf => cases composed
  | datum | aggregate => cases matching

variable (functional : Relator.RightUnique graph)

include functional

theorem matches_shown {node : Node} (shown : tree.Shown graph) (shows : graph tree.object node) :
    tree.Matches node := by
  obtain ⟨other, showsOther, matching⟩ := shown
  rwa [functional shows showsOther]

theorem part_of_composed (shown : tree.Shown graph) (composed : graph.Composed tree.object) :
    tree.composed? = some tree.object := by
  obtain ⟨node, shows, apart⟩ := composed
  have matching := matches_shown functional shown shows
  cases tree with
  | leaf object =>
      cases node with
      | leaf value => exact absurd rfl (apart value)
      | datum | aggregate => cases matching
  | datum | aggregate => rfl

theorem part_of_datum {builtin : Builtin} (shown : tree.Shown graph)
    (bound : graph tree.object (.datum builtin (some target))) :
    ∃ below, tree = .datum tree.object below ∧ below.object = target := by
  have matching := matches_shown functional shown bound
  cases tree with
  | datum object below => exact ⟨below, rfl, (Option.some.inj matching).symm⟩
  | leaf | aggregate => cases matching

theorem part_of_aggregate {form : Aggregate} {items : List ObjectId} (shown : tree.Shown graph)
    (reads : graph tree.object (.aggregate form items)) :
    ∃ below, tree = .aggregate tree.object below ∧ below.map DemandTree.object = items := by
  have matching := matches_shown functional shown reads
  cases tree with
  | aggregate object below => exact ⟨below, rfl, Eq.symm matching⟩
  | leaf | datum => cases matching

theorem demanded_part (shown : tree.Shown graph) (demands : graph.Demands tree.object target) :
    ∃ part ∈ tree.branches, part.object = target := by
  obtain ⟨node, shows, wanted⟩ := demands
  rw [targets_of_matches (matches_shown functional shown shows)] at wanted
  exact List.mem_map.mp wanted

/-- A tree goes as far as the demands of its object. -/
theorem reached_part {other : ObjectId} (path : graph.Reaches tree.object other)
    (shown : ∀ part ∈ tree.parts, part.Shown graph) (composed : graph.Composed other) :
    other ∈ DemandTree.composed [tree] := by
  generalize same : tree.object = object at path
  induction path using ReflTransGen.head_induction_on generalizing tree with
  | refl =>
      subst same
      have here := part_of_composed functional (shown tree (self_part tree)) composed
      exact List.mem_filterMap.mpr ⟨tree, by simp [parts_all_single, self_part], here⟩
  | head demands _ ih =>
      subst same
      obtain ⟨part, here, same⟩ :=
        demanded_part functional (shown tree (self_part tree)) demands
      have inside {inner : DemandTree} (member : inner ∈ part.parts) : inner ∈ tree.parts := by
        rw [parts_top]
        exact List.mem_cons_of_mem tree (mem_parts_all.mpr ⟨part, here, member⟩)
      have further := ih (fun inner member => shown inner (inside member)) same
      obtain ⟨inner, member, here⟩ := List.mem_filterMap.mp further
      rw [parts_all_single] at member
      exact List.mem_filterMap.mpr ⟨inner, by simp [parts_all_single, inside member], here⟩

end Shown

section Untouched

theorem leaf_part {graph : Graph} {store : Store} {tree : DemandTree} {data : Leaf}
    (within : graph.Within store.graph) (shown : tree.Shown graph)
    (held : store.leaf? tree.object = some data) : tree = .leaf tree.object := by
  have leaf {object : ObjectId} (here : tree.composed? = some object) : False := by
    have composed := leaf_none_of_composed within (composed_part shown here)
    rw [← object_of_composed here, held] at composed
    cases composed
  cases tree with
  | leaf object => rfl
  | datum object target => exact (leaf rfl).elim
  | aggregate object items => exact (leaf rfl).elim

variable {graph : Graph} {store after : Store} {tree : DemandTree} {trees items : List DemandTree}
  {object : ObjectId}

theorem untouched_same (untouched : Untouched graph store trees)
    (same : ∀ object ∈ composed trees, after.object? object = store.object? object) :
    Untouched graph after trees where
  shown := untouched.shown
  once := untouched.once
  uncomputed object member result keeps :=
    untouched.uncomputed object member result ((keeps_same (same object member)).mp keeps)

theorem untouched_top (untouched : Untouched graph store [tree]) : tree.Shown graph :=
  untouched.shown tree (List.mem_append_left [] (self_part tree))

theorem untouched_branches (untouched : Untouched graph store [tree])
    (here : tree.composed? = some object) :
    object ∉ composed tree.branches ∧ Untouched graph store tree.branches := by
  have once := untouched.once
  rw [composed_top here, List.nodup_cons] at once
  refine ⟨once.1, ?_, once.2, fun other member => untouched.uncomputed other ?_⟩
  · intro part member
    refine untouched.shown part ?_
    rw [parts_all_single, parts_top]
    exact List.mem_cons_of_mem tree member
  · rw [composed_top here]
    exact List.mem_cons_of_mem object member

theorem untouched_cons (untouched : Untouched graph store (tree :: trees)) :
    Untouched graph store [tree] ∧ Untouched graph store trees ∧
      (composed [tree]).Disjoint (composed trees) := by
  have once := untouched.once
  rw [composed_cons, List.nodup_append] at once
  have members (other : ObjectId) :
      other ∈ composed (tree :: trees) ↔ other ∈ composed [tree] ∨ other ∈ composed trees := by
    rw [composed_cons, List.mem_append]
  refine ⟨⟨?_, once.1, ?_⟩, ⟨?_, once.2.1, ?_⟩, fun other own rest => once.2.2 _ own _ rest rfl⟩
  · intro part member
    rw [parts_all_single] at member
    exact untouched.shown part (List.mem_append_left _ member)
  · exact fun other member => untouched.uncomputed other ((members other).mpr (.inl member))
  · exact fun part member => untouched.shown part (List.mem_append_right _ member)
  · exact fun other member => untouched.uncomputed other ((members other).mpr (.inr member))

theorem untouched_entered {builtin : Builtin} {form : Aggregate}
    {role : builtin.role = .aggregate form} {isSealed : Bool}
    (untouched : Untouched graph store [.aggregate object items])
    (holds : store.Holds object
      (.aggregate role (items.map DemandTree.object) isSealed none)) :
    Untouched graph (store.entered object form (items.map DemandTree.object)) items := by
  obtain ⟨apart, inside⟩ := untouched_branches untouched rfl
  refine untouched_same inside fun other member => ?_
  rw [entered_puts holds, if_neg]
  rintro rfl
  exact apart member

theorem untouched_rest {deferring : Prop} {config : Config} {moves : Nat}
    {visited : List ObjectId} {result : Except DataError Value} (closed : graph.Closed)
    (untouched : Untouched graph store (tree :: trees))
    (grounded : (Act.chain moves visited tree.object result).Grounded graph deferring store)
    (runs : Runs config (.chain moves visited tree.object result) store after) :
    Untouched graph after trees := by
  obtain ⟨own, rest, apart⟩ := untouched_cons untouched
  refine untouched_same rest fun object member => ?_
  obtain ⟨part, inside, here⟩ := List.mem_filterMap.mp member
  have shown := rest.shown part inside
  have contained : store.Contains object := by
    obtain ⟨node, shows, _⟩ := shown
    rw [object_of_composed here] at shows
    exact Store.contains_of_shown (grounded.within object node shows)
  refine runs_spare closed runs grounded contained fun path => ?_
  have functional := graph_functional grounded.within
  have reached := reached_part functional path
    (fun part member => own.shown part (by rwa [parts_all_single])) (composed_part shown here)
  exact apart reached member

end Untouched

end DemandTree

/-- What a result tells of a condition for success. -/
def Decides (fits : Prop) {α : Type} : Except DataError α → Prop
  | .ok _ => fits
  | .error failure => failure.Overrun → ¬fits

/-- Whatever finds a value had room, and whatever is cut short had none. -/
def Act.Measured (graph : Graph) (limit : Nat) (store : Store) : Act → Prop
  | .chain moves _ object result =>
      ∀ tree : DemandTree, tree.object = object → DemandTree.Untouched graph store [tree] →
        moves ≤ limit → Decides (tree.Fits limit store.activity.depth moves) result
  | .compute object result =>
      ∀ items, DemandTree.Untouched graph store [.aggregate object items] →
        Decides (store.activity.depth < limit ∧
          ∀ item ∈ items, item.Fits limit (store.activity.depth + 1) limit) result
  | .collect _ items result =>
      ∀ trees : List DemandTree, trees.map DemandTree.object = items →
        DemandTree.Untouched graph store trees →
          Decides (∀ tree ∈ trees, tree.Fits limit store.activity.depth limit) result

section Runs

variable {deferring : Prop} {graph : Graph} {config : Config} {store after : Store}

/-- Every run decides whether its trees fit, as long as the depth is within the limit. -/
theorem runs_measure {act : Act} (closed : graph.Closed) (fixed : graph.Fixed)
    (runs : Runs config act store after) (grounded : act.Grounded graph deferring store)
    (room : store.activity.depth ≤ config.limit) : act.Measured graph config.limit store := by
  have functional := graph_functional grounded.within
  have steppedDepth (object : ObjectId) (name : String) (store : Store) :
      (stepped config object name store).activity.depth = store.activity.depth :=
    congrArg Activity.depth (activity_invariance.keeps_stepped config object name store)
  have steppedTree {trees : List DemandTree} {store : Store}
      (untouched : DemandTree.Untouched graph store trees) (object : ObjectId) (name : String) :
      DemandTree.Untouched graph (stepped config object name store) trees :=
    DemandTree.untouched_same untouched fun other _ =>
      Store.object_same (stepped_objects config object name store) other
  induction runs with
  | leaf held =>
      rintro tree rfl untouched _
      have leaf := DemandTree.leaf_part grounded.within (DemandTree.untouched_top untouched) held
      rw [leaf]
      exact DemandTree.fits_leaf room
  | deferred held =>
      have shown := shown_within grounded.within (Store.holds_leaf.mpr held) grounded.present
      exact absurd shown (fixed _)
  | revisited | unbound =>
      intro _ _ _ _ overrun
      cases overrun
  | exhausted composed _ =>
      rintro tree rfl untouched _ _
      have here := composed_of_leaf_none grounded.within grounded.present composed
      have shown := DemandTree.untouched_top untouched
      exact DemandTree.no_moves_left (DemandTree.part_of_composed functional shown here)
  | @bound moves visited object target result store after builtin role holds _ _ ih =>
      rintro tree rfl untouched few
      have shown := shown_within grounded.within holds grounded.present
      obtain ⟨_, inside⟩ := grounded_bound closed grounded holds
      obtain ⟨below, same, wanted⟩ :=
        DemandTree.part_of_datum functional (DemandTree.untouched_top untouched) shown
      rw [same] at untouched ⊢
      have decided := ih inside ((steppedDepth _ _ _).trans_le room) below wanted
        (steppedTree (DemandTree.untouched_branches untouched rfl).2 _ _) (Nat.le_of_lt few)
      rw [steppedDepth] at decided
      rwa [DemandTree.fits_datum few]
  | failed holds _ _ ih | computed holds _ _ _ ih =>
      rintro tree rfl untouched few
      have shown := shown_within grounded.within holds grounded.present
      obtain ⟨items, same, _⟩ :=
        DemandTree.part_of_aggregate functional (DemandTree.untouched_top untouched) shown
      rw [same] at untouched ⊢
      have decided := ih (grounded_compute _ grounded)
        ((steppedDepth _ _ _).trans_le room) items (steppedTree untouched _ _)
      rw [steppedDepth] at decided
      rwa [DemandTree.fits_aggregate few]
  | active =>
      intro _ _ overrun
      cases overrun
  | deep _ _ full => exact fun items _ _ fits => absurd fits.1 (Nat.not_lt.mpr full)
  | @kept object next store _ _ _ _ _ holds _ =>
      intro items untouched
      have member : object ∈ DemandTree.composed [.aggregate object items] := by
        rw [DemandTree.composed_top rfl]
        exact List.mem_cons_self
      exact absurd ((keeps_of_holds holds).mpr rfl) (untouched.uncomputed object member next)
  | @cut object failure store inner builtin form role items isSealed holds admitted _ ih =>
      intro trees untouched overrun fits
      have shown := shown_within grounded.within holds grounded.present
      obtain ⟨_, inside⟩ := grounded_collect _ closed grounded holds
      obtain ⟨below, same, rfl⟩ :=
        DemandTree.part_of_aggregate functional (DemandTree.untouched_top untouched) shown
      cases same
      exact ih inside admitted.room trees rfl (DemandTree.untouched_entered untouched holds)
        overrun fits.2
  | rejected _ _ _ total => exact fun _ _ overrun => absurd overrun (total_not_overrun total)
  | @published object values value store inner builtin form role items isSealed holds admitted _
      total waiting ih =>
      intro trees untouched
      have shown := shown_within grounded.within holds grounded.present
      obtain ⟨_, inside⟩ := grounded_collect _ closed grounded holds
      obtain ⟨below, same, rfl⟩ :=
        DemandTree.part_of_aggregate functional (DemandTree.untouched_top untouched) shown
      cases same
      exact ⟨admitted.room,
        ih inside admitted.room trees rfl (DemandTree.untouched_entered untouched holds)⟩
  | nil =>
      intro trees same _
      cases List.map_eq_nil_iff.mp same
      exact fun _ member => absurd member List.not_mem_nil
  | @unresolved form item rest failure store after _ ih =>
      intro trees same untouched overrun fits
      obtain ⟨tree, others, rfl, wanted, _⟩ := List.map_eq_cons_iff.mp same
      obtain ⟨own, _, _⟩ := DemandTree.untouched_cons untouched
      exact ih (grounded_first _ grounded) room tree wanted own (Nat.le_refl _) overrun
        (fits tree List.mem_cons_self)
  | refused _ refusal => exact fun _ _ _ overrun => absurd overrun (refusal_not_overrun refusal)
  | @later form item rest value failure store middle after first accepted _ ihFirst ih =>
      intro trees same untouched overrun fits
      obtain ⟨tree, others, rfl, rfl, sameRest⟩ := List.map_eq_cons_iff.mp same
      have left := DemandTree.untouched_rest closed untouched (grounded_first _ grounded) first
      have depth := congrArg Activity.depth (runs_activity first)
      have decided := ih (grounded_rest _ grounded first) (depth.trans_le room) others
        sameRest left overrun
      rw [depth] at decided
      exact decided fun other member => fits other (List.mem_cons_of_mem tree member)
  | @cons form item rest value values store middle after first accepted _ ihFirst ih =>
      intro trees same untouched
      obtain ⟨tree, others, rfl, rfl, sameRest⟩ := List.map_eq_cons_iff.mp same
      obtain ⟨own, _, _⟩ := DemandTree.untouched_cons untouched
      have left := DemandTree.untouched_rest closed untouched (grounded_first _ grounded) first
      have depth := congrArg Activity.depth (runs_activity first)
      have here := ihFirst (grounded_first _ grounded) room tree rfl own (Nat.le_refl _)
      have rest := ih (grounded_rest _ grounded first) (depth.trans_le room) others
        sameRest left
      rw [depth] at rest
      exact List.forall_mem_cons.mpr ⟨here, rest⟩

end Runs

section Meaning

variable {graph : Graph} {object : ObjectId} {value : Value}

theorem means_reaches_no_cycle {result : Except DataError Value}
    (functional : Relator.RightUnique graph) (means : Means graph object result)
    (found : result = .ok value) : ¬graph.ReachesCycle object := by
  induction means generalizing value with
  | leaf shown =>
      intro reaches
      obtain ⟨target, ⟨node, other, wanted⟩, _⟩ := reaches_cycle_step reaches
      cases functional shown other
      cases wanted
  | datum shown _ ih =>
      intro reaches
      obtain ⟨target, ⟨node, other, wanted⟩, further⟩ := reaches_cycle_step reaches
      cases functional shown other
      cases List.mem_singleton.mp wanted
      exact ih found further
  | unbound | stopped => cases found
  | aggregate shown _ _ ih =>
      intro reaches
      obtain ⟨target, ⟨node, other, wanted⟩, further⟩ := reaches_cycle_step reaches
      cases functional shown other
      obtain ⟨operand, member, rfl⟩ := List.mem_map.mp wanted
      exact ih operand member rfl further

end Meaning

/-- If the demands of an object that has a value form a tree in which nothing has been
computed, its value is found just if neither the nesting nor any chain in the tree goes
beyond the limit. Otherwise it is the limit that is reported. -/
theorem depth_boundary_is_exact {store : Store} {tree : DemandTree} {value : Value}
    (reachable : Reachable False store)
    (untouched : DemandTree.Untouched store.graph store [tree])
    (means : Means store.graph tree.object (.ok value)) (config : Config) :
    let result := ((resolve config tree.object).outcome store).1
    let fits := tree.nest ≤ config.limit ∧ ∀ part ∈ tree.parts, part.chain ≤ config.limit
    (result = .ok value ↔ fits) ∧ (¬fits → result = .error (.depthExceeded config.limit)) := by
  intro result fits
  have sound := reachable_sound reachable
  have idle := reachable_idle reachable
  have functional := graph_functional (within_refl store.graph)
  have contained : store.Contains tree.object := by
    obtain ⟨node, shown, _⟩ := DemandTree.untouched_top untouched
    exact Store.contains_of_shown shown
  have runs : Runs config (.chain config.limit [] tree.object result) store _ :=
    resolve_runs sound contained rfl
  have decided : Decides fits result := by
    have measured := runs_measure (graph_closed sound) (graph_fixed sound) runs
      (grounded_start sound contained) (by rw [idle]; exact Nat.zero_le _) tree rfl untouched
      (Nat.le_refl _)
    have same : tree.Fits config.limit store.activity.depth config.limit ↔ fits := by
      rw [idle]
      constructor
      · exact fun room => ⟨Nat.zero_add tree.nest ▸ room.nest, room.parts⟩
      · exact fun room =>
          ⟨(Nat.zero_add tree.nest).symm ▸ room.1, room.2 tree (DemandTree.self_part tree), room.2⟩
    rwa [same] at measured
  have overrun (failure : DataError) (guard : failure.ByGuard config.limit)
      (failed : result = .error failure) : failure = .depthExceeded config.limit := by
    rcases cyclic_or_overrun guard with cyclic | beyond
    · have reaches := cyclic_reaches_cycle sound idle contained (failed ▸ runs) cyclic
      exact absurd reaches (means_reaches_no_cycle functional means rfl)
    · cases failure with
      | depthExceeded limit => exact congrArg DataError.depthExceeded guard
      | _ => cases beyond
  rcases resolve_means sound contained (Prod.ext rfl rfl) with meant | ⟨failure, failed, guard⟩
  · have found : result = .ok value := means_unique functional means meant
    rw [found] at decided ⊢
    exact ⟨⟨fun _ => decided, fun _ => rfl⟩, fun without => absurd decided without⟩
  · have limited := overrun failure guard failed
    subst limited
    have without : ¬fits := by
      rw [show result = _ from failed] at decided
      exact decided trivial
    rw [show result = _ from failed]
    exact ⟨⟨nofun, fun room => absurd room without⟩, fun _ => rfl⟩

/-- An integer that stands for the sum of two and three, as the fourth object, and its sum
with two, as the fifth. -/
def Store.wrapped : Store :=
  let made := (Store.sum.instantiate Builtin.int.definition).2
  let integer := (Store.tryBind (fun store => store.bind ⟨3⟩ dataAttribute ⟨2⟩) made).2
  (run .default (Program.instantiateWith (.builtin .intAdd) operandAttribute
    [⟨3⟩, ⟨0⟩])).after integer

def wrappedTree : DemandTree :=
  .aggregate ⟨4⟩ [.datum ⟨3⟩ (.aggregate ⟨2⟩ [.leaf ⟨0⟩, .leaf ⟨1⟩]), .leaf ⟨0⟩]

theorem wrapped_reachable : Reachable False Store.wrapped := by
  have made := reachable_instantiate sum_reachable .int
  have known : (Store.sum.instantiate Builtin.int.definition).2.Contains ⟨2⟩ := by decide
  have bound := made.tail (operates_bind ⟨3⟩ dataAttribute known)
  exact bound.tail (.apply .intAdd (by decide))

theorem wrapped_untouched :
    DemandTree.Untouched Store.wrapped.graph Store.wrapped [wrappedTree] where
  shown := by
    have sum : Builtin.intAdd.role = .aggregate (.operator (.int .intAdd)) := rfl
    have integer : Builtin.int.role = .datum := rfl
    have outer : Store.wrapped.Holds ⟨4⟩ (.aggregate sum [⟨3⟩, ⟨0⟩] false none) := rfl
    have middle : Store.wrapped.Holds ⟨3⟩ (.datum integer (some ⟨2⟩)) := rfl
    have inner : Store.wrapped.Holds ⟨2⟩ (.aggregate sum [⟨0⟩, ⟨1⟩] false none) := rfl
    have two : Store.wrapped.Holds ⟨0⟩ (.leaf (.fixed (.int 2))) := rfl
    have three : Store.wrapped.Holds ⟨1⟩ (.leaf (.fixed (.int 3))) := rfl
    intro part member
    simp only [wrappedTree, DemandTree.partsAll, DemandTree.parts, List.append_nil,
      List.cons_append, List.nil_append, List.mem_cons, List.not_mem_nil, or_false] at member
    rcases member with rfl | rfl | rfl | rfl | rfl | rfl
    · exact ⟨_, ⟨_, outer, rfl⟩, rfl⟩
    · exact ⟨_, ⟨_, middle, rfl⟩, rfl⟩
    · exact ⟨_, ⟨_, inner, rfl⟩, rfl⟩
    · exact ⟨_, ⟨_, two, rfl⟩, trivial⟩
    · exact ⟨_, ⟨_, three, rfl⟩, trivial⟩
    · exact ⟨_, ⟨_, two, rfl⟩, trivial⟩
  once := by decide
  uncomputed := by
    intro object member result ⟨rule, kept⟩
    have among : object ∈ [(⟨4⟩ : ObjectId), ⟨3⟩, ⟨2⟩] := member
    simp only [List.mem_cons, List.not_mem_nil, or_false] at among
    rcases among with rfl | rfl | rfl <;> cases kept

/-- Two operators are nested and the integer starts a chain of two, so that two is enough
and one is not. -/
theorem wrapped_cut_at_one :
    Reachable False Store.wrapped ∧
      DemandTree.Untouched Store.wrapped.graph Store.wrapped [wrappedTree] ∧
      Means Store.wrapped.graph ⟨4⟩ (.ok (.int 7)) ∧
      ((resolve ⟨2, false⟩ ⟨4⟩).outcome Store.wrapped).1 = .ok (.int 7) ∧
      ((resolve ⟨1, false⟩ ⟨4⟩).outcome Store.wrapped).1 = .error (.depthExceeded 1) := by
  have means : Means Store.wrapped.graph ⟨4⟩ (.ok (.int 7)) := by
    have found : (resolve .default ⟨4⟩).outcome Store.wrapped = (.ok (.int 7), _) := rfl
    have contained : Store.wrapped.Contains ⟨4⟩ := by decide
    rcases resolve_means (reachable_sound wrapped_reachable) contained found
      with means | ⟨_, failed, _⟩
    · exact means
    · cases failed
  refine ⟨wrapped_reachable, wrapped_untouched, means, ?_, ?_⟩
  · exact (depth_boundary_is_exact wrapped_reachable wrapped_untouched means ⟨2, false⟩).1.mpr
      (by decide)
  · exact (depth_boundary_is_exact wrapped_reachable wrapped_untouched means ⟨1, false⟩).2
      (by decide)

end ObjectCalculus
