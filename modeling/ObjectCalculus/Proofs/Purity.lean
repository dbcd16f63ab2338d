import ObjectCalculus.Proofs.Cycles
import ObjectCalculus.Proofs.Footprint
import ObjectCalculus.Proofs.Permanence

/-!
# Dataizations one after another

What a dataization leaves behind makes no difference to those that follow, except that
they may get by with less depth. A run in one store is followed in another that has the
same bindings and keeps at least as many results: where the other store keeps a result
that the first one is still to compute, the first one finds the same value, for nothing
but the limit could stop it.
-/

set_option autoImplicit false

namespace ObjectCalculus

open Effect Evaluation Relation

/-- Both stores show the graph, and what keeps a result in the left one keeps one in the
right one. -/
structure Twins (graph : Graph) (left right : Store) : Prop where
  activity : right.activity = left.activity
  sound : right.Sound False
  within : graph.Within right.graph
  name {object : ObjectId} {node : Node} : graph object node →
    right.name object = left.name object
  keeps {object result : ObjectId} {node : Node} : graph object node →
    left.Keeps object result → ∃ other, right.Keeps object other

section Twins

variable {graph : Graph} {config : Config} {left right leftAfter rightAfter : Store}
  {object : ObjectId}

theorem object_of_shown {store : Store} {node : Node} (within : graph.Within store.graph)
    (shown : graph object node) : ∃ found, store.object? object = some found := by
  obtain ⟨content, holds, _⟩ := within object node shown
  exact ⟨content.object, holds⟩

theorem twins_label {node : Node} (twins : Twins graph left right)
    (shown : graph object node) : right.label object = left.label object := by
  unfold Store.label
  rw [twins.name shown]

theorem twins_extend (twins : Twins graph left right) (within : graph.Within left.graph)
    (leftGrows : left.Grows leftAfter) (rightExtends : right.Extends rightAfter)
    (activity : rightAfter.activity = leftAfter.activity) (sound : rightAfter.Sound False)
    (keeps : ∀ {object result : ObjectId} {node : Node}, graph object node →
      leftAfter.Keeps object result → ∃ other, rightAfter.Keeps object other) :
    Twins graph leftAfter rightAfter where
  activity := activity
  sound := sound
  within := within_trans twins.within rightExtends.graph
  name shown := by
    obtain ⟨_, heldLeft⟩ := object_of_shown within shown
    obtain ⟨_, heldRight⟩ := object_of_shown twins.within shown
    rw [name_grows rightExtends.grows heldRight, name_grows leftGrows heldLeft,
      twins.name shown]
  keeps := keeps

theorem twins_same (twins : Twins graph left right) (within : graph.Within left.graph)
    (leftSame : leftAfter.objects = left.objects) (rightSame : rightAfter.objects = right.objects)
    (activity : rightAfter.activity = leftAfter.activity) : Twins graph leftAfter rightAfter := by
  refine twins_extend twins within (store_grows_same leftSame) (extends_same rightSame) activity
    (sound_same twins.sound rightSame) ?_
  intro object result node shown keeps
  obtain ⟨other, kept⟩ := twins.keeps shown
    ((keeps_same (Store.object_same leftSame object)).mp keeps)
  exact ⟨other, (keeps_same (Store.object_same rightSame object)).mpr kept⟩

theorem twins_stepped (twins : Twins graph left right) (within : graph.Within left.graph)
    (config : Config) (object : ObjectId) (name : String) :
    Twins graph (stepped config object name left) (stepped config object name right) := by
  refine twins_same twins within (stepped_objects _ _ _ _) (stepped_objects _ _ _ _) ?_
  have rightSame := activity_invariance.keeps_stepped config object name right
  have leftSame := activity_invariance.keeps_stepped config object name left
  exact rightSame.trans (twins.activity.trans leftSame.symm)

theorem twins_marked (twins : Twins graph left right) (object : ObjectId) :
    right.Marked object ↔ left.Marked object :=
  marked_same twins.activity object

theorem twins_admits (twins : Twins graph left right) (admitted : left.Admits config object) :
    right.Admits config object where
  idle marked := admitted.idle ((twins_marked twins object).mp marked)
  room := by
    rw [twins.activity]
    exact admitted.room

section Aggregate

variable {leftBuiltin rightBuiltin : Builtin} {form : Aggregate}
  {leftRole : leftBuiltin.role = .aggregate form}
  {rightRole : rightBuiltin.role = .aggregate form} {items : List ObjectId}
  {leftSealed rightSealed : Bool}

theorem twins_aggregate {cache : Option ObjectId} (twins : Twins graph left right)
    (within : graph.Within left.graph) (present : ∃ node, graph object node)
    (holds : left.Holds object (.aggregate leftRole items leftSealed cache)) :
    ∃ (builtin : Builtin) (role : builtin.role = .aggregate form) (isSealed : Bool)
      (rightCache : Option ObjectId),
      right.Holds object (.aggregate role items isSealed rightCache) ∧
        (cache.isSome → rightCache.isSome) := by
  have shown := shown_within within holds present
  obtain ⟨builtin, role, isSealed, rightCache, holdsRight⟩ :=
    Store.shown_aggregate (twins.within _ _ shown)
  refine ⟨builtin, role, isSealed, rightCache, holdsRight, ?_⟩
  intro computed
  obtain ⟨result, rfl⟩ := Option.isSome_iff_exists.mp computed
  obtain ⟨other, keeps⟩ := twins.keeps shown ((keeps_of_holds holds).mpr rfl)
  exact Option.isSome_iff_exists.mpr ⟨other, (keeps_of_holds holdsRight).mp keeps⟩

theorem twins_entered (twins : Twins graph left right) (within : graph.Within left.graph)
    (holdsLeft : left.Holds object (.aggregate leftRole items leftSealed none))
    (holdsRight : right.Holds object (.aggregate rightRole items rightSealed none)) :
    Twins graph (left.entered object form items) (right.entered object form items) := by
  have extended := entered_extends holdsRight
  refine twins_extend twins within (entered_extends holdsLeft).grows extended ?_
    (sound_entered twins.sound holdsRight) ?_
  · exact congrArg (fun activity : Activity =>
      (⟨⟨object, valueAttribute⟩ :: activity.markers, activity.depth + 1⟩ : Activity))
      twins.activity
  · intro other result node shown keeps
    obtain ⟨kept, found⟩ := twins.keeps shown (entered_keeps holdsLeft keeps)
    exact ⟨kept, keeps_grows extended.grows found⟩

end Aggregate

theorem twins_runs {leftAct rightAct : Act} (twins : Twins graph left right)
    (within : graph.Within left.graph) (leftRuns : Runs config leftAct left leftAfter)
    (rightRuns : Runs config rightAct right rightAfter)
    (keeps : ∀ {object result : ObjectId} {node : Node}, graph object node →
      leftAfter.Keeps object result → ∃ other, rightAfter.Keeps object other) :
    Twins graph leftAfter rightAfter := by
  refine twins_extend twins within (runs_extend leftRuns).grows (runs_extend rightRuns) ?_
    (runs_settle rightRuns twins.sound).1 keeps
  rw [runs_activity rightRuns, runs_activity leftRuns, twins.activity]

end Twins

namespace Act

/-- Everything marked reaches what the run starts with. -/
def Below (graph : Graph) (store : Store) : Act → Prop
  | .chain _ _ object _ => ∀ marked, store.Marked marked → graph.Reaches marked object
  | .compute object _ => ∀ marked, store.Marked marked → graph.Reaches marked object
  | .collect _ items _ =>
      ∀ item ∈ items, ∀ marked, store.Marked marked → graph.Reaches marked item

end Act

section Below

variable {graph : Graph} {config : Config} {store middle : Store} {object target : ObjectId}
  {moves : Nat} {visited : List ObjectId} {result : Except DataError Value}

theorem below_bound (below : (Act.chain (moves + 1) visited object result).Below graph store)
    (demands : graph.Demands object target) :
    (Act.chain moves (object :: visited) target result).Below graph
      (stepped config object dataAttribute store) := by
  intro marked known
  have same := activity_invariance.keeps_stepped config object dataAttribute store
  exact (below marked ((marked_same same marked).mp known)).tail demands

theorem below_compute (found : Except DataError ObjectId)
    (below : (Act.chain (moves + 1) visited object result).Below graph store) :
    (Act.compute object found).Below graph (stepped config object valueAttribute store) := by
  intro marked known
  have same := activity_invariance.keeps_stepped config object valueAttribute store
  exact below marked ((marked_same same marked).mp known)

theorem below_collect {found : Except DataError ObjectId} {form : Aggregate}
    {items : List ObjectId} (collected : Except DataError (List Value))
    (below : (Act.compute object found).Below graph store)
    (demands : ∀ item ∈ items, graph.Demands object item) :
    (Act.collect form items collected).Below graph (store.entered object form items) := by
  intro item member marked known
  rcases List.mem_cons.mp known with same | earlier
  · cases same
    exact .single (demands item member)
  · exact (below marked earlier).tail (demands item member)

theorem below_rest {form : Aggregate} {item : ObjectId} {rest : List ObjectId} {value : Value}
    {collected : Except DataError (List Value)} (others : Except DataError (List Value))
    (below : (Act.collect form (item :: rest) collected).Below graph store)
    (first : Runs config (.chain config.limit [] item (.ok value)) store middle) :
    (Act.collect form rest others).Below graph middle := by
  intro other member marked known
  exact below other (List.mem_cons_of_mem item member) marked
    ((marked_same (runs_activity first) marked).mp known)

end Below

section Kept

variable {graph : Graph} {config : Config} {left right after : Store} {object other : ObjectId}
  {value found : Value}

/-- Two stores that show the graph settle an object on the same value. -/
theorem settled_agree (closed : graph.Closed) (fixed : graph.Fixed)
    (leftWithin : graph.Within left.graph) (rightWithin : graph.Within right.graph)
    (present : ∃ node, graph object node) (leftSettled : left.Settled object value)
    (rightSettled : right.Settled object found) : found = value := by
  have leftMeans := settled_means leftWithin closed fixed leftSettled present
  have rightMeans := settled_means rightWithin closed fixed rightSettled present
  cases means_unique (graph_functional leftWithin) leftMeans rightMeans
  rfl

/-- An object that is settled elsewhere can only fail to be computed for its depth: it
means a value, and whatever is marked would reach itself by way of it. -/
theorem kept_fails_by_depth {failure : DataError} (closed : graph.Closed)
    (runs : Runs config (.compute object (.error failure)) left after)
    (grounded : (Act.compute object (.error failure)).Grounded graph False left)
    (below : (Act.compute object (.error failure)).Below graph left) (idle : ¬left.Marked object)
    (within : graph.Within right.graph) (settled : right.Settled object value) :
    failure.Overrun := by
  have fixed := grounded_fixed grounded
  have acyclic : ¬graph.ReachesCycle object := fun reaches =>
    settled_reaches_no_cycle settled (reaches_cycle_within within reaches)
  rcases runs_explained closed fixed runs grounded with guard | means
  · rcases cyclic_or_overrun guard with cyclic | overrun
    · rcases runs_blamed closed fixed runs grounded.sound grounded.within grounded.present cyclic
        with ⟨marked, path, known⟩ | reaches
      · rcases ReflTransGen.cases_head path with rfl | ⟨target, demands, rest⟩
        · exact absurd known idle
        · have back := rest.trans (below marked known)
          exact absurd (reaches_cycle_back demands back) acyclic
      · exact absurd reaches acyclic
    · exact overrun
  · have meansValue := settled_means within closed fixed settled grounded.present
    cases means_unique (graph_functional within) meansValue means

/-- What fails to be computed, though not for its depth, keeps nothing elsewhere. -/
theorem twins_uncomputed {failure : DataError} {builtin : Builtin} {form : Aggregate}
    {role : builtin.role = .aggregate form} {items : List ObjectId} {isSealed : Bool}
    (closed : graph.Closed) (twins : Twins graph left right)
    (runs : Runs config (.compute object (.error failure)) left after)
    (grounded : (Act.compute object (.error failure)).Grounded graph False left)
    (below : (Act.compute object (.error failure)).Below graph left) (idle : ¬left.Marked object)
    (holds : left.Holds object (.aggregate role items isSealed none)) (fits : ¬failure.Overrun) :
    ∃ (builtin : Builtin) (role : builtin.role = .aggregate form) (isSealed : Bool),
      right.Holds object (.aggregate role items isSealed none) := by
  obtain ⟨builtin, role, isSealed, cache, holdsRight, _⟩ :=
    twins_aggregate twins grounded.within grounded.present holds
  cases cache with
  | none => exact ⟨builtin, role, isSealed, holdsRight⟩
  | some result =>
      obtain ⟨value, _, settled⟩ := twins.sound.kept holdsRight
      exact absurd (kept_fails_by_depth closed runs grounded below idle twins.within settled) fits

/-- The leaves found in the two stores may differ, but not what they hold. -/
theorem twins_found {next result : ObjectId} {last : Store} (closed : graph.Closed)
    (twins : Twins graph left right) (runs : Runs config (.compute object (.ok next)) left after)
    (grounded : (Act.compute object (.ok next)).Grounded graph False left)
    (again : Runs config (.compute object (.ok result)) right last)
    (held : after.leaf? next = some (.fixed value)) : last.leaf? result = some (.fixed value) := by
  obtain ⟨_, _, heldLeft, settledLeft⟩ := runs_settle runs grounded.sound
  rw [held] at heldLeft
  cases heldLeft
  obtain ⟨_, found, heldRight, settledRight⟩ := runs_settle again twins.sound
  have withinLeft := within_trans grounded.within (runs_extend runs).graph
  have withinRight := within_trans twins.within (runs_extend again).graph
  cases settled_agree closed (grounded_fixed grounded) withinLeft withinRight grounded.present
    settledLeft settledRight
  exact heldRight

theorem settled_keeps {result : ObjectId} {node : Node}
    (within : graph.Within right.graph) (settled : right.Settled object value)
    (path : graph.Reaches object other) (shown : graph other node)
    (leftWithin : graph.Within left.graph) (keeps : left.Keeps other result) :
    ∃ kept, right.Keeps other kept := by
  obtain ⟨found, settledThere⟩ := settled_reaches settled (reaches_within within path)
  obtain ⟨content, holds, rfl⟩ := leftWithin other node shown
  have kept := (keeps_of_holds holds).mp keeps
  cases content with
  | leaf | datum => cases kept
  | aggregate role items isSealed cache =>
      obtain ⟨_, _, nowSealed, nowCache, holdsRight⟩ :=
        Store.shown_aggregate (within other _ shown)
      cases settledThere with
      | fixed held | produced held _ =>
          cases Store.holds_unique (Store.holds_leaf.mpr held) holdsRight
      | bound holdsBound _ => cases Store.holds_unique holdsBound holdsRight
      | aggregate holdsSettled _ _ _ =>
          exact ⟨_, (keeps_of_holds holdsSettled).mpr rfl⟩

theorem twins_published {leftAct rightAct : Act} {leftInner rightInner : Store}
    {leftBuiltin rightBuiltin : Builtin} {form : Aggregate}
    {leftRole : leftBuiltin.role = .aggregate form}
    {rightRole : rightBuiltin.role = .aggregate form} {items : List ObjectId} {count : Nat}
    (twins : Twins graph left right) (within : graph.Within left.graph)
    (leftRuns : Runs config leftAct left
      ((leftInner.concluded object form count value).unmark ⟨object, valueAttribute⟩))
    (rightRuns : Runs config rightAct right
      ((rightInner.concluded object form count value).unmark ⟨object, valueAttribute⟩))
    (inner : Twins graph leftInner rightInner)
    (leftWaiting : leftInner.Holds object (.aggregate leftRole items true none))
    (rightWaiting : rightInner.Holds object (.aggregate rightRole items true none)) :
    Twins graph
      ((leftInner.concluded object form count value).unmark ⟨object, valueAttribute⟩)
      ((rightInner.concluded object form count value).unmark ⟨object, valueAttribute⟩) := by
  refine twins_runs twins within leftRuns rightRuns ?_
  intro other result node shown keeps
  rcases concluded_keeps leftWaiting keeps with rfl | earlier
  · exact ⟨_, (concluded_comes_to_keep count value rightWaiting).keeps⟩
  · obtain ⟨kept, keepsRight⟩ := inner.keeps shown earlier
    have growing := (concluded_extends count value rightWaiting).grows
    exact ⟨kept, keeps_grows (store_grows_trans growing (unmark_grows _ _)) keepsRight⟩

theorem twins_spared {again : Act} {rightAfter : Store} {found : Except DataError ObjectId}
    (closed : graph.Closed) (twins : Twins graph left right)
    (runs : Runs config (.compute object found) left after)
    (grounded : (Act.compute object found).Grounded graph False left)
    (settled : right.Settled object value) (rightRuns : Runs config again right rightAfter) :
    Twins graph after rightAfter := by
  refine twins_runs twins grounded.within runs rightRuns ?_
  intro other result node shown keeps
  suffices already : ∃ kept, right.Keeps other kept by
    obtain ⟨kept, keepsRight⟩ := already
    exact ⟨kept, keeps_grows (runs_extend rightRuns).grows keepsRight⟩
  by_cases reached : graph.Reaches object other
  · have extended := within_trans grounded.within (runs_extend runs).graph
    exact settled_keeps twins.within settled reached shown extended keeps
  · obtain ⟨_, held⟩ := object_of_shown grounded.within shown
    have spared := runs_spare closed runs grounded (Store.contains_of_object held) reached
    exact twins.keeps shown ((keeps_same spared).mp keeps)

end Kept

namespace Act

/-- In the other store the act ends as it did in the one it left, unless that was for the
depth; if it found something, the two stores are alike again. -/
def Follows (config : Config) (graph : Graph) (after right : Store) : Act → Prop
  | .chain moves visited object (.ok value) =>
      ∃ last, Runs config (.chain moves visited object (.ok value)) right last ∧
        Twins graph after last
  | .chain moves visited object (.error failure) =>
      ¬failure.Overrun →
        ∃ last, Runs config (.chain moves visited object (.error failure)) right last
  | .compute object (.ok _) =>
      ∃ result last, Runs config (.compute object (.ok result)) right last ∧
        Twins graph after last
  | .compute object (.error failure) =>
      ¬failure.Overrun → ∃ last, Runs config (.compute object (.error failure)) right last
  | .collect form items (.ok values) =>
      ∃ last, Runs config (.collect form items (.ok values)) right last ∧
        Twins graph after last
  | .collect form items (.error failure) =>
      ¬failure.Overrun → ∃ last, Runs config (.collect form items (.error failure)) right last

end Act

section Follow

variable {graph : Graph} {config : Config} {left right after : Store}

theorem twins_collect {object : ObjectId} {found : Except DataError ObjectId}
    {leftBuiltin rightBuiltin : Builtin} {form : Aggregate}
    {leftRole : leftBuiltin.role = .aggregate form}
    {rightRole : rightBuiltin.role = .aggregate form} {items : List ObjectId}
    {leftSealed rightSealed : Bool} (collected : Except DataError (List Value))
    (closed : graph.Closed) (twins : Twins graph left right)
    (grounded : (Act.compute object found).Grounded graph False left)
    (below : (Act.compute object found).Below graph left)
    (holdsLeft : left.Holds object (.aggregate leftRole items leftSealed none))
    (holdsRight : right.Holds object (.aggregate rightRole items rightSealed none)) :
    (Act.collect form items collected).Grounded graph False (left.entered object form items) ∧
      (Act.collect form items collected).Below graph (left.entered object form items) ∧
      Twins graph (left.entered object form items) (right.entered object form items) := by
  obtain ⟨demands, inside⟩ := grounded_collect collected closed grounded holdsLeft
  exact ⟨inside, below_collect collected below demands,
    twins_entered twins grounded.within holdsLeft holdsRight⟩

theorem runs_follow {act : Act} (closed : graph.Closed) (runs : Runs config act left after)
    (grounded : act.Grounded graph False left) (below : act.Below graph left)
    (twins : Twins graph left right) : act.Follows config graph after right := by
  induction runs generalizing right with
  | leaf held =>
      have shown := shown_within grounded.within (Store.holds_leaf.mpr held) grounded.present
      exact ⟨right, .leaf (Store.shown_leaf (twins.within _ _ shown)), twins⟩
  | deferred held =>
      have shown := shown_within grounded.within (Store.holds_leaf.mpr held) grounded.present
      exact absurd shown (grounded_fixed grounded _)
  | revisited composed seen =>
      intro _
      obtain ⟨node, shown⟩ := grounded.present
      have here := composed_of_leaf_none grounded.within grounded.present composed
      rw [← twins_label twins shown]
      exact ⟨_, .revisited (leaf_none_of_composed twins.within here) seen⟩
  | exhausted | deep => exact fun fits => absurd trivial fits
  | unbound holds fresh =>
      intro _
      have shown := shown_within grounded.within holds grounded.present
      obtain ⟨role, holdsRight⟩ := Store.shown_datum (twins.within _ _ shown)
      exact ⟨_, .unbound holdsRight fresh⟩
  | @bound moves visited object target result store after builtin role holds fresh _ ih =>
      have shown := shown_within grounded.within holds grounded.present
      obtain ⟨role, holdsRight⟩ := Store.shown_datum (twins.within _ _ shown)
      obtain ⟨demands, inside⟩ := grounded_bound closed grounded holds
      have follows := ih inside (below_bound below demands)
        (twins_stepped twins grounded.within config object dataAttribute)
      cases result with
      | ok value =>
          obtain ⟨last, rest, alike⟩ := follows
          exact ⟨last, .bound holdsRight fresh rest, alike⟩
      | error failure =>
          intro fits
          obtain ⟨last, rest⟩ := follows fits
          exact ⟨last, .bound holdsRight fresh rest⟩
  | @failed moves visited object failure store after builtin form role items isSealed cache
      holds fresh _ ih =>
      intro fits
      obtain ⟨_, _, _, _, holdsRight, _⟩ :=
        twins_aggregate twins grounded.within grounded.present holds
      obtain ⟨last, inside⟩ := ih (grounded_compute _ grounded) (below_compute _ below)
        (twins_stepped twins grounded.within config object valueAttribute) fits
      exact ⟨last, .failed holdsRight fresh inside⟩
  | @computed moves visited object next value store after builtin form role items isSealed cache
      holds fresh inside held ih =>
      obtain ⟨_, _, _, _, holdsRight, _⟩ :=
        twins_aggregate twins grounded.within grounded.present holds
      have stepped := twins_stepped twins grounded.within config object valueAttribute
      obtain ⟨result, last, again, alike⟩ := ih (grounded_compute _ grounded)
        (below_compute _ below) stepped
      have heldRight := twins_found closed stepped inside (grounded_compute _ grounded) again held
      exact ⟨last, .computed holdsRight fresh again heldRight, alike⟩
  | @active object store builtin form role items isSealed cache holds marked =>
      intro _
      obtain ⟨_, _, _, _, holdsRight, _⟩ :=
        twins_aggregate twins grounded.within grounded.present holds
      rw [← twins_label twins (shown_within grounded.within holds grounded.present)]
      exact ⟨_, .active holdsRight ((twins_marked twins object).mpr marked)⟩
  | @kept object next store builtin form role items isSealed holds admitted =>
      obtain ⟨_, _, _, cache, holdsRight, computed⟩ :=
        twins_aggregate twins grounded.within grounded.present holds
      obtain ⟨other, rfl⟩ := Option.isSome_iff_exists.mp (computed rfl)
      refine ⟨other, _, .kept holdsRight (twins_admits twins admitted), ?_⟩
      refine twins_same twins grounded.within rfl rfl ?_
      exact congrArg (fun activity : Activity =>
        (⟨(⟨object, valueAttribute⟩ :: activity.markers).erase ⟨object, valueAttribute⟩,
          activity.depth + 1 - 1⟩ : Activity)) twins.activity
  | @cut object failure store inner builtin form role items isSealed holds admitted inside ih =>
      intro fits
      obtain ⟨_, _, _, holdsRight⟩ := twins_uncomputed closed twins (.cut holds admitted inside)
        grounded below admitted.idle holds fits
      obtain ⟨insideGrounded, insideBelow, entered⟩ :=
        twins_collect _ closed twins grounded below holds holdsRight
      obtain ⟨last, again⟩ := ih insideGrounded insideBelow entered fits
      exact ⟨_, .cut holdsRight (twins_admits twins admitted) again⟩
  | @rejected object values failure store inner builtin form role items isSealed holds admitted
      inside total ih =>
      intro fits
      obtain ⟨_, _, _, holdsRight⟩ := twins_uncomputed closed twins
        (.rejected holds admitted inside total) grounded below admitted.idle holds fits
      obtain ⟨insideGrounded, insideBelow, entered⟩ :=
        twins_collect _ closed twins grounded below holds holdsRight
      obtain ⟨last, again, _⟩ := ih insideGrounded insideBelow entered
      exact ⟨_, .rejected holdsRight (twins_admits twins admitted) again total⟩
  | @published object values value store inner builtin form role items isSealed holds admitted
      inside total waiting ih =>
      have published : Runs config _ store _ := .published holds admitted inside total waiting
      obtain ⟨_, _, _, cache, holdsRight, _⟩ :=
        twins_aggregate twins grounded.within grounded.present holds
      have admittedRight := twins_admits twins admitted
      cases cache with
      | some result =>
          obtain ⟨found, _, settled⟩ := twins.sound.kept holdsRight
          have kept : Runs config _ right _ := .kept holdsRight admittedRight
          exact ⟨result, _, kept, twins_spared closed twins published grounded settled kept⟩
      | none =>
          obtain ⟨insideGrounded, insideBelow, entered⟩ :=
            twins_collect _ closed twins grounded below holds holdsRight
          obtain ⟨last, again, alike⟩ := ih insideGrounded insideBelow entered
          have waitingRight := still_waiting holdsRight (runs_lock again) (runs_extend again).grows
          have publishedRight : Runs config _ right _ :=
            .published holdsRight admittedRight again total waitingRight
          exact ⟨_, _, publishedRight, twins_published twins grounded.within published
            publishedRight alike waiting waitingRight⟩
  | nil => exact ⟨right, .nil, twins⟩
  | @unresolved form item rest failure store after _ ih =>
      intro fits
      obtain ⟨last, first⟩ := ih (grounded_first _ grounded) (below item List.mem_cons_self)
        twins fits
      exact ⟨last, .unresolved first⟩
  | @refused form item rest value failure store after _ refusal ih =>
      intro _
      obtain ⟨last, first, _⟩ := ih (grounded_first _ grounded) (below item List.mem_cons_self)
        twins
      exact ⟨last, .refused first refusal⟩
  | @later form item rest value failure store middle after first accepted _ ihFirst ihOthers =>
      intro fits
      obtain ⟨last, again, alike⟩ := ihFirst (grounded_first _ grounded)
        (below item List.mem_cons_self) twins
      obtain ⟨final, others⟩ := ihOthers (grounded_rest _ grounded first)
        (below_rest _ below first) alike fits
      exact ⟨final, .later again accepted others⟩
  | @cons form item rest value values store middle after first accepted _ ihFirst ihOthers =>
      obtain ⟨last, again, alike⟩ := ihFirst (grounded_first _ grounded)
        (below item List.mem_cons_self) twins
      obtain ⟨final, others, alikeAfter⟩ := ihOthers (grounded_rest _ grounded first)
        (below_rest _ below first) alike
      exact ⟨final, .cons again accepted others, alikeAfter⟩

end Follow

theorem twins_after {config : Config} {act : Act} {store after : Store}
    (sound : store.Sound False) (runs : Runs config act store after) :
    Twins store.graph store after where
  activity := runs_activity runs
  sound := (runs_settle runs sound).1
  within := (runs_extend runs).graph
  name shown := by
    obtain ⟨_, held⟩ := object_of_shown (within_refl _) shown
    exact name_grows (runs_extend runs).grows held
  keeps _ keeps := ⟨_, keeps_grows (runs_extend runs).grows keeps⟩

theorem resolve_again {config : Config} {store : Store} {object other : ObjectId}
    (sound : store.Sound False) (idle : store.activity = .idle) (contained : store.Contains object)
    (there : store.Contains other)
    (fits : ∀ limit, ((resolve config other).outcome store).1 ≠ .error (.depthExceeded limit)) :
    ((resolve config other).outcome ((resolve config object).after store)).1 =
      ((resolve config other).outcome store).1 := by
  have earlier : Runs config _ store ((resolve config object).after store) :=
    resolve_runs sound contained rfl
  rcases ran : (resolve config other).outcome store with ⟨result, after⟩
  rw [ran] at fits
  have runs := resolve_runs sound there ran
  have below : (Act.chain config.limit [] other result).Below store.graph store := by
    intro marked known
    unfold Store.Marked at known
    rw [idle] at known
    cases known
  have follows := runs_follow (graph_closed sound) runs (grounded_start sound there) below
    (twins_after sound earlier)
  have again : ∃ last, Runs config (.chain config.limit [] other result)
      ((resolve config object).after store) last := by
    cases result with
    | ok value =>
        obtain ⟨last, again, _⟩ := follows
        exact ⟨last, again⟩
    | error failure =>
        apply follows
        intro overrun
        cases failure with
        | depthExceeded limit => exact fits limit rfl
        | _ => cases overrun
  obtain ⟨last, again⟩ := again
  have performed : (resolve config other).outcome ((resolve config object).after store) =
      (result, last) := runs_performed again
  rw [performed]

/-- A dataization, whatever it ends with, does not change the result of another that does
not exceed the limit without it. So two dataizations that do not exceed the limit have
the same results in either order. -/
theorem dataizations_are_pure {store : Store} {object other : ObjectId}
    (reachable : Reachable False store) (contained : store.Contains object)
    (there : store.Contains other) (config : Config) :
    let result := fun object store => ((resolve config object).outcome store).1
    let after := fun object => (resolve config object).after store
    let fits := fun object => ∀ limit, result object store ≠ .error (.depthExceeded limit)
    (fits other → result other (after object) = result other store) ∧
      (fits object → fits other →
        result other (after object) = result other store ∧
          result object (after other) = result object store) := by
  intro result after fits
  have sound := reachable_sound reachable
  have idle := reachable_idle reachable
  have second : fits other → result other (after object) = result other store :=
    resolve_again sound idle contained there
  have first : fits object → result object (after other) = result object store :=
    resolve_again sound idle there contained
  exact ⟨second, fun fitsFirst fitsSecond => ⟨second fitsSecond, first fitsFirst⟩⟩

/-- The sum of the third object, itself two and three, and two, as the fourth object. -/
def Store.nested : Store :=
  (run .default (Program.instantiateWith (.builtin .intAdd) operandAttribute
    [⟨2⟩, ⟨0⟩])).after Store.sum

/-- The inner sum, once computed, is taken from its cache. -/
theorem nested_sum_unchanged :
    let computed := (resolve .default ⟨2⟩).after Store.nested
    Reachable False Store.nested ∧ Store.nested.Contains ⟨2⟩ ∧ Store.nested.Contains ⟨3⟩ ∧
      ((resolve .default ⟨3⟩).outcome Store.nested).1 = .ok (.int 7) ∧
      ((resolve .default ⟨3⟩).outcome computed).1 = .ok (.int 7) := by
  intro computed
  have reachable : Reachable False Store.nested := sum_reachable.tail (.apply .intAdd (by decide))
  have contained : Store.nested.Contains ⟨2⟩ := by decide
  have there : Store.nested.Contains ⟨3⟩ := by decide
  have found : ((resolve .default ⟨3⟩).outcome Store.nested).1 = .ok (.int 7) := rfl
  have same := (dataizations_are_pure reachable contained there .default).1
    fun limit exceeded => by cases found.symm.trans exceeded
  exact ⟨reachable, contained, there, found, same.trans found⟩

end ObjectCalculus
