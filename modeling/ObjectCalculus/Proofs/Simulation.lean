import ObjectCalculus.Proofs.Settled

/-!
# Evaluations are runs

In a sound store the evaluator does what runs do and nothing else: whatever it ends
with and whatever store it leaves, there is a run that does the same.
-/

set_option autoImplicit false

namespace ObjectCalculus

open Effect Evaluation

variable {deferring : Prop} {config : Config} {depth : Nat} {store after : Store}
  {object : ObjectId}

section Chain

variable {evaluate : Evaluator} {moves : Nat} {visited : List ObjectId}
  {result : Except DataError Value}

theorem leaf_runs {leaf : Leaf} (held : store.leaf? object = some leaf)
    (ran : (follow evaluate config moves visited object).outcome store = (result, after)) :
    Runs config (.chain moves visited object result) store after := by
  cases leaf with
  | fixed value =>
      rw [follow_fixed held] at ran
      cases ran
      exact .leaf held
  | deferred data =>
      rw [follow_deferred held] at ran
      cases ran
      exact .deferred held

theorem revisited_runs (composed : store.leaf? object = none) (seen : object ∈ visited)
    (ran : (follow evaluate config moves visited object).outcome store = (result, after)) :
    Runs config (.chain moves visited object result) store after := by
  rw [follow_revisited composed seen] at ran
  cases ran
  exact .revisited composed seen

/-- Operators and arrays are computed as runs say, at one depth. -/
def Computes (config : Config) (depth : Nat) : Prop :=
  ∀ {deferring : Prop} {store after : Store} {object : ObjectId}
    {result : Except DataError ObjectId} {builtin : Builtin} {form : Aggregate}
    {role : builtin.role = .aggregate form} {items : List ObjectId} {isSealed : Bool}
    {cache : Option ObjectId},
    store.Sound deferring → store.activity.depth = depth →
      store.Holds object (.aggregate role items isSealed cache) →
      (attributeOf config object valueAttribute).outcome store = (result, after) →
        Runs config (.compute object result) store after

theorem data_outcome (config : Config) {builtin : Builtin} {role : builtin.role = .datum}
    {binding : Option ObjectId} (holds : store.Holds object (.datum role binding)) :
    (attributeOf config object dataAttribute).outcome store =
      (match binding with
        | some target => .ok target
        | none => .error (.unbound (builtin.name ++ object.text) dataAttribute), store) := by
  have slot : store.slot? object dataAttribute = some (.free ⟨binding⟩) := by
    rw [Store.holds_slot holds, Content.slot?, if_pos rfl]
  rw [attribute_of_unfold]
  cases binding with
  | some target => exact attribute_bound slot rfl
  | none =>
      rw [attribute_unbound slot rfl, Store.holds_label holds]
      rfl

/-- A chain that reaches an operator or an array computes it and ends with the leaf it
keeps. -/
theorem aggregate_runs {builtin : Builtin} {form : Aggregate}
    {role : builtin.role = .aggregate form} {items : List ObjectId} {isSealed : Bool}
    {cache : Option ObjectId} (computes : Computes config depth) (sound : store.Sound deferring)
    (deep : store.activity.depth = depth) (composed : store.leaf? object = none)
    (fresh : object ∉ visited) (holds : store.Holds object (.aggregate role items isSealed cache))
    (ran : (follow attributeOf config (moves + 1) visited object).outcome store =
      (result, after)) :
    Runs config (.chain (moves + 1) visited object result) store after := by
  have same := stepped_objects config object valueAttribute store
  have stillDeep := activity_invariance.keeps_stepped config object valueAttribute store
  rw [follow_step composed fresh (Store.way_aggregate holds)] at ran
  rcases demanded : (attributeOf config object valueAttribute).outcome
    (stepped config object valueAttribute store) with ⟨found, middle⟩
  have inside := computes (sound_same sound same) (by rw [stillDeep, deep])
    ((Store.holds_same same).mpr holds) demanded
  cases found with
  | error failure =>
      rw [outcome_bind_error demanded] at ran
      cases ran
      exact .failed holds fresh inside
  | ok next =>
      rw [outcome_bind_ok demanded] at ran
      obtain ⟨_, value, kept, _⟩ := runs_settle inside (sound_same sound same)
      rw [follow_fixed kept] at ran
      cases ran
      exact .computed holds fresh inside kept

theorem follow_runs (computes : Computes config depth) (sound : store.Sound deferring)
    (deep : store.activity.depth = depth) (contained : store.Contains object)
    (ran : (follow attributeOf config moves visited object).outcome store = (result, after)) :
    Runs config (.chain moves visited object result) store after := by
  induction moves generalizing visited object store with
  | zero =>
      cases held : store.leaf? object with
      | some leaf => exact leaf_runs held ran
      | none =>
          by_cases seen : object ∈ visited
          · exact revisited_runs held seen ran
          · rw [follow_exhausted held seen] at ran
            cases ran
            exact .exhausted held seen
  | succ moves ih =>
      cases composed : store.leaf? object with
      | some leaf => exact leaf_runs composed ran
      | none =>
          by_cases seen : object ∈ visited
          · exact revisited_runs composed seen ran
          obtain ⟨found, held⟩ := Store.object_of_contains contained
          obtain ⟨content, holds⟩ := sound.built held
          cases content with
          | leaf data =>
              rw [Store.holds_leaf.mp holds] at composed
              cases composed
          | @datum builtin role binding =>
              have same := stepped_objects config object dataAttribute store
              have demanded := data_outcome config
                ((Store.holds_same same).mpr holds)
              rw [follow_step composed seen (Store.way_datum holds)] at ran
              cases binding with
              | none =>
                  rw [outcome_bind_error demanded] at ran
                  cases ran
                  exact .unbound holds seen
              | some target =>
                  rw [outcome_bind_ok demanded] at ran
                  have wanted : store.graph.Demands object target :=
                    demands_of_holds holds (by simp [Content.node, Node.targets])
                  have there : (stepped config object dataAttribute store).Contains target :=
                    contains_grows (sound.closed wanted)
                      (stepped_extends config object dataAttribute store).grows
                  have stillDeep := activity_invariance.keeps_stepped config object
                    dataAttribute store
                  exact .bound holds seen (ih (sound_same sound same) (by rw [stillDeep, deep])
                    there ran)
          | aggregate role items isSealed cache =>
              exact aggregate_runs computes sound deep composed seen holds ran

end Chain

theorem check_outcome (fold : Fold.Any) (value : Value) (store : Store) :
    (runProgram attributeOf config (Program.checkKind fold.kind value)).outcome store =
      ((Aggregate.operator fold).accept value, store) := by
  by_cases same : value.kind = fold.kind
  · have accepted : (Aggregate.operator fold).accept value = .ok value := by
      simp [Aggregate.accept, Aggregate.refusal, same]
    rw [Program.checkKind, if_pos same, accepted]
    exact run_done attributeOf config (.ok value) store
  · have refused : (Aggregate.operator fold).accept value =
        .error (.typeMismatch fold.kind value.kind) := by
      simp [Aggregate.accept, Aggregate.refusal, same]
    rw [Program.checkKind, if_neg same, refused]
    exact run_done attributeOf config (.error _) store

theorem item_outcome (form : Aggregate) (item : ObjectId) {resolved : Except DataError Value}
    {middle : Store} (ran : (resolve config item).outcome store = (resolved, middle)) :
    (runProgram attributeOf config (form.item item)).outcome store =
      (resolved.bind form.accept, middle) := by
  have asked : (runProgram attributeOf config (Program.resolve item)).outcome store =
      (resolved, middle) :=
    (run_ask attributeOf config (.resolve .running item) store).trans ran
  cases form with
  | array =>
      rw [Aggregate.item, asked]
      cases resolved <;> rfl
  | operator fold =>
      rw [Aggregate.item, Program.dataize, run_bind]
      cases resolved with
      | error failure => exact outcome_bind_error asked _
      | ok value =>
          rw [outcome_bind_ok asked]
          exact check_outcome fold value middle

theorem each_accepted {form : Aggregate} {item : ObjectId} {rest : List ObjectId}
    {value : Value} {result : Except DataError (List Value)} {middle : Store}
    (first : (resolve config item).outcome store = (.ok value, middle))
    (accepted : form.refusal value = none)
    (others : (runProgram attributeOf config (Program.each form.item rest)).outcome middle =
      (result, after)) :
    (runProgram attributeOf config (Program.each form.item (item :: rest))).outcome store =
      (result.map (value :: ·), after) := by
  have taken := (item_outcome form item first).trans
    (congrArg (·, middle) (accept_accepted accepted))
  rw [Program.each, run_bind, outcome_bind_ok taken, run_bind]
  cases result with
  | error failure => exact outcome_bind_error others _
  | ok values =>
      rw [outcome_bind_ok others]
      exact run_done attributeOf config (.ok (value :: values)) after

theorem each_stopped {form : Aggregate} {item : ObjectId} {failure : DataError}
    {found : Except DataError Value} (rest : List ObjectId)
    (first : (resolve config item).outcome store = (found, after))
    (stops : found.bind form.accept = .error failure) :
    (runProgram attributeOf config (Program.each form.item (item :: rest))).outcome store =
      (.error failure, after) := by
  have taken := (item_outcome form item first).trans (congrArg (·, after) stops)
  rw [Program.each, run_bind]
  exact outcome_bind_error taken _

theorem collect_runs (computes : Computes config depth) (form : Aggregate)
    {items : List ObjectId} {result : Except DataError (List Value)} (sound : store.Sound deferring)
    (deep : store.activity.depth = depth) (contained : ∀ item ∈ items, store.Contains item)
    (ran : (runProgram attributeOf config (Program.each form.item items)).outcome store =
      (result, after)) :
    Runs config (.collect form items result) store after := by
  induction items generalizing store after result with
  | nil =>
      rw [Program.each] at ran
      cases (run_done attributeOf config (.ok []) store).symm.trans ran
      exact .nil
  | cons item rest ih =>
      have there := contained item List.mem_cons_self
      rcases resolved : (resolve config item).outcome store with ⟨found, middle⟩
      have first := follow_runs computes sound deep there resolved
      cases found with
      | error failure =>
          cases (each_stopped rest resolved rfl).symm.trans ran
          exact .unresolved first
      | ok value =>
          cases refusal : form.refusal value with
          | some failure =>
              cases (each_stopped rest resolved (accept_refused refusal)).symm.trans ran
              exact .refused first refusal
          | none =>
              have middleSound := (runs_settle first sound).1
              have middleDeep : middle.activity.depth = depth := by
                rw [runs_activity first, deep]
              have remaining (other : ObjectId) (member : other ∈ rest) :
                  middle.Contains other :=
                contains_grows (contained other (List.mem_cons_of_mem item member))
                  (runs_extend first).grows
              rcases collected : (runProgram attributeOf config
                (Program.each form.item rest)).outcome middle with ⟨others, final⟩
              have later := ih middleSound middleDeep remaining collected
              cases (each_accepted resolved refusal collected).symm.trans ran
              cases others with
              | error failure => exact .later first refusal later
              | ok values => exact .cons first refusal later

section Compute

variable {builtin : Builtin} {form : Aggregate} {role : builtin.role = .aggregate form}
  {items : List ObjectId} {isSealed : Bool} {cache : Option ObjectId} {values : List Value}

theorem sequence_outcome (holds : store.Holds object (.aggregate role items isSealed cache)) :
    (runProgram attributeOf config (Program.sequence object form.parameter)).outcome
        (store.mark ⟨object, valueAttribute⟩) =
      (.ok items, store.entered object form items) := by
  have slot : (store.mark ⟨object, valueAttribute⟩).slot? object form.parameter =
      some (.variadic items isSealed) := slot_items holds
  refine (run_ask attributeOf config (.sequence object form.parameter) _).trans ?_
  change Store.sequence _ _ _ = _
  simp only [Store.sequence, slot]
  rfl

theorem conclude_rejected {failure : DataError} (object : ObjectId) (count : Nat)
    (store : Store) (total : form.total values = .error failure) :
    (runProgram attributeOf config (form.conclude object count values)).outcome store =
      (.error failure, store) := by
  rw [Aggregate.conclude, total]
  exact run_done attributeOf config (.error failure) store

theorem conclude_filed {value : Value} (object : ObjectId) (count : Nat) (store : Store)
    (total : form.total values = .ok value) :
    (runProgram attributeOf config (form.conclude object count values)).outcome store =
      (.ok store.nextId, store.filed object form count value) := by
  have reported : (runProgram attributeOf config (form.report object count)).outcome store =
      (.ok (), store.noted object count form) := by
    cases form with
    | array => exact run_done attributeOf config (.ok ()) store
    | operator fold =>
        exact run_ask attributeOf config (.report object (.reduced fold.operation count)) store
  have same : (store.noted object count form).nextId = store.nextId := by
    cases form <;> rfl
  rw [Aggregate.conclude, total]
  refine (run_bind attributeOf config _ _ store).trans ?_
  rw [outcome_bind_ok reported, ← same]
  exact run_ask attributeOf config (.leaf value) _

theorem rule_outcome (holds : store.Holds object (.aggregate role items isSealed cache))
    {collected : Except DataError (List Value)} {inner : Store}
    (ran : (runProgram attributeOf config (Program.each form.item items)).outcome
      (store.entered object form items) = (collected, inner)) :
    (runProgram attributeOf config (form.rule object)).outcome
        (store.mark ⟨object, valueAttribute⟩) =
      match collected with
      | .error failure => (.error failure, inner)
      | .ok values =>
          (runProgram attributeOf config
            (form.conclude object items.length values)).outcome inner := by
  rw [rule_eq_gather, Aggregate.gather, run_bind, outcome_bind_ok (sequence_outcome holds),
    run_bind]
  cases collected with
  | error failure => exact outcome_bind_error ran _
  | ok values => exact outcome_bind_ok ran _

theorem publish_outcome (count : Nat) (value : Value)
    (waiting : store.Holds object (.aggregate role items isSealed none)) :
    (publish object valueAttribute store.nextId).outcome
        (store.filed object form count value) =
      (.ok store.nextId, store.concluded object form count value) := by
  have slot := slot_value (filed_holds form count value waiting)
  unfold publish
  rw [outcome_update]
  simp only [slot, Memo.getOrSet]
  rfl

theorem still_waiting (holds : store.Holds object (.aggregate role items isSealed none))
    {inner : Store} (locked : (store.entered object form items).Locks inner)
    (grows : (store.entered object form items).Grows inner) :
    inner.Holds object (.aggregate role items true none) := by
  have entered := Store.holds_put (entered_puts holds)
  obtain ⟨more, sealed, _⟩ := sealed_grows grows entered
  have marked : ⟨object, valueAttribute⟩ ∈
      (store.entered object form items).activity.markers := List.mem_cons_self
  have kept := locked.slots marked (slot_value entered)
  rw [slot_value sealed] at kept
  cases kept
  exact sealed

/-- The body of a computation, run with its attribute marked: the items are collected
one level deeper, totalled, and what they give is kept. -/
theorem body_runs (inner : Computes config (depth + 1)) (sound : store.Sound deferring)
    (deep : store.activity.depth = depth) (admitted : store.Admits config object)
    (holds : store.Holds object (.aggregate role items isSealed none))
    {result : Except DataError ObjectId} {last : Store}
    (ran : (runProgram attributeOf config (form.rule object) >>=
      publish object valueAttribute).outcome (store.mark ⟨object, valueAttribute⟩) =
        (result, last)) :
    Runs config (.compute object result) store (last.unmark ⟨object, valueAttribute⟩) := by
  rcases collected : (runProgram attributeOf config
    (Program.each form.item items)).outcome (store.entered object form items)
    with ⟨found, middle⟩
  have gathered := rule_outcome holds collected
  have entered := entered_extends holds
  have there (item : ObjectId) (member : item ∈ items) :
      (store.entered object form items).Contains item :=
    contains_grows (sound.closed (demands_of_holds holds member)) entered.grows
  have enteredDeep : (store.entered object form items).activity.depth = depth + 1 :=
    congrArg Nat.succ deep
  have inside := collect_runs inner form (sound_entered sound holds) enteredDeep there collected
  cases found with
  | error failure =>
      rw [outcome_bind_error gathered] at ran
      cases ran
      exact .cut holds admitted inside
  | ok values =>
      cases total : form.total values with
      | error failure =>
          rw [outcome_bind_error (gathered.trans (conclude_rejected _ _ _ total))] at ran
          cases ran
          exact .rejected holds admitted inside total
      | ok value =>
          have locked := locks_invariance.keeps_run locks_invariance.keeps_attribute_of
            config (Program.each form.item items) (store.entered object form items)
          rw [Effect.after, collected] at locked
          have waiting := still_waiting holds locked (runs_extend inside).grows
          rw [outcome_bind_ok (gathered.trans (conclude_filed _ _ _ total)),
            publish_outcome _ _ waiting] at ran
          cases ran
          exact .published holds admitted inside total waiting

theorem compute_runs (deeper : depth < config.limit → Computes config (depth + 1)) :
    Computes config depth := by
  intro deferring store after object result builtin form role items isSealed cache sound deep
    holds ran
  rw [attribute_of_unfold, attribute_composite (slot_value holds)] at ran
  by_cases marked : ⟨object, valueAttribute⟩ ∈ store.activity.markers
  · rw [guarded_cyclic marked] at ran
    cases ran
    exact .active holds marked
  by_cases full : config.limit ≤ store.activity.depth
  · rw [guarded_deep marked full] at ran
    cases ran
    exact .deep holds marked full
  have room := Nat.lt_of_not_le full
  rw [guarded_entered marked room] at ran
  cases cache with
  | some next =>
      rw [composite_kept rfl] at ran
      cases ran
      exact .kept holds ⟨marked, room⟩
  | none =>
      rw [composite_computed rfl] at ran
      cases ran
      exact body_runs (deeper (deep ▸ room)) sound deep ⟨marked, room⟩ holds rfl

/-- Nothing is computed at or beyond the limit, and below it one level deeper at a
time. -/
theorem computes (config : Config) (depth : Nat) : Computes config depth := by
  induction room : config.limit - depth generalizing depth with
  | zero =>
      apply compute_runs
      intro below
      omega
  | succ room ih =>
      apply compute_runs
      intro below
      exact ih (depth + 1) (by omega)

end Compute

theorem resolve_runs {result : Except DataError Value} (sound : store.Sound deferring)
    (contained : store.Contains object)
    (ran : (resolve config object).outcome store = (result, after)) :
    Runs config (.chain config.limit [] object result) store after :=
  follow_runs (computes config store.activity.depth) sound rfl contained ran

def Act.Performed (config : Config) (store after : Store) : Act → Prop
  | .chain moves visited object result =>
      (follow attributeOf config moves visited object).outcome store = (result, after)
  | .compute object result =>
      (attributeOf config object valueAttribute).outcome store = (result, after)
  | .collect form items result =>
      (runProgram attributeOf config (Program.each form.item items)).outcome store =
        (result, after)

section Performed

theorem admitted_outcome {builtin : Builtin} {form : Aggregate}
    {role : builtin.role = .aggregate form} {items : List ObjectId} {isSealed : Bool}
    {cache : Option ObjectId} {result : Except DataError ObjectId}
    (holds : store.Holds object (.aggregate role items isSealed cache))
    (admitted : store.Admits config object)
    (inside : (composite attributeOf config object valueAttribute form.rule
      (some ⟨cache⟩)).outcome (store.mark ⟨object, valueAttribute⟩) = (result, after)) :
    (attributeOf config object valueAttribute).outcome store =
      (result, after.unmark ⟨object, valueAttribute⟩) := by
  rw [attribute_of_unfold, attribute_composite (slot_value holds),
    guarded_entered admitted.idle admitted.room, Effect.after, inside]

theorem runs_performed {act : Act} (runs : Runs config act store after) :
    act.Performed config store after := by
  induction runs with
  | leaf held => exact follow_fixed held
  | deferred held => exact follow_deferred held
  | revisited composed seen => exact follow_revisited composed seen
  | exhausted composed fresh => exact follow_exhausted composed fresh
  | @unbound moves visited object store builtin role holds fresh =>
      have same := stepped_objects config object dataAttribute store
      have demanded := data_outcome config ((Store.holds_same same).mpr holds)
      exact (follow_step (Store.leaf_none_of_datum holds) fresh (Store.way_datum holds)).trans
        (outcome_bind_error demanded _)
  | @bound moves visited object target result store after builtin role holds fresh _ ih =>
      have same := stepped_objects config object dataAttribute store
      have demanded := data_outcome config ((Store.holds_same same).mpr holds)
      exact (follow_step (Store.leaf_none_of_datum holds) fresh (Store.way_datum holds)).trans
        ((outcome_bind_ok demanded _).trans ih)
  | failed holds fresh _ ih =>
      exact (follow_step (Store.leaf_none_of_aggregate holds) fresh
        (Store.way_aggregate holds)).trans (outcome_bind_error ih _)
  | computed holds fresh _ held ih =>
      exact (follow_step (Store.leaf_none_of_aggregate holds) fresh
        (Store.way_aggregate holds)).trans ((outcome_bind_ok ih _).trans (follow_fixed held))
  | active holds marked =>
      rw [Act.Performed, attribute_of_unfold, attribute_composite (slot_value holds)]
      exact guarded_cyclic marked
  | deep holds idle full =>
      rw [Act.Performed, attribute_of_unfold, attribute_composite (slot_value holds)]
      exact guarded_deep idle full
  | kept holds admitted =>
      refine admitted_outcome holds admitted ?_
      rw [composite_kept rfl]
      rfl
  | @cut object failure store inner builtin form role items isSealed holds admitted _ ih =>
      refine admitted_outcome holds admitted ?_
      rw [composite_computed rfl]
      exact outcome_bind_error (rule_outcome holds ih) _
  | rejected holds admitted _ total ih =>
      refine admitted_outcome holds admitted ?_
      rw [composite_computed rfl]
      exact outcome_bind_error ((rule_outcome holds ih).trans (conclude_rejected _ _ _ total)) _
  | published holds admitted _ total waiting ih =>
      refine admitted_outcome holds admitted ?_
      rw [composite_computed rfl]
      exact (outcome_bind_ok ((rule_outcome holds ih).trans (conclude_filed _ _ _ total)) _).trans
        (publish_outcome _ _ waiting)
  | nil => exact run_done attributeOf config (.ok []) _
  | unresolved _ ih => exact each_stopped _ ih rfl
  | refused _ refusal ih => exact each_stopped _ ih (accept_refused refusal)
  | later _ accepted _ first others => exact each_accepted first accepted others
  | cons _ accepted _ first others => exact each_accepted first accepted others

theorem runs_lock {act : Act} (runs : Runs config act store after) : store.Locks after := by
  have performed := runs_performed runs
  have demanded := locks_invariance.keeps_attribute_of
  have arrived {α : Type} {effect : Effect α} {result : Except DataError α}
      (ran : effect.outcome store = (result, after)) : effect.after store = after := by
    rw [Effect.after, ran]
  cases act with
  | chain moves visited object result =>
      exact arrived performed ▸
        locks_invariance.keeps_follow demanded config moves visited object store
  | compute object result => exact arrived performed ▸ demanded config object _ store
  | collect form items result =>
      exact arrived performed ▸ locks_invariance.keeps_run demanded config _ store

end Performed

end ObjectCalculus
