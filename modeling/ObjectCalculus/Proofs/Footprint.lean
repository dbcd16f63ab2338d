import ObjectCalculus.Proofs.Filing
import ObjectCalculus.Proofs.Ground
import ObjectCalculus.Proofs.Moments

/-!
# What a dataization touches

Whatever it ends with, a dataization changes no binding, leaves alone all objects that
are not reached from its own by demands, and adds only the leaves of results. Within the
items of one operator or array it goes no further than the first that fails.
-/

set_option autoImplicit false

namespace ObjectCalculus

open Effect Evaluation Relation

/-- No object has come to be of another definition, no attribute is bound otherwise and
no sequence has other items. -/
structure Store.KeepsBindings (before after : Store) : Prop where
  definition {object : ObjectId} {found : Instance} :
    before.instance? object = some found →
      ∃ now, after.instance? object = some now ∧ now.definition = found.definition
  free {object : ObjectId} {name : String} {cell : Memo ObjectId} :
    before.slot? object name = some (.free cell) →
      after.slot? object name = some (.free cell)
  variadic {object : ObjectId} {name : String} {items : List ObjectId} {isSealed : Bool} :
    before.slot? object name = some (.variadic items isSealed) →
      ∃ nowSealed, after.slot? object name = some (.variadic items nowSealed)

theorem extends_keeps_bindings {deferring : Prop} {before after : Store}
    (sound : before.Sound deferring) (extended : before.Extends after) :
    before.KeepsBindings after where
  definition composed := by
    obtain ⟨now, composedAfter, grown⟩ := extended.grows.instances composed
    exact ⟨now, composedAfter, grown.definition⟩
  free {object name cell} slot := by
    obtain ⟨content, holds, shown⟩ := content_of_slot sound slot
    obtain ⟨builtin, role, rfl, rfl⟩ := Content.slot_free shown
    obtain ⟨_, holdsAfter⟩ := Store.shown_datum (extended.graph object _ ⟨_, holds, rfl⟩)
    rw [Store.holds_slot holdsAfter]
    rfl
  variadic {object name items isSealed} slot := by
    obtain ⟨content, holds, shown⟩ := content_of_slot sound slot
    obtain ⟨builtin, form, role, cache, rfl, rfl⟩ := Content.slot_variadic shown
    obtain ⟨_, _, nowSealed, _, holdsAfter⟩ :=
      Store.shown_aggregate (extended.graph object _ ⟨_, holds, rfl⟩)
    exact ⟨nowSealed, slot_items holdsAfter⟩

def Act.Covers (graph : Graph) (other : ObjectId) : Act → Prop
  | .chain _ _ object _ => graph.Reaches object other
  | .compute object _ => graph.Reaches object other
  | .collect _ items _ => ∃ item ∈ items, graph.Reaches item other

section Spare

variable {deferring : Prop} {graph : Graph} {config : Config} {store after : Store}
  {other : ObjectId}

theorem covers_owner {object : ObjectId} {form : Aggregate} {items : List ObjectId}
    {found : Except DataError ObjectId} {collected : Except DataError (List Value)}
    (demands : ∀ item ∈ items, graph.Demands object item)
    (covers : (Act.collect form items collected).Covers graph other) :
    (Act.compute object found).Covers graph other := by
  obtain ⟨item, member, path⟩ := covers
  exact .head (demands item member) path

theorem covers_rest {form : Aggregate} {item : ObjectId} {rest : List ObjectId}
    {collected others : Except DataError (List Value)}
    (covers : (Act.collect form rest others).Covers graph other) :
    (Act.collect form (item :: rest) collected).Covers graph other := by
  obtain ⟨operand, member, path⟩ := covers
  exact ⟨operand, List.mem_cons_of_mem item member, path⟩

theorem runs_spare {act : Act} (closed : graph.Closed) (runs : Runs config act store after)
    (grounded : act.Grounded graph deferring store) (contained : store.Contains other)
    (outside : ¬act.Covers graph other) : after.object? other = store.object? other := by
  have stepped (object : ObjectId) (name : String) (store : Store) :
      (stepped config object name store).object? other = store.object? other :=
    Store.object_same (stepped_objects config object name store) other
  have steppedContains {store : Store} (contained : store.Contains other) (object : ObjectId)
      (name : String) : (Evaluation.stepped config object name store).Contains other :=
    contains_grows contained (stepped_extends config object name store).grows
  have entered {store : Store} {object : ObjectId} {builtin : Builtin} {form : Aggregate}
      {role : builtin.role = .aggregate form} {items : List ObjectId} {isSealed : Bool}
      (holds : store.Holds object (.aggregate role items isSealed none))
      (outside : ¬graph.Reaches object other) :
      (store.entered object form items).object? other = store.object? other := by
    rw [entered_puts holds, if_neg]
    rintro rfl
    exact outside .refl
  induction runs with
  | leaf | nil | revisited | exhausted | active | deep | kept => rfl
  | deferred held =>
      rw [Store.puts_leaf held, if_neg]
      rintro rfl
      exact outside .refl
  | unbound => exact stepped _ _ _
  | bound holds _ _ ih =>
      obtain ⟨demands, inside⟩ := grounded_bound closed grounded holds
      have rest := ih inside (steppedContains contained _ _)
        fun path => outside (.head demands path)
      exact rest.trans (stepped _ _ _)
  | failed _ _ _ ih | computed _ _ _ _ ih =>
      have computed := ih (grounded_compute _ grounded) (steppedContains contained _ _) outside
      exact computed.trans (stepped _ _ _)
  | cut holds _ _ ih | rejected holds _ _ _ ih =>
      obtain ⟨demands, inside⟩ := grounded_collect _ closed grounded holds
      have collected := ih inside (contains_grows contained (entered_extends holds).grows)
        fun covers => outside (covers_owner demands covers)
      exact collected.trans (entered holds outside)
  | @published object values value store inner builtin form role items isSealed holds _ run
      total waiting ih =>
      obtain ⟨demands, inside⟩ := grounded_collect _ closed grounded holds
      have there := contains_grows contained (entered_extends holds).grows
      have collected := ih inside there fun covers => outside (covers_owner demands covers)
      have old : other ≠ inner.nextId := by
        rintro rfl
        exact Nat.lt_irrefl _ (contains_grows there (runs_extend run).grows)
      have apart : other ≠ object := by
        rintro rfl
        exact outside .refl
      have concluded : (inner.concluded object form items.length value).object? other =
          inner.object? other := by
        rw [concluded_puts _ _ waiting, if_neg apart, filed_puts, if_neg old]
      exact concluded.trans (collected.trans (entered holds outside))
  | unresolved _ ih | refused _ _ ih =>
      exact ih (grounded_first _ grounded) contained
        fun path => outside ⟨_, List.mem_cons_self, path⟩
  | later first _ _ ihFirst ihOthers | cons first _ _ ihFirst ihOthers =>
      have start := ihFirst (grounded_first _ grounded) contained
        fun path => outside ⟨_, List.mem_cons_self, path⟩
      have others := ihOthers (grounded_rest _ grounded first)
        (contains_grows contained (runs_extend first).grows)
        fun covers => outside (covers_rest covers)
      exact others.trans start

end Spare

theorem each_fails {α γ : Type} {step : γ → Program α} {early : List γ} {values : List α}
    {item : γ} {config : Config} {store middle after : Store} {failure : DataError}
    (passed : (run config (Program.each step early)).outcome store = (.ok values, middle))
    (failed : (run config (step item)).outcome middle = (.error failure, after))
    (late : List γ) :
    (run config (Program.each step (early ++ item :: late))).outcome store =
      (.error failure, after) := by
  unfold run at passed failed ⊢
  induction early generalizing store values with
  | nil =>
      cases (run_done attributeOf config (.ok []) store).symm.trans passed
      rw [List.nil_append, Program.each, run_bind, outcome_bind_error failed]
  | cons first rest ih =>
      rw [Program.each, run_bind] at passed
      rw [List.cons_append, Program.each, run_bind]
      rcases ran : (runProgram attributeOf config (step first)).outcome store
        with ⟨result, next⟩
      cases result with
      | error refusal =>
          rw [outcome_bind_error ran] at passed
          cases passed
      | ok value =>
          rw [outcome_bind_ok ran, run_bind] at passed
          rw [outcome_bind_ok ran, run_bind]
          rcases others : (runProgram attributeOf config (Program.each step rest)).outcome next
            with ⟨result, last⟩
          cases result with
          | error refusal =>
              rw [outcome_bind_error others] at passed
              cases passed
          | ok values =>
              rw [outcome_bind_ok others] at passed
              cases (run_done attributeOf config (.ok (value :: values)) last).symm.trans passed
              exact outcome_bind_error (ih others) _

/-- Of the items of an operator or an array that keeps nothing, this is the first that
has no value, or one that is not accepted. -/
inductive Store.FailsAt (store : Store) (config : Config) (owner : ObjectId)
    (early : List ObjectId) (item : ObjectId) : Prop
  | intro {builtin : Builtin} {form : Aggregate} {role : builtin.role = .aggregate form}
      {late : List ObjectId} {isSealed : Bool} {values : List Value} {failure : DataError}
      {middle : Store}
      (holds : store.Holds owner (.aggregate role (early ++ item :: late) isSealed none))
      (passed : (run config (Program.each form.item early)).outcome
        (store.entered owner form (early ++ item :: late)) = (.ok values, middle))
      (failed : ((run config (form.item item)).outcome middle).1 = .error failure)

section Fails

variable {deferring : Prop} {config : Config} {store : Store} {owner item other : ObjectId}
  {early : List ObjectId}

/-- Trying some of the items touches only what is reached from them, and their owner. -/
theorem tried_spares {builtin : Builtin} {form : Aggregate}
    {role : builtin.role = .aggregate form} {items tried : List ObjectId} {isSealed : Bool}
    {result : Except DataError (List Value)} {last : Store} (sound : store.Sound deferring)
    (holds : store.Holds owner (.aggregate role items isSealed none))
    (among : ∀ item ∈ tried, item ∈ items)
    (ran : (run config (Program.each form.item tried)).outcome
      (store.entered owner form items) = (result, last))
    (contained : store.Contains other) (apart : other ≠ owner)
    (outside : ∀ item ∈ tried, ¬store.graph.Reaches item other) :
    last.object? other = store.object? other := by
  have closed := graph_closed sound
  have extended := entered_extends holds
  have demanded (item : ObjectId) (member : item ∈ tried) : store.graph.Demands owner item :=
    demands_of_holds holds (among item member)
  have there (item : ObjectId) (member : item ∈ tried) :
      (store.entered owner form items).Contains item :=
    contains_grows (sound.closed (demanded item member)) extended.grows
  have collected := collect_runs (computes config _) form (sound_entered sound holds) rfl there ran
  have grounded : (Act.collect form tried result).Grounded store.graph deferring
      (store.entered owner form items) :=
    ⟨sound_entered sound holds, extended.graph,
      fun item member => closed owner item (demanded item member)⟩
  have spared : last.object? other = (store.entered owner form items).object? other := by
    refine runs_spare closed collected grounded (contains_grows contained extended.grows) ?_
    rintro ⟨item, member, path⟩
    exact outside item member path
  rw [spared, entered_puts holds, if_neg apart]

/-- Nothing is touched but what is reached from the items up to the one that fails. -/
theorem failure_spares (sound : store.Sound deferring)
    (fails : store.FailsAt config owner early item) (contained : store.Contains other)
    (apart : other ≠ owner)
    (outside : ∀ tried ∈ early ++ [item], ¬store.graph.Reaches tried other) :
    ((attributeOf config owner valueAttribute).after store).object? other =
      store.object? other := by
  obtain @⟨builtin, form, role, late, isSealed, values, failure, middle, holds, passed,
    failed⟩ := fails
  by_cases marked : store.Marked owner
  · rw [Effect.after, runs_performed (.active holds marked)]
    rfl
  by_cases full : config.limit ≤ store.activity.depth
  · rw [Effect.after, runs_performed (.deep holds marked full)]
    rfl
  -- The items after the one that fails make no difference to what is run.
  have stops (late : List ObjectId) := each_fails passed (Prod.ext failed rfl) late
  have gathered := outcome_bind_error (rule_outcome holds (stops late))
    (publish owner valueAttribute)
  rw [Effect.after, admitted_outcome holds ⟨marked, Nat.lt_of_not_le full⟩ gathered]
  have among (tried : ObjectId) (member : tried ∈ early ++ [item]) :
      tried ∈ early ++ item :: late := List.IsPrefix.mem member ⟨late, by simp⟩
  have spared := tried_spares sound holds among (stops []) contained apart outside
  exact spared

end Fails

/-- A dataization, whatever it ends with, changes no binding and touches no object that
is not reached from its own. Whenever on the way an operator or an array is computed and
one of its items fails, nothing is touched that only later items reach. What is new are
leaves, one for each result that has come to be kept. -/
theorem footprint_is_exact {deferring : Prop} {store : Store} {object : ObjectId}
    (reachable : Reachable deferring store) (contained : store.Contains object)
    (config : Config) :
    let after := (resolve config object).after store
    store.KeepsBindings after ∧
      (∀ other, store.Contains other → ¬store.graph.Reaches object other →
        after.object? other = store.object? other) ∧
      (∀ stack current, Passes (.resolve config object) [] store stack current →
        ∀ owner early item, current.FailsAt config owner early item →
          ∀ other, current.Contains other → other ≠ owner →
            (∀ tried ∈ early ++ [item], ¬current.graph.Reaches tried other) →
              ((attributeOf config owner valueAttribute).after current).object? other =
                current.object? other) ∧
      store.Files after := by
  intro after
  have sound := reachable_sound reachable
  have runs : Runs config (.chain config.limit [] object _) store after :=
    resolve_runs sound contained rfl
  refine ⟨extends_keeps_bindings sound (runs_extend runs), ?_, ?_, runs_file runs⟩
  · intro other there outside
    exact runs_spare (graph_closed sound) runs (grounded_start sound contained) there outside
  · intro stack current passes owner early item fails other there apart outside
    have soundNow := passes_sound passes trivial sound
    exact failure_spares soundNow fails there apart outside

def Store.stalled : Store :=
  let first := (Store.empty.instantiate Builtin.int.definition).2
  let second := (first.addLeaf (.deferred
    (.ofProducer (.ofEntries (.ok (.int 3)) []) "…"))).2
  (run .default (Program.instantiateWith (.builtin .intAdd) operandAttribute
    [⟨0⟩, ⟨1⟩])).after second

theorem stalled_reachable : Reachable True Store.stalled := by
  have start : Reachable True .empty := .refl
  have operands := reachable_deferred (reachable_instantiate start .int)
    (.ofProducer (.ofEntries (.ok (.int 3)) []) "…")
  exact operands.tail (.apply .intAdd (by decide))

/-- The first operand fails, and the second is not asked for its value. -/
theorem stalled_spares_second :
    let computed := (attributeOf .default ⟨2⟩ valueAttribute).after Store.stalled
    Reachable True Store.stalled ∧ Store.stalled.Contains ⟨2⟩ ∧
      Store.stalled.FailsAt .default ⟨2⟩ [] ⟨0⟩ ∧
      computed.object? ⟨1⟩ = Store.stalled.object? ⟨1⟩ := by
  intro computed
  have contained : Store.stalled.Contains ⟨2⟩ := by decide
  have role : Builtin.intAdd.role = .aggregate (.operator (.int .intAdd)) := rfl
  have holds : Store.stalled.Holds ⟨2⟩ (.aggregate role [⟨0⟩, ⟨1⟩] false none) := rfl
  have failed : ((run .default (Aggregate.item (.operator (.int .intAdd)) ⟨0⟩)).outcome
      (Store.stalled.entered ⟨2⟩ (.operator (.int .intAdd)) [⟨0⟩, ⟨1⟩])).1 =
        .error (.unbound "int#1" "Δ") := rfl
  have fails : Store.stalled.FailsAt .default ⟨2⟩ [] ⟨0⟩ := ⟨holds, rfl, failed⟩
  have role : Builtin.int.role = .datum := rfl
  have unbound : Store.stalled.Holds ⟨0⟩ (.datum role none) := rfl
  have apart : ¬Store.stalled.graph.Reaches ⟨0⟩ ⟨1⟩ := by
    intro path
    rcases ReflTransGen.cases_head path with same | ⟨target, demands, _⟩
    · cases same
    · cases demands_content unbound demands
  have spares := (footprint_is_exact stalled_reachable contained .default).2.2.1 [] Store.stalled
    (.start _ _ _) ⟨2⟩ [] ⟨0⟩ fails ⟨1⟩ (by decide) (by decide)
    (fun tried member => List.mem_singleton.mp member ▸ apart)
  exact ⟨stalled_reachable, contained, fails, spares⟩

end ObjectCalculus
