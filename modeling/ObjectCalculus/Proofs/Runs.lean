import ObjectCalculus.Proofs.Graph
import ObjectCalculus.Proofs.Growth

/-!
# Runs over built-in objects

An evaluation that only meets leaves and objects of built-in templates does one of
three things at a time: it follows a chain, computes the value of an operator or
an array, or collects the values of its items. Here is every way in which each of
these can go and when it goes that way, as a relation between the store before, what
it ends with and the store after. What is shown of all runs is shown by induction on
them.
-/

set_option autoImplicit false

namespace ObjectCalculus

open Evaluation

/-- Something that an evaluation does, with what it ends with. -/
inductive Act where
  | chain (moves : Nat) (visited : List ObjectId) (object : ObjectId)
      (result : Except DataError Value)
  | compute (object : ObjectId) (result : Except DataError ObjectId)
  | collect (form : Aggregate) (items : List ObjectId)
      (result : Except DataError (List Value))

namespace Store

def Marked (store : Store) (object : ObjectId) : Prop :=
  ⟨object, valueAttribute⟩ ∈ store.activity.markers

/-- Both guards let the object be computed. -/
structure Admits (store : Store) (config : Config) (object : ObjectId) : Prop where
  idle : ¬store.Marked object
  room : store.activity.depth < config.limit

def entered (store : Store) (object : ObjectId) (form : Aggregate)
    (items : List ObjectId) : Store :=
  (store.mark ⟨object, valueAttribute⟩).setSlot object form.parameter (.variadic items true)

def noted (store : Store) (object : ObjectId) (count : Nat) : Aggregate → Store
  | .operator fold =>
      store.record (eventOf (store.label object) (.reduced fold.operation count))
  | .array => store

/-- A new leaf for the value, which nothing keeps yet. -/
def filed (store : Store) (object : ObjectId) (form : Aggregate) (count : Nat)
    (value : Value) : Store :=
  ((store.noted object count form).addLeaf (.fixed value)).2

def concluded (store : Store) (object : ObjectId) (form : Aggregate) (count : Nat)
    (value : Value) : Store :=
  (store.filed object form count value).setSlot object valueAttribute
    (.composite form.rule (some ⟨some store.nextId⟩))

end Store

inductive Runs (config : Config) : Act → Store → Store → Prop
  | leaf {moves : Nat} {visited : List ObjectId} {object : ObjectId} {value : Value}
      {store : Store} (held : store.leaf? object = some (.fixed value)) :
      Runs config (.chain moves visited object (.ok value)) store store
  | deferred {moves : Nat} {visited : List ObjectId} {object : ObjectId}
      {data : Deferred Value} {store : Store}
      (held : store.leaf? object = some (.deferred data)) :
      Runs config (.chain moves visited object data.take.1) store
        (store.setLeaf object (.deferred data.take.2))
  | revisited {moves : Nat} {visited : List ObjectId} {object : ObjectId} {store : Store}
      (composed : store.leaf? object = none) (seen : object ∈ visited) :
      Runs config
        (.chain moves visited object
          (.error (.cyclicEvaluation (store.label object) valueAttribute)))
        store (store.record (.chainRevisits (store.label object)))
  | exhausted {visited : List ObjectId} {object : ObjectId} {store : Store}
      (composed : store.leaf? object = none) (fresh : object ∉ visited) :
      Runs config (.chain 0 visited object (.error (.depthExceeded config.limit))) store
        (store.record (.depthLimit config.limit))
  | unbound {moves : Nat} {visited : List ObjectId} {object : ObjectId} {store : Store}
      {builtin : Builtin} {role : builtin.role = .datum}
      (holds : store.Holds object (.datum role none)) (fresh : object ∉ visited) :
      Runs config
        (.chain (moves + 1) visited object
          (.error (.unbound (builtin.name ++ object.text) dataAttribute)))
        store (stepped config object dataAttribute store)
  | bound {moves : Nat} {visited : List ObjectId} {object target : ObjectId}
      {result : Except DataError Value} {store after : Store} {builtin : Builtin}
      {role : builtin.role = .datum} (holds : store.Holds object (.datum role (some target)))
      (fresh : object ∉ visited)
      (rest : Runs config (.chain moves (object :: visited) target result)
        (stepped config object dataAttribute store) after) :
      Runs config (.chain (moves + 1) visited object result) store after
  | failed {moves : Nat} {visited : List ObjectId} {object : ObjectId} {failure : DataError}
      {store after : Store} {builtin : Builtin} {form : Aggregate}
      {role : builtin.role = .aggregate form} {items : List ObjectId} {isSealed : Bool}
      {cache : Option ObjectId}
      (holds : store.Holds object (.aggregate role items isSealed cache))
      (fresh : object ∉ visited)
      (inside : Runs config (.compute object (.error failure))
        (stepped config object valueAttribute store) after) :
      Runs config (.chain (moves + 1) visited object (.error failure)) store after
  | computed {moves : Nat} {visited : List ObjectId} {object next : ObjectId} {value : Value}
      {store after : Store} {builtin : Builtin} {form : Aggregate}
      {role : builtin.role = .aggregate form} {items : List ObjectId} {isSealed : Bool}
      {cache : Option ObjectId}
      (holds : store.Holds object (.aggregate role items isSealed cache))
      (fresh : object ∉ visited)
      (inside : Runs config (.compute object (.ok next))
        (stepped config object valueAttribute store) after)
      (held : after.leaf? next = some (.fixed value)) :
      Runs config (.chain (moves + 1) visited object (.ok value)) store after
  | active {object : ObjectId} {store : Store} {builtin : Builtin} {form : Aggregate}
      {role : builtin.role = .aggregate form} {items : List ObjectId} {isSealed : Bool}
      {cache : Option ObjectId}
      (holds : store.Holds object (.aggregate role items isSealed cache))
      (marked : store.Marked object) :
      Runs config
        (.compute object (.error (.cyclicEvaluation (store.label object) valueAttribute)))
        store (store.record (.cyclicEvaluation (store.label object) valueAttribute))
  | deep {object : ObjectId} {store : Store} {builtin : Builtin} {form : Aggregate}
      {role : builtin.role = .aggregate form} {items : List ObjectId} {isSealed : Bool}
      {cache : Option ObjectId}
      (holds : store.Holds object (.aggregate role items isSealed cache))
      (idle : ¬store.Marked object) (full : config.limit ≤ store.activity.depth) :
      Runs config (.compute object (.error (.depthExceeded config.limit))) store
        (store.record (.depthLimit config.limit))
  | kept {object next : ObjectId} {store : Store} {builtin : Builtin} {form : Aggregate}
      {role : builtin.role = .aggregate form} {items : List ObjectId} {isSealed : Bool}
      (holds : store.Holds object (.aggregate role items isSealed (some next)))
      (admitted : store.Admits config object) :
      Runs config (.compute object (.ok next)) store
        ((store.mark ⟨object, valueAttribute⟩).unmark ⟨object, valueAttribute⟩)
  | cut {object : ObjectId} {failure : DataError} {store inner : Store} {builtin : Builtin}
      {form : Aggregate} {role : builtin.role = .aggregate form} {items : List ObjectId}
      {isSealed : Bool} (holds : store.Holds object (.aggregate role items isSealed none))
      (admitted : store.Admits config object)
      (inside : Runs config (.collect form items (.error failure))
        (store.entered object form items) inner) :
      Runs config (.compute object (.error failure)) store
        (inner.unmark ⟨object, valueAttribute⟩)
  | rejected {object : ObjectId} {values : List Value} {failure : DataError}
      {store inner : Store} {builtin : Builtin} {form : Aggregate}
      {role : builtin.role = .aggregate form} {items : List ObjectId} {isSealed : Bool}
      (holds : store.Holds object (.aggregate role items isSealed none))
      (admitted : store.Admits config object)
      (inside : Runs config (.collect form items (.ok values))
        (store.entered object form items) inner)
      (total : form.total values = .error failure) :
      Runs config (.compute object (.error failure)) store
        (inner.unmark ⟨object, valueAttribute⟩)
  | published {object : ObjectId} {values : List Value} {value : Value}
      {store inner : Store} {builtin : Builtin} {form : Aggregate}
      {role : builtin.role = .aggregate form} {items : List ObjectId} {isSealed : Bool}
      (holds : store.Holds object (.aggregate role items isSealed none))
      (admitted : store.Admits config object)
      (inside : Runs config (.collect form items (.ok values))
        (store.entered object form items) inner)
      (total : form.total values = .ok value)
      (waiting : inner.Holds object (.aggregate role items true none)) :
      Runs config (.compute object (.ok inner.nextId)) store
        ((inner.concluded object form items.length value).unmark ⟨object, valueAttribute⟩)
  | nil {form : Aggregate} {store : Store} :
      Runs config (.collect form [] (.ok [])) store store
  | unresolved {form : Aggregate} {item : ObjectId} {rest : List ObjectId}
      {failure : DataError} {store after : Store}
      (first : Runs config (.chain config.limit [] item (.error failure)) store after) :
      Runs config (.collect form (item :: rest) (.error failure)) store after
  | refused {form : Aggregate} {item : ObjectId} {rest : List ObjectId} {value : Value}
      {failure : DataError} {store after : Store}
      (first : Runs config (.chain config.limit [] item (.ok value)) store after)
      (refusal : form.refusal value = some failure) :
      Runs config (.collect form (item :: rest) (.error failure)) store after
  | later {form : Aggregate} {item : ObjectId} {rest : List ObjectId} {value : Value}
      {failure : DataError} {store middle after : Store}
      (first : Runs config (.chain config.limit [] item (.ok value)) store middle)
      (accepted : form.refusal value = none)
      (others : Runs config (.collect form rest (.error failure)) middle after) :
      Runs config (.collect form (item :: rest) (.error failure)) store after
  | cons {form : Aggregate} {item : ObjectId} {rest : List ObjectId} {value : Value}
      {values : List Value} {store middle after : Store}
      (first : Runs config (.chain config.limit [] item (.ok value)) store middle)
      (accepted : form.refusal value = none)
      (others : Runs config (.collect form rest (.ok values)) middle after) :
      Runs config (.collect form (item :: rest) (.ok (value :: values))) store after

/-- A store grows and every binding stays as it is: what else changes does not show
in the graph. -/
structure Store.Extends (before after : Store) : Prop where
  grows : before.Grows after
  graph : before.graph.Within after.graph

theorem extends_trans {first second third : Store} (start : first.Extends second)
    (rest : second.Extends third) : first.Extends third :=
  ⟨store_grows_trans start.grows rest.grows, within_trans start.graph rest.graph⟩

theorem extends_same {before after : Store} (same : after.objects = before.objects) :
    before.Extends after := by
  refine ⟨store_grows_same same, ?_⟩
  rw [Store.graph_same same]
  exact within_refl _

theorem contains_grows {before after : Store} {object : ObjectId}
    (contained : before.Contains object) (grows : before.Grows after) : after.Contains object :=
  Nat.lt_of_lt_of_le contained grows.size

section Changes

variable {store : Store} {object : ObjectId} {builtin : Builtin} {form : Aggregate}
  {role : builtin.role = .aggregate form} {items : List ObjectId} {isSealed : Bool}
  {cache : Option ObjectId}

theorem stepped_objects (config : Config) (object : ObjectId) (name : String) (store : Store) :
    (stepped config object name store).objects = store.objects := by
  unfold stepped
  split <;> rfl

theorem stepped_holds {content : Content} (config : Config) (target : ObjectId) (name : String)
    (holds : store.Holds object content) :
    (stepped config target name store).Holds object content :=
  (Store.holds_same (stepped_objects config target name store)).mpr holds

theorem stepped_extends (config : Config) (object : ObjectId) (name : String) (store : Store) :
    store.Extends (stepped config object name store) :=
  extends_same (stepped_objects config object name store)

theorem taken_extends {data : Deferred Value}
    (held : store.leaf? object = some (.deferred data)) :
    store.Extends (store.setLeaf object (.deferred data.take.2)) where
  grows := store_grows_set_leaf held (leaf_grows_take data)
  graph := Store.graph_put (Store.puts_leaf held) (Store.holds_leaf.mpr held) rfl

theorem slot_items (holds : store.Holds object (.aggregate role items isSealed cache)) :
    store.slot? object form.parameter = some (.variadic items isSealed) := by
  rw [Store.holds_slot holds, Content.slot?, if_pos rfl]

theorem slot_value (holds : store.Holds object (.aggregate role items isSealed cache)) :
    store.slot? object valueAttribute = some (.composite form.rule (some ⟨cache⟩)) := by
  rw [Store.holds_slot holds, Content.slot?, if_neg (parameter_ne_value role).symm, if_pos rfl]

theorem entered_puts (holds : store.Holds object (.aggregate role items isSealed cache)) :
    store.Puts object (.aggregate role items true cache) (store.entered object form items) := by
  have marked : (store.mark ⟨object, valueAttribute⟩).Holds object
      (.aggregate role items isSealed cache) := holds
  exact Store.puts_slot marked (Content.set_items role items items isSealed true cache)

theorem entered_extends (holds : store.Holds object (.aggregate role items isSealed cache)) :
    store.Extends (store.entered object form items) where
  grows := by
    have slot : (store.mark ⟨object, valueAttribute⟩).slot? object form.parameter =
        some (.variadic items isSealed) := slot_items holds
    exact store_grows_trans (mark_grows store _)
      (store_grows_set_slot slot (.variadic List.prefix_rfl fun _ => ⟨rfl, rfl⟩))
  graph := Store.graph_put (entered_puts holds) holds rfl

theorem filed_puts (store : Store) (object : ObjectId) (form : Aggregate) (count : Nat)
    (value : Value) :
    store.Puts store.nextId (.leaf (.fixed value)) (store.filed object form count value) := by
  intro other
  cases form <;> exact Store.object_add _ _ other

theorem filed_holds {content : Content} (form : Aggregate) (count : Nat) (value : Value)
    (holds : store.Holds object content) :
    (store.filed object form count value).Holds object content := by
  refine (Store.holds_put_other (filed_puts store object form count value) ?_).mpr holds
  rintro rfl
  exact Store.next_holds_nothing content holds

theorem filed_extends (store : Store) (object : ObjectId) (form : Aggregate) (count : Nat)
    (value : Value) : store.Extends (store.filed object form count value) where
  grows := by
    have noted : store.Grows (store.noted object count form) := by
      cases form <;> exact store_grows_same rfl
    exact store_grows_trans noted (store_grows_add _ _)
  graph := Store.graph_add (filed_puts store object form count value)

theorem concluded_puts (count : Nat) (value : Value)
    (waiting : store.Holds object (.aggregate role items isSealed none)) :
    (store.filed object form count value).Puts object
      (.aggregate role items isSealed (some store.nextId))
      (store.concluded object form count value) :=
  Store.puts_slot (filed_holds form count value waiting) (Content.set_cache role items _ _ _)

theorem concluded_extends_filed (count : Nat) (value : Value)
    (waiting : store.Holds object (.aggregate role items isSealed none)) :
    (store.filed object form count value).Extends
      (store.concluded object form count value) where
  grows := by
    have slot := slot_value (filed_holds form count value waiting)
    exact store_grows_set_slot slot (.cached form.rule (memo_grows_empty rfl))
  graph := by
    have puts := concluded_puts count value waiting
    exact Store.graph_put puts (filed_holds form count value waiting) rfl

theorem concluded_extends (count : Nat) (value : Value)
    (waiting : store.Holds object (.aggregate role items isSealed none)) :
    store.Extends (store.concluded object form count value) :=
  extends_trans (filed_extends store object form count value)
    (concluded_extends_filed count value waiting)

end Changes

/-- What has to be shown once of a relation between the objects before and after: a run
makes no other changes to them. -/
structure RunInvariance (kept : Store → Store → Prop) : Prop where
  same {before after : Store} : after.objects = before.objects → kept before after
  trans {first second third : Store} :
    kept first second → kept second third → kept first third
  taken {store : Store} {object : ObjectId} {data : Deferred Value} :
    store.leaf? object = some (.deferred data) →
      kept store (store.setLeaf object (.deferred data.take.2))
  entered {store : Store} {object : ObjectId} {builtin : Builtin} {form : Aggregate}
    {role : builtin.role = .aggregate form} {items : List ObjectId} {isSealed : Bool} :
    store.Holds object (.aggregate role items isSealed none) →
      kept store (store.entered object form items)
  concluded {store : Store} {object : ObjectId} {builtin : Builtin} {form : Aggregate}
    {role : builtin.role = .aggregate form} {items : List ObjectId} (count : Nat)
    (value : Value) : store.Holds object (.aggregate role items true none) →
      kept store (store.concluded object form count value)

theorem runs_keep {kept : Store → Store → Prop} (invariance : RunInvariance kept)
    {config : Config} {act : Act} {store after : Store} (runs : Runs config act store after) :
    kept store after := by
  have stepped (object : ObjectId) (name : String) (store : Store) :
      kept store (stepped config object name store) :=
    invariance.same (stepped_objects config object name store)
  induction runs with
  | leaf | nil | revisited | exhausted | active | deep | kept => exact invariance.same rfl
  | deferred held => exact invariance.taken held
  | unbound => exact stepped _ _ _
  | bound _ _ _ ih | failed _ _ _ ih | computed _ _ _ _ ih =>
      exact invariance.trans (stepped _ _ _) ih
  | cut holds _ _ ih | rejected holds _ _ _ ih =>
      have collected := invariance.trans (invariance.entered holds) ih
      exact invariance.trans collected (invariance.same rfl)
  | @published _ _ value _ _ _ _ _ items _ holds _ _ _ waiting ih =>
      have collected := invariance.trans (invariance.entered holds) ih
      have concluded := invariance.concluded items.length value waiting
      exact invariance.trans (invariance.trans collected concluded) (invariance.same rfl)
  | unresolved _ ih | refused _ _ ih => exact ih
  | later _ _ _ first others | cons _ _ _ first others => exact invariance.trans first others

theorem extension_invariance : RunInvariance Store.Extends where
  same := extends_same
  trans := extends_trans
  taken := taken_extends
  entered := entered_extends
  concluded count value waiting := concluded_extends count value waiting

theorem runs_extend {config : Config} {act : Act} {store after : Store}
    (runs : Runs config act store after) : store.Extends after :=
  runs_keep extension_invariance runs

theorem runs_activity {config : Config} {act : Act} {store after : Store}
    (runs : Runs config act store after) : after.activity = store.activity := by
  have stepped (object : ObjectId) (name : String) (store : Store) :
      (stepped config object name store).activity = store.activity :=
    activity_invariance.keeps_stepped config object name store
  induction runs with
  | leaf | nil | deferred | revisited | exhausted | active | deep => rfl
  | unbound => exact stepped _ _ _
  | bound _ _ _ ih | failed _ _ _ ih | computed _ _ _ _ ih => exact ih.trans (stepped _ _ _)
  | kept => exact activity_leave rfl
  | cut _ _ _ ih | rejected _ _ _ _ ih => exact activity_leave ih
  | @published object values value store inner builtin form _ _ _ _ _ _ _ _ ih =>
      refine activity_leave (Eq.trans ?_ ih)
      cases form <;> rfl
  | unresolved _ ih | refused _ _ ih => exact ih
  | later _ _ _ first others | cons _ _ _ first others => exact others.trans first

end ObjectCalculus
