import ObjectCalculus.Coercion
import ObjectCalculus.Proofs.Filing
import ObjectCalculus.Proofs.Isolation

/-!
# Values laid out as objects

A value is coerced from the inside out: every scalar in it becomes a data object that is
bound to a leaf, and every array an array of the objects made for its items. The objects of
one value stand in a row, with those of its items one after another, so that no object is in
two places.
-/

set_option autoImplicit false

namespace ObjectCalculus

open Effect Evaluation

namespace Value

mutual

/-- Coerces every scalar in the value, and every array in it from the objects of its items. -/
def coerced : Value → Program ObjectId
  | .array items => do
      let objects ← coercedAll items
      (Raw.objects objects).coerce
  | scalar => (Raw.scalar scalar).coerce

def coercedAll : List Value → Program (List ObjectId)
  | [] => pure []
  | first :: rest => do
      let object ← first.coerced
      let others ← coercedAll rest
      pure (object :: others)

end

mutual

def extent : Value → Nat
  | .array items => extentAll items + 1
  | _ => 2

def extentAll : List Value → Nat
  | [] => 0
  | first :: rest => first.extent + extentAll rest

end

/-- The object for the value, if those made for it start at a number: a data object is made
before its leaf, and an array after its items. -/
def top : Value → Nat → ObjectId
  | .array items, start => ⟨start + extentAll items⟩
  | _, start => ⟨start⟩

def tops : List Value → Nat → List ObjectId
  | [], _ => []
  | first :: rest, start => first.top start :: tops rest (start + first.extent)

section Scalar

variable {value : Value} (scalar : value.kind ≠ .array)

include scalar

theorem coerced_scalar : value.coerced = (Raw.scalar value).coerce := by
  cases value with
  | array => exact absurd rfl scalar
  | _ => rfl

theorem extent_scalar : value.extent = 2 := by
  cases value with
  | array => exact absurd rfl scalar
  | _ => rfl

theorem top_scalar (start : Nat) : value.top start = ⟨start⟩ := by
  cases value with
  | array => exact absurd rfl scalar
  | _ => rfl

theorem builtin_scalar :
    ∃ (builtin : Builtin) (_ : builtin.role = .datum),
      Builtin.ofKind? value.kind = some builtin ∧ builtin.name = value.kind.name := by
  cases value with
  | array => exact absurd rfl scalar
  | _ => exact ⟨_, rfl, rfl, rfl⟩

end Scalar

end Value

theorem array_role : Builtin.array.role = .aggregate .array := rfl

namespace Store

mutual

/-- The objects made for the value stand in a row from the start on, and no array among them
has been read. -/
def Lays (store : Store) : Value → Nat → Prop
  | .array items, start =>
      store.LaysAll items start ∧
        store.Holds ⟨start + Value.extentAll items⟩
          (.aggregate array_role (Value.tops items start) false none)
  | scalar, start =>
      (∃ (builtin : Builtin) (role : builtin.role = .datum),
        builtin.name = scalar.kind.name ∧
          store.Holds ⟨start⟩ (.datum role (some ⟨start + 1⟩))) ∧
        store.leaf? ⟨start + 1⟩ = some (.fixed scalar)

def LaysAll (store : Store) : List Value → Nat → Prop
  | [], _ => True
  | first :: rest, start => store.Lays first start ∧ store.LaysAll rest (start + first.extent)

end

def Agrees (before : Store) (start count : Nat) (after : Store) : Prop :=
  ∀ object : ObjectId, start ≤ object.index → object.index < start + count →
    after.object? object = before.object? object

/-- New objects are put behind the old ones, which are as they were. -/
structure Appends (before : Store) (count : Nat) (after : Store) : Prop where
  size : after.objects.size = before.objects.size + count
  others {object : ObjectId} : before.Contains object →
    after.object? object = before.object? object
  activity : after.activity = before.activity

/-- One object has a new content, and nothing else happens. -/
structure Alters (before : Store) (object : ObjectId) (content : Content) (after : Store) :
    Prop where
  puts : before.Puts object content after
  size : after.objects.size = before.objects.size
  activity : after.activity = before.activity

end Store

section Rows

variable {before middle after : Store} {value : Value} {items : List Value}
  {start count : Nat} {object : ObjectId}

theorem lays_scalar (scalar : value.kind ≠ .array) :
    before.Lays value start ↔
      (∃ (builtin : Builtin) (role : builtin.role = .datum),
        builtin.name = value.kind.name ∧
          before.Holds ⟨start⟩ (.datum role (some ⟨start + 1⟩))) ∧
        before.leaf? ⟨start + 1⟩ = some (.fixed value) := by
  cases value with
  | array => exact absurd rfl scalar
  | _ => exact Iff.rfl

theorem holds_agreed {content : Content} (agrees : before.Agrees start count after)
    (low : start ≤ object.index) (high : object.index < start + count)
    (holds : before.Holds object content) : after.Holds object content :=
  (agrees object low high).trans holds

theorem agrees_part {first length : Nat} (agrees : before.Agrees start count after)
    (low : start ≤ first) (high : first + length ≤ start + count) :
    before.Agrees first length after :=
  fun object above below => agrees object (by omega) (by omega)

theorem lays_all_agreed (items : List Value)
    (each : ∀ item ∈ items, ∀ start, before.Lays item start →
      before.Agrees start item.extent after → after.Lays item start)
    {start : Nat} (lays : before.LaysAll items start)
    (agrees : before.Agrees start (Value.extentAll items) after) :
    after.LaysAll items start := by
  induction items generalizing start with
  | nil => trivial
  | cons first rest ih =>
      obtain ⟨laysFirst, laysRest⟩ := lays
      simp only [Value.extentAll] at agrees
      constructor
      · apply each first List.mem_cons_self start laysFirst
        exact agrees_part agrees (by omega) (by omega)
      · apply ih (fun item member => each item (List.mem_cons_of_mem first member)) laysRest
        exact agrees_part agrees (by omega) (by omega)

theorem lays_agreed (value : Value) : ∀ start, before.Lays value start →
    before.Agrees start value.extent after → after.Lays value start := by
  induction value using Value.nested_induction with
  | scalar value scalar =>
      intro start lays agrees
      rw [Value.extent_scalar scalar] at agrees
      rw [lays_scalar scalar] at lays ⊢
      obtain ⟨⟨builtin, role, named, holds⟩, held⟩ := lays
      rw [← Store.holds_leaf] at held ⊢
      exact ⟨⟨builtin, role, named, holds_agreed agrees (by simp) (by simp) holds⟩,
        holds_agreed agrees (by simp) (by simp) held⟩
  | array items ih =>
      intro start lays agrees
      obtain ⟨laysAll, holds⟩ := lays
      simp only [Value.extent] at agrees
      constructor
      · exact lays_all_agreed items ih laysAll (agrees_part agrees (by omega) (by omega))
      · exact holds_agreed agrees (by simp) (by simp) holds

theorem agrees_same (start count : Nat) (same : after.objects = before.objects) :
    before.Agrees start count after :=
  fun object _ _ => Store.object_same same object

theorem appends_trans {more : Nat} (first : before.Appends count middle)
    (second : middle.Appends more after) : before.Appends (count + more) after where
  size := by rw [second.size, first.size, Nat.add_assoc]
  others {object} there := by
    have kept : middle.Contains object := by
      have size := first.size
      unfold Store.Contains at there ⊢
      omega
    exact (second.others kept).trans (first.others there)
  activity := second.activity.trans first.activity

theorem appends_agree (appends : before.Appends count after) {first length : Nat}
    (there : first + length ≤ before.objects.size) : before.Agrees first length after := by
  intro object _ below
  apply appends.others
  unfold Store.Contains
  omega

end Rows

section Coercion

variable {config : Config} {store : Store} {object : ObjectId} {builtin : Builtin}

theorem instantiate_outcome (config : Config) (builtin : Builtin) (store : Store) :
    (runProgram attributeOf config (Program.instantiate (.builtin builtin))).outcome store =
      (.ok store.nextId, (store.instantiate builtin.definition).2) :=
  run_ask attributeOf config (.instantiate (.builtin builtin)) store

theorem instantiate_puts (builtin : Builtin) (store : Store) :
    store.Puts store.nextId (.fresh builtin) (store.instantiate builtin.definition).2 := by
  intro other
  rw [Content.object_fresh]
  exact Store.object_add store _ other

theorem instantiate_appends (definition : Definition) (store : Store) :
    store.Appends 1 (store.instantiate definition).2 where
  size := Array.size_push _
  others there := (makes_add store _).others there
  activity := rfl

theorem bind_alters (config : Config) (value : ObjectId) {old new : Content} {name : String}
    {slot bound : Slot} (holds : store.Holds object old) (found : old.slot? name = some slot)
    (placed : slot.bind (store.label object) name value = .ok bound)
    (changed : old.object.setSlot name bound = new.object) :
    ∃ after, (runProgram attributeOf config (Program.bindTo object name value)).outcome store =
        (.ok (), after) ∧ store.Alters object new after := by
  have attempted : (Binding.mk object name value none).attempt store = _ :=
    Binding.attempt_bound ((Store.holds_slot holds name).trans found) placed
  exact ⟨_, Binding.bind_to_outcome config attempted, Store.puts_slot holds changed,
    size_set_slot store object name bound, rfl⟩

theorem bind_datum (config : Config) {role : builtin.role = .datum}
    (holds : store.Holds object (.datum role none)) (target : ObjectId) :
    ∃ after, (runProgram attributeOf config
        (Program.bindTo object dataAttribute target)).outcome store = (.ok (), after) ∧
      store.Alters object (.datum role (some target)) after := by
  have free : (Content.datum role none).slot? dataAttribute = some (.free ⟨none⟩) := by
    rw [Content.slot?, if_pos rfl]
  exact bind_alters config target holds free rfl (Content.set_binding role none (some target))

theorem bind_items (config : Config) {form : Aggregate} {role : builtin.role = .aggregate form}
    (values : List ObjectId) {items : List ObjectId} {store : Store}
    (holds : store.Holds object (.aggregate role items false none)) :
    ∃ after, (runProgram attributeOf config
        (Program.bindAll object form.parameter values)).outcome store = (.ok (), after) ∧
      store.Alters object (.aggregate role (items ++ values) false none) after := by
  induction values generalizing items store with
  | nil =>
      have same : store.Alters object (.aggregate role (items ++ []) false none) store := by
        rw [List.append_nil]
        refine ⟨fun other => ?_, rfl, rfl⟩
        by_cases here : other = object
        · rw [if_pos here, here]
          exact holds
        · rw [if_neg here]
      exact ⟨store, run_done attributeOf config (.ok ()) store, same⟩
  | cons value rest ih =>
      have variadic : (Content.aggregate role items false none).slot? form.parameter =
          some (.variadic items false) := by
        rw [Content.slot?, if_pos rfl]
      obtain ⟨bound, ran, first⟩ := bind_alters config value holds variadic rfl
        (Content.set_items role items (items ++ [value]) false false none)
      obtain ⟨after, ranRest, later⟩ := ih (Store.holds_put first.puts)
      refine ⟨after, ?_, fun other => ?_, later.size.trans first.size,
        later.activity.trans first.activity⟩
      · rw [Program.bindAll, run_bind, outcome_bind_ok ran]
        exact ranRest
      · rw [later.puts, first.puts, List.append_assoc, List.singleton_append]
        split
        · rfl
        · rfl

theorem appends_alter {count : Nat} {middle after : Store} {content : Content}
    (appends : store.Appends count middle) (new : ¬store.Contains object)
    (alters : middle.Alters object content after) : store.Appends count after where
  size := alters.size.trans appends.size
  others {other} there := by
    have apart : other ≠ object := by
      rintro rfl
      exact new there
    rw [alters.puts, if_neg apart, appends.others there]
  activity := alters.activity.trans appends.activity

theorem report_outcome (config : Config) (object : ObjectId) (content : Report) (store : Store) :
    (runProgram attributeOf config (do
        Program.ask (.report object content)
        pure object)).outcome store =
      (.ok object, store.record (eventOf (store.label object) content)) := by
  refine (run_bind attributeOf config _ _ store).trans ?_
  refine (outcome_bind_ok (run_ask attributeOf config (.report object content) store) _).trans ?_
  exact run_done attributeOf config (.ok object) _

theorem fresh_datum (role : builtin.role = .datum) :
    Content.fresh builtin = .datum role none := by
  unfold Content.fresh
  split
  · rfl
  · rename_i form other
    cases role.symm.trans other

theorem fresh_aggregate {form : Aggregate} (role : builtin.role = .aggregate form) :
    Content.fresh builtin = .aggregate role [] false none := by
  unfold Content.fresh
  split
  · rename_i other
    cases role.symm.trans other
  · rename_i found other
    cases role.symm.trans other
    rfl

/-- A new operator or array has its items and stands behind everything else. -/
theorem items_instantiated (config : Config) {form : Aggregate}
    (role : builtin.role = .aggregate form) (items : List ObjectId) (store : Store) :
    ∃ after, (runProgram attributeOf config
        (Program.instantiateWith (.builtin builtin) form.parameter items)).outcome store =
          (.ok store.nextId, after) ∧
      store.Appends 1 after ∧ after.Holds store.nextId (.aggregate role items false none) := by
  let made := (store.instantiate builtin.definition).2
  have empty : made.Holds store.nextId (.aggregate role [] false none) :=
    Store.holds_put (fresh_aggregate role ▸ instantiate_puts builtin store)
  obtain ⟨bound, binds, alters⟩ := bind_items config items empty
  refine ⟨bound, ?_, ?_, Store.holds_put alters.puts⟩
  · rw [Program.instantiateWith, run_bind,
      outcome_bind_ok (instantiate_outcome config builtin store), run_bind,
      outcome_bind_ok binds]
    exact run_done attributeOf config (.ok store.nextId) bound
  · exact appends_alter (instantiate_appends _ store) (next_not_contained store) alters

/-- A scalar becomes a data object and, right behind it, the leaf that it is bound to. -/
theorem datum_coerced {value : Value} (role : builtin.role = .datum)
    (known : Builtin.ofKind? value.kind = some builtin) (config : Config) (store : Store) :
    ∃ after, (runProgram attributeOf config (Raw.scalar value).coerce).outcome store =
        (.ok store.nextId, after) ∧
      store.Appends 2 after ∧
      after.Holds store.nextId (.datum role (some ⟨store.objects.size + 1⟩)) ∧
      after.leaf? ⟨store.objects.size + 1⟩ = some (.fixed value) := by
  let made := (store.instantiate builtin.definition).2
  let filled := (made.addLeaf (.fixed value)).2
  have number : made.nextId = ⟨store.objects.size + 1⟩ := congrArg ObjectId.mk (Array.size_push _)
  have apart : store.nextId ≠ made.nextId := by
    rw [number]
    simp [Store.nextId]
  have puts : made.Puts made.nextId (.leaf (.fixed value)) filled :=
    Store.puts_add made (.leaf (.fixed value))
  have unbound : filled.Holds store.nextId (.datum role none) :=
    (Store.holds_put_other puts apart).mpr
      (Store.holds_put (fresh_datum role ▸ instantiate_puts builtin store))
  have placed : (runProgram attributeOf config (Program.leaf value)).outcome made =
      (.ok made.nextId, filled) := run_ask attributeOf config (.leaf value) made
  obtain ⟨bound, binds, alters⟩ := bind_datum config unbound made.nextId
  have held := (Store.holds_put_other alters.puts apart.symm).mpr (Store.holds_put puts)
  have appends : store.Appends 2 bound := by
    have files : made.Appends 1 filled := ⟨Array.size_push _, (makes_add made _).others, rfl⟩
    exact appends_alter (appends_trans (instantiate_appends _ store) files)
      (next_not_contained store) alters
  let last := bound.record (eventOf (bound.label store.nextId) .coerced)
  rw [← number]
  refine ⟨last, ?_, ⟨appends.size, appends.others, appends.activity⟩,
    Store.holds_put alters.puts, Store.holds_leaf.mp held⟩
  simp only [Raw.coerce, known, Raw.ofDatum]
  rw [run_bind, outcome_bind_ok (instantiate_outcome config builtin store), run_bind,
    outcome_bind_ok placed, run_bind, outcome_bind_ok binds]
  exact report_outcome config store.nextId .coerced bound

theorem objects_coerced (config : Config) (items : List ObjectId) (store : Store) :
    ∃ after, (runProgram attributeOf config (Raw.objects items).coerce).outcome store =
        (.ok store.nextId, after) ∧
      store.Appends 1 after ∧
      after.Holds store.nextId (.aggregate array_role items false none) := by
  obtain ⟨bound, filled, appends, holds⟩ := items_instantiated config array_role items store
  let last := bound.record (eventOf (bound.label store.nextId) (.coercedArray items.length))
  refine ⟨last, ?_, ⟨appends.size, appends.others, appends.activity⟩, holds⟩
  rw [Raw.coerce, run_bind]
  exact (outcome_bind_ok filled _).trans
    (report_outcome config store.nextId (.coercedArray items.length) bound)

/-- Coercing the value puts its objects behind those that are there. -/
def Value.Built (config : Config) (value : Value) : Prop :=
  ∀ store : Store, ∃ after,
    (runProgram attributeOf config value.coerced).outcome store =
      (.ok (value.top store.objects.size), after) ∧
    store.Appends value.extent after ∧ after.Lays value store.objects.size

theorem coerced_all_built (config : Config) (items : List Value)
    (each : ∀ item ∈ items, item.Built config) (store : Store) :
    ∃ after, (runProgram attributeOf config (Value.coercedAll items)).outcome store =
        (.ok (Value.tops items store.objects.size), after) ∧
      store.Appends (Value.extentAll items) after ∧
      after.LaysAll items store.objects.size := by
  induction items generalizing store with
  | nil =>
      have ran := run_done attributeOf config (.ok ([] : List ObjectId)) store
      exact ⟨store, ran, ⟨rfl, fun _ => rfl, rfl⟩, trivial⟩
  | cons first rest ih =>
      obtain ⟨middle, ran, appends, lays⟩ := each first List.mem_cons_self store
      obtain ⟨after, ranRest, appendsRest, laysRest⟩ :=
        ih (fun item member => each item (List.mem_cons_of_mem first member)) middle
      rw [appends.size] at ranRest laysRest
      refine ⟨after, ?_, appends_trans appends appendsRest, ?_, laysRest⟩
      · rw [Value.coercedAll, run_bind, outcome_bind_ok ran, run_bind, outcome_bind_ok ranRest]
        exact run_done attributeOf config (.ok _) after
      · exact lays_agreed first _ lays (appends_agree appendsRest (Nat.le_of_eq appends.size.symm))

theorem coerced_built (config : Config) (value : Value) : value.Built config := by
  induction value using Value.nested_induction with
  | scalar value scalar =>
      intro store
      obtain ⟨builtin, role, known, named⟩ := Value.builtin_scalar scalar
      obtain ⟨after, ran, appends, holds, held⟩ := datum_coerced role known config store
      refine ⟨after, ?_, ?_, (lays_scalar scalar).mpr ⟨⟨builtin, role, named, holds⟩, held⟩⟩
      · rw [Value.coerced_scalar scalar, Value.top_scalar scalar]
        exact ran
      · rw [Value.extent_scalar scalar]
        exact appends
  | array items ih =>
      intro store
      obtain ⟨middle, ran, appends, lays⟩ := coerced_all_built config items ih store
      obtain ⟨after, ranArray, appendsArray, holds⟩ :=
        objects_coerced config (Value.tops items store.objects.size) middle
      have number : middle.nextId = (Value.array items).top store.objects.size :=
        congrArg ObjectId.mk appends.size
      rw [number] at ranArray holds
      refine ⟨after, ?_, appends_trans appends appendsArray, ?_, holds⟩
      · rw [Value.coerced, run_bind, outcome_bind_ok ran]
        exact ranArray
      · exact lays_all_agreed items (fun item _ => lays_agreed item) lays
          (appends_agree appendsArray (Nat.le_of_eq appends.size.symm))

end Coercion

end ObjectCalculus
