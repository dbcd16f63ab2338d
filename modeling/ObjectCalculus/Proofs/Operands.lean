import ObjectCalculus.Proofs.Finding
import ObjectCalculus.Proofs.Layout

/-!
# Operators and their operands

An operator folds what its carrier makes of the values of its operands. Applied to operands
that have values of its kind, it comes to the fold of what they carry, unless the limit is met
on the way.
-/

set_option autoImplicit false

namespace ObjectCalculus

open Effect Evaluation

variable {α : Type} [Carrier α]

class Operand (α : Type) [Carrier α] where
  any : Fold α → Fold.Any
  kind (fold : Fold α) : (any fold).kind = Carrier.kind α
  parameter (fold : Fold α) : (any fold).parameter = fold.parameter
  total (fold : Fold α) : (any fold).total = fold.total

instance : Operand Int64 where
  any := .int
  kind _ := rfl
  parameter _ := rfl
  total _ := rfl

instance : Operand Binary64 where
  any := .float
  kind _ := rfl
  parameter _ := rfl
  total _ := rfl

instance : Operand Bool where
  any := .bool
  kind _ := rfl
  parameter _ := rfl
  total _ := rfl

/-- Every operand has the value that is given with it. -/
def Graph.Carries (graph : Graph) (operands : List (ObjectId × α)) : Prop :=
  ∀ operand ∈ operands, Means graph operand.1 (.ok (Carrier.toValue operand.2))

theorem carries_cons {graph : Graph} {operand : ObjectId × α} {rest : List (ObjectId × α)} :
    graph.Carries (operand :: rest) ↔
      Means graph operand.1 (.ok (Carrier.toValue operand.2)) ∧ graph.Carries rest :=
  List.forall_mem_cons

theorem carries_single {graph : Graph} {operand : ObjectId × α} :
    graph.Carries [operand] ↔ Means graph operand.1 (.ok (Carrier.toValue operand.2)) :=
  List.forall_mem_singleton

def Fold.aggregate [Operand α] (fold : Fold α) : Aggregate :=
  .operator (Operand.any fold)

section Carried

variable [LawfulCarrier α]

theorem kind_to_value (carried : α) : (Carrier.toValue carried).kind = Carrier.kind α :=
  LawfulCarrier.kind_of_value _ carried (LawfulCarrier.of_value_to_value carried)

theorem to_value_injective {left right : α}
    (same : Carrier.toValue left = Carrier.toValue right) : left = right := by
  have back : (Carrier.ofValue? (Carrier.toValue left) : Option α) =
      Carrier.ofValue? (Carrier.toValue right) := congrArg _ same
  rw [LawfulCarrier.of_value_to_value, LawfulCarrier.of_value_to_value] at back
  exact Option.some.inj back

theorem carried_back (carried : List α) :
    (carried.map Carrier.toValue).filterMap Carrier.ofValue? = carried := by
  induction carried with
  | nil => rfl
  | cons first rest ih =>
      rw [List.map_cons, List.filterMap_cons_some (LawfulCarrier.of_value_to_value first), ih]

variable [Operand α] {graph : Graph} {object : ObjectId} (fold : Fold α)

theorem refusal_carried (carried : α) :
    fold.aggregate.refusal (Carrier.toValue carried) = none := by
  rw [Fold.aggregate, Aggregate.refusal, Operand.kind, kind_to_value, if_pos rfl]

theorem total_carried (carried : List α) :
    fold.aggregate.total (carried.map Carrier.toValue) =
      (fold.leftFold carried).map Carrier.toValue := by
  rw [Fold.aggregate, Aggregate.total, Operand.total, Fold.total, carried_back]

/-- An operator means the fold of what its operands mean. -/
theorem operator_means {operands : List (ObjectId × α)}
    (shown : graph object (.aggregate fold.aggregate (operands.map Prod.fst)))
    (carries : graph.Carries operands) :
    Means graph object ((fold.leftFold (operands.map Prod.snd)).map Carrier.toValue) := by
  let values := operands.map fun operand => (operand.1, Carrier.toValue operand.2)
  have objects : values.map Prod.fst = operands.map Prod.fst := List.map_map
  have totalled : values.map Prod.snd = (operands.map Prod.snd).map Carrier.toValue := by
    rw [List.map_map, List.map_map]
    rfl
  rw [← total_carried, ← totalled]
  apply Means.aggregate (objects ▸ shown)
  · exact List.forall_mem_map.mpr carries
  · exact List.forall_mem_map.mpr fun operand _ => refusal_carried fold operand.2

end Carried

/-- What comes of applying an operator to operands and dataizing it. -/
def applied (config : Config) (builtin : Builtin) (operands : List (ObjectId × α))
    (store : Store) : Except DataError α :=
  ((run config do
    let object ← Program.instantiateWith (.builtin builtin) operandAttribute
      (operands.map Prod.fst)
    Program.dataizeAs α object).outcome store).1

/-- The operator is dataized without meeting the limit. -/
def Fits (config : Config) (builtin : Builtin) (operands : List (ObjectId × α))
    (store : Store) : Prop :=
  ∀ limit, applied config builtin operands store ≠ .error (.depthExceeded limit)

section Application

variable {deferring : Prop} {config : Config} {store after : Store}

theorem fits_of_ok {builtin : Builtin} {operands : List (ObjectId × α)} {total : α}
    (came : applied config builtin operands store = .ok total) :
    Fits config builtin operands store := by
  intro limit
  rw [came]
  exact nofun

theorem appends_within {count : Nat} (appends : store.Appends count after) :
    store.graph.Within after.graph := by
  rintro object node ⟨content, holds, shown⟩
  exact ⟨content, (appends.others (Store.contains_of_object holds)).trans holds, shown⟩

theorem dataize_as_result (carried : Type) [Carrier carried] (config : Config)
    (object : ObjectId) (store : Store) :
    ((run config (Program.dataizeAs carried object)).outcome store).1 =
      ((resolve config object).outcome store).1.bind fun value =>
        match Carrier.ofValue? value with
        | some found => .ok found
        | none => .error (.typeMismatch (Carrier.kind carried) value.kind) := by
  have asked : (runProgram attributeOf config (Program.resolve object)).outcome store =
      (resolve config object).outcome store :=
    run_ask attributeOf config (.resolve .running object) store
  rcases resolved : (resolve config object).outcome store with ⟨result, after⟩
  rw [resolved] at asked
  rw [run, Program.dataizeAs, run_bind]
  cases result with
  | error failure => rw [outcome_bind_error asked, Except.bind]
  | ok value =>
      rw [outcome_bind_ok asked, Except.bind]
      cases (Carrier.ofValue? value : Option carried) <;> rfl

theorem dataized_carried [LawfulCarrier α] {object : ObjectId} {total : α}
    (resolved : ((resolve config object).outcome store).1 = .ok (Carrier.toValue total)) :
    ((run config (Program.dataizeAs α object)).outcome store).1 = .ok total := by
  rw [dataize_as_result, resolved, Except.bind, LawfulCarrier.of_value_to_value]

theorem carried_found [LawfulCarrier α] {object : ObjectId} {total : α}
    (sound : store.Sound deferring) (idle : store.activity = .idle)
    (means : Means store.graph object (.ok (Carrier.toValue total)))
    (fits : ∀ limit, ((run config (Program.dataizeAs α object)).outcome store).1 ≠
      .error (.depthExceeded limit)) :
    ((run config (Program.dataizeAs α object)).outcome store).1 = .ok total := by
  apply dataized_carried
  apply meaning_found sound idle means
  intro limit exceeded
  apply fits limit
  rw [dataize_as_result, exceeded, Except.bind]

/-- The store has one more operator, with these operands, and shows all that it did before. -/
structure Store.Gains [Operand α] (deferring : Prop) (before : Store) (fold : Fold α)
    (operands : List (ObjectId × α)) (after : Store) : Prop where
  sound : after.Sound deferring
  idle : after.activity = .idle
  within : before.graph.Within after.graph
  shown : after.graph before.nextId (.aggregate fold.aggregate (operands.map Prod.fst))

section Gains

variable [Operand α] {fold : Fold α} {builtin : Builtin} {operands : List (ObjectId × α)}
  {total : α}

/-- Making an operator for operands that have values adds it and nothing else. -/
theorem operator_made (config : Config) (role : builtin.role = .aggregate fold.aggregate)
    (parameter : fold.parameter = operandAttribute) (sound : store.Sound deferring)
    (idle : store.activity = .idle) (carries : store.graph.Carries operands) :
    ∃ after, (run config (Program.instantiateWith (.builtin builtin) operandAttribute
        (operands.map Prod.fst))).outcome store = (.ok store.nextId, after) ∧
      store.Gains deferring fold operands after := by
  obtain ⟨after, made, appends, holds⟩ :=
    items_instantiated config role (operands.map Prod.fst) store
  have named : fold.aggregate.parameter = operandAttribute :=
    (Operand.parameter fold).trans parameter
  rw [named] at made
  have known : ∀ object ∈ operands.map Prod.fst, store.Contains object := by
    refine List.forall_mem_map.mpr fun operand member => ?_
    obtain ⟨node, shown⟩ := means_shown (carries operand member)
    exact Store.contains_of_shown shown
  have template : (store.supplies deferring).definition builtin.definition := ⟨builtin, rfl⟩
  have within : (Program.instantiateWith (.builtin builtin) operandAttribute
      (operands.map Prod.fst)).Within (store.supplies deferring) :=
    instantiate_with_within template known
  have kept := program_sound config within (supplies_fit store deferring) sound
  rw [Effect.after, made] at kept
  exact ⟨after, made, kept, appends.activity.trans idle, appends_within appends, _, holds, rfl⟩

theorem gains_carries {others : List (ObjectId × α)}
    (gains : store.Gains deferring fold operands after) (carries : store.graph.Carries others) :
    after.graph.Carries others :=
  fun operand member => means_within gains.within (carries operand member)

theorem applied_made (config : Config) (role : builtin.role = .aggregate fold.aggregate)
    (parameter : fold.parameter = operandAttribute) (reachable : Reachable deferring store)
    (carries : store.graph.Carries operands) :
    ∃ after, store.Gains deferring fold operands after ∧
      applied config builtin operands store =
        ((run config (Program.dataizeAs α store.nextId)).outcome after).1 := by
  obtain ⟨after, made, gains⟩ := operator_made config role parameter
    (reachable_sound reachable) (reachable_idle reachable) carries
  refine ⟨after, gains, ?_⟩
  rw [applied, run, run_bind]
  exact congrArg Prod.fst (outcome_bind_ok made _)

variable [LawfulCarrier α]

theorem gains_means (gains : store.Gains deferring fold operands after)
    (carries : store.graph.Carries operands)
    (folded : fold.leftFold (operands.map Prod.snd) = .ok total) :
    Means after.graph store.nextId (.ok (Carrier.toValue total)) := by
  have means := operator_means fold gains.shown (gains_carries gains carries)
  rwa [folded] at means

/-- Unless the limit is met, an operator applied to operands with values of its kind comes to
the fold of what they carry. -/
theorem applied_fold (role : builtin.role = .aggregate fold.aggregate)
    (parameter : fold.parameter = operandAttribute) (reachable : Reachable deferring store)
    (carries : store.graph.Carries operands)
    (folded : fold.leftFold (operands.map Prod.snd) = .ok total)
    (fits : Fits config builtin operands store) :
    applied config builtin operands store = .ok total := by
  obtain ⟨after, gains, dataized⟩ := applied_made config role parameter reachable carries
  unfold Fits at fits
  rw [dataized] at fits ⊢
  exact carried_found gains.sound gains.idle (gains_means gains carries folded) fits

end Gains

end Application

/-- The composed objects that the origins lead to. -/
def Graph.spread (graph : Graph) (origins : List ObjectId) : Set ObjectId :=
  {object | ∃ origin ∈ origins, object ∈ graph.composedFrom origin}

/-- So many operators can be put on top of the origins and be dataized below the limit. -/
def Store.HasRoom (store : Store) (config : Config) (origins : List ObjectId)
    (operators : Nat) : Prop :=
  (store.graph.spread origins).encard + operators ≤ config.limit

section Room

variable {graph small large : Graph} {origin object : ObjectId} {origins others : List ObjectId}

theorem reaches_back (within : small.Within large) (functional : Relator.RightUnique large)
    (closed : small.Closed) (present : ∃ node, small origin node)
    (path : large.Reaches origin object) :
    small.Reaches origin object ∧ ∃ node, small object node := by
  induction path with
  | refl => exact ⟨.refl, present⟩
  | tail _ demands ih =>
      obtain ⟨reached, node, shown⟩ := ih
      obtain ⟨other, shows, wanted⟩ := demands
      cases functional shows (within _ _ shown)
      have here : small.Demands _ _ := ⟨node, shown, wanted⟩
      exact ⟨reached.tail here, closed _ _ here⟩

theorem composed_from_back (within : small.Within large)
    (functional : Relator.RightUnique large) (closed : small.Closed)
    (present : ∃ node, small origin node) :
    large.composedFrom origin ⊆ small.composedFrom origin := by
  rintro object ⟨path, node, shows, composed⟩
  obtain ⟨reached, below, shown⟩ := reaches_back within functional closed present path
  cases functional shows (within _ _ shown)
  exact ⟨reached, node, shown, composed⟩

theorem spread_leaves (functional : Relator.RightUnique graph)
    (leaves : ∀ origin ∈ origins, ∃ data, graph origin (.leaf data)) :
    graph.spread origins = ∅ := by
  refine Set.eq_empty_of_forall_notMem fun object ⟨origin, among, path, node, shows, composed⟩ => ?_
  obtain ⟨data, leaf⟩ := leaves origin among
  rcases Relation.ReflTransGen.cases_head path with rfl | ⟨target, ⟨below, shown, wanted⟩, _⟩
  · exact composed data (functional shows leaf)
  · cases functional shown leaf
    cases wanted

variable {deferring : Prop} {config : Config} {store after : Store} {total : α}

theorem leaves_have_room {operators : Nat}
    (leaves : ∀ origin ∈ origins, ∃ data, store.leaf? origin = some data)
    (enough : operators ≤ config.limit) : store.HasRoom config origins operators := by
  have shown : ∀ origin ∈ origins, ∃ data, store.graph origin (.leaf data) := by
    intro origin among
    obtain ⟨data, held⟩ := leaves origin among
    cases data <;> exact ⟨_, _, Store.holds_leaf.mpr held, rfl⟩
  rw [Store.HasRoom, spread_leaves (graph_functional (within_refl _)) shown, Set.encard_empty,
    zero_add]
  exact Nat.cast_le.mpr enough

theorem carried_has_room [LawfulCarrier α] (sound : store.Sound deferring)
    (idle : store.activity = .idle)
    (means : Means store.graph object (.ok (Carrier.toValue total)))
    (room : store.HasRoom config [object] 0) :
    ((run config (Program.dataizeAs α object)).outcome store).1 = .ok total := by
  apply dataized_carried
  apply meaning_has_room sound idle means
  have single : store.graph.composedFrom object ⊆ store.graph.spread [object] :=
    fun other reached => ⟨object, List.mem_singleton.mpr rfl, reached⟩
  exact (Set.encard_le_encard single).trans (le_self_add.trans room)

variable [Operand α] {fold : Fold α} {builtin : Builtin} {operands : List (ObjectId × α)}

theorem gains_spread (gains : store.Gains deferring fold operands after)
    (sound : store.Sound deferring) (carries : store.graph.Carries operands)
    (present : ∀ other ∈ others, ∃ node, store.graph other node) :
    after.graph.spread (store.nextId :: others) ⊆
      insert store.nextId (store.graph.spread (operands.map Prod.fst ++ others)) := by
  have functional := graph_functional (within_refl after.graph)
  have back {origin : ObjectId} (present : ∃ node, store.graph origin node) :
      after.graph.composedFrom origin ⊆ store.graph.composedFrom origin :=
    composed_from_back gains.within functional (graph_closed sound) present
  rintro object ⟨origin, among, reached⟩
  rcases List.mem_cons.mp among with rfl | among
  · obtain ⟨path, composed⟩ := reached
    rcases Relation.ReflTransGen.cases_head path with rfl | ⟨target, demands, further⟩
    · exact Set.mem_insert _ _
    · obtain ⟨node, shows, wanted⟩ := demands
      cases functional shows gains.shown
      obtain ⟨operand, member, rfl⟩ := List.mem_map.mp wanted
      exact .inr ⟨operand.1, List.mem_append_left _ wanted,
        back (means_shown (carries operand member)) ⟨further, composed⟩⟩
  · exact .inr ⟨origin, List.mem_append_right _ among, back (present origin among) reached⟩

/-- A new operator takes the place of its operands and some of the room. -/
theorem gains_has_room {more : Nat} (gains : store.Gains deferring fold operands after)
    (sound : store.Sound deferring) (carries : store.graph.Carries operands)
    (present : ∀ other ∈ others, ∃ node, store.graph other node)
    (room : store.HasRoom config (operands.map Prod.fst ++ others) (more + 1)) :
    after.HasRoom config (store.nextId :: others) more := by
  let origins := operands.map Prod.fst ++ others
  calc
    (after.graph.spread (store.nextId :: others)).encard + more
        ≤ (insert store.nextId (store.graph.spread origins)).encard + more :=
      add_le_add_left (Set.encard_le_encard (gains_spread gains sound carries present)) _
    _ ≤ (store.graph.spread origins).encard + 1 + more :=
      add_le_add_left (Set.encard_insert_le _ _) _
    _ = (store.graph.spread origins).encard + (more + 1 : Nat) := by
      rw [add_assoc, add_comm 1, Nat.cast_add_one]
    _ ≤ config.limit := room

/-- Where there is room for an operator on top of its operands, it comes to the fold of what
they carry. -/
theorem applied_has_room [LawfulCarrier α] (role : builtin.role = .aggregate fold.aggregate)
    (parameter : fold.parameter = operandAttribute)
    (reachable : Reachable deferring store) (carries : store.graph.Carries operands)
    (folded : fold.leftFold (operands.map Prod.snd) = .ok total)
    (room : store.HasRoom config (operands.map Prod.fst) 1) :
    applied config builtin operands store = .ok total := by
  obtain ⟨after, gains, dataized⟩ := applied_made config role parameter reachable carries
  rw [dataized]
  apply carried_has_room gains.sound gains.idle (gains_means gains carries folded)
  apply gains_has_room gains (reachable_sound reachable) carries (List.forall_mem_nil _)
  rwa [List.append_nil]

end Room

end ObjectCalculus
