import ObjectCalculus.Proofs.Copying
import ObjectCalculus.Proofs.Operands

/-!
# Copies and extensions

A copy has the value of the original, and an operator extended by one more operand the value
that comes of combining its own with that of the operand, whether it had been computed before
or not. What was obtained for the operator is obtained for its extension again, and the new
operand fits in behind it if what is nested in it leaves room for the one level above.
-/

set_option autoImplicit false

namespace ObjectCalculus

open Effect Evaluation

section Snoc

variable {α : Type} {fold : Fold α} {carried : List α} {total : α}

theorem left_fold_snoc (operand : α) (folded : fold.leftFold carried = .ok total) :
    fold.leftFold (carried ++ [operand]) = fold.combineGuarded total operand := by
  cases carried with
  | nil => cases folded
  | cons first rest =>
      change (rest ++ [operand]).foldlM fold.combineGuarded first = _
      have before : rest.foldlM fold.combineGuarded first = .ok total := folded
      rw [List.foldlM_append, before]
      exact bind_pure (fold.combineGuarded total operand)

variable [Carrier α] [LawfulCarrier α] [Operand α]

theorem total_snoc {values : List Value} (operand : α)
    (totalled : fold.aggregate.total values = .ok (Carrier.toValue total)) :
    fold.aggregate.total (values ++ [Carrier.toValue operand]) =
      (fold.combineGuarded total operand).map Carrier.toValue := by
  rw [Fold.aggregate, Aggregate.total, Operand.total, Fold.total] at totalled ⊢
  rw [List.filterMap_append,
    List.filterMap_cons_some (LawfulCarrier.of_value_to_value operand), List.filterMap_nil]
  cases folded : fold.leftFold (values.filterMap Carrier.ofValue?) with
  | error failure =>
      rw [folded] at totalled
      cases totalled
  | ok found =>
      rw [folded] at totalled
      cases to_value_injective (Except.ok.inj totalled)
      rw [left_fold_snoc operand folded]

end Snoc

section Collect

variable {config : Config} {store middle after : Store} {form : Aggregate} {items : List ObjectId}
  {item : ObjectId} {values : List Value} {value : Value}

theorem collect_snoc (runs : Runs config (.collect form items (.ok values)) store middle)
    (next : Runs config (.chain config.limit [] item (.ok value)) middle after)
    (accepted : form.refusal value = none) :
    Runs config (.collect form (items ++ [item]) (.ok (values ++ [value]))) store after := by
  induction items generalizing values store with
  | nil =>
      cases runs
      exact .cons next accepted .nil
  | cons first rest ih =>
      cases runs with
      | cons found fits others => exact .cons found fits (ih others)

end Collect

section Made

variable {config : Config} {store before after : Store} {object made : ObjectId}

theorem makes_extends (makes : before.Makes made after) (grows : before.Grows after) :
    before.Extends after where
  grows := grows
  graph := by
    rintro object node ⟨content, holds, shown⟩
    exact ⟨content, (makes.others (Store.contains_of_object holds)).trans holds, shown⟩

theorem operates_copy (config : Config) (store : Store) (object : ObjectId) :
    OperatesUnder config store (store.copy object).2 :=
  @OperatesUnder.call config store (.copy object) trivial trivial

theorem operates_extend (config : Config) {value : ObjectId} (known : store.Contains value)
    (object : ObjectId) (name : String) :
    OperatesUnder config store (store.extend object name value).2 :=
  @OperatesUnder.call config store (.extend object name value) known trivial

theorem operates_grow (operates : OperatesUnder config before after) : before.Grows after :=
  operates_keeps (operates_under operates) growth_invariance

theorem extension_holds {builtin : Builtin} {form : Aggregate}
    {role : builtin.role = .aggregate form} {items : List ObjectId} {isSealed : Bool}
    {cache : Option ObjectId} (holds : store.Holds object (.aggregate role items isSealed cache))
    (value : ObjectId) :
    ∃ after, store.extend object form.parameter value = (.ok store.nextId, after) ∧
      store.Makes store.nextId after ∧
      after.Holds store.nextId (.aggregate role (items ++ [value]) false none) := by
  let content := Content.aggregate role items isSealed cache
  let copied := (store.add content.copy.object).2
  let binding : Binding := ⟨store.nextId, form.parameter, value, none⟩
  have composed := instance_of_holds rfl holds
  have has := slot_items holds
  have opened : copied.Holds store.nextId content.copy :=
    Store.holds_put (Store.puts_add store content.copy)
  have bound : binding.attempt copied = _ := Binding.attempt_bound (slot_items opened) rfl
  have puts := Store.puts_slot opened
    (Content.set_items role items (items ++ [value]) false false none)
  have outcome : store.extend object form.parameter value =
      ((binding.attempt copied).1.map fun _ => store.nextId, (binding.attempt copied).2) :=
    extend_outcome composed has value
  have makes := makes_extend composed has value
  rw [bound] at outcome
  rw [outcome] at makes
  exact ⟨_, outcome, makes, Store.holds_put puts⟩

end Made

section Extended

variable {config : Config} {store after : Store} {object made operand : ObjectId}
  {builtin : Builtin} {form : Aggregate} {role : builtin.role = .aggregate form}
  {items : List ObjectId} {value : Value} {bound : Nat}

theorem operator_parameter {fold : Fold.Any} (role : builtin.role = .aggregate (.operator fold)) :
    (Aggregate.operator fold).parameter = operandAttribute := by
  cases builtin <;> cases role <;> rfl

theorem nests_contained (nests : store.graph.Nests bound object) : store.Contains object := by
  cases nests with
  | leaf shown | datum shown | aggregate shown => exact Store.contains_of_shown shown

theorem extension_found (values : List Value) (ready : store.Ready config)
    (readyAfter : after.Ready config) (makes : store.Makes made after)
    (extension : store.Extends after)
    (holds : after.Holds made (.aggregate role (items ++ [operand]) false none))
    (found : ((resolve config operand).outcome store).1 = .ok value)
    (accepted : form.refusal value = none) (nests : store.graph.Nests bound operand)
    (room : bound < config.limit)
    (collected : ∃ last, Runs config (.collect form items (.ok values))
      (after.opened config made form (items ++ [operand])) last) :
    ((resolve config made).outcome after).1 = form.total (values ++ [value]) := by
  obtain ⟨last, before⟩ := collected
  have contained := nests_contained nests
  rcases ran : (resolve config operand).outcome store with ⟨result, resolved⟩
  rw [ran] at found
  cases found
  have opened := extends_trans extension (opened_extends config holds)
  have activity := runs_activity before
  have unmarked (marked : ObjectId) (known : last.Marked marked) :
      ¬store.graph.Reaches operand marked := by
    cases opened_marked readyAfter.idle ((marked_same activity marked).mp known)
    exact fun path => makes.new (reaches_contained ready.sound contained path)
  have depth : last.activity.depth = 1 := by rw [activity, opened_depth readyAfter.idle]
  have roomy : store.graph.Roomy config.limit store.activity.depth last.activity.depth operand :=
    .inr ⟨bound, nests, by omega⟩
  obtain ⟨final, next⟩ := chain_elsewhere ready.sound
    (runs_settle before (opened_sound config holds readyAfter.sound)).1 contained
    (resolve_runs ready.sound contained ran) unmarked roomy
    (matches_extended [operand] (extends_trans opened (runs_extend before))) [] nofun
  exact opened_total holds (Nat.zero_lt_of_lt room) readyAfter.idle
    (collect_snoc before next accepted)

end Extended

section Reachable

variable {config : Config} {store : Store}

theorem copy_finds (reachable : ReachableUnder config store) (object : ObjectId) (value : Value) :
    ((resolve config (store.copy object).1).outcome (store.copy object).2).1 = .ok value ↔
      ((resolve config object).outcome store).1 = .ok value := by
  have operates := operates_copy config store object
  have reachableAfter : ReachableUnder config (store.copy object).2 := reachable.tail operates
  have grows := operates_grow operates
  cases instanced : store.instance? object with
  | none =>
      have same : store.copy object = (object, store) := by rw [Store.copy, instanced]
      rw [same]
  | some found =>
      have ready := reachable_ready reachable
      have there := Store.object_of_instance.mp instanced
      obtain ⟨content, holds⟩ := ready.sound.built there
      have composed : content.object = .composed found := Option.some.inj (holds.symm.trans there)
      rw [copy_outcome instanced, ← Content.object_copy composed] at reachableAfter grows ⊢
      have readyAfter := reachable_ready reachableAfter
      have makes := makes_add store content.copy.object
      have extension := makes_extends makes grows
      have copied := Store.holds_put (Store.puts_add store content.copy)
      exact ⟨found_in_original ready readyAfter composed holds copied makes extension,
        found_in_copy ready readyAfter composed holds copied makes extension⟩

/-- An extension comes to the total of the values that the original was computed from and the
value of the new operand. -/
theorem extension_finds {object operand : ObjectId} {form : Aggregate} {items : List ObjectId}
    {value : Value} {bound : Nat} (reachable : ReachableUnder config store)
    (shown : store.graph object (.aggregate form items))
    (found : ((resolve config operand).outcome store).1 = .ok value)
    (accepted : form.refusal value = none) (nests : store.graph.Nests bound operand)
    (room : bound < config.limit) :
    ∃ extended after, store.extend object form.parameter operand = (.ok extended, after) ∧
      (∀ total, ((resolve config object).outcome store).1 = .ok total →
        ∃ values, form.total values = .ok total ∧
          ((resolve config extended).outcome after).1 = form.total (values ++ [value])) ∧
      (items = [] → ((resolve config extended).outcome after).1 = form.total [value]) := by
  have ready := reachable_ready reachable
  obtain ⟨builtin, role, isSealed, cache, holds⟩ := Store.shown_aggregate shown
  obtain ⟨after, outcome, makes, made⟩ := extension_holds holds operand
  have operates := operates_extend config (nests_contained nests) object form.parameter
  rw [outcome] at operates
  have readyAfter : after.Ready config := reachable_ready (reachable.tail operates)
  have extension := makes_extends makes (operates_grow operates)
  have total (values : List Value) := extension_found values ready readyAfter makes extension made
    found accepted nests room
  refine ⟨store.nextId, after, outcome, fun whole resolved => ?_, ?_⟩
  · obtain ⟨values, obtained, totalled⟩ :=
      aggregate_obtained ready.sound ready.recorded holds resolved
    refine ⟨values, totalled, total values ?_⟩
    have opened := extends_trans extension (opened_extends config made)
    refine obtained_elsewhere obtained (opened_sound config made readyAfter.sound)
      (opened_depth readyAfter.idle) (matches_extended items opened) ?_
    intro item member marked known path
    cases opened_marked readyAfter.idle known
    have contained := ready.sound.closed (demands_of_holds holds member)
    exact makes.new (reaches_contained ready.sound contained path)
  · rintro rfl
    exact total [] ⟨_, .nil⟩

theorem aggregate_carried {object : ObjectId} {form : Aggregate} {items : List ObjectId}
    (shown : store.graph object (.aggregate form items)) :
    form = .array ∨ (∃ fold : Fold Int64, form = fold.aggregate) ∨
      (∃ fold : Fold Binary64, form = fold.aggregate) ∨
      ∃ fold : Fold Bool, form = fold.aggregate := by
  obtain ⟨builtin, role, _⟩ := Store.shown_aggregate shown
  cases builtin <;> cases role
  case array => exact .inl rfl
  case intAdd | intSub | intMul | intDiv | intMod => exact .inr (.inl ⟨_, rfl⟩)
  case floatAdd | floatSub | floatMul | floatDiv => exact .inr (.inr (.inl ⟨_, rfl⟩))
  case boolAnd | boolOr => exact .inr (.inr (.inr ⟨_, rfl⟩))

/-- With all evaluations under one configuration, a copy has a value exactly if the original
has, and the same; and an operator that has a value, whether it has been computed before or
not, extended by an operand with a value that nests no deeper than the limit leaves room for,
comes to the two values combined, or to the refusal of the operand. Without operands it comes
to the new one alone. -/
theorem copies_keep_and_extensions_fold (reachable : ReachableUnder config store) :
    (∀ (object : ObjectId) (value : Value),
      let copy := store.copy object
      ((resolve config copy.1).outcome copy.2).1 = .ok value ↔
        ((resolve config object).outcome store).1 = .ok value) ∧
    (∀ (object : ObjectId) (form : Aggregate) (items : List ObjectId),
      store.graph object (.aggregate form items) →
        form = .array ∨ (∃ fold : Fold Int64, form = fold.aggregate) ∨
          (∃ fold : Fold Binary64, form = fold.aggregate) ∨
          ∃ fold : Fold Bool, form = fold.aggregate) ∧
    ∀ (α : Type) [Carrier α] [LawfulCarrier α] [Operand α] (fold : Fold α)
      (object operand : ObjectId) (items : List ObjectId) (carried : α) (bound : Nat),
      store.graph object (.aggregate fold.aggregate items) →
      ((resolve config operand).outcome store).1 = .ok (Carrier.toValue carried) →
      store.graph.Nests bound operand → bound < config.limit →
        ∃ extended after, store.extend object operandAttribute operand = (.ok extended, after) ∧
          (∀ total, ((resolve config object).outcome store).1 = .ok (Carrier.toValue total) →
            ((resolve config extended).outcome after).1 =
              match fold.guard carried with
              | none => .ok (Carrier.toValue (fold.combine total carried))
              | some diagnostic => .error (.invalidOperand fold.operation diagnostic)) ∧
          (items = [] →
            ((resolve config extended).outcome after).1 = .ok (Carrier.toValue carried)) := by
  refine ⟨copy_finds reachable, fun _ _ _ => aggregate_carried, ?_⟩
  intro α _ _ _ fold object operand items carried bound shown found nests room
  obtain ⟨builtin, role, _⟩ := Store.shown_aggregate shown
  have accepted := refusal_carried fold carried
  obtain ⟨extended, after, outcome, further, alone⟩ :=
    extension_finds reachable shown found accepted nests room
  rw [show fold.aggregate.parameter = operandAttribute from operator_parameter role] at outcome
  refine ⟨extended, after, outcome, fun total resolved => ?_, fun empty => ?_⟩
  · obtain ⟨values, totalled, combined⟩ := further _ resolved
    rw [combined, total_snoc carried totalled, Fold.combineGuarded]
    cases fold.guard carried <;> rfl
  · exact (alone empty).trans (total_carried fold [carried])

end Reachable

theorem sum_reachable_under (config : Config) : ReachableUnder config Store.sum := by
  have start : ReachableUnder config .empty := .refl
  have first := start.tail
    (@OperatesUnder.call config .empty (.leaf (.int 2)) (.inl ⟨_, rfl⟩) trivial)
  have second := first.tail
    (@OperatesUnder.call config _ (.leaf (.int 3)) (.inl ⟨_, rfl⟩) trivial)
  have known : ∀ operand ∈ [⟨0⟩, ⟨1⟩], Store.Contains
      ((Store.empty.addLeaf (.fixed (.int 2))).2.addLeaf (.fixed (.int 3))).2 operand := by
    decide
  exact second.tail (.apply .intAdd known)

/-- The sum has been computed and sealed; its copy is five again, and with itself as a third
operand it is ten. -/
theorem sum_doubled :
    let computed := (resolve .default ⟨2⟩).after Store.sum
    let copy := computed.copy ⟨2⟩
    ReachableUnder .default computed ∧
      ((resolve .default copy.1).outcome copy.2).1 = .ok (.int 5) ∧
      ∃ extended after, computed.extend ⟨2⟩ operandAttribute ⟨2⟩ = (.ok extended, after) ∧
        ((resolve .default extended).outcome after).1 = .ok (.int 10) := by
  intro computed copy
  have reachable : ReachableUnder .default computed := (sum_reachable_under .default).tail
    (@OperatesUnder.call .default _ (.resolve .running ⟨2⟩) trivial rfl)
  have found : ((resolve .default ⟨2⟩).outcome computed).1 = .ok (.int 5) := rfl
  have role : Builtin.intAdd.role = .aggregate Fold.intAdd.aggregate := rfl
  have two : computed.graph ⟨0⟩ (.leaf (some (.int 2))) := ⟨.leaf (.fixed (.int 2)), rfl, rfl⟩
  have three : computed.graph ⟨1⟩ (.leaf (some (.int 3))) := ⟨.leaf (.fixed (.int 3)), rfl, rfl⟩
  have shown : computed.graph ⟨2⟩ (.aggregate Fold.intAdd.aggregate [⟨0⟩, ⟨1⟩]) :=
    ⟨.aggregate role [⟨0⟩, ⟨1⟩] true (some ⟨3⟩), rfl, rfl⟩
  have nests : computed.graph.Nests 1 ⟨2⟩ := .aggregate shown (by
    intro item member
    simp only [List.mem_cons, List.not_mem_nil, or_false] at member
    rcases member with rfl | rfl
    · exact .leaf two
    · exact .leaf three)
  obtain ⟨copies, _, extensions⟩ := copies_keep_and_extensions_fold reachable
  obtain ⟨extended, after, outcome, doubled, _⟩ :=
    extensions Int64 .intAdd ⟨2⟩ ⟨2⟩ [⟨0⟩, ⟨1⟩] 5 1 shown found nests (by decide)
  exact ⟨reachable, (copies ⟨2⟩ (.int 5)).mpr found, extended, after, outcome, doubled 5 found⟩

end ObjectCalculus
