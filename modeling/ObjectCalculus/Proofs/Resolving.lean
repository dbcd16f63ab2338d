import ObjectCalculus.Proofs.Simulation

/-!
# Items of any kind

An operator or an array that has computed nothing is dataized by resolving its items one after
another, one level deeper. Nothing has to be known of the items but what they come to there: they
may be deferred, or instances of templates that are not built in. Where they come to values that
are accepted, the dataization ends with the total.
-/

set_option autoImplicit false

namespace ObjectCalculus

open Effect Evaluation

/-- The items of the object are read and resolved one after another, at the level at which
its own dataization does so. -/
def itemValues (config : Config) (object : ObjectId) (form : Aggregate) :
    Effect (List Value) := do
  recordStep config object valueAttribute
  guarded config ⟨object, valueAttribute⟩ (runProgram attributeOf config do
    let items ← Program.sequence object form.parameter
    Program.each Program.resolve items)

section Items

variable {config : Config} {form : Aggregate} {items : List ObjectId} {values : List Value}
  {store inner after : Store} {object : ObjectId}

theorem each_checked
    (resolved : (runProgram attributeOf config (Program.each Program.resolve items)).outcome
      store = (.ok values, after))
    (accepted : ∀ value ∈ values, form.refusal value = none) :
    (runProgram attributeOf config (Program.each form.item items)).outcome store =
      (.ok values, after) := by
  induction items generalizing store values with
  | nil =>
      cases (run_done attributeOf config (.ok []) store).symm.trans resolved
      exact run_done attributeOf config (.ok []) _
  | cons item rest ih =>
      rcases first : (resolve config item).outcome store with ⟨found, middle⟩
      cases found with
      | error failure =>
          have stopped : (runProgram attributeOf config
              (Program.each Aggregate.array.item (item :: rest))).outcome store =
                (.error failure, middle) := each_stopped rest first rfl
          cases stopped.symm.trans resolved
      | ok value =>
          rcases others : (runProgram attributeOf config
            (Program.each Program.resolve rest)).outcome middle with ⟨result, last⟩
          have whole : (runProgram attributeOf config
              (Program.each Aggregate.array.item (item :: rest))).outcome store =
                (result.map (value :: ·), last) := each_accepted first rfl others
          cases result with
          | error failure => cases whole.symm.trans resolved
          | ok found =>
              cases whole.symm.trans resolved
              obtain ⟨here, later⟩ := List.forall_mem_cons.mp accepted
              exact each_accepted first here (ih others later)

variable {builtin : Builtin} {role : builtin.role = .aggregate form} {isSealed : Bool}
  {cache : Option ObjectId}

theorem item_values_inside
    (holds : store.Holds object (.aggregate role items isSealed cache))
    (came : ((itemValues config object form).outcome store).1 = .ok values) :
    (stepped config object valueAttribute store).Admits config object ∧
      ∃ inner, (runProgram attributeOf config (Program.each Program.resolve items)).outcome
        ((stepped config object valueAttribute store).entered object form items) =
          (.ok values, inner) := by
  have again := stepped_holds config object valueAttribute holds
  rw [itemValues, outcome_bind_ok (record_step_outcome config object valueAttribute store)] at came
  by_cases marked : ⟨object, valueAttribute⟩ ∈
      (stepped config object valueAttribute store).activity.markers
  · rw [guarded_cyclic marked] at came
    cases came
  by_cases full : config.limit ≤ (stepped config object valueAttribute store).activity.depth
  · rw [guarded_deep marked full] at came
    cases came
  refine ⟨⟨marked, Nat.lt_of_not_le full⟩, ?_⟩
  rw [guarded_entered marked (Nat.lt_of_not_le full), run_bind,
    outcome_bind_ok (sequence_outcome again)] at came
  exact ⟨_, Prod.ext came rfl⟩

theorem resolve_total (holds : store.Holds object (.aggregate role items isSealed none))
    (came : ((itemValues config object form).outcome store).1 = .ok values)
    (accepted : ∀ value ∈ values, form.refusal value = none) :
    ((resolve config object).outcome store).1 = form.total values := by
  have again := stepped_holds config object valueAttribute holds
  obtain ⟨admitted, inner, resolved⟩ := item_values_inside holds came
  have collected := each_checked resolved accepted
  have gathered := rule_outcome again collected
  obtain ⟨moves, limit⟩ : ∃ moves, config.limit = moves + 1 :=
    Nat.exists_eq_succ_of_ne_zero (Nat.ne_zero_of_lt admitted.room)
  rw [resolve, resolveBy, limit, follow_step (Store.leaf_none_of_aggregate holds)
    List.not_mem_nil (Store.way_aggregate holds)]
  cases total : form.total values with
  | error failure =>
      have ended := outcome_bind_error (gathered.trans (conclude_rejected _ _ _ total))
        (publish object valueAttribute)
      rw [outcome_bind_error (admitted_outcome again admitted ended)]
  | ok value =>
      -- Rules that are not built in may have run meanwhile, but none can fill a marked slot.
      have locked := locks_invariance.keeps_run locks_invariance.keeps_attribute_of config
        (Program.each form.item items)
        ((stepped config object valueAttribute store).entered object form items)
      have grows := growth_invariance.keeps_run growth_invariance.keeps_attribute_of config
        (Program.each form.item items)
        ((stepped config object valueAttribute store).entered object form items)
      rw [Effect.after, collected] at locked grows
      have waiting : inner.Holds object (.aggregate role items true none) :=
        still_waiting again locked grows
      have ended := (outcome_bind_ok (gathered.trans (conclude_filed _ _ _ total))
        (publish object valueAttribute)).trans (publish_outcome _ _ waiting)
      have kept : ((inner.concluded object form items.length value).unmark
          ⟨object, valueAttribute⟩).leaf? inner.nextId = some (.fixed value) :=
        concluded_leaf items.length value waiting
      rw [outcome_bind_ok (admitted_outcome again admitted ended), follow_fixed kept]

variable {deferring : Prop} {result : ObjectId}

theorem sound_entered_kept (sound : store.Sound deferring)
    (holds : store.Holds object (.aggregate role items isSealed (some result))) :
    (store.entered object form items).Sound deferring := by
  have grows := (entered_extends holds).grows
  refine sound_put sound (entered_puts holds) grows (fun same => nomatch same) ?_ ?_
  · intro target wanted
    exact contains_grows (sound.closed (demands_of_holds holds wanted)) grows
  · intro other kept
    cases kept
    obtain ⟨value, held, settled⟩ := sound.kept holds
    exact ⟨value, fixed_grows grows held, settled_grows grows settled⟩

/-- What an object keeps is the total of what its items come to whenever they are resolved
again. -/
theorem kept_total (sound : store.Sound deferring)
    (holds : store.Holds object (.aggregate role items isSealed (some result)))
    (came : ((itemValues config object form).outcome store).1 = .ok values)
    (accepted : ∀ value ∈ values, form.refusal value = none) :
    ((resolve config object).outcome store).1 = form.total values := by
  have again := stepped_holds config object valueAttribute holds
  have steppedSound := sound_stepped sound config object valueAttribute
  have entered := sound_entered_kept steppedSound again
  have extension := entered_extends again
  obtain ⟨admitted, inner, resolved⟩ := item_values_inside holds came
  have there (item : ObjectId) (member : item ∈ items) :
      ((stepped config object valueAttribute store).entered object form items).Contains item :=
    contains_grows (steppedSound.closed (demands_of_holds again member)) extension.grows
  have collected := collect_runs (computes config _) form entered rfl there
    (each_checked resolved accepted)
  obtain ⟨_, operands, rfl, rfl, settled, _⟩ := runs_settle collected entered
  have grows := store_grows_trans (stepped_extends config object valueAttribute store).grows
    (store_grows_trans extension.grows (runs_extend collected).grows)
  obtain ⟨value, held, settledObject⟩ := sound.kept holds
  have total : form.total (operands.map Prod.snd) = .ok value := by
    cases settledObject with
    | fixed leaf | produced leaf => cases Store.holds_unique holds (Store.holds_leaf.mpr leaf)
    | bound other => cases Store.holds_unique holds other
    | @aggregate _ earlier _ _ _ _ _ other settledThen _ totalThen =>
        obtain ⟨rfl, same⟩ := Node.aggregate.inj
          (Store.graph_unique ⟨_, other, rfl⟩ ⟨_, holds, rfl⟩)
        have unique : ∀ operand ∈ earlier, ∀ {found}, inner.Settled operand.1 found →
            found = operand.2 := fun operand member _ found =>
          settled_unique (settled_grows grows (settledThen operand member)) found
        rw [operands_agree same unique settled]
        exact totalThen
  obtain ⟨moves, limit⟩ : ∃ moves, config.limit = moves + 1 :=
    Nat.exists_eq_succ_of_ne_zero (Nat.ne_zero_of_lt admitted.room)
  have chain : Runs config (.chain (moves + 1) [] object (.ok value)) store _ :=
    .computed holds List.not_mem_nil (.kept again admitted)
      (fixed_grows (store_grows_same (stepped_objects config object valueAttribute store)) held)
  rw [total, resolve, resolveBy, limit]
  exact congrArg Prod.fst (runs_performed chain)

end Items

end ObjectCalculus
